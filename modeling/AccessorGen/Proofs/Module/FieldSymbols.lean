/- The symbols of a field.
   What is listed as the symbols of a field is what its code defines, for every accepted value and
   whatever stands before the names of its document: one macro, or a variable and its functions in
   the same order. The functions reach the variable by its name and by nothing else. -/

import AccessorGen.Proofs.FieldValue
import AccessorGen.Proofs.Module.Signatures
import AccessorGen.Proofs.Module.StorageLines
import AccessorGen.Proofs.Text.CLiteral

set_option autoImplicit false
set_option relaxedAutoImplicit false

namespace AccessorGen

def isNameChar (c : Char) : Bool :=
  c.isAlphanum || c == '_'

/-- The words of a text in C: the longest stretches of letters, digits and underscores. -/
def wordsIn (cs : List Char) : List (List Char) :=
  (Text.splitOn ' ' (cs.map fun c => if isNameChar c then c else ' ')).filter (!·.isEmpty)

example : wordsIn "ptr[i] = len;".toList = ["ptr".toList, ['i'], "len".toList] := by decide

/-- The words of function bodies that are no names from outside: types, keywords, constants, the
macro around critical code, and the names that functions declare. -/
def bodyWords : List (List Char) :=
  wordsIn ("int8_t int16_t int32_t int64_t uint8_t uint16_t uint32_t uint64_t float double bool " ++
    "char const break for if return sizeof true false 0 1 CRITICAL_BLOCK " ++
    "val buff_ptr i len ptr success").toList

/-- A text with gaps for one name, given by the stretches around the gaps. -/
structure GappedText where
  first : String
  others : List String
  deriving DecidableEq, Repr

namespace GappedText

def fill (text : GappedText) (name : String) : String :=
  text.first ++ String.join (text.others.map fun stretch => name ++ stretch)

/-- A stretch around gaps: it has no words but the known ones, and neither its first nor its last
character would join a name in a gap. -/
def IsStretch (known : List (List Char)) (stretch : List Char) : Prop :=
  (∀ word ∈ wordsIn stretch, word ∈ known) ∧ stretch.head?.any isNameChar = false ∧
    stretch.getLast?.any isNameChar = false

instance (known : List (List Char)) (stretch : List Char) : Decidable (IsStretch known stretch) :=
  inferInstanceAs (Decidable (_ ∧ _))

/-- There is a gap, and around the gaps stand only words of function bodies. -/
structure Proper (text : GappedText) : Prop where
  gap : text.others ≠ []
  first : IsStretch bodyWords text.first.toList
  others : ∀ stretch ∈ text.others, IsStretch bodyWords stretch.toList

end GappedText

def scalarBodies (access : Access) (cType : String) : List GappedText :=
  let get : GappedText :=
    ⟨"    " ++ cType ++ " val;\n\n    CRITICAL_BLOCK(\n        val = ",
      [";\n    );\n\n    return val;\n"]⟩
  let set : GappedText := ⟨"    CRITICAL_BLOCK(\n        ", [" = val;\n    );\n"]⟩
  match access with
  | .readOnly => [get]
  | .writable => [get, set]

def stringBodies (access : Access) (bools : BoolStorage) : List GappedText :=
  let len : GappedText := ⟨"    return sizeof(", [");\n"]⟩
  let ptr : GappedText := ⟨"    return &", ["[0];\n"]⟩
  let get : GappedText :=
    ⟨"    " ++ bools.typeName ++ " success = " ++ bools.literal true ++
        ";\n    uint16_t i;\n    const char *ptr = &",
      ["[0];\n\n    if (len == 0) \x7b\n        return " ++ bools.literal false ++
          ";\n    \x7d\n\n    CRITICAL_BLOCK(\n        for (i = 0; i < sizeof(",
        "); i++) \x7b\n            if (i >= len) \x7b\n                success = " ++
          bools.literal false ++
          (";\n                break;\n            \x7d\n            buff_ptr[i] = ptr[i];\n" ++
            "        \x7d\n    );\n\n    buff_ptr[len - 1] = 0;\n    return success;\n")]⟩
  let set : GappedText :=
    ⟨"    " ++ bools.typeName ++ " success = " ++ bools.literal true ++
        ";\n    uint16_t i;\n    char *ptr = &",
      ["[0];\n\n    CRITICAL_BLOCK(\n        for (i = 0; i < len; i++) \x7b\n" ++
          "            if (i >= sizeof(",
        ")) \x7b\n                success = " ++ bools.literal false ++
          (";\n                break;\n            \x7d\n            ptr[i] = buff_ptr[i];\n" ++
            "        \x7d\n        if (i >= sizeof("),
        ")) \x7b\n            i = sizeof(",
        ") - 1;\n        \x7d\n        ptr[i] = 0;\n    );\n\n    return success;\n"]⟩
  match access with
  | .readOnly => [len, ptr]
  | .writable => [len, ptr, get, set]

theorem proper_scalarBodies (access : Access) {cType : String} (known : cType ∈ scalarTypes) :
    ∀ body ∈ scalarBodies access cType, body.Proper := by
  -- Words are compared on characters, since a literal is costly to take apart in a decision.
  have typed : ∀ cType ∈ scalarTypes, GappedText.IsStretch bodyWords
      ("    " ++ cType ++ " val;\n\n    CRITICAL_BLOCK(\n        val = ").toList := by
    simp only [scalarTypes, List.forall_mem_cons, bodyWords, String.toList_append]
    repeat rw [String.toList_ofList]
    decide +kernel
  have get : GappedText.Proper
      ⟨"    " ++ cType ++ " val;\n\n    CRITICAL_BLOCK(\n        val = ",
        [";\n    );\n\n    return val;\n"]⟩ := by
    refine ⟨List.cons_ne_nil _ _, typed cType known, ?_⟩
    simp only [List.forall_mem_cons, bodyWords, String.toList_append]
    repeat rw [String.toList_ofList]
    decide +kernel
  have set : GappedText.Proper ⟨"    CRITICAL_BLOCK(\n        ", [" = val;\n    );\n"]⟩ := by
    refine ⟨List.cons_ne_nil _ _, ?_, ?_⟩
    all_goals
      simp only [List.forall_mem_cons, bodyWords, String.toList_append]
      repeat rw [String.toList_ofList]
      decide +kernel
  intro body member
  cases access with
  | readOnly =>
    obtain rfl := List.mem_singleton.mp member
    exact get
  | writable =>
    rcases List.mem_cons.mp member with rfl | last
    · exact get
    · obtain rfl := List.mem_singleton.mp last
      exact set

theorem proper_stringBodies (access : Access) (bools : BoolStorage) :
    ∀ body ∈ stringBodies access bools, body.Proper := by
  have all : ∀ body ∈ stringBodies .writable bools, body.Proper := by
    intro body member
    simp only [stringBodies, List.mem_cons, List.not_mem_nil, or_false] at member
    cases bools <;> rcases member with rfl | rfl | rfl | rfl
    all_goals
      refine ⟨List.cons_ne_nil _ _, ?_, ?_⟩
      · simp only [bodyWords, String.toList_append, BoolStorage.typeName, BoolStorage.literal]
        repeat rw [String.toList_ofList]
        decide +kernel
      · simp only [List.forall_mem_cons, bodyWords, String.toList_append, BoolStorage.literal]
        repeat rw [String.toList_ofList]
        decide +kernel
  cases access with
  | readOnly =>
    intro body member
    apply all
    simp only [stringBodies, List.mem_cons, List.not_mem_nil, or_false] at member ⊢
    exact member.imp_right .inl
  | writable => exact all

def Routine.ofParts (name : String) (signature : Signature) (body : GappedText) : Routine :=
  ⟨signature.text, body.fill name⟩

namespace Pen

variable (pen : Pen) (d : Descriptor)

theorem scalarRoutines_eq (cType : String) :
    pen.scalarRoutines d cType =
      List.zipWith (Routine.ofParts (pen.storage d)) (pen.scalarSignatures d cType)
        (scalarBodies d.access cType) := by
  delta scalarRoutines scalarSignatures scalarBodies scalarGet scalarSet
  cases d.access <;>
    simp [Routine.ofParts, GappedText.fill, Signature.text, String.append_assoc]

theorem stringRoutines_eq :
    pen.stringRoutines d =
      List.zipWith (Routine.ofParts (pen.storage d)) (pen.stringSignatures d)
        (stringBodies d.access pen.bools) := by
  delta stringRoutines stringSignatures stringBodies stringLen stringPtr stringGet stringSet
  cases d.access <;>
    simp [Routine.ofParts, GappedText.fill, Signature.text, String.append_assoc]

def bodies (pen : Pen) (d : Descriptor) : List GappedText :=
  match d.type with
  | .config => []
  | .cMacro => []
  | .string => stringBodies d.access pen.bools
  | type => scalarBodies d.access (pen.scalarType type)

theorem bodies_numeric {cType : String} (named : d.type.cNumericType? = some cType) :
    pen.bodies d = scalarBodies d.access cType := by
  unfold bodies scalarType
  cases type : d.type with
  | config | cMacro | string | boolean =>
    rw [type] at named
    cases named
  | _ =>
    rw [type] at named
    simp [named]

private theorem functions_cases {field : ModuleField} (sound : field.Sound) :
    (∃ cType ∈ scalarTypes,
      pen.routines field = pen.scalarRoutines field.descriptor cType ∧
      pen.signatures field.descriptor = pen.scalarSignatures field.descriptor cType ∧
      pen.bodies field.descriptor = scalarBodies field.descriptor.access cType) ∨
    (pen.routines field = pen.stringRoutines field.descriptor ∧
      pen.signatures field.descriptor = pen.stringSignatures field.descriptor ∧
      pen.bodies field.descriptor = stringBodies field.descriptor.access pen.bools) ∨
    (pen.routines field = [] ∧ pen.signatures field.descriptor = [] ∧
      pen.bodies field.descriptor = []) := by
  have fits := sound.fits
  unfold routines
  cases content : field.content with
  | number cType literal =>
    rw [content] at fits
    exact .inl ⟨cType, FieldType.mem_scalarTypes fits, rfl, pen.signatures_numeric fits,
      pen.bodies_numeric _ fits⟩
  | boolean b =>
    rw [content] at fits
    have type : field.descriptor.type = .boolean := fits
    rw [signatures, bodies, type]
    exact .inl ⟨_, pen.bools.typeName_mem_scalarTypes, rfl, rfl, rfl⟩
  | string value =>
    rw [content] at fits
    have type : field.descriptor.type = .string := fits
    rw [signatures, bodies, type]
    exact .inr (.inl ⟨rfl, rfl, rfl⟩)
  | replacement text =>
    rw [content] at fits
    have type : field.descriptor.type = .cMacro := fits
    rw [signatures, bodies, type]
    exact .inr (.inr ⟨rfl, rfl, rfl⟩)

/-- A sound field is written down with functions that are made of its signatures and its bodies. -/
theorem routines_eq {field : ModuleField} (sound : field.Sound) :
    pen.routines field =
      List.zipWith (Routine.ofParts (pen.storage field.descriptor))
        (pen.signatures field.descriptor) (pen.bodies field.descriptor) := by
  rcases pen.functions_cases sound with ⟨cType, -, written, declared, filled⟩ |
    ⟨written, declared, filled⟩ | ⟨written, declared, filled⟩
  · rw [written, declared, filled, scalarRoutines_eq]
  · rw [written, declared, filled, stringRoutines_eq]
  · rw [written, declared, filled, List.zipWith_nil_left]

theorem length_bodies : (pen.bodies d).length = (pen.signatures d).length := by
  obtain ⟨type, size, access, name, params⟩ := d
  cases type <;> cases access <;> rfl

theorem proper_bodies {field : ModuleField} (sound : field.Sound) :
    ∀ body ∈ pen.bodies field.descriptor, body.Proper := by
  rcases pen.functions_cases sound with ⟨cType, known, -, -, filled⟩ | ⟨-, -, filled⟩ |
    ⟨-, -, filled⟩
  · rw [filled]
    exact proper_scalarBodies _ known
  · rw [filled]
    exact proper_stringBodies _ _
  · rw [filled]
    simp

theorem shape_signatures {field : ModuleField} (sound : field.Sound) :
    ∀ signature ∈ pen.signatures field.descriptor,
      Signature.IsResult signature.result ∧ Signature.IsParams signature.params := by
  have empty : Unbroken "" := by decide
  have bare := @proper_signatures { pen with front := "" } empty field sound
  have shapes : (pen.signatures field.descriptor).map (fun s => (s.result, s.params)) =
      (signatures { pen with front := "" } field.descriptor).map fun s => (s.result, s.params) := by
    generalize field.descriptor = d
    obtain ⟨type, size, access, name, params⟩ := d
    cases type <;> cases access <;> rfl
  intro signature member
  have listed := List.mem_map_of_mem (f := fun s : Signature => (s.result, s.params)) member
  rw [shapes] at listed
  obtain ⟨other, inside, same⟩ := List.mem_map.mp listed
  obtain ⟨result, params⟩ := Prod.mk.inj same
  rw [← result, ← params]
  exact ⟨(bare other inside).result, (bare other inside).params⟩

end Pen

theorem Pages.foldl_writeRoutine_append (routines : List Routine) (pages : Pages) :
    routines.foldl writeRoutine pages =
      pages.append ⟨"", String.join (routines.map fun routine => routine.prototype ++ ";\n"), "",
        String.join (routines.map fun routine =>
          "\n" ++ routine.prototype ++ " \x7b\n" ++ routine.body ++ "\x7d\n")⟩ := by
  induction routines generalizing pages with
  | nil => simp [append]
  | cons routine rest ih =>
    rw [List.foldl_cons, ih]
    simp [append, writeRoutine, String.append_assoc]

/-- A variable with what stands around its name where it is defined. -/
structure VariableLine where
  /-- The storage class and the type, up to the name. -/
  type : String
  name : String
  /-- The size of an array and the initial value, up to the semicolon. -/
  rest : String
  deriving DecidableEq, Repr

namespace VariableLine

def text (line : VariableLine) : String :=
  line.type ++ line.name ++ line.rest

/-- A storage class and a type in one line, up to where a name may start. -/
def IsType (type : String) : Prop :=
  "static ".toList <+: type.toList ∧ type.toList.getLast? = some ' ' ∧ '\n' ∉ type.toList

instance (type : String) : Decidable (IsType type) :=
  inferInstanceAs (Decidable (_ ∧ _))

/-- What may follow a name in the same line, up to the end of the definition. -/
def IsRest (rest : String) : Prop :=
  (rest.toList.head? = some ' ' ∨ rest.toList.head? = some '[') ∧
    rest.toList.getLast? = some ';' ∧ '\n' ∉ rest.toList

/-- A definition that is one line, as far as its name is part of one. -/
structure Proper (line : VariableLine) : Prop where
  type : IsType line.type
  rest : IsRest line.rest

private theorem isRest_append {text : String}
    (start : text.toList.head? = some ' ' ∨ text.toList.head? = some '[')
    (plain : '\n' ∉ text.toList) : IsRest (text ++ ";") := by
  have filled : text.toList ≠ [] := by
    intro nil
    simp [nil] at start
  have chars : (text ++ ";").toList = text.toList ++ [';'] := by
    rw [String.toList_append]
    rfl
  rw [IsRest, chars, List.head?_append_of_ne_nil _ filled]
  exact ⟨start, List.getLast?_concat, by simp [plain]⟩

end VariableLine

namespace Pen

variable {pen : Pen} {d : Descriptor}

private theorem exists_scalarLine {cType text : String} (known : cType ∈ scalarTypes)
    (plain : '\n' ∉ text.toList) :
    ∃ line : VariableLine, line.Proper ∧ line.name = pen.storage d ∧
      pen.scalarLine d cType text = line.text ++ "\n" := by
  have types : ∀ cType ∈ scalarTypes, VariableLine.IsType ("static " ++ cType ++ " ") := by
    decide
  have rest : VariableLine.IsRest (" = " ++ text ++ ";") :=
    VariableLine.isRest_append (by simp) (by simp [plain])
  have ending : ";\n" = ";" ++ "\n" := by decide
  refine ⟨⟨"static " ++ cType ++ " ", pen.storage d, " = " ++ text ++ ";"⟩,
    ⟨types cType known, rest⟩, rfl, ?_⟩
  delta scalarLine VariableLine.text
  rw [ending]
  simp only [String.append_assoc]

private theorem exists_stringLine (value : String) :
    ∃ line : VariableLine, line.Proper ∧ line.name = pen.storage d ∧
      pen.stringLine d value = line.text ++ "\n" := by
  have size := Scope.newline_not_mem_sizeText d.size
  have body : '\n' ∉ (Text.CLiteral.encode value).toList := fun inside =>
    (Text.CLiteral.ne_of_mem_encode inside).1 rfl
  have type : VariableLine.IsType "static char " := by decide
  have rest : VariableLine.IsRest
      ("[" ++ Scope.sizeText d.size ++ "] = \"" ++ Text.CLiteral.encode value ++ "\"" ++ ";") :=
    VariableLine.isRest_append (by simp) (by simp [size, body])
  have ending : "\";\n" = "\"" ++ ";" ++ "\n" := by decide
  refine ⟨⟨"static char ", pen.storage d,
    "[" ++ Scope.sizeText d.size ++ "] = \"" ++ Text.CLiteral.encode value ++ "\"" ++ ";"⟩,
    ⟨type, rest⟩, rfl, ?_⟩
  delta stringLine VariableLine.text
  rw [ending]
  simp only [String.append_assoc]

theorem write_stored {field : ModuleField} (sound : field.Sound) (inLine : field.content.InLine)
    (stored : field.descriptor.type ≠ .cMacro) :
    ∃ line : VariableLine, line.Proper ∧ line.name = pen.storage field.descriptor ∧
      ∀ pages : Pages, pen.write pages field =
        (pen.routines field).foldl .writeRoutine (pages.writeVariable (line.text ++ "\n")) := by
  have fits := sound.fits
  cases content : field.content with
  | number cType text =>
    rw [content] at fits inLine
    obtain ⟨line, proper, name, written⟩ := @exists_scalarLine pen field.descriptor cType text
      (FieldType.mem_scalarTypes fits) inLine
    refine ⟨line, proper, name, fun pages => ?_⟩
    simp only [write, routines, content, written]
  | boolean b =>
    have plain : '\n' ∉ (pen.bools.literal b).toList := by
      cases pen.bools <;> cases b <;> decide
    obtain ⟨line, proper, name, written⟩ := @exists_scalarLine pen field.descriptor _ _
      pen.bools.typeName_mem_scalarTypes plain
    refine ⟨line, proper, name, fun pages => ?_⟩
    simp only [write, routines, content, written]
  | string value =>
    obtain ⟨line, proper, name, written⟩ := @exists_stringLine pen field.descriptor value
    refine ⟨line, proper, name, fun pages => ?_⟩
    simp only [write, routines, content, written]
  | replacement text =>
    rw [content] at fits
    exact absurd fits stored

end Pen

theorem Descriptor.unbroken_verbs (d : Descriptor) : ∀ verb ∈ d.verbs, Unbroken verb := by
  unfold verbs
  split <;> decide

theorem NamingStyle.unbroken_symbols (naming : NamingStyle) {key : String} {d : Descriptor}
    (parsed : Descriptor.parse key = .ok d) (stored : d.type ≠ .cMacro) :
    ∀ symbol ∈ naming.symbols d, Unbroken symbol := by
  have name := Descriptor.unbroken_name parsed
  intro symbol member
  rw [symbols, if_neg stored] at member
  rcases List.mem_cons.mp member with rfl | function
  · exact naming.unbroken_globalVariable name
  · obtain ⟨verb, listed, rfl⟩ := List.mem_map.mp function
    exact naming.unbroken_accessor (d.unbroken_verbs verb listed) name

/-- Code that defines a macro and nothing else. -/
structure Fragment.DefinesMacro (code : Fragment) (r : Resolution) (name : String) : Prop where
  macros : ∃ rest, code.macros.resolve r = "#define " ++ name ++ rest
  declarations : code.declarations.resolve r = ""
  storage : code.storage.resolve r = ""
  functions : code.functions.resolve r = ""

/-- Code that defines a variable and functions, in this order, and nothing else. Each function is
declared in a line and defined with a body that mentions the variable by this name and all else by
words of its own. -/
structure Fragment.DefinesStored (code : Fragment) (r : Resolution) (name : String)
    (functions : List String) : Prop where
  macros : code.macros.resolve r = ""
  storage : ∃ line : VariableLine, line.Proper ∧ line.name = name ∧
    code.storage.resolve r = line.text ++ "\n"
  functions : ∃ (signatures : List Signature) (bodies : List GappedText),
    signatures.map Signature.name = functions ∧ bodies.length = functions.length ∧
    (∀ signature ∈ signatures,
      Signature.IsResult signature.result ∧ Signature.IsParams signature.params) ∧
    (∀ body ∈ bodies, body.Proper) ∧
    code.declarations.resolve r =
      String.join (signatures.map fun signature => signature.text ++ ";\n") ∧
    code.functions.resolve r =
      String.join (List.zipWith (fun signature body =>
        "\n" ++ signature.text ++ " \x7b\n" ++ body.fill name ++ "\x7d\n") signatures bodies)

namespace ModuleField

variable {field : ModuleField} (r : Resolution) (scope : Scope)

private theorem parts_code (r : Resolution) (scope : Scope) (field : ModuleField) :
    Pages.mk ((field.code scope).macros.resolve r) ((field.code scope).declarations.resolve r)
        ((field.code scope).storage.resolve r) ((field.code scope).functions.resolve r) =
      (Pen.ofScope r scope).write .blank field := by
  rw [← ofFragments_code, Pages.ofFragments_singleton]

theorem definesMacro_code (sound : field.Sound) (definition : field.descriptor.type = .cMacro) :
    (field.code scope).DefinesMacro r
      (r.tag (.sectionPrefix scope.document) ++
        scope.naming.macroName field.descriptor.name) := by
  have fits := sound.fits
  rw [definition] at fits
  cases content : field.content with
  | replacement text =>
    have parts := parts_code r scope field
    rw [Pen.write, content] at parts
    refine ⟨⟨field.descriptor.params.getD "" ++ " " ++ text ++ "\n", ?_⟩,
      congrArg Pages.declarations parts, congrArg Pages.storage parts,
      congrArg Pages.functions parts⟩
    have written := congrArg Pages.macros parts
    simp only [Pages.writeMacro, Pages.blank, String.empty_append, Pen.macroLine,
      Pen.ofScope] at written
    rw [written]
    simp only [String.append_assoc]
  | number cType text =>
    rw [content] at fits
    cases fits
  | boolean b =>
    rw [content] at fits
    cases fits
  | string value =>
    rw [content] at fits
    cases fits

theorem definesStored_code (sound : field.Sound) (inLine : field.content.InLine)
    (stored : field.descriptor.type ≠ .cMacro) :
    (field.code scope).DefinesStored r
      (r.tag (.sectionPrefix scope.document) ++
        scope.naming.globalVariable field.descriptor.name)
      (field.descriptor.verbs.map fun verb =>
        r.tag (.sectionPrefix scope.document) ++
          scope.naming.accessor verb field.descriptor.name) := by
  have typed : field.descriptor.type ≠ .config := by
    intro config
    have fits := sound.fits
    rw [config] at fits
    cases content : field.content <;> rw [content] at fits <;> cases fits
  obtain ⟨line, proper, name, written⟩ :=
    @Pen.write_stored (Pen.ofScope r scope) field sound inLine stored
  have parts := parts_code r scope field
  rw [written, Pages.foldl_writeRoutine_append] at parts
  simp only [Pages.append, Pages.writeVariable, Pages.blank, String.empty_append,
    String.append_empty, Pages.mk.injEq] at parts
  obtain ⟨macros, declarations, storage, functions⟩ := parts
  have names := (Pen.ofScope r scope).names_signatures typed stored
  have lengths := Pen.length_bodies (Pen.ofScope r scope) field.descriptor
  have prototypes := congrArg (List.map fun text : String => text ++ ";\n")
    ((Pen.ofScope r scope).prototype_routines sound)
  simp only [List.map_map, Function.comp_def] at prototypes
  refine ⟨macros, ⟨line, proper, name, storage⟩,
    (Pen.ofScope r scope).signatures field.descriptor,
    (Pen.ofScope r scope).bodies field.descriptor, names, ?_,
    (Pen.ofScope r scope).shape_signatures sound, (Pen.ofScope r scope).proper_bodies sound, ?_, ?_⟩
  · rw [lengths, ← List.length_map Signature.name, names]
    rfl
  · rw [declarations, prototypes]
  · rw [functions, Pen.routines_eq _ sound, List.map_zipWith]
    rfl

end ModuleField

/-- What a field is accepted with can be written down as code, and this code defines the symbols
that are listed for the field: a macro by its only symbol, and any other field by a variable for the
first symbol and a function for each of the others. A spelling that is given for a number must not
break a line. -/
theorem Scope.emit_defines_symbols (naming : NamingStyle) (document : Nat) (key : String)
    (d : Descriptor) (value : Json.Value) (literal : Option String) (checked : FieldValue)
    (parsed : Descriptor.parse key = .ok d)
    (accepted : FieldValue.validate key d value literal = .ok checked)
    (plain : ∀ text ∈ literal, '\n' ∉ text.toList) :
    ∃ code, emit ⟨naming, document⟩ key d checked = .ok code ∧ ∀ r : Resolution,
      (d.type = .cMacro → ∃ symbol, naming.symbols d = [symbol] ∧
        code.DefinesMacro r (r.tag (.sectionPrefix document) ++ symbol)) ∧
      (d.type ≠ .cMacro → ∃ symbol others, naming.symbols d = symbol :: others ∧
        (∀ word ∈ symbol :: others, Unbroken word) ∧
        code.DefinesStored r (r.tag (.sectionPrefix document) ++ symbol)
          (others.map fun other => r.tag (.sectionPrefix document) ++ other)) := by
  obtain ⟨content, held, inLine⟩ := FieldValue.exists_content accepted plain
  have sound : ModuleField.Sound ⟨key, d, content⟩ := ⟨parsed, Content.fits_of_ofValue? held⟩
  refine ⟨ModuleField.code ⟨naming, document⟩ ⟨key, d, content⟩, ?_, fun r => ⟨?_, ?_⟩⟩
  · rw [emit_eq, held]
    rfl
  · intro definition
    refine ⟨naming.macroName d.name, ?_, ?_⟩
    · rw [NamingStyle.symbols, if_pos definition]
    · exact ModuleField.definesMacro_code r ⟨naming, document⟩ sound definition
  · intro stored
    have listed : naming.symbols d = naming.globalVariable d.name ::
        d.verbs.map fun verb => naming.accessor verb d.name := by
      rw [NamingStyle.symbols, if_neg stored]
    refine ⟨_, _, listed, ?_, ?_⟩
    · rw [← listed]
      exact naming.unbroken_symbols parsed stored
    · rw [List.map_map]
      exact ModuleField.definesStored_code r ⟨naming, document⟩ sound inLine stored

/-- A string with a quote and a line break in it, in the third document, under any resolution that
puts something before the names of this document. -/
theorem Scope.emit_defines_symbols_of_string :
    ∃ code, emit ⟨.snake, 2⟩ "string[16]:rw:My_Text"
        ⟨.string, some (.fixed 16), .writable, "My_Text", none⟩ (.text "a\"\n") = .ok code ∧
      ∀ r : Resolution, r.tag (.sectionPrefix 2) = "NET_" →
        code.DefinesStored r "NET_MyText"
          ["NET_len_my_text", "NET_ptr_my_text", "NET_get_my_text", "NET_set_my_text"] := by
  have parsed : Descriptor.parse "string[16]:rw:My_Text" =
      .ok ⟨.string, some (.fixed 16), .writable, "My_Text", none⟩ := rfl
  have accepted : FieldValue.validate "string[16]:rw:My_Text"
      ⟨.string, some (.fixed 16), .writable, "My_Text", none⟩ (.string "a\"\n") none =
      .ok (.text "a\"\n") := rfl
  obtain ⟨code, made, defines⟩ := emit_defines_symbols .snake 2 "string[16]:rw:My_Text" _ _ none _
    parsed accepted fun text given => by cases given
  refine ⟨code, made, fun r front => ?_⟩
  obtain ⟨symbol, others, listed, -, stored⟩ := (defines r).2 (by decide)
  have symbols : NamingStyle.snake.symbols
      ⟨.string, some (.fixed 16), .writable, "My_Text", none⟩ =
      ["MyText", "len_my_text", "ptr_my_text", "get_my_text", "set_my_text"] := by
    decide +kernel
  obtain ⟨rfl, rfl⟩ := List.cons.inj (listed.symm.trans symbols)
  rw [front] at stored
  exact stored

end AccessorGen
