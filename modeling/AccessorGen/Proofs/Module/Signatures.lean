/- The functions of a field.
   What a field is declared and defined with follows from its descriptor: a signature for each thing
   that can be done to it. The bodies of its functions are indented. -/

import AccessorGen.Proofs.Module.WholeLines
import AccessorGen.Proofs.Text.Indentation

set_option autoImplicit false
set_option relaxedAutoImplicit false

namespace AccessorGen

/-- What a C program has to know of a function. -/
structure Signature where
  /-- The type of the result, up to the name. -/
  result : String
  name : String
  /-- The parameter list with its parentheses. -/
  params : String
  deriving DecidableEq, Repr

namespace Signature

def text (signature : Signature) : String :=
  signature.result ++ signature.name ++ signature.params

/-- The type of a result in one line that is not indented and ends where a name may start. -/
def IsResult (result : String) : Prop :=
  result.toList.head? ≠ some ' ' ∧
    (result.toList.getLast? = some ' ' ∨ result.toList.getLast? = some '*') ∧
    '(' ∉ result.toList ∧ '\n' ∉ result.toList

instance (result : String) : Decidable (IsResult result) :=
  inferInstanceAs (Decidable (_ ∧ _))

def IsParams (params : String) : Prop :=
  params.toList.head? = some '(' ∧ '\n' ∉ params.toList

instance (params : String) : Decidable (IsParams params) :=
  inferInstanceAs (Decidable (_ ∧ _))

structure Proper (signature : Signature) : Prop where
  result : IsResult signature.result
  name : Unbroken signature.name
  params : IsParams signature.params

theorem proper_mk {result name params : String} (type : IsResult result) (word : Unbroken name)
    (list : IsParams params) : Proper ⟨result, name, params⟩ :=
  ⟨type, word, list⟩

/-- The name in the text of a signature: the last word before the parameter list. -/
def readName (cs : List Char) : List Char :=
  ((cs.takeWhile (· != '(')).reverse.takeWhile fun c => c != ' ' && c != '*').reverse

theorem Proper.readName_text {signature : Signature} (proper : signature.Proper) :
    readName signature.text.toList = signature.name.toList := by
  obtain ⟨-, mark, closed, -⟩ := proper.result
  obtain ⟨params, opening⟩ := List.head?_eq_some_iff.mp proper.params.1
  have plain : ∀ c ∈ signature.name.toList, c ≠ '(' ∧ c ≠ ' ' ∧ c ≠ '*' := by
    intro c member
    have outside := proper.name c member
    simp only [delimiters, List.mem_cons, not_or] at outside
    exact ⟨outside.2.2.2.1, outside.2.1, outside.2.2.1⟩
  have front : ∀ c ∈ signature.result.toList ++ signature.name.toList, (c != '(') = true := by
    intro c member
    rw [bne_iff_ne]
    rcases List.mem_append.mp member with inResult | inName
    · rintro rfl
      exact closed inResult
    · exact (plain c inName).1
  have word : ∀ c ∈ signature.name.toList.reverse, (c != ' ' && c != '*') = true := by
    intro c member
    obtain ⟨-, space, star⟩ := plain c (List.mem_reverse.mp member)
    simp [space, star]
  have last : ∃ c rest, signature.result.toList.reverse = c :: rest ∧ (c = ' ' ∨ c = '*') := by
    rcases mark with space | star
    · obtain ⟨rest, shape⟩ := List.getLast?_eq_some_iff.mp space
      exact ⟨' ', rest.reverse, by simp [shape], .inl rfl⟩
    · obtain ⟨rest, shape⟩ := List.getLast?_eq_some_iff.mp star
      exact ⟨'*', rest.reverse, by simp [shape], .inr rfl⟩
  obtain ⟨c, rest, shape, stop⟩ := last
  have ends : (c != ' ' && c != '*') = false := by rcases stop with rfl | rfl <;> decide
  rw [readName, text, String.toList_append, String.toList_append, opening,
    List.takeWhile_append_of_pos front, List.takeWhile_cons_of_neg (by decide), List.append_nil,
    List.reverse_append, List.takeWhile_append_of_pos word, shape,
    List.takeWhile_cons_of_neg (by simp [ends]), List.append_nil, List.reverse_reverse]

theorem Proper.newline_not_mem_text {signature : Signature} (proper : signature.Proper) :
    '\n' ∉ signature.text.toList := by
  have inName := proper.name.newline_not_mem
  have inResult := proper.result.2.2.2
  have inParams := proper.params.2
  simp [text, inName, inResult, inParams]

theorem nodup_map_text {signatures : List Signature} (proper : ∀ s ∈ signatures, s.Proper)
    (names : (signatures.map name).Nodup) : (signatures.map text).Nodup := by
  have read : (signatures.map text).map (fun text => readName text.toList) =
      (signatures.map name).map String.toList := by
    rw [List.map_map, List.map_map]
    exact List.map_congr_left fun s member => (proper s member).readName_text
  have distinct : ((signatures.map name).map String.toList).Nodup :=
    names.map fun a b same => String.toList_inj.mp same
  rw [← read] at distinct
  exact distinct.of_map

end Signature

/-- The C types of variables that are no strings. -/
def scalarTypes : List String :=
  ["int8_t", "int16_t", "int32_t", "int64_t", "uint8_t", "uint16_t", "uint32_t", "uint64_t",
    "float", "double", "bool"]

theorem FieldType.mem_scalarTypes {type : FieldType} {cType : String}
    (named : type.cNumericType? = some cType) : cType ∈ scalarTypes := by
  cases type with
  | signed width | unsigned width =>
    cases width <;>
    · obtain rfl := Option.some.inj named
      decide
  | float | double =>
    obtain rfl := Option.some.inj named
    decide
  | _ => cases named

theorem BoolStorage.typeName_mem_scalarTypes (storage : BoolStorage) :
    storage.typeName ∈ scalarTypes := by
  cases storage <;> decide

namespace Pen

def scalarType (pen : Pen) (type : FieldType) : String :=
  if type = .boolean then pen.bools.typeName else type.cNumericType?.getD ""

def scalarSignatures (pen : Pen) (d : Descriptor) (cType : String) : List Signature :=
  match d.access with
  | .readOnly => [⟨cType ++ " ", pen.function "Get" d, "(void)"⟩]
  | .writable =>
    [⟨cType ++ " ", pen.function "Get" d, "(void)"⟩,
      ⟨"void ", pen.function "Set" d, "(" ++ cType ++ " val)"⟩]

def stringSignatures (pen : Pen) (d : Descriptor) : List Signature :=
  match d.access with
  | .readOnly =>
    [⟨"uint16_t ", pen.function "Len" d, "(void)"⟩,
      ⟨"const char *", pen.function "Ptr" d, "(void)"⟩]
  | .writable =>
    [⟨"uint16_t ", pen.function "Len" d, "(void)"⟩,
      ⟨"const char *", pen.function "Ptr" d, "(void)"⟩,
      ⟨pen.bools.typeName ++ " ", pen.function "Get" d, "(char *buff_ptr, uint16_t len)"⟩,
      ⟨pen.bools.typeName ++ " ", pen.function "Set" d,
        "(const char *buff_ptr, uint16_t len)"⟩]

/-- The functions of a field: two or four for a string, one or two for a number or a boolean, and
none for a macro. -/
def signatures (pen : Pen) (d : Descriptor) : List Signature :=
  match d.type with
  | .config => []
  | .cMacro => []
  | .string => pen.stringSignatures d
  | type => pen.scalarSignatures d (pen.scalarType type)

theorem names_signatures (pen : Pen) {d : Descriptor} (stored : d.type ≠ .config)
    (defined : d.type ≠ .cMacro) :
    (pen.signatures d).map Signature.name = d.verbs.map fun verb => pen.function verb d := by
  obtain ⟨type, size, access, name, params⟩ := d
  cases type with
  | config => exact absurd rfl stored
  | cMacro => exact absurd rfl defined
  | _ => cases access <;> rfl

def routines (pen : Pen) (field : ModuleField) : List Routine :=
  match field.content with
  | .number cType _ => pen.scalarRoutines field.descriptor cType
  | .boolean _ => pen.scalarRoutines field.descriptor pen.bools.typeName
  | .string _ => pen.stringRoutines field.descriptor
  | .replacement _ => []

theorem prototype_scalarRoutines (pen : Pen) (d : Descriptor) (cType : String) :
    (pen.scalarRoutines d cType).map Routine.prototype =
      (pen.scalarSignatures d cType).map Signature.text := by
  unfold scalarRoutines scalarSignatures
  cases d.access <;>
    simp [scalarGet, scalarSet, Signature.text, String.append_assoc]

theorem prototype_stringRoutines (pen : Pen) (d : Descriptor) :
    (pen.stringRoutines d).map Routine.prototype =
      (pen.stringSignatures d).map Signature.text := by
  unfold stringRoutines stringSignatures
  cases d.access <;>
    simp [stringLen, stringPtr, stringGet, stringSet, Signature.text, String.append_assoc]

theorem signatures_numeric (pen : Pen) {d : Descriptor} {cType : String}
    (named : d.type.cNumericType? = some cType) :
    pen.signatures d = pen.scalarSignatures d cType := by
  unfold signatures scalarType
  cases type : d.type with
  | config | cMacro | string | boolean =>
    rw [type] at named
    cases named
  | _ =>
    rw [type] at named
    simp [named]

theorem prototype_routines (pen : Pen) {field : ModuleField} (sound : field.Sound) :
    (pen.routines field).map Routine.prototype =
      (pen.signatures field.descriptor).map Signature.text := by
  have fits := sound.fits
  unfold routines
  cases content : field.content with
  | number cType literal =>
    rw [content] at fits
    rw [pen.signatures_numeric fits, prototype_scalarRoutines]
  | boolean b =>
    rw [content] at fits
    have type : field.descriptor.type = .boolean := fits
    rw [signatures, type, prototype_scalarRoutines]
    rfl
  | string value =>
    rw [content] at fits
    have type : field.descriptor.type = .string := fits
    rw [signatures, type, prototype_stringRoutines]
  | replacement text =>
    rw [content] at fits
    have type : field.descriptor.type = .cMacro := fits
    rw [signatures, type]
    rfl

section Named

variable {pen : Pen} {d : Descriptor}

theorem unbroken_storage (front : Unbroken pen.front) (name : Unbroken d.name) :
    Unbroken (pen.storage d) :=
  front.append (pen.naming.unbroken_globalVariable name)

theorem unbroken_function (front : Unbroken pen.front) (name : Unbroken d.name)
    (verb : String) (plain : Unbroken verb) : Unbroken (pen.function verb d) :=
  front.append (pen.naming.unbroken_accessor plain name)

theorem proper_scalarSignatures (front : Unbroken pen.front) (name : Unbroken d.name)
    {cType : String} (known : cType ∈ scalarTypes) :
    ∀ signature ∈ pen.scalarSignatures d cType, signature.Proper := by
  have results : ∀ cType ∈ scalarTypes, Signature.IsResult (cType ++ " ") := by decide
  have params : ∀ cType ∈ scalarTypes, Signature.IsParams ("(" ++ cType ++ " val)") := by decide
  have get : Signature.Proper ⟨cType ++ " ", pen.function "Get" d, "(void)"⟩ :=
    Signature.proper_mk (results cType known) (unbroken_function front name "Get" (by decide))
      (by decide)
  have set : Signature.Proper ⟨"void ", pen.function "Set" d, "(" ++ cType ++ " val)"⟩ :=
    Signature.proper_mk (by decide) (unbroken_function front name "Set" (by decide))
      (params cType known)
  unfold scalarSignatures
  cases d.access with
  | readOnly => simpa using get
  | writable => simpa using ⟨get, set⟩

theorem proper_stringSignatures (front : Unbroken pen.front) (name : Unbroken d.name) :
    ∀ signature ∈ pen.stringSignatures d, signature.Proper := by
  have result : Signature.IsResult (pen.bools.typeName ++ " ") := by
    cases pen.bools <;> decide
  have len : Signature.Proper ⟨"uint16_t ", pen.function "Len" d, "(void)"⟩ :=
    Signature.proper_mk (by decide) (unbroken_function front name "Len" (by decide)) (by decide)
  have ptr : Signature.Proper ⟨"const char *", pen.function "Ptr" d, "(void)"⟩ :=
    Signature.proper_mk (by decide) (unbroken_function front name "Ptr" (by decide)) (by decide)
  have get : Signature.Proper ⟨pen.bools.typeName ++ " ", pen.function "Get" d,
      "(char *buff_ptr, uint16_t len)"⟩ :=
    Signature.proper_mk result (unbroken_function front name "Get" (by decide)) (by decide)
  have set : Signature.Proper ⟨pen.bools.typeName ++ " ", pen.function "Set" d,
      "(const char *buff_ptr, uint16_t len)"⟩ :=
    Signature.proper_mk result (unbroken_function front name "Set" (by decide)) (by decide)
  unfold stringSignatures
  cases d.access with
  | readOnly => simpa using ⟨len, ptr⟩
  | writable => simpa using ⟨len, ptr, get, set⟩

theorem proper_signatures (front : Unbroken pen.front) {field : ModuleField}
    (sound : field.Sound) : ∀ signature ∈ pen.signatures field.descriptor, signature.Proper := by
  have name := Descriptor.unbroken_name sound.parsed
  have fits := sound.fits
  cases content : field.content with
  | number cType literal =>
    rw [content] at fits
    rw [pen.signatures_numeric fits]
    exact proper_scalarSignatures front name (FieldType.mem_scalarTypes fits)
  | boolean b =>
    rw [content] at fits
    have type : field.descriptor.type = .boolean := fits
    rw [signatures, type]
    exact proper_scalarSignatures front name pen.bools.typeName_mem_scalarTypes
  | string value =>
    rw [content] at fits
    have type : field.descriptor.type = .string := fits
    rw [signatures, type]
    exact proper_stringSignatures front name
  | replacement text =>
    rw [content] at fits
    have type : field.descriptor.type = .cMacro := fits
    rw [signatures, type]
    simp

end Named

section Bodies

open LinePlace

variable {pen : Pen} {d : Descriptor}

private theorem after_storage (oneLine : '\n' ∉ (pen.storage d).toList) {place : LinePlace}
    (within : place = .inside) : place.after (pen.storage d) = .inside := by
  rw [within, inside_after oneLine]

private theorem after_typeName {place : LinePlace} (within : place = .inside) :
    place.after pen.bools.typeName = .inside := by
  rw [within]
  cases pen.bools <;> decide

private theorem after_literal {b : Bool} {place : LinePlace} (within : place = .inside) :
    place.after (pen.bools.literal b) = .inside := by
  rw [within]
  cases pen.bools <;> cases b <;> decide

theorem indented_stringRoutines (oneLine : '\n' ∉ (pen.storage d).toList) :
    ∀ routine ∈ pen.stringRoutines d, Indented routine.body := by
  have len : Indented (pen.stringLen d).body := by
    delta stringLen
    simp only [Indented, after_append]
    repeat rw [after_ofList]
    simp (disch := decide +kernel) only [after_storage oneLine]
    decide +kernel
  have ptr : Indented (pen.stringPtr d).body := by
    delta stringPtr
    simp only [Indented, after_append]
    repeat rw [after_ofList]
    simp (disch := decide +kernel) only [after_storage oneLine]
    decide +kernel
  have get : Indented (pen.stringGet d).body := by
    delta stringGet
    simp only [Indented, after_append]
    repeat rw [after_ofList]
    simp (disch := decide +kernel) only [after_storage oneLine, after_typeName, after_literal]
    decide +kernel
  have set : Indented (pen.stringSet d).body := by
    delta stringSet
    simp only [Indented, after_append]
    repeat rw [after_ofList]
    simp (disch := decide +kernel) only [after_storage oneLine, after_typeName, after_literal]
    decide +kernel
  unfold stringRoutines
  cases d.access with
  | readOnly => simpa using ⟨len, ptr⟩
  | writable => simpa using ⟨len, ptr, get, set⟩

theorem indented_scalarRoutines (oneLine : '\n' ∉ (pen.storage d).toList) {cType : String}
    (known : cType ∈ scalarTypes) :
    ∀ routine ∈ pen.scalarRoutines d cType, Indented routine.body := by
  have typed : ∀ {place : LinePlace}, place = .inside → place.after cType = .inside := by
    have inLine : ∀ cType ∈ scalarTypes, '\n' ∉ cType.toList := by decide
    rintro _ rfl
    exact inside_after (inLine cType known)
  have get : Indented (pen.scalarGet d cType).body := by
    delta scalarGet
    simp only [Indented, after_append]
    repeat rw [after_ofList]
    simp (disch := decide +kernel) only [after_storage oneLine, typed]
    decide +kernel
  have set : Indented (pen.scalarSet d cType).body := by
    delta scalarSet
    simp only [Indented, after_append]
    repeat rw [after_ofList]
    simp (disch := decide +kernel) only [after_storage oneLine]
    decide +kernel
  unfold scalarRoutines
  cases d.access with
  | readOnly => simpa using get
  | writable => simpa using ⟨get, set⟩

theorem indented_routines (front : Unbroken pen.front) {field : ModuleField}
    (sound : field.Sound) : ∀ routine ∈ pen.routines field, Indented routine.body := by
  have oneLine := (unbroken_storage front (Descriptor.unbroken_name sound.parsed)).newline_not_mem
  have fits := sound.fits
  unfold routines
  cases content : field.content with
  | number cType literal =>
    rw [content] at fits
    exact indented_scalarRoutines oneLine (FieldType.mem_scalarTypes fits)
  | boolean b => exact indented_scalarRoutines oneLine pen.bools.typeName_mem_scalarTypes
  | string value => exact indented_stringRoutines oneLine
  | replacement text => simp

end Bodies

end Pen

end AccessorGen
