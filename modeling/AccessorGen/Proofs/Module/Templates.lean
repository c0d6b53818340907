/- Templates of code.
   The code of a field is what its templates become when the names, the type and the value of the
   field are filled in. A template is read from the front: text up to the first placeholder stays,
   and the placeholder gives way to its piece. -/

import AccessorGen.Fragment
import AccessorGen.Proofs.Snippet.Canonical

set_option autoImplicit false
set_option relaxedAutoImplicit false

namespace AccessorGen

namespace Template

@[irreducible] def hole (name : String) : String :=
  "$\x7b" ++ name ++ "\x7d"

private theorem partsFrom_cons {inHole : Bool} {seen rest : List Char} {c : Char}
    (plain : ∀ others, c = '$' → rest = '\x7b' :: others → False) :
    partsFrom inHole seen (c :: rest) =
      if inHole && c == '\x7d' then .hole seen.reverse :: partsFrom false [] rest
      else partsFrom inHole (c :: seen) rest := by
  rw [partsFrom]
  exact plain

section Reading

variable (document : Nat) (args : List (String × Piece))

/-- The characters and tags that the rest of a template becomes, outside of a placeholder. -/
private def filled (cs : List Char) : List Atom :=
  ((partsFrom false [] cs).map (Part.fill document args)).flatMap Piece.atoms

private theorem atoms_partsFrom (seen cs : List Char) :
    ((partsFrom false seen cs).map (Part.fill document args)).flatMap Piece.atoms =
      seen.reverse.map .char ++ filled document args cs := by
  induction cs generalizing seen with
  | nil => simp [filled, partsFrom, Part.fill, Piece.atoms]
  | cons c rest ih =>
    by_cases mark : ∃ others, c = '$' ∧ rest = '\x7b' :: others
    · obtain ⟨others, rfl, rfl⟩ := mark
      have opened (before : List Char) : partsFrom false before ('$' :: '\x7b' :: others) =
          .text before.reverse :: partsFrom true [] others :=
        rfl
      rw [filled, opened, opened]
      simp [Part.fill, Piece.atoms]
    · have plain : ∀ others, c = '$' → rest = '\x7b' :: others → False :=
        fun others dollar brace => mark ⟨others, dollar, brace⟩
      rw [filled, partsFrom_cons plain, partsFrom_cons plain, Bool.false_and,
        if_neg Bool.false_ne_true, if_neg Bool.false_ne_true, ih, ih]
      simp

private theorem filled_text {text : List Char} (plain : '$' ∉ text) (rest : List Char) :
    filled document args (text ++ rest) = text.map .char ++ filled document args rest := by
  induction text with
  | nil => rfl
  | cons c others ih =>
    simp only [List.mem_cons, not_or] at plain
    rw [List.cons_append, filled, partsFrom_cons fun _ dollar _ => plain.1 dollar.symm,
      Bool.false_and, if_neg Bool.false_ne_true, atoms_partsFrom, ih plain.2]
    rfl

private theorem partsFrom_name {name : List Char} (plain : '$' ∉ name) (inner : '\x7d' ∉ name)
    (seen rest : List Char) :
    partsFrom true seen (name ++ '\x7d' :: rest) =
      .hole (seen.reverse ++ name) :: partsFrom false [] rest := by
  induction name generalizing seen with
  | nil => simp [partsFrom]
  | cons c others ih =>
    simp only [List.mem_cons, not_or] at plain inner
    have goesOn : ¬ (true && c == '\x7d') = true := by simpa using Ne.symm inner.1
    rw [List.cons_append, partsFrom_cons fun _ dollar _ => plain.1 dollar.symm, if_neg goesOn,
      ih plain.2 inner.2, List.reverse_cons, List.append_assoc, List.singleton_append]

private theorem filled_hole {name : List Char} (plain : '$' ∉ name) (inner : '\x7d' ∉ name)
    (rest : List Char) :
    filled document args (opening ++ name ++ '\x7d' :: rest) =
      (Part.fill document args (.hole name)).atoms ++ filled document args rest := by
  have step : partsFrom false [] (opening ++ name ++ '\x7d' :: rest) =
      .text [] :: partsFrom true [] (name ++ '\x7d' :: rest) :=
    rfl
  rw [filled, step, partsFrom_name plain inner]
  rfl

end Reading

end Template

namespace Snippet

open Template

section Rules

variable (document : Nat) (args : List (String × Piece))

private theorem atoms_expand (template : String) :
    (expand template document args).atoms = filled document args template.toList := by
  rw [expand, atoms_ofPieces]
  rfl

theorem expand_text_append {text : String} (plain : '$' ∉ text.toList) (rest : String) :
    expand (text ++ rest) document args = cons (.text text) (expand rest document args) := by
  apply (canonical_ofPieces _).ext ((canonical_ofPieces _).cons _)
  rw [atoms_cons, ← expand, ← expand, atoms_expand, atoms_expand, String.toList_append,
    filled_text document args plain]
  rfl

theorem expand_hole_append {name : String} (plain : '$' ∉ name.toList)
    (inner : '\x7d' ∉ name.toList) (rest : String) :
    expand (hole name ++ rest) document args =
      cons (if name = sectionPrefixName then .tag (.sectionPrefix document)
        else (args.lookup name).getD (.text (hole name))) (expand rest document args) := by
  have filling : Part.fill document args (.hole name.toList) =
      if name = sectionPrefixName then .tag (.sectionPrefix document)
      else (args.lookup name).getD (.text (hole name)) := by
    have written : String.ofList (opening ++ name.toList ++ ['\x7d']) = hole name := by
      rw [hole, String.ofList_append, String.ofList_append, String.ofList_toList]
      rfl
    rw [Part.fill, String.ofList_toList, written]
    cases args.lookup name <;> rfl
  rw [← filling]
  apply (canonical_ofPieces _).ext ((canonical_ofPieces _).cons _)
  have cut : (hole name ++ rest).toList = opening ++ name.toList ++ '\x7d' :: rest.toList := by
    simp [hole, opening]
  rw [atoms_cons, ← expand, ← expand, atoms_expand, atoms_expand, cut,
    filled_hole document args plain inner]

theorem expand_text {text : String} (plain : '$' ∉ text.toList) :
    expand text document args = cons (.text text) empty := by
  have rule := expand_text_append document args plain ""
  rwa [String.append_empty] at rule

end Rules

private theorem plain_ofList {cs : List Char} {c : Char} (plain : c ∉ cs) :
    c ∉ (String.ofList cs).toList := by
  rwa [String.toList_ofList]

private theorem cons_text_append (front back : String) (s : Snippet) :
    cons (.text (front ++ back)) s = cons (.text front) (cons (.text back) s) :=
  (cons_text_cons_text front back s).symm

private theorem append_ofPieces (front back : List Piece) :
    (ofPieces front).append (ofPieces back) = ofPieces (front ++ back) := by
  apply ((canonical_ofPieces back).append _).ext (canonical_ofPieces _)
  rw [atoms_append, atoms_ofPieces, atoms_ofPieces, atoms_ofPieces, List.flatMap_append]

end Snippet

/-- The templates of an accessor function. -/
structure AccessorTemplate where
  prototype : String
  /-- The lines between the braces. -/
  body : String

namespace Template

def scalarStorage : String :=
  "static " ++ hole "ctype" ++ " " ++ hole "prefix" ++ hole "var" ++ " = " ++ hole "value" ++ ";\n"

def scalarGet : AccessorTemplate where
  prototype := hole "ctype" ++ " " ++ hole "prefix" ++ hole "func" ++ "(void)"
  body :=
    "    " ++ hole "ctype" ++ " val;\n\n    CRITICAL_BLOCK(\n        val = " ++ hole "prefix" ++
      hole "var" ++ ";\n    );\n\n    return val;\n"

def scalarSet : AccessorTemplate where
  prototype := "void " ++ hole "prefix" ++ hole "func" ++ "(" ++ hole "ctype" ++ " val)"
  body :=
    "    CRITICAL_BLOCK(\n        " ++ hole "prefix" ++ hole "var" ++ " = val;\n    );\n"

def stringStorage : String :=
  "static char " ++ hole "prefix" ++ hole "var" ++ "[" ++ hole "size" ++ "] = \"" ++
    hole "value" ++ "\";\n"

def stringLen : AccessorTemplate where
  prototype := "uint16_t " ++ hole "prefix" ++ hole "func" ++ "(void)"
  body := "    return sizeof(" ++ hole "prefix" ++ hole "var" ++ ");\n"

def stringPtr : AccessorTemplate where
  prototype := "const char *" ++ hole "prefix" ++ hole "func" ++ "(void)"
  body := "    return &" ++ hole "prefix" ++ hole "var" ++ "[0];\n"

def stringGet : AccessorTemplate where
  prototype :=
    hole "bool" ++ " " ++ hole "prefix" ++ hole "func" ++ "(char *buff_ptr, uint16_t len)"
  body :=
    "    " ++ hole "bool" ++ " success = " ++ hole "true" ++
      ";\n    uint16_t i;\n    const char *ptr = &" ++ hole "prefix" ++ hole "var" ++
      "[0];\n\n    if (len == 0) \x7b\n        return " ++ hole "false" ++
      ";\n    \x7d\n\n    CRITICAL_BLOCK(\n        for (i = 0; i < sizeof(" ++ hole "prefix" ++
      hole "var" ++ "); i++) \x7b\n            if (i >= len) \x7b\n                success = " ++
      hole "false" ++
      ";\n                break;\n            \x7d\n            buff_ptr[i] = ptr[i];\n" ++
      "        \x7d\n    );\n\n    buff_ptr[len - 1] = 0;\n    return success;\n"

def stringSet : AccessorTemplate where
  prototype :=
    hole "bool" ++ " " ++ hole "prefix" ++ hole "func" ++ "(const char *buff_ptr, uint16_t len)"
  body :=
    "    " ++ hole "bool" ++ " success = " ++ hole "true" ++
      ";\n    uint16_t i;\n    char *ptr = &" ++ hole "prefix" ++ hole "var" ++
      "[0];\n\n    CRITICAL_BLOCK(\n        for (i = 0; i < len; i++) \x7b\n" ++
      "            if (i >= sizeof(" ++ hole "prefix" ++ hole "var" ++
      ")) \x7b\n                success = " ++ hole "false" ++
      ";\n                break;\n            \x7d\n            ptr[i] = buff_ptr[i];\n" ++
      "        \x7d\n        if (i >= sizeof(" ++ hole "prefix" ++ hole "var" ++
      ")) \x7b\n            i = sizeof(" ++ hole "prefix" ++ hole "var" ++
      ") - 1;\n        \x7d\n        ptr[i] = 0;\n    );\n\n    return success;\n"

def macroLine : String :=
  "#define " ++ hole "prefix" ++ hole "name" ++ hole "params" ++ " " ++ hole "value" ++ "\n"

end Template

namespace Fragment

def empty : Fragment :=
  ⟨.empty, .empty, .empty, .empty⟩

def addAccessor (fragment : Fragment) (document : Nat) (template : AccessorTemplate)
    (args : List (String × Piece)) : Fragment :=
  { fragment with
    declarations := fragment.declarations.append
      (.expand (template.prototype ++ ";\n") document args)
    functions := fragment.functions.append
      (.expand ("\n" ++ template.prototype ++ " \x7b\n" ++ template.body ++ "\x7d\n") document
        args) }

def addAccessors (fragment : Fragment) (document : Nat)
    (templates : List (String × AccessorTemplate)) (args : String → List (String × Piece)) :
    Fragment :=
  templates.foldl (fun code given => code.addAccessor document given.2 (args given.1)) fragment

end Fragment

open Template Snippet

/-- An accessor function is what its templates become, whatever follows them. -/
structure AccessorTemplate.Makes (template : AccessorTemplate) (document : Nat)
    (args : List (String × Piece)) (accessor : Accessor) : Prop where
  prototype : ∀ rest, expand (template.prototype ++ rest) document args =
    accessor.prototype.foldr cons (expand rest document args)
  body : ∀ rest, expand (template.body ++ rest) document args =
    accessor.body.foldr cons (expand rest document args)

namespace Fragment

variable {document : Nat}

theorem addAccessor_ofStorage {template : AccessorTemplate} {args : List (String × Piece)}
    {accessor : Accessor} (makes : template.Makes document args accessor) (storage : List Piece)
    (accessors : List Accessor) :
    (ofStorage storage accessors).addAccessor document template args =
      ofStorage storage (accessors ++ [accessor]) := by
  have declared : expand (template.prototype ++ ";\n") document args =
      ofPieces accessor.declaration := by
    rw [makes.prototype, expand_text document args (by simp), Accessor.declaration, ofPieces,
      List.foldr_append]
    rfl
  have defined : expand ("\n" ++ template.prototype ++ " \x7b\n" ++ template.body ++ "\x7d\n")
      document args = ofPieces accessor.definition := by
    simp only [String.append_assoc]
    rw [expand_text_append document args (by simp), makes.prototype,
      expand_text_append document args (by simp), makes.body, expand_text document args (by simp)]
    simp [Accessor.definition, ofPieces]
  simp only [addAccessor, ofStorage, declared, defined, append_ofPieces, List.flatMap_append,
    List.flatMap_singleton]

theorem addAccessors_ofStorage {args : String → List (String × Piece)}
    {templates : List (String × AccessorTemplate)} {made : List Accessor}
    (makes : List.Forall₂
      (fun given accessor => given.2.Makes document (args given.1) accessor) templates made)
    (storage : List Piece) (accessors : List Accessor) :
    (ofStorage storage accessors).addAccessors document templates args =
      ofStorage storage (accessors ++ made) := by
  induction makes generalizing accessors with
  | nil => rw [addAccessors, List.foldl_nil, List.append_nil]
  | @cons given accessor templates made head tail ih =>
    simp only [addAccessors, List.foldl_cons] at ih ⊢
    rw [addAccessor_ofStorage head, ih, List.append_assoc, List.singleton_append]

end Fragment

namespace Scope

variable (scope : Scope) (d : Descriptor)

/-- What is filled into the templates of the accessors of a number or a boolean. -/
def scalarArguments (cType : Piece) (verb : String) : List (String × Piece) :=
  [("ctype", cType), ("var", .text (scope.naming.globalVariable d.name)),
    ("func", .text (scope.naming.accessor verb d.name))]

def stringArguments (verb : String) : List (String × Piece) :=
  [("var", .text (scope.naming.globalVariable d.name)),
    ("func", .text (scope.naming.accessor verb d.name)), ("bool", .tag .boolType),
    ("true", .tag .boolTrue), ("false", .tag .boolFalse)]

/-- The functions of a number are what their templates become. -/
private theorem scalar_makes (cType : Piece) :
    Template.scalarGet.Makes scope.document (scope.scalarArguments d cType "Get")
        (scope.scalarGet d cType) ∧
      Template.scalarSet.Makes scope.document (scope.scalarArguments d cType "Set")
        (scope.scalarSet d cType) := by
  refine ⟨⟨?_, ?_⟩, ⟨?_, ?_⟩⟩
  all_goals
    intro rest
    simp (disch := (refine plain_ofList ?_; decide +kernel)) only [Template.scalarGet,
      Template.scalarSet, String.append_assoc, expand_text_append, expand_hole_append]
    simp [scalarArguments, Scope.scalarGet, Scope.scalarSet, sectionPrefixName,
      List.lookup_cons, function, Scope.storage, qualified]

private theorem string_makes :
    (Template.stringLen.Makes scope.document (scope.stringArguments d "Len") (scope.stringLen d) ∧
      Template.stringPtr.Makes scope.document (scope.stringArguments d "Ptr")
        (scope.stringPtr d)) ∧
    Template.stringGet.Makes scope.document (scope.stringArguments d "Get") (scope.stringGet d) ∧
      Template.stringSet.Makes scope.document (scope.stringArguments d "Set")
        (scope.stringSet d) := by
  refine ⟨⟨⟨?_, ?_⟩, ⟨?_, ?_⟩⟩, ⟨?_, ?_⟩, ⟨?_, ?_⟩⟩
  all_goals
    intro rest
    simp (disch := (refine plain_ofList ?_; decide +kernel)) only [Template.stringLen,
      Template.stringPtr, Template.stringGet, Template.stringSet, String.append_assoc,
      expand_text_append, expand_hole_append]
    simp [stringArguments, Scope.stringLen, Scope.stringPtr, Scope.stringGet, Scope.stringSet,
      sectionPrefixName, List.lookup_cons, function, Scope.storage, qualified,
      cons_text_append, -String.reduceAppend]

private theorem expand_scalarStorage (cType value : Piece) :
    expand scalarStorage scope.document
        [("ctype", cType), ("var", .text (scope.naming.globalVariable d.name)), ("value", value)] =
      ofPieces (.text "static " :: cType :: .text " " :: scope.storage d ++
        [.text " = ", value, .text ";\n"]) := by
  delta scalarStorage
  simp (disch := (refine plain_ofList ?_; decide +kernel)) only [String.append_assoc,
    expand_text_append, expand_hole_append, expand_text]
  simp [sectionPrefixName, List.lookup_cons, Scope.storage, qualified, ofPieces]

private theorem expand_stringStorage (value : String) :
    expand stringStorage scope.document
        [("var", .text (scope.naming.globalVariable d.name)), ("size", .text (sizeText d.size)),
          ("value", .text (Text.CLiteral.encode value))] =
      ofPieces (.text "static char " :: scope.storage d ++
        [.text ("[" ++ sizeText d.size ++ "] = \"" ++ Text.CLiteral.encode value ++ "\";\n")]) := by
  delta stringStorage
  simp (disch := (refine plain_ofList ?_; decide +kernel)) only [String.append_assoc,
    expand_text_append, expand_hole_append, expand_text]
  simp [sectionPrefixName, List.lookup_cons, Scope.storage, qualified, ofPieces]
  simp only [cons_text_append]

private theorem expand_macroLine (value : String) :
    expand macroLine scope.document
        [("name", .text (scope.naming.macroName d.name)), ("params", .text (d.params.getD "")),
          ("value", .text value)] =
      ofPieces (.text "#define " :: scope.qualified (scope.naming.macroName d.name) ++
        [.text (d.params.getD "" ++ " " ++ value ++ "\n")]) := by
  delta macroLine
  simp (disch := (refine plain_ofList ?_; decide +kernel)) only [String.append_assoc,
    expand_text_append, expand_hole_append, expand_text]
  simp [sectionPrefixName, List.lookup_cons, qualified, ofPieces]
  simp only [cons_text_append]

/-- The code of a number or a boolean comes from its templates. -/
theorem scalar_eq_expand (cType value : Piece) :
    scope.scalar d cType value =
      let start := { Fragment.empty with
        storage := .expand scalarStorage scope.document
          [("ctype", cType), ("var", .text (scope.naming.globalVariable d.name)),
            ("value", value)] }
      let accessors := match d.access with
        | .readOnly => [("Get", Template.scalarGet)]
        | .writable => [("Get", Template.scalarGet), ("Set", Template.scalarSet)]
      start.addAccessors scope.document accessors (scope.scalarArguments d cType) := by
  obtain ⟨get, set⟩ := scope.scalar_makes d cType
  dsimp only
  rw [expand_scalarStorage, scalar]
  cases d.access with
  | readOnly =>
    have made : List.Forall₂ (fun given accessor =>
        given.2.Makes scope.document (scope.scalarArguments d cType given.1) accessor)
        [("Get", Template.scalarGet)] [scope.scalarGet d cType] :=
      .cons get .nil
    exact (Fragment.addAccessors_ofStorage made _ []).symm
  | writable =>
    have made : List.Forall₂ (fun given accessor =>
        given.2.Makes scope.document (scope.scalarArguments d cType given.1) accessor)
        [("Get", Template.scalarGet), ("Set", Template.scalarSet)]
        [scope.scalarGet d cType, scope.scalarSet d cType] :=
      .cons get (.cons set .nil)
    exact (Fragment.addAccessors_ofStorage made _ []).symm

theorem string_eq_expand (value : String) :
    scope.string d value =
      let start := { Fragment.empty with
        storage := .expand stringStorage scope.document
          [("var", .text (scope.naming.globalVariable d.name)), ("size", .text (sizeText d.size)),
            ("value", .text (Text.CLiteral.encode value))] }
      let accessors := match d.access with
        | .readOnly => [("Len", Template.stringLen), ("Ptr", Template.stringPtr)]
        | .writable => [("Len", Template.stringLen), ("Ptr", Template.stringPtr),
            ("Get", Template.stringGet), ("Set", Template.stringSet)]
      start.addAccessors scope.document accessors (scope.stringArguments d) := by
  obtain ⟨⟨len, ptr⟩, get, set⟩ := scope.string_makes d
  dsimp only
  rw [expand_stringStorage, string]
  cases d.access with
  | readOnly =>
    have made : List.Forall₂ (fun given accessor =>
        given.2.Makes scope.document (scope.stringArguments d given.1) accessor)
        [("Len", Template.stringLen), ("Ptr", Template.stringPtr)]
        [scope.stringLen d, scope.stringPtr d] :=
      .cons len (.cons ptr .nil)
    exact (Fragment.addAccessors_ofStorage made _ []).symm
  | writable =>
    have made : List.Forall₂ (fun given accessor =>
        given.2.Makes scope.document (scope.stringArguments d given.1) accessor)
        [("Len", Template.stringLen), ("Ptr", Template.stringPtr), ("Get", Template.stringGet),
          ("Set", Template.stringSet)]
        [scope.stringLen d, scope.stringPtr d, scope.stringGet d, scope.stringSet d] :=
      .cons len (.cons ptr (.cons get (.cons set .nil)))
    exact (Fragment.addAccessors_ofStorage made _ []).symm

theorem macroDefinition_eq_expand (value : String) :
    scope.macroDefinition d value =
      { Fragment.empty with
        macros := .expand macroLine scope.document
          [("name", .text (scope.naming.macroName d.name)), ("params", .text (d.params.getD "")),
            ("value", .text value)] } := by
  rw [expand_macroLine]
  rfl

end Scope

end AccessorGen
