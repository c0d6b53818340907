/- Names inside of functions.
   A function declares its parameters and some variables of its own, and where one of them has the
   name of the field's variable, the field's variable is out of reach. A label keeps the two apart;
   without one the name of the field decides. -/

import AccessorGen.Proofs.Module.MatchedPair

set_option autoImplicit false
set_option relaxedAutoImplicit false

namespace AccessorGen

/-- The last word of a declarator: what stands behind the last blank or star, up to blanks. -/
def lastWord (cs : List Char) : List Char :=
  ((cs.reverse.dropWhile (· == ' ')).takeWhile fun c => c != ' ' && c != '*').reverse

def parametersIn (cs : List Char) : List String :=
  let list := cs.tail.takeWhile (· != ')')
  if list = "void".toList then [] else (Text.splitOn ',' list).map (String.ofList ∘ lastWord)

def typeWords : List String :=
  "char" :: "const" :: scalarTypes

/-- Where a walk along the body of a function stands. -/
inductive BodyPoint where
  /-- Behind so many blanks at the start of a line. -/
  | margin (blanks : Nat)
  /-- In the first word of a statement in the outermost block. -/
  | word (read : List Char)
  /-- Behind the first word of a declaration. -/
  | declarator (read : List Char)
  /-- In what is left of a line. -/
  | rest
  deriving DecidableEq

/-- A walk along the body of a function with the names that it has found declared. -/
structure BodyWalk where
  point : BodyPoint
  names : List String
  deriving DecidableEq

namespace BodyWalk

def start : BodyWalk := ⟨.margin 0, []⟩

def step (walk : BodyWalk) (c : Char) : BodyWalk :=
  if c = '\n' then { walk with point := .margin 0 }
  else
    match walk.point with
    | .margin blanks =>
      if blanks = 4 then { walk with point := if c = ' ' then .rest else .word [c] }
      else { walk with point := if c = ' ' then .margin (blanks + 1) else .rest }
    | .word read =>
      if c = ' ' then
        { walk with point := if String.ofList read ∈ typeWords then .declarator [] else .rest }
      else { walk with point := .word (read ++ [c]) }
    | .declarator read =>
      if c = '=' ∨ c = ';' then ⟨.rest, walk.names ++ [String.ofList (lastWord read)]⟩
      else { walk with point := .declarator (read ++ [c]) }
    | .rest => walk

def after (walk : BodyWalk) (text : String) : BodyWalk :=
  text.toList.foldl step walk

@[simp] theorem after_append (walk : BodyWalk) (front back : String) :
    walk.after (front ++ back) = (walk.after front).after back := by
  rw [after, String.toList_append, List.foldl_append]
  rfl

theorem after_ofList (walk : BodyWalk) (cs : List Char) :
    walk.after (String.ofList cs) = cs.foldl step walk := by
  rw [after, String.toList_ofList]

theorem rest_after {walk : BodyWalk} (decided : walk.point = .rest) {text : String}
    (oneLine : '\n' ∉ text.toList) : walk.after text = walk := by
  have along : ∀ cs : List Char, '\n' ∉ cs → cs.foldl step walk = walk := by
    intro cs
    induction cs with
    | nil => exact fun _ => rfl
    | cons c cs ih =>
      intro absent
      obtain ⟨other, later⟩ := not_or.mp (mt List.mem_cons.mpr absent)
      have still : walk.step c = walk := by
        rw [step, if_neg (Ne.symm other), decided]
      rw [List.foldl_cons, still, ih later]
  exact along text.toList oneLine

end BodyWalk

/-- The names that the lines of a function's outermost block declare. -/
def declaredIn (body : String) : List String :=
  (BodyWalk.start.after body).names

/-- The parameters of a function and the variables of its own. -/
def Routine.locals (routine : Routine) : List String :=
  parametersIn (routine.prototype.toList.dropWhile (· != '(')) ++ declaredIn routine.body

example : Routine.locals ⟨"bool Put(char *to, bool on)", "    bool ok = on;\n\n    i = 0;\n"⟩ =
    ["to", "on", "ok"] := by
  rfl

namespace Routine

theorem locals_eq {routine : Routine} {signature : Signature} (proper : signature.Proper)
    (text : routine.prototype = signature.text) :
    routine.locals = parametersIn signature.params.toList ++ declaredIn routine.body := by
  obtain ⟨-, -, closed, -⟩ := proper.result
  obtain ⟨params, opening⟩ := List.head?_eq_some_iff.mp proper.params.1
  have plain : ∀ c ∈ signature.result.toList ++ signature.name.toList, (c != '(') = true := by
    intro c member
    rw [bne_iff_ne]
    rcases List.mem_append.mp member with inResult | inName
    · rintro rfl
      exact closed inResult
    · rintro rfl
      exact proper.name '(' inName (by decide)
  rw [locals, text, Signature.text, String.toList_append, String.toList_append,
    List.dropWhile_append_of_pos plain, opening, List.dropWhile_cons_of_neg (by decide)]

end Routine

namespace Pen

variable {pen : Pen} {d : Descriptor}

private theorem walk_storage (oneLine : '\n' ∉ (pen.storage d).toList) {walk : BodyWalk}
    (decided : walk.point = .rest) : walk.after (pen.storage d) = walk :=
  BodyWalk.rest_after decided oneLine

theorem declaredIn_scalarGet (oneLine : '\n' ∉ (pen.storage d).toList) {cType : String}
    (known : cType ∈ scalarTypes) : declaredIn (pen.scalarGet d cType).body = ["val"] := by
  have front : ((BodyWalk.start.after "    ").after cType).after
      " val;\n\n    CRITICAL_BLOCK(\n        val = " = ⟨.rest, ["val"]⟩ := by
    repeat rw [BodyWalk.after_ofList]
    revert cType
    decide
  delta scalarGet
  simp only [declaredIn, BodyWalk.after_append, front]
  rw [walk_storage oneLine rfl, BodyWalk.after_ofList]
  rfl

theorem declaredIn_scalarSet (oneLine : '\n' ∉ (pen.storage d).toList) (cType : String) :
    declaredIn (pen.scalarSet d cType).body = [] := by
  delta scalarSet
  simp only [declaredIn, BodyWalk.after_append]
  repeat rw [BodyWalk.after_ofList]
  simp (disch := decide) only [walk_storage oneLine]
  rfl

theorem declaredIn_stringLen (oneLine : '\n' ∉ (pen.storage d).toList) :
    declaredIn (pen.stringLen d).body = [] := by
  delta stringLen
  simp only [declaredIn, BodyWalk.after_append]
  repeat rw [BodyWalk.after_ofList]
  simp (disch := decide) only [walk_storage oneLine]
  rfl

theorem declaredIn_stringPtr (oneLine : '\n' ∉ (pen.storage d).toList) :
    declaredIn (pen.stringPtr d).body = [] := by
  delta stringPtr
  simp only [declaredIn, BodyWalk.after_append]
  repeat rw [BodyWalk.after_ofList]
  simp (disch := decide) only [walk_storage oneLine]
  rfl

theorem declaredIn_stringGet (oneLine : '\n' ∉ (pen.storage d).toList) :
    declaredIn (pen.stringGet d).body = ["success", "i", "ptr"] := by
  delta stringGet
  cases pen.bools <;>
  · simp only [declaredIn, BodyWalk.after_append, BoolStorage.typeName, BoolStorage.literal]
    repeat rw [BodyWalk.after_ofList]
    simp (disch := decide) only [walk_storage oneLine]
    rfl

theorem declaredIn_stringSet (oneLine : '\n' ∉ (pen.storage d).toList) :
    declaredIn (pen.stringSet d).body = ["success", "i", "ptr"] := by
  delta stringSet
  cases pen.bools <;>
  · simp only [declaredIn, BodyWalk.after_append, BoolStorage.typeName, BoolStorage.literal]
    repeat rw [BodyWalk.after_ofList]
    simp (disch := decide) only [walk_storage oneLine]
    rfl

private theorem parametersIn_void : parametersIn "(void)".toList = [] := by
  rfl

theorem locals_scalarRoutines (front : Unbroken pen.front) (name : Unbroken d.name)
    {cType : String} (known : cType ∈ scalarTypes) :
    ∀ routine ∈ pen.scalarRoutines d cType, routine.locals = ["val"] := by
  have oneLine := (unbroken_storage front name).newline_not_mem
  have given : ∀ cType ∈ scalarTypes,
      parametersIn ("(" ++ cType ++ " val)").toList = ["val"] := by
    decide
  have get : Signature.Proper ⟨cType ++ " ", pen.function "Get" d, "(void)"⟩ →
      (pen.scalarGet d cType).locals = ["val"] := by
    intro proper
    rw [Routine.locals_eq proper rfl, declaredIn_scalarGet oneLine known, parametersIn_void]
    rfl
  have set : Signature.Proper ⟨"void ", pen.function "Set" d, "(" ++ cType ++ " val)"⟩ →
      (pen.scalarSet d cType).locals = ["val"] := by
    intro proper
    have text : (pen.scalarSet d cType).prototype =
        Signature.text ⟨"void ", pen.function "Set" d, "(" ++ cType ++ " val)"⟩ := by
      simp only [scalarSet, Signature.text, String.append_assoc]
    rw [Routine.locals_eq proper text, declaredIn_scalarSet oneLine, given cType known]
    rfl
  have proper := proper_scalarSignatures front name known
  unfold scalarRoutines
  unfold scalarSignatures at proper
  cases access : d.access with
  | readOnly =>
    rw [access] at proper
    simpa using get (proper _ (by simp))
  | writable =>
    rw [access] at proper
    simpa using ⟨get (proper _ (by simp)), set (proper _ (by simp))⟩

/-- The names that the functions declare which copy a string out or in. -/
def copyNames : List String :=
  ["buff_ptr", "len", "success", "i", "ptr"]

theorem locals_stringRoutines (front : Unbroken pen.front) (name : Unbroken d.name) :
    (pen.stringRoutines d).map Routine.locals =
      match d.access with
      | .readOnly => [[], []]
      | .writable => [[], [], copyNames, copyNames] := by
  have oneLine := (unbroken_storage front name).newline_not_mem
  have given : ∀ params ∈
      ["(char *buff_ptr, uint16_t len)", "(const char *buff_ptr, uint16_t len)"],
      parametersIn params.toList = ["buff_ptr", "len"] := by
    decide
  have len : Signature.Proper ⟨"uint16_t ", pen.function "Len" d, "(void)"⟩ →
      (pen.stringLen d).locals = [] := by
    intro proper
    rw [Routine.locals_eq proper rfl, declaredIn_stringLen oneLine, parametersIn_void]
    rfl
  have ptr : Signature.Proper ⟨"const char *", pen.function "Ptr" d, "(void)"⟩ →
      (pen.stringPtr d).locals = [] := by
    intro proper
    rw [Routine.locals_eq proper rfl, declaredIn_stringPtr oneLine, parametersIn_void]
    rfl
  have get : Signature.Proper ⟨pen.bools.typeName ++ " ", pen.function "Get" d,
      "(char *buff_ptr, uint16_t len)"⟩ → (pen.stringGet d).locals = copyNames := by
    intro proper
    rw [Routine.locals_eq proper rfl, declaredIn_stringGet oneLine, given _ (by simp)]
    rfl
  have set : Signature.Proper ⟨pen.bools.typeName ++ " ", pen.function "Set" d,
      "(const char *buff_ptr, uint16_t len)"⟩ → (pen.stringSet d).locals = copyNames := by
    intro proper
    rw [Routine.locals_eq proper rfl, declaredIn_stringSet oneLine, given _ (by simp)]
    rfl
  have proper := @proper_stringSignatures pen d front name
  unfold stringRoutines
  unfold stringSignatures at proper
  cases access : d.access with
  | readOnly =>
    rw [access] at proper
    simp only [List.map_cons, List.map_nil, len (proper _ (by simp)), ptr (proper _ (by simp))]
  | writable =>
    rw [access] at proper
    simp only [List.map_cons, List.map_nil, len (proper _ (by simp)), ptr (proper _ (by simp)),
      get (proper _ (by simp)), set (proper _ (by simp))]

end Pen

/-- The names that the functions of a field declare for themselves. -/
def Descriptor.localNames (d : Descriptor) : List String :=
  match d.type, d.access with
  | .config, _ => []
  | .cMacro, _ => []
  | .string, .readOnly => []
  | .string, .writable => Pen.copyNames
  | _, _ => ["val"]

theorem Descriptor.localNames_numeric {d : Descriptor} {cType : String}
    (named : d.type.cNumericType? = some cType) : d.localNames = ["val"] := by
  unfold localNames
  cases type : d.type with
  | config | cMacro | string =>
    rw [type] at named
    cases named
  | _ => rfl

theorem Pen.scalarRoutines_ne_nil (pen : Pen) (d : Descriptor) (cType : String) :
    pen.scalarRoutines d cType ≠ [] := by
  unfold scalarRoutines
  cases d.access <;> simp

theorem Pen.exists_mem_locals_iff {pen : Pen} (front : Unbroken pen.front) {field : ModuleField}
    (sound : field.Sound) (word : String) :
    (∃ routine ∈ pen.routines field, word ∈ routine.locals) ↔
      word ∈ field.descriptor.localNames := by
  have name := Descriptor.unbroken_name sound.parsed
  have fits := sound.fits
  have scalar : ∀ cType ∈ scalarTypes,
      ((∃ routine ∈ pen.scalarRoutines field.descriptor cType, word ∈ routine.locals) ↔
        word ∈ ["val"]) := by
    intro cType known
    have locals := locals_scalarRoutines front name known
    constructor
    · rintro ⟨routine, member, inside⟩
      rwa [locals routine member] at inside
    · intro inside
      obtain ⟨first, rest, list⟩ :=
        List.exists_cons_of_ne_nil (pen.scalarRoutines_ne_nil field.descriptor cType)
      have member : first ∈ pen.scalarRoutines field.descriptor cType := by
        rw [list]
        exact List.mem_cons_self
      exact ⟨first, member, by rwa [locals first member]⟩
  unfold routines
  cases content : field.content with
  | number cType literal =>
    rw [content] at fits
    rw [Descriptor.localNames_numeric fits]
    exact scalar cType (FieldType.mem_scalarTypes fits)
  | boolean b =>
    rw [content] at fits
    have type : field.descriptor.type = .boolean := fits
    have names : field.descriptor.localNames = ["val"] := by
      rw [Descriptor.localNames, type]
    rw [names]
    exact scalar pen.bools.typeName pen.bools.typeName_mem_scalarTypes
  | string value =>
    rw [content] at fits
    have type : field.descriptor.type = .string := fits
    have locals := @locals_stringRoutines pen field.descriptor front name
    have inside : (∃ routine ∈ pen.stringRoutines field.descriptor, word ∈ routine.locals) ↔
        ∃ names ∈ (pen.stringRoutines field.descriptor).map Routine.locals, word ∈ names := by
      simp
    rw [Descriptor.localNames, type]
    dsimp only
    rw [inside, locals]
    cases field.descriptor.access <;> simp
  | replacement text =>
    rw [content] at fits
    have type : field.descriptor.type = .cMacro := fits
    rw [Descriptor.localNames, type]
    simp

theorem isLower_identifierChar (c : Char) : (identifierChar c).isLower = false := by
  unfold identifierChar
  split
  · delta Char.isLower Char.toUpper
    split
    · rename_i lower
      simp only [UInt32.le_iff_toNat_le] at lower
      simp [UInt32.le_iff_toNat_le] at lower ⊢
      omega
    · rename_i other
      simpa using other
  · decide

namespace Session

/-- A label keeps the variables of its fields apart from every local name. -/
theorem labelPrefix_append_mem_localNames_iff (naming : NamingStyle) (label name : String)
    (d : Descriptor) :
    labelPrefix naming label ++ name ∈ d.localNames ↔ label = "" ∧ name ∈ d.localNames := by
  have small : ∀ word ∈ d.localNames, word.toList.head?.map Char.isLower = some true := by
    have all : ∀ word ∈ "val" :: Pen.copyNames,
        word.toList.head?.map Char.isLower = some true := by
      decide
    intro word member
    apply all
    revert member
    unfold Descriptor.localNames
    split <;> simp +contextual
  rw [labelPrefix]
  by_cases none : label = ""
  · rw [if_pos none, String.empty_append]
    exact ⟨fun member => ⟨none, member⟩, fun both => both.2⟩
  · rw [if_neg none]
    refine ⟨fun member => ?_, fun both => absurd both.1 none⟩
    obtain ⟨c, rest, letters⟩ := List.exists_cons_of_ne_nil (mt String.toList_eq_nil_iff.mp none)
    have start := small _ member
    simp [NamingStyle.sectionPrefix, upperIdentifier, letters, isLower_identifierChar] at start

/-- When a field's variable is out of reach. In a session whose calls are all done, the source
defines the functions of every captured field, and one of them declares a name of its own that hides
the variable of the field exactly if the document has no label and the variable is named like one of
the names that such functions declare. -/
theorem storage_hidden_iff (settings : Settings) (calls : List ServedCall) (s : Session)
    (completed : performAll settings calls (fresh settings) = .done s) :
    ∃ documents meanings, ServedCall.documentsAfter? [] calls = some documents ∧
      documents.mapM ServedDocument.meanings = .ok meanings ∧
      ∀ (index : Nat) (sec : Section), s.sections.reverse[index]? = some sec →
        ∃ own, meanings[index]? = some own ∧
          sec.fields.toList = (Meaning.allFields own).map ModuleField.captured ∧
          ∀ field ∈ Meaning.allFields own,
            ((s.pen settings sec).routines field).flatMap Routine.definitionLines <:+:
              Text.filledLines (s.sourceBody settings).toList ∧
            ((∃ routine ∈ (s.pen settings sec).routines field,
                labelPrefix settings.naming sec.label ++
                  settings.naming.globalVariable field.descriptor.name ∈ routine.locals) ↔
              sec.label = "" ∧
                settings.naming.globalVariable field.descriptor.name ∈
                  field.descriptor.localNames) := by
  obtain ⟨documents, meanings, handed, read, rfl, -⟩ := performAll_fresh_eq_done completed
  have sound : ∀ own ∈ meanings, ∀ field ∈ Meaning.allFields own, field.Sound := by
    intro own member
    obtain ⟨served, -, meant⟩ := exists_of_mem_mapM read member
    exact Document.sound_of_meanings meant
  refine ⟨documents, meanings, handed, read, ?_⟩
  intro index sec place
  simp only [ofMeanings, List.reverse_reverse, List.getElem?_mapIdx] at place
  obtain ⟨own, found, rfl⟩ := Option.map_eq_some_iff.mp place
  refine ⟨own, found, by simp [Section.ofMeanings, Section.extend], ?_⟩
  intro field member
  refine ⟨definitions_infix_sourceBody sound found member, ?_⟩
  have front : Unbroken ((ofMeanings settings meanings).pen settings
      (Section.ofMeanings ⟨settings.naming, index⟩ own)).front :=
    unbroken_labelPrefix _ _
  rw [Pen.exists_mem_locals_iff front (sound own (List.mem_of_getElem? found) field member),
    labelPrefix_append_mem_localNames_iff]

private def hiddenCalls : List ServedCall :=
  [⟨.steady "v1" 1700000000, .object [("int8:val", .number (.ofInt 1))]⟩]

/-- The function that should read the variable `val` and reads its own. -/
private def hiddenGetter : Routine where
  prototype := "int8_t Getval(void)"
  body := "    int8_t val;\n\n    CRITICAL_BLOCK(\n        val = val;\n    );\n\n    return val;\n"

/-- A field may be named so that its only function does not reach its variable. -/
theorem storage_hidden_in_getter :
    ∃ s, performAll (.steady .pascal) hiddenCalls (fresh (.steady .pascal)) = .done s ∧
      (s.sections.map fun sec =>
        (sec.label, sec.fields.toList.map fun field => field.descriptor.name)) = [("", ["val"])] ∧
      labelPrefix .pascal "" ++ NamingStyle.pascal.globalVariable "val" = "val" ∧
      Text.filledLines (s.sourceBody (.steady .pascal)).toList =
        ["#include \"info.h\"".toList, "static int8_t val = 1;".toList] ++
          hiddenGetter.definitionLines ∧
      "val" ∈ hiddenGetter.locals := by
  have completed : (performAll (.steady .pascal) hiddenCalls
      (fresh (.steady .pascal))).fault.isNone = true := by
    decide +kernel
  refine ⟨_, Outcome.eq_done completed, by decide +kernel, by decide +kernel, ?_, by decide +kernel⟩
  rw [sourceBody, finish, Text.collapseBlankLines, String.toList_ofList,
    Text.filledLines_collapseChars]
  decide +kernel

/-- A name that is out of reach in one document and, under a label, is not in the next. -/
private def labelledCalls : List ServedCall :=
  [⟨.steady "v1" 1700000000, .object [("string[8]:w:len", .string "a")]⟩,
    ⟨.steady "v1" 1700000000, .object [("uint8:w:val", .number (.ofInt 2)),
      ("Section_Prefix", .string "x")]⟩]

theorem storage_hidden_iff_labelled :
    ∃ s documents meanings,
      performAll (.steady .pascal) labelledCalls (fresh (.steady .pascal)) = .done s ∧
      ServedCall.documentsAfter? [] labelledCalls = some documents ∧
      documents.mapM ServedDocument.meanings = .ok meanings ∧
      ∀ (index : Nat) (sec : Section), s.sections.reverse[index]? = some sec →
        ∃ own, meanings[index]? = some own ∧
          sec.fields.toList = (Meaning.allFields own).map ModuleField.captured ∧
          ∀ field ∈ Meaning.allFields own,
            (∃ routine ∈ (s.pen (.steady .pascal) sec).routines field,
                labelPrefix .pascal sec.label ++
                  NamingStyle.pascal.globalVariable field.descriptor.name ∈ routine.locals) ↔
              sec.label = "" ∧
                NamingStyle.pascal.globalVariable field.descriptor.name ∈
                  field.descriptor.localNames := by
  have completed : (performAll (.steady .pascal) labelledCalls
      (fresh (.steady .pascal))).fault.isNone = true := by
    decide +kernel
  obtain ⟨documents, meanings, handed, read, hidden⟩ :=
    storage_hidden_iff (.steady .pascal) labelledCalls _ (Outcome.eq_done completed)
  refine ⟨_, documents, meanings, Outcome.eq_done completed, handed, read, ?_⟩
  intro index sec place
  obtain ⟨own, found, fields, each⟩ := hidden index sec place
  exact ⟨own, found, fields, fun field member => (each field member).2⟩

end Session

end AccessorGen
