/- Stored values.
   What a field holds goes into the storage of the source and nowhere else. A module keeps its
   header and its functions when all stored values are blotted out, and so two sessions that differ
   in nothing but such values have the same header. -/

import AccessorGen.Proofs.Command.Update
import AccessorGen.Proofs.Module.Deferral

set_option autoImplicit false
set_option relaxedAutoImplicit false

namespace AccessorGen

/-- Whether the fields of a type hold their values in the source. -/
def FieldType.isStored : FieldType → Bool
  | .config | .cMacro => false
  | _ => true

/-- Whether the argument of a directive only tells what its fields hold. -/
def Directive.isStored : Directive → Bool
  | .gitRepository | .version => true
  | _ => false

/-- Whether the value under a key only tells what fields hold. -/
def isStoredKey (key : String) : Bool :=
  match Descriptor.parse key with
  | .ok d =>
    if d.type = .config then (Directive.ofKeyword? d.name).any Directive.isStored
    else d.type.isStored
  | .error _ => false

/-- Entries under one key that differ at most in what fields hold. -/
structure Entry.SameButStored (one other : Entry) : Prop where
  key : one.key = other.key
  value : isStoredKey one.key = false → one.value = other.value

/-- Documents with the same keys in the same order that differ at most in what fields hold. -/
def ServedDocument.SameButStored (one other : ServedDocument) : Prop :=
  List.Forall₂ Entry.SameButStored one.document other.document

/-- Content with a stored value blotted out. What a macro stands for is not stored. -/
def Content.blotted : Content → Content
  | .number cType _ => .number cType ""
  | .boolean _ => .boolean false
  | .string _ => .string ""
  | .replacement text => .replacement text

def ModuleField.blotted (field : ModuleField) : ModuleField :=
  ⟨"", field.descriptor, field.content.blotted⟩

def Meaning.blotted : Meaning → Meaning
  | .fields added => .fields (added.map ModuleField.blotted)
  | meaning => meaning

theorem Content.blotted_eq_of_fits {type : FieldType} (stored : type ≠ .cMacro)
    {one other : Content} (fits : one.Fits type) (fitsToo : other.Fits type) :
    one.blotted = other.blotted := by
  cases one with
  | replacement text => exact absurd fits stored
  | number cType literal =>
    cases other with
    | number cType' literal' =>
      have same : cType = cType' := Option.some.inj (fits.symm.trans fitsToo)
      rw [blotted, blotted, same]
    | boolean b =>
      have type' : type = .boolean := fitsToo
      rw [Fits, type'] at fits
      cases fits
    | string value =>
      have type' : type = .string := fitsToo
      rw [Fits, type'] at fits
      cases fits
    | replacement text => exact absurd fitsToo stored
  | boolean b =>
    have type' : type = .boolean := fits
    subst type'
    cases other with
    | boolean b' => rfl
    | _ => cases fitsToo
  | string value =>
    have type' : type = .string := fits
    subst type'
    cases other with
    | string value' => rfl
    | _ => cases fitsToo

namespace ModuleField

theorem blotted_eq_of_check {key : String} {d : Descriptor} (parsed : Descriptor.parse key = .ok d)
    (stored : d.type ≠ .cMacro) {value value' : Json.Value} {literal literal' : Option String}
    {field field' : ModuleField} (made : check key d value literal = .ok field)
    (madeToo : check key d value' literal' = .ok field') : field.blotted = field'.blotted := by
  have own : ∀ {value : Json.Value} {literal : Option String} {field : ModuleField},
      check key d value literal = .ok field →
        field.descriptor = d ∧ field.content.Fits d.type := by
    intro value literal field made
    have descriptor : field.descriptor = d :=
      congrArg CapturedField.descriptor (captured_of_check made)
    exact ⟨descriptor, descriptor ▸ (sound_of_check parsed made).fits⟩
  obtain ⟨descriptor, fits⟩ := own made
  obtain ⟨descriptor', fits'⟩ := own madeToo
  rw [blotted, blotted, descriptor, descriptor', Content.blotted_eq_of_fits stored fits fits']

theorem blotted_eq_of_read {key : String} {d : Descriptor} (parsed : Descriptor.parse key = .ok d)
    (stored : d.type ≠ .cMacro) {value value' : Json.Value} {literal literal' : Option String}
    {field field' : ModuleField} (made : read key value literal = .ok field)
    (madeToo : read key value' literal' = .ok field') : field.blotted = field'.blotted :=
  blotted_eq_of_check parsed stored (check_of_read parsed made) (check_of_read parsed madeToo)

end ModuleField

section TwoReadings

variable {services services' : Services}

theorem Directive.blotted_eq_of_meaning {directive : Directive} {key : String}
    {value value' : Json.Value} (same : directive.isStored = false → value = value')
    {meaning meaning' : Meaning} (read : directive.meaning services key value = .ok meaning)
    (readToo : directive.meaning services' key value' = .ok meaning') :
    meaning.blotted = meaning'.blotted := by
  cases directive with
  | gitRepository =>
    obtain ⟨_, -, read⟩ := bind_eq_ok_iff.mp read
    obtain ⟨_, -, read⟩ := bind_eq_ok_iff.mp read
    obtain ⟨field, made, read⟩ := bind_eq_ok_iff.mp read
    obtain rfl := Except.ok.inj read
    obtain ⟨_, -, readToo⟩ := bind_eq_ok_iff.mp readToo
    obtain ⟨_, -, readToo⟩ := bind_eq_ok_iff.mp readToo
    obtain ⟨field', madeToo, readToo⟩ := bind_eq_ok_iff.mp readToo
    obtain rfl := Except.ok.inj readToo
    have commit := ModuleField.blotted_eq_of_read rfl (by decide) made madeToo
    simp only [Meaning.blotted, List.map_cons, List.map_nil, commit]
  | dateTime =>
    obtain rfl := same rfl
    obtain ⟨wanted, asked, read⟩ := bind_eq_ok_iff.mp read
    obtain ⟨wanted', askedToo, readToo⟩ := bind_eq_ok_iff.mp readToo
    obtain rfl : wanted = wanted' := Except.ok.inj (asked.symm.trans askedToo)
    cases wanted with
    | false =>
      obtain rfl := Except.ok.inj read
      obtain rfl := Except.ok.inj readToo
      rfl
    | true =>
      obtain ⟨_, -, read⟩ := bind_eq_ok_iff.mp read
      obtain ⟨stamp, madeStamp, read⟩ := bind_eq_ok_iff.mp read
      obtain ⟨text, madeText, read⟩ := bind_eq_ok_iff.mp read
      obtain rfl := Except.ok.inj read
      obtain ⟨_, -, readToo⟩ := bind_eq_ok_iff.mp readToo
      obtain ⟨stamp', madeStamp', readToo⟩ := bind_eq_ok_iff.mp readToo
      obtain ⟨text', madeText', readToo⟩ := bind_eq_ok_iff.mp readToo
      obtain rfl := Except.ok.inj readToo
      have stamps := ModuleField.blotted_eq_of_read rfl (by decide) madeStamp madeStamp'
      have texts := ModuleField.blotted_eq_of_read rfl (by decide) madeText madeText'
      simp only [Meaning.blotted, List.map_cons, List.map_nil, stamps, texts]
  | version =>
    obtain ⟨_, -, read⟩ := bind_eq_ok_iff.mp read
    obtain ⟨text, madeText, read⟩ := bind_eq_ok_iff.mp read
    obtain ⟨packed, madePacked, read⟩ := bind_eq_ok_iff.mp read
    obtain rfl := Except.ok.inj read
    obtain ⟨_, -, readToo⟩ := bind_eq_ok_iff.mp readToo
    obtain ⟨text', madeText', readToo⟩ := bind_eq_ok_iff.mp readToo
    obtain ⟨packed', madePacked', readToo⟩ := bind_eq_ok_iff.mp readToo
    obtain rfl := Except.ok.inj readToo
    have texts := ModuleField.blotted_eq_of_read rfl (by decide) madeText madeText'
    have numbers := ModuleField.blotted_eq_of_read rfl (by decide) madePacked madePacked'
    simp only [Meaning.blotted, List.map_cons, List.map_nil, texts, numbers]
  | _ =>
    -- A directive that adds no fields never asks the services.
    obtain rfl := same rfl
    obtain rfl := Except.ok.inj (read.symm.trans readToo)
    rfl

theorem ModuleField.check_macro {key : String} {d : Descriptor} (type : d.type = .cMacro)
    (value : Json.Value) (literal literal' : Option String) :
    check key d value literal = check key d value literal' := by
  have checks : ∀ spelling, FieldValue.validate key d value spelling =
      FieldValue.checkMacro key value := by
    intro spelling
    rw [FieldValue.validate, type]
  rw [check, check, checks, checks]

/-- Entries that differ at most in stored values ask for the same up to stored values. -/
theorem Entry.blotted_eq_of_meaning {one other : Entry} (same : one.SameButStored other)
    {meaning meaning' : Meaning} (read : one.meaning services = .ok meaning)
    (readToo : other.meaning services' = .ok meaning') : meaning.blotted = meaning'.blotted := by
  obtain ⟨key, value, literal⟩ := one
  obtain ⟨key', value', literal'⟩ := other
  obtain rfl : key = key' := same.key
  have values := same.value
  obtain ⟨d, parsed, -⟩ := bind_eq_ok_iff.mp read
  rw [meaning_of_parse parsed] at read readToo
  simp only [isStoredKey, parsed] at values
  by_cases config : d.type = .config
  · rw [if_pos config] at read readToo values
    cases known : Directive.ofKeyword? d.name with
    | none =>
      rw [known] at read
      cases read
    | some directive =>
      rw [known] at read readToo values
      exact Directive.blotted_eq_of_meaning values read readToo
  · rw [if_neg config] at read readToo values
    obtain ⟨field, made, read⟩ := bind_eq_ok_iff.mp read
    obtain ⟨field', madeToo, readToo⟩ := bind_eq_ok_iff.mp readToo
    obtain rfl := Except.ok.inj read
    obtain rfl := Except.ok.inj readToo
    by_cases definition : d.type = .cMacro
    · rw [definition] at values
      obtain rfl := values rfl
      rw [ModuleField.check_macro definition value literal literal'] at made
      obtain rfl := Except.ok.inj (made.symm.trans madeToo)
      rfl
    · have fields := ModuleField.blotted_eq_of_check parsed definition made madeToo
      simp only [Meaning.blotted, List.map_cons, List.map_nil, fields]

theorem Document.blotted_eq_of_meanings {one other : Document}
    (same : List.Forall₂ Entry.SameButStored one other) {meanings meanings' : List Meaning}
    (read : one.meanings services = .ok meanings)
    (readToo : other.meanings services' = .ok meanings') :
    meanings.map Meaning.blotted = meanings'.map Meaning.blotted := by
  induction same generalizing meanings meanings' with
  | nil =>
    obtain rfl : [] = meanings := Except.ok.inj read
    obtain rfl : [] = meanings' := Except.ok.inj readToo
    rfl
  | cons entry _ ih =>
    obtain ⟨first, rest, head, tail, rfl⟩ := mapM_cons_eq_ok_iff.mp read
    obtain ⟨first', rest', head', tail', rfl⟩ := mapM_cons_eq_ok_iff.mp readToo
    rw [List.map_cons, List.map_cons, Entry.blotted_eq_of_meaning entry head head', ih tail tail']

end TwoReadings

theorem ServedDocument.blotted_eq_of_meanings {one other : List ServedDocument}
    (same : List.Forall₂ ServedDocument.SameButStored one other)
    {meanings meanings' : List (List Meaning)}
    (read : one.mapM ServedDocument.meanings = .ok meanings)
    (readToo : other.mapM ServedDocument.meanings = .ok meanings') :
    meanings.map (List.map Meaning.blotted) = meanings'.map (List.map Meaning.blotted) := by
  induction same generalizing meanings meanings' with
  | nil =>
    obtain rfl : [] = meanings := Except.ok.inj read
    obtain rfl : [] = meanings' := Except.ok.inj readToo
    rfl
  | cons document _ ih =>
    obtain ⟨first, rest, head, tail, rfl⟩ := mapM_cons_eq_ok_iff.mp read
    obtain ⟨first', rest', head', tail', rfl⟩ := mapM_cons_eq_ok_iff.mp readToo
    rw [List.map_cons, List.map_cons, Document.blotted_eq_of_meanings document head head',
      ih tail tail']

/-- A part of the code that is the same with stored values blotted out. -/
def BlindTo (part : Fragment → Snippet) : Prop :=
  ∀ (scope : Scope) (field : ModuleField),
    part (field.blotted.code scope) = part (field.code scope)

theorem blindTo_parts :
    BlindTo Fragment.macros ∧ BlindTo Fragment.declarations ∧ BlindTo Fragment.functions := by
  refine ⟨?_, ?_, ?_⟩
  all_goals
    rintro scope ⟨key, d, content⟩
    cases content <;> simp only [ModuleField.blotted, ModuleField.code, Content.blotted, Scope.code,
      Scope.scalar, Scope.string, Fragment.ofStorage]

namespace Meaning

@[simp] theorem newFields_blotted (meaning : Meaning) :
    meaning.blotted.newFields = meaning.newFields.map ModuleField.blotted := by
  cases meaning <;> rfl

theorem last?_blotted {α : Type} {read : Meaning → Option α}
    (blind : ∀ meaning : Meaning, read meaning.blotted = read meaning)
    (meanings : List Meaning) : last? read (meanings.map blotted) = last? read meanings := by
  have views : (read ∘ blotted) = read := funext blind
  rw [last?, last?, List.filterMap_map, views]

theorem map_fragments_blotted {part : Fragment → Snippet} (blind : BlindTo part) (scope : Scope)
    (meanings : List Meaning) :
    (fragments scope (meanings.map blotted)).map part = (fragments scope meanings).map part := by
  induction meanings with
  | nil => rfl
  | cons meaning rest ih =>
    have own : (meaning.newFields.map ModuleField.blotted).map (part ∘ ModuleField.code scope) =
        meaning.newFields.map (part ∘ ModuleField.code scope) := by
      rw [List.map_map]
      exact List.map_congr_left fun field _ => blind scope field
    simp only [fragments] at ih
    simp only [fragments, List.map_cons, List.flatMap_cons, newFields_blotted, List.map_append,
      List.map_map, ih]
    rw [← own, List.map_map]
    rfl

end Meaning

theorem Briefing.ofMeanings_blotted (settings : Settings) (documents : List (List Meaning)) :
    ofMeanings settings (documents.map (List.map Meaning.blotted)) =
      ofMeanings settings documents := by
  have all : (documents.map (List.map Meaning.blotted)).flatten =
      documents.flatten.map Meaning.blotted := by
    rw [List.map_flatten]
  have names : ∀ meaning : Meaning, meaning.blotted.label? = meaning.label? := by
    intro meaning
    cases meaning <;> rfl
  have bases : ∀ meaning : Meaning, meaning.blotted.baseName? = meaning.baseName? := by
    intro meaning
    cases meaning <;> rfl
  have storages : ∀ meaning : Meaning, meaning.blotted.bools? = meaning.bools? := by
    intro meaning
    cases meaning <;> rfl
  have headers : ∀ meaning : Meaning, meaning.blotted.headerFiles = meaning.headerFiles := by
    intro meaning
    cases meaning <;> rfl
  have sources : ∀ meaning : Meaning, meaning.blotted.sourceFiles = meaning.sourceFiles := by
    intro meaning
    cases meaning <;> rfl
  have labels : (documents.map (List.map Meaning.blotted)).map Meaning.finalLabel =
      documents.map Meaning.finalLabel := by
    rw [List.map_map]
    apply List.map_congr_left
    intro own _
    rw [Function.comp_apply, Meaning.finalLabel, Meaning.finalLabel, Meaning.last?_blotted names]
  simp only [ofMeanings, all, labels, Meaning.last?_blotted bases, Meaning.last?_blotted storages,
    List.flatMap_map, headers, sources]

namespace Session

def functionText (settings : Settings) (s : Session) : String :=
  (Snippet.join (s.fragments.map Fragment.functions)).resolve (s.resolution settings)

section Blotted

variable (settings : Settings) (documents : List (List Meaning))

theorem resolution_ofMeanings :
    (ofMeanings settings documents).resolution settings =
      ⟨((Briefing.ofMeanings settings documents).labels.map
          (labelPrefix settings.naming)).toArray,
        settings.naming.headerGuard (Briefing.ofMeanings settings documents).base,
        settings.naming.headerFile (Briefing.ofMeanings settings documents).base,
        (Briefing.ofMeanings settings documents).bools⟩ := by
  have fronts : (ofMeanings settings documents).sections.reverse.map
        (fun sec => labelPrefix settings.naming sec.label) =
      (documents.map Meaning.finalLabel).map (labelPrefix settings.naming) := by
    apply List.ext_getElem?
    intro index
    simp only [ofMeanings, List.reverse_reverse, List.getElem?_map, List.getElem?_mapIdx,
      Option.map_map]
    rfl
  rw [resolution, headerFile, fronts, fileBase_ofMeanings]
  rfl

/-- The closed form of documents whose stored values are blotted out. -/
def blotted : Session :=
  ofMeanings settings (documents.map (List.map Meaning.blotted))

theorem resolution_blotted :
    (blotted settings documents).resolution settings =
      (ofMeanings settings documents).resolution settings := by
  rw [blotted, resolution_ofMeanings, resolution_ofMeanings, Briefing.ofMeanings_blotted]

theorem map_fragments_blotted {part : Fragment → Snippet} (blind : BlindTo part) :
    (blotted settings documents).fragments.map part =
      (ofMeanings settings documents).fragments.map part := by
  rw [blotted, fragments_ofMeanings, fragments_ofMeanings, List.map_flatten, List.map_flatten]
  congr 1
  apply List.ext_getElem?
  intro index
  simp only [List.getElem?_map, List.getElem?_mapIdx, Option.map_map]
  congr 1
  funext own
  exact Meaning.map_fragments_blotted blind ⟨settings.naming, index⟩ own

theorem headerBody_blotted :
    (blotted settings documents).headerBody settings =
      (ofMeanings settings documents).headerBody settings := by
  obtain ⟨macros, declarations, -⟩ := blindTo_parts
  have includes : (blotted settings documents).headerIncludes =
      (ofMeanings settings documents).headerIncludes :=
    congrArg Briefing.headerIncludes (Briefing.ofMeanings_blotted settings documents)
  have code : (blotted settings documents).headerCode =
      (ofMeanings settings documents).headerCode := by
    rw [headerCode, headerCode, includes, map_fragments_blotted settings documents macros,
      map_fragments_blotted settings documents declarations]
  rw [headerBody, headerBody, finish, finish, code, resolution_blotted]

theorem functionText_blotted :
    (blotted settings documents).functionText settings =
      (ofMeanings settings documents).functionText settings := by
  obtain ⟨-, -, functions⟩ := blindTo_parts
  rw [functionText, functionText, map_fragments_blotted settings documents functions,
    resolution_blotted]

end Blotted

/-- Two sessions whose calls are all done, over documents with the same keys in the same order that
differ at most in what fields hold, have the same header, whatever the services answer in each: the
header of the one is up to date for the other. The functions of the source are the same as well. -/
theorem header_blind_to_stored_values (settings : Settings) (one other : List ServedCall)
    (documents others : List ServedDocument) (s t : Session)
    (completed : performAll settings one (fresh settings) = .done s)
    (completedToo : performAll settings other (fresh settings) = .done t)
    (handed : ServedCall.documentsAfter? [] one = some documents)
    (handedToo : ServedCall.documentsAfter? [] other = some others)
    (alike : List.Forall₂ ServedDocument.SameButStored documents others) :
    s.headerBody settings = t.headerBody settings ∧
      (s.render settings).header.digest = (t.render settings).header.digest ∧
      (t.render settings).header.needsWrite (some (s.render settings).header.text) = false ∧
      s.functionText settings = t.functionText settings := by
  obtain ⟨_, meanings, handed', read, rfl, -⟩ := performAll_fresh_eq_done completed
  obtain ⟨_, meanings', handedToo', readToo, rfl, -⟩ := performAll_fresh_eq_done completedToo
  obtain rfl := Option.some.inj (handed.symm.trans handed')
  obtain rfl := Option.some.inj (handedToo.symm.trans handedToo')
  have same : blotted settings meanings = blotted settings meanings' := by
    rw [blotted, blotted, ServedDocument.blotted_eq_of_meanings alike read readToo]
  have header : (ofMeanings settings meanings).headerBody settings =
      (ofMeanings settings meanings').headerBody settings := by
    rw [← headerBody_blotted, same, headerBody_blotted]
  have files : ((ofMeanings settings meanings).render settings).header =
      ((ofMeanings settings meanings').render settings).header := by
    rw [render, render, header]
  refine ⟨header, congrArg Artifact.digest files, ?_, ?_⟩
  · rw [files, Command.needsWrite_eq_false_iff]
    exact ⟨_, rfl, Command.digest_infix_stamp _⟩
  · rw [← functionText_blotted, same, functionText_blotted]

/-- A build with fields of several types, a macro and all directives that add fields. -/
private def earlierBuild : List ServedCall :=
  [⟨.steady "v1" 1700000000,
    .object [("int8:w:Level", .number (.ofInt 1)), ("string[8]:w:Title", .string "a"),
      ("macro:Note(x)", .string "x"), ("Git_Repository", .string "."), ("Date_Time", .bool true),
      ("Version", .array [.number (.ofInt 1), .number (.ofInt 0), .number (.ofInt 0), .string "",
        .string ""]), ("Section_Prefix", .string "board")]⟩]

/-- A later build with other values, from another repository. -/
private def laterBuild : List ServedCall :=
  [⟨.steady "v2-dirty" 1800000000,
    .value (.array [.object [("int8:w:Level", .number (.ofInt (-7))),
      ("string[8]:w:Title", .string "b\n\n\n"), ("macro:Note(x)", .string "x"),
      ("Git_Repository", .string "../other"), ("Date_Time", .bool true),
      ("Version", .array [.number (.ofInt 2), .number (.ofInt 3), .number (.ofInt 4),
        .string "rc1", .string "7"]), ("Section_Prefix", .string "board")]])⟩]

private theorem sameButStored_mk {key : String} (stored : isStoredKey key = true)
    (value value' : Json.Value) :
    Entry.SameButStored ⟨key, value, none⟩ ⟨key, value', none⟩ :=
  ⟨rfl, fun plain => by cases stored.symm.trans plain⟩

theorem header_blind_to_stored_values_later :
    ∃ s t, performAll (.steady .pascal) earlierBuild (fresh (.steady .pascal)) = .done s ∧
      performAll (.steady .pascal) laterBuild (fresh (.steady .pascal)) = .done t ∧
      s.headerBody (.steady .pascal) = t.headerBody (.steady .pascal) ∧
      (t.render (.steady .pascal)).header.needsWrite
        (some (s.render (.steady .pascal)).header.text) = false ∧
      s.functionText (.steady .pascal) = t.functionText (.steady .pascal) := by
  have completed : (performAll (.steady .pascal) earlierBuild
      (fresh (.steady .pascal))).fault.isNone = true := by
    decide +kernel
  have completedToo : (performAll (.steady .pascal) laterBuild
      (fresh (.steady .pascal))).fault.isNone = true := by
    decide +kernel
  have stored : ∀ key ∈ ["int8:w:Level", "string[8]:w:Title", "Git_Repository", "Version"],
      isStoredKey key = true := by
    decide +kernel
  obtain ⟨header, -, current, functions⟩ :=
    header_blind_to_stored_values (.steady .pascal) earlierBuild laterBuild _ _ _ _
      (Outcome.eq_done completed) (Outcome.eq_done completedToo) rfl rfl
      (.cons (.cons (sameButStored_mk (stored _ (by simp)) _ _)
        (.cons (sameButStored_mk (stored _ (by simp)) _ _)
        (.cons ⟨rfl, fun _ => rfl⟩
        (.cons (sameButStored_mk (stored _ (by simp)) _ _)
        (.cons ⟨rfl, fun _ => rfl⟩
        (.cons (sameButStored_mk (stored _ (by simp)) _ _)
        (.cons ⟨rfl, fun _ => rfl⟩ .nil))))))) .nil)
  exact ⟨_, _, Outcome.eq_done completed, Outcome.eq_done completedToo, header, current, functions⟩

end Session

end AccessorGen
