/- The session that documents leave behind.
   A session that has processed documents without a fault is determined by the meanings of their
   entries: of labels, base names and ways to store booleans the last one counts, and everything
   else adds up in order. -/

import AccessorGen.Proofs.Session.Meaning
import AccessorGen.Proofs.Session.Registry

set_option autoImplicit false
set_option relaxedAutoImplicit false

namespace AccessorGen

theorem Outcome.eq_done {outcome : Outcome} (faultless : outcome.fault.isNone = true) :
    outcome = .done outcome.session := by
  obtain ⟨s, fault⟩ := outcome
  cases fault with
  | none => rfl
  | some fault => cases faultless

theorem Outcome.eq_stopped {outcome : Outcome} {fault : Fault}
    (failed : outcome.fault = some fault) : outcome = ⟨outcome.session, some fault⟩ := by
  rw [← failed]

theorem Outcome.andThen_eq_done_iff {outcome : Outcome} {next : Session → Outcome} {t : Session} :
    outcome.andThen next = .done t ↔ ∃ s, outcome = .done s ∧ next s = .done t := by
  obtain ⟨s, fault⟩ := outcome
  cases fault with
  | none => simp [andThen, done]
  | some fault => simp [andThen, done]

namespace Meaning

@[simp] def label? : Meaning → Option String
  | .label text => some text
  | _ => none

@[simp] def baseName? : Meaning → Option String
  | .baseName name => some name
  | _ => none

@[simp] def bools? : Meaning → Option BoolStorage
  | .bools storage => some storage
  | _ => none

@[simp] def sourceFiles : Meaning → List String
  | .sourceIncludes files => files
  | _ => []

@[simp] def headerFiles : Meaning → List String
  | .headerIncludes files => files
  | _ => []

@[simp] def newFields : Meaning → List ModuleField
  | .fields added => added
  | _ => []

/-- The last of what is asked for, in the view that `read` takes. -/
def last? {α : Type} (read : Meaning → Option α) (meanings : List Meaning) : Option α :=
  (meanings.filterMap read).getLast?

@[simp] theorem last?_nil {α : Type} (read : Meaning → Option α) : last? read [] = none :=
  rfl

theorem last?_append {α : Type} (read : Meaning → Option α) (front back : List Meaning) :
    last? read (front ++ back) = (last? read back).or (last? read front) := by
  rw [last?, List.filterMap_append, List.getLast?_append]
  rfl

theorem last?_cons {α : Type} (read : Meaning → Option α) (first : Meaning)
    (rest : List Meaning) : last? read (first :: rest) = (last? read rest).or (read first) := by
  have single : last? read [first] = read first := by
    rw [last?, List.filterMap_cons]
    cases read first <;> rfl
  have split := last?_append read [first] rest
  rwa [single] at split

def finalLabel (meanings : List Meaning) : String :=
  (last? label? meanings).getD ""

def allFields (meanings : List Meaning) : List ModuleField :=
  meanings.flatMap newFields

/-- The code of a document: the code of the fields of each entry, and a separator behind it. -/
def fragments (scope : Scope) (meanings : List Meaning) : List Fragment :=
  meanings.flatMap fun meaning => meaning.newFields.map (ModuleField.code scope) ++ [.separator]

end Meaning

def Section.extend (scope : Scope) (sec : Section) (meanings : List Meaning) : Section where
  label := (Meaning.last? Meaning.label? meanings).getD sec.label
  fields := sec.fields ++ ((Meaning.allFields meanings).map ModuleField.captured).toArray
  fragments := sec.fragments ++ (Meaning.fragments scope meanings).toArray

theorem Section.extend_extend (scope : Scope) (sec : Section) (front back : List Meaning) :
    (sec.extend scope front).extend scope back = sec.extend scope (front ++ back) := by
  simp only [Section.extend, Meaning.last?_append, Option.getD_or, Meaning.allFields,
    Meaning.fragments, List.flatMap_append, List.map_append, Array.append_assoc,
    List.append_toArray]

def Section.ofMeanings (scope : Scope) (meanings : List Meaning) : Section :=
  Section.extend scope ⟨"", #[], #[]⟩ meanings

def Document.meanings (services : Services) (document : Document) : Except Fault (List Meaning) :=
  document.mapM (Entry.meaning services)

theorem Document.sound_of_meanings {services : Services} {document : Document}
    {meanings : List Meaning} (read : document.meanings services = .ok meanings) :
    ∀ field ∈ Meaning.allFields meanings, field.Sound := by
  intro field member
  obtain ⟨meaning, inside, own⟩ := List.mem_flatMap.mp member
  obtain ⟨entry, -, made⟩ := exists_of_mem_mapM read inside
  cases meaning with
  | fields added => exact Entry.sound_of_meaning made field own
  | _ => cases own

/-- A document with what the services answer while it is processed. -/
structure ServedDocument where
  services : Services
  document : Document

def ServedDocument.meanings (served : ServedDocument) : Except Fault (List Meaning) :=
  served.document.meanings served.services

namespace Session

def advance (naming : NamingStyle) (s : Session) (meaning : Meaning) : Session :=
  (s.apply naming meaning).addFragment .separator

def applyAll (naming : NamingStyle) (s : Session) (meanings : List Meaning) : Session :=
  meanings.foldl (advance naming) s

private theorem take_mk (naming : NamingStyle) (active : Section) (closed : List Section)
    (base : Option String) (bools : BoolStorage) (header source : List String)
    (definitions : Array Definition) (field : ModuleField) :
    take naming ⟨active :: closed, base, bools, header, source, definitions⟩ field =
      ⟨{ active with
          fields := active.fields.push field.captured
          fragments := active.fragments.push (field.code ⟨naming, closed.length⟩) } :: closed,
        base, bools, header, source, definitions⟩ :=
  rfl

private theorem foldl_take_mk (naming : NamingStyle) (fields : List ModuleField)
    (active : Section) (closed : List Section) (base : Option String) (bools : BoolStorage)
    (header source : List String) (definitions : Array Definition) :
    fields.foldl (take naming) ⟨active :: closed, base, bools, header, source, definitions⟩ =
      ⟨{ active with
          fields := active.fields ++ (fields.map ModuleField.captured).toArray
          fragments := active.fragments ++
            (fields.map (ModuleField.code ⟨naming, closed.length⟩)).toArray } :: closed,
        base, bools, header, source, definitions⟩ := by
  induction fields generalizing active with
  | nil => simp
  | cons field fields ih =>
    rw [List.foldl_cons, take_mk, ih]
    simp

theorem advance_mk (naming : NamingStyle) (active : Section) (closed : List Section)
    (base : Option String) (bools : BoolStorage) (header source : List String)
    (definitions : Array Definition) (meaning : Meaning) :
    advance naming ⟨active :: closed, base, bools, header, source, definitions⟩ meaning =
      ⟨active.extend ⟨naming, closed.length⟩ [meaning] :: closed, meaning.baseName?.or base,
        meaning.bools?.getD bools, header ++ meaning.headerFiles, source ++ meaning.sourceFiles,
        definitions⟩ := by
  cases meaning with
  | fields fields =>
    rw [advance, apply, foldl_take_mk]
    simp [addFragment, mapActive, Section.extend, Meaning.last?, Meaning.allFields,
      Meaning.fragments]
  | _ =>
    simp [advance, apply, addFragment, mapActive, Section.extend, Meaning.last?,
      Meaning.allFields, Meaning.fragments]

theorem applyAll_mk (naming : NamingStyle) (meanings : List Meaning) (active : Section)
    (closed : List Section) (base : Option String) (bools : BoolStorage)
    (header source : List String) (definitions : Array Definition) :
    applyAll naming ⟨active :: closed, base, bools, header, source, definitions⟩ meanings =
      ⟨active.extend ⟨naming, closed.length⟩ meanings :: closed,
        (Meaning.last? Meaning.baseName? meanings).or base,
        (Meaning.last? Meaning.bools? meanings).getD bools,
        header ++ meanings.flatMap Meaning.headerFiles,
        source ++ meanings.flatMap Meaning.sourceFiles, definitions⟩ := by
  induction meanings generalizing active base bools header source with
  | nil => simp [applyAll, Section.extend, Meaning.allFields, Meaning.fragments]
  | cons meaning rest ih =>
    -- The rest starts from what the first entry leaves, in one section as in the settings.
    have step := ih (active.extend ⟨naming, closed.length⟩ [meaning])
      (meaning.baseName?.or base) (meaning.bools?.getD bools) (header ++ meaning.headerFiles)
      (source ++ meaning.sourceFiles)
    rw [applyAll, List.foldl_cons, advance_mk]
    rw [applyAll] at step
    rw [step, Section.extend_extend, Meaning.last?_cons, Meaning.last?_cons, Option.or_assoc,
      Option.getD_or, List.singleton_append, List.flatMap_cons, List.flatMap_cons,
      List.append_assoc, List.append_assoc]

theorem processEntries_eq_done_iff (settings : Settings) (document : Document) (s t : Session) :
    processEntries settings document s = .done t ↔
      ∃ meanings, document.meanings settings.services = .ok meanings ∧
        s.applyAll settings.naming meanings = t := by
  induction document generalizing s with
  | nil =>
    constructor
    · intro run
      exact ⟨[], rfl, congrArg Outcome.session run⟩
    · rintro ⟨meanings, read, rfl⟩
      obtain rfl : [] = meanings := Except.ok.inj read
      rfl
  | cons entry rest ih =>
    simp only [processEntries, processEntry_eq, Document.meanings, mapM_cons_eq_ok_iff]
    cases meaning : entry.meaning settings.services with
    | error fault =>
      constructor
      · intro run
        cases congrArg Outcome.fault run
      · rintro ⟨-, ⟨first, others, read, -⟩, -⟩
        cases read
    | ok first =>
      rw [given_ok, Outcome.andThen_done, ih]
      constructor
      · rintro ⟨others, read, rfl⟩
        exact ⟨first :: others, ⟨first, others, rfl, read, rfl⟩, rfl⟩
      · rintro ⟨-, ⟨_, others, same, read, rfl⟩, rfl⟩
        obtain rfl := Except.ok.inj same
        exact ⟨others, read, rfl⟩

theorem openSection_applyAll (naming : NamingStyle) (s : Session) (meanings : List Meaning) :
    s.openSection.applyAll naming meanings =
      ⟨Section.ofMeanings ⟨naming, s.sections.length⟩ meanings :: s.sections,
        (Meaning.last? Meaning.baseName? meanings).or s.baseName,
        (Meaning.last? Meaning.bools? meanings).getD s.bools,
        s.headerIncludes ++ meanings.flatMap Meaning.headerFiles,
        s.sourceIncludes ++ meanings.flatMap Meaning.sourceFiles, s.definitions⟩ := by
  rw [openSection, applyAll_mk, Section.ofMeanings]

theorem admits_openSection_applyAll (naming : NamingStyle) (s : Session)
    (meanings : List Meaning) (new : List String) :
    (s.openSection.applyAll naming meanings).Admits new ↔ s.Admits new := by
  rw [openSection_applyAll]
  rfl

/-- A document is processed without a fault exactly if its entries have meanings and its symbols are
admissible. -/
theorem processDocument_eq_done_iff (settings : Settings) (s : Session) (document : Document)
    (t : Session) :
    s.processDocument settings document = .done t ↔
      ∃ meanings, document.meanings settings.services = .ok meanings ∧
        s.Admits ((Section.ofMeanings ⟨settings.naming, s.sections.length⟩ meanings).symbols
          settings.naming) ∧
        { s.openSection.applyAll settings.naming meanings with
          definitions := s.definitions ++ (sectionDefinitions settings.naming
            (Section.ofMeanings ⟨settings.naming, s.sections.length⟩ meanings)).toArray } = t := by
  have sections : ∀ meanings, (s.openSection.applyAll settings.naming meanings).sections =
      Section.ofMeanings ⟨settings.naming, s.sections.length⟩ meanings :: s.sections := by
    intro meanings
    rw [openSection_applyAll]
  have definitions : ∀ meanings,
      (s.openSection.applyAll settings.naming meanings).definitions = s.definitions := by
    intro meanings
    rw [openSection_applyAll]
  rw [processDocument, Outcome.andThen_eq_done_iff]
  simp only [processEntries_eq_done_iff]
  constructor
  · rintro ⟨u, ⟨meanings, read, rfl⟩, registered⟩
    refine ⟨meanings, read, ?_⟩
    by_cases admitted : (s.openSection.applyAll settings.naming meanings).Admits
        ((Section.ofMeanings ⟨settings.naming, s.sections.length⟩ meanings).symbols
          settings.naming)
    · rw [register_eq_done (sections meanings) admitted, definitions] at registered
      exact ⟨(admits_openSection_applyAll _ s meanings _).mp admitted,
        congrArg Outcome.session registered⟩
    · obtain ⟨u, key, symbol, other, clash⟩ := register_eq_clash (sections meanings) admitted
      rw [clash] at registered
      cases congrArg Outcome.fault registered
  · rintro ⟨meanings, read, admitted, rfl⟩
    have fresh := (admits_openSection_applyAll settings.naming s meanings _).mpr admitted
    refine ⟨_, ⟨meanings, read, rfl⟩, ?_⟩
    rw [register_eq_done (sections meanings) fresh, definitions]

/-- The session of documents with the given meanings. -/
def ofMeanings (settings : Settings) (documents : List (List Meaning)) : Session where
  sections :=
    (documents.mapIdx fun index => Section.ofMeanings ⟨settings.naming, index⟩).reverse
  baseName := (Meaning.last? Meaning.baseName? documents.flatten).or settings.baseName
  bools := (Meaning.last? Meaning.bools? documents.flatten).getD .native
  headerIncludes := documents.flatten.flatMap Meaning.headerFiles
  sourceIncludes := documents.flatten.flatMap Meaning.sourceFiles
  definitions :=
    ((documents.mapIdx fun index => Section.ofMeanings ⟨settings.naming, index⟩).flatMap
      (sectionDefinitions settings.naming)).toArray

theorem registered_ofMeanings (settings : Settings) (documents : List (List Meaning)) :
    (ofMeanings settings documents).registered =
      (ofMeanings settings documents).symbols settings.naming := by
  simp only [registered, symbols, ofMeanings, List.reverse_reverse, List.map_flatMap,
    map_symbol_sectionDefinitions]

/-- The session in which the entries of one more document have been carried out and its symbols
have not been registered. -/
def pending (settings : Settings) (documents : List (List Meaning)) (meanings : List Meaning) :
    Session :=
  { ofMeanings settings (documents ++ [meanings]) with
    definitions := (ofMeanings settings documents).definitions }

theorem applyAll_openSection_ofMeanings (settings : Settings) (documents : List (List Meaning))
    (meanings : List Meaning) :
    (ofMeanings settings documents).openSection.applyAll settings.naming meanings =
      pending settings documents meanings := by
  rw [openSection, applyAll_mk]
  simp only [pending, ofMeanings, List.mapIdx_append, List.flatten_append, Meaning.last?_append,
    List.flatMap_append]
  simp [Section.ofMeanings, Option.or_assoc, Option.getD_or]

theorem sections_ofMeanings_append (settings : Settings) (documents : List (List Meaning))
    (meanings : List Meaning) :
    (ofMeanings settings (documents ++ [meanings])).sections =
      Section.ofMeanings ⟨settings.naming, documents.length⟩ meanings ::
        (ofMeanings settings documents).sections := by
  simp [ofMeanings, List.mapIdx_append]

theorem symbols_ofMeanings_append (settings : Settings) (documents : List (List Meaning))
    (meanings : List Meaning) :
    (ofMeanings settings (documents ++ [meanings])).symbols settings.naming =
      (ofMeanings settings documents).symbols settings.naming ++
        (Section.ofMeanings ⟨settings.naming, documents.length⟩ meanings).symbols
          settings.naming := by
  simp [symbols, sections_ofMeanings_append]

theorem sections_pending (settings : Settings) (documents : List (List Meaning))
    (meanings : List Meaning) :
    (pending settings documents meanings).sections =
      Section.ofMeanings ⟨settings.naming, documents.length⟩ meanings ::
        (ofMeanings settings documents).sections :=
  sections_ofMeanings_append settings documents meanings

theorem admits_pending_iff (settings : Settings) (documents : List (List Meaning))
    (meanings : List Meaning) (new : List String) :
    (pending settings documents meanings).Admits new ↔
      new.Nodup ∧ List.Disjoint new ((ofMeanings settings documents).symbols settings.naming) := by
  rw [← registered_ofMeanings]
  rfl

theorem register_pending_eq_done {settings : Settings} {documents : List (List Meaning)}
    {meanings : List Meaning}
    (admitted : (pending settings documents meanings).Admits
      ((Section.ofMeanings ⟨settings.naming, documents.length⟩ meanings).symbols
        settings.naming)) :
    (pending settings documents meanings).register settings =
      .done (ofMeanings settings (documents ++ [meanings])) := by
  rw [register_eq_done (sections_pending settings documents meanings) admitted]
  simp [pending, ofMeanings, List.mapIdx_append]

/-- One more document is processed without a fault exactly if its entries have meanings and its
symbols are admissible, and then its meanings join the others. -/
theorem processDocument_ofMeanings_iff (settings : Settings) (documents : List (List Meaning))
    (document : Document) (t : Session) :
    (ofMeanings settings documents).processDocument settings document = .done t ↔
      ∃ meanings, document.meanings settings.services = .ok meanings ∧
        (pending settings documents meanings).Admits
          ((Section.ofMeanings ⟨settings.naming, documents.length⟩ meanings).symbols
            settings.naming) ∧
        ofMeanings settings (documents ++ [meanings]) = t := by
  have count : (ofMeanings settings documents).sections.length = documents.length := by
    simp [ofMeanings]
  rw [processDocument_eq_done_iff, count]
  refine exists_congr fun meanings => and_congr_right fun read => and_congr_right fun admitted => ?_
  have joined := register_pending_eq_done admitted
  rw [register_eq_done (sections_pending settings documents meanings) admitted] at joined
  have same := congrArg Outcome.session joined
  rw [applyAll_openSection_ofMeanings]
  exact ⟨fun made => same.symm.trans made, fun made => same.trans made⟩

theorem processDocuments_ofMeanings {settings : Settings} {before : List (List Meaning)}
    {documents : List Document} {t : Session}
    (distinct : ((ofMeanings settings before).symbols settings.naming).Nodup)
    (run : processDocuments settings documents (ofMeanings settings before) = .done t) :
    ∃ meanings, documents.mapM (Document.meanings settings.services) = .ok meanings ∧
      ofMeanings settings (before ++ meanings) = t ∧ (t.symbols settings.naming).Nodup := by
  induction documents generalizing before with
  | nil =>
    obtain rfl : ofMeanings settings before = t := congrArg Outcome.session run
    exact ⟨[], rfl, by rw [List.append_nil], distinct⟩
  | cons document rest ih =>
    rw [processDocuments, Outcome.andThen_eq_done_iff] at run
    obtain ⟨u, first, others⟩ := run
    obtain ⟨meanings, read, admitted, rfl⟩ :=
      (processDocument_ofMeanings_iff settings before document u).mp first
    obtain ⟨own, apart⟩ := (admits_pending_iff settings before meanings _).mp admitted
    have joined : ((ofMeanings settings (before ++ [meanings])).symbols settings.naming).Nodup := by
      rw [symbols_ofMeanings_append]
      exact distinct.append own (List.disjoint_comm.mp apart)
    obtain ⟨more, readMore, same, nodup⟩ := ih joined others
    refine ⟨meanings :: more, mapM_cons_eq_ok_iff.mpr ⟨meanings, more, read, readMore, rfl⟩, ?_⟩
    rw [List.append_assoc, List.singleton_append] at same
    exact ⟨same, nodup⟩

end Session

end AccessorGen
