/- The place of directives.
   A directive that adds no fields may change places with its neighbours. The code of the module
   then differs in where its separators stand, and behind a blank line that leaves no trace. -/

import AccessorGen.Proofs.Module.WholeLines
import AccessorGen.Proofs.Session.Reachable

set_option autoImplicit false
set_option relaxedAutoImplicit false

namespace AccessorGen

/-- What a document changes in a session, apart from where its separators stand. -/
structure Effect where
  label : Option String
  baseName : Option String
  bools : Option BoolStorage
  headerFiles : List String
  sourceFiles : List String
  /-- The fields of each entry that has any. -/
  fields : List (List ModuleField)

def Effect.append (first second : Effect) : Effect where
  label := second.label.or first.label
  baseName := second.baseName.or first.baseName
  bools := second.bools.or first.bools
  headerFiles := first.headerFiles ++ second.headerFiles
  sourceFiles := first.sourceFiles ++ second.sourceFiles
  fields := first.fields ++ second.fields

namespace Meaning

def effect (meanings : List Meaning) : Effect where
  label := last? label? meanings
  baseName := last? baseName? meanings
  bools := last? bools? meanings
  headerFiles := meanings.flatMap headerFiles
  sourceFiles := meanings.flatMap sourceFiles
  fields := (meanings.map newFields).filter fun added => !added.isEmpty

theorem effect_append (front back : List Meaning) :
    effect (front ++ back) = (effect front).append (effect back) := by
  simp only [effect, Effect.append, last?_append, List.flatMap_append, List.map_append,
    List.filter_append]

theorem effect_pair {d e : Meaning} {directive : Directive} (own : d.setBy? = some directive)
    (other : e.setBy? ≠ some directive) : effect [d, e] = effect [e, d] := by
  rw [← own] at other
  cases d with
  | fields added => cases own
  | _ =>
    -- Either the two set the same thing, or each of them leaves alone what the other sets.
    cases e with
    | fields added => cases added <;> simp [effect, last?_cons]
    | _ => first | exact absurd rfl other | simp [effect, last?_cons]

theorem effect_swap {d e : Meaning} {directive : Directive} (own : d.setBy? = some directive)
    (other : e.setBy? ≠ some directive) (before after : List Meaning) :
    effect (before ++ d :: e :: after) = effect (before ++ e :: d :: after) := by
  have split : ∀ a b : Meaning, before ++ a :: b :: after = before ++ ([a, b] ++ after) := by
    intro a b
    rfl
  rw [split, split, effect_append, effect_append, effect_append, effect_append,
    effect_pair own other]

/-- A directive that no other entry repeats may stand at the front as well. -/
theorem effect_move {d : Meaning} {directive : Directive} (own : d.setBy? = some directive)
    {front : List Meaning} (others : ∀ e ∈ front, e.setBy? ≠ some directive)
    (back : List Meaning) : effect (front ++ d :: back) = effect (d :: (front ++ back)) := by
  induction front with
  | nil => rfl
  | cons e rest ih =>
    have later := ih fun next member => others next (List.mem_cons_of_mem e member)
    have first := effect_swap own (others e List.mem_cons_self) [] (rest ++ back)
    calc effect (e :: (rest ++ d :: back))
        = (effect [e]).append (effect (rest ++ d :: back)) := effect_append [e] _
      _ = (effect [e]).append (effect (d :: (rest ++ back))) := by rw [later]
      _ = effect (e :: d :: (rest ++ back)) := (effect_append [e] _).symm
      _ = effect (d :: e :: (rest ++ back)) := first.symm

theorem flatten_fields_effect (meanings : List Meaning) :
    (effect meanings).fields.flatten = allFields meanings := by
  rw [effect, List.flatten_filter_not_isEmpty, allFields, List.flatMap_def]

end Meaning

theorem Entry.setBy?_of_meaning {services : Services} {entry : Entry} {meaning : Meaning}
    (read : entry.meaning services = .ok meaning) :
    meaning.setBy? = entry.directive?.filter Directive.isStateOnly := by
  obtain ⟨d, parsed, read⟩ := bind_eq_ok_iff.mp read
  rw [directive?, parsed]
  split at read
  · rename_i config
    split at read
    · cases read
    · rename_i directive known
      rcases Directive.meaning_cases read with ⟨only, set⟩ | ⟨adding, _, rfl, -⟩
      · simp [config, known, only, set, Option.filter]
      · simp [config, known, adding, Meaning.setBy?, Option.filter]
  · rename_i field
    obtain ⟨own, -, made⟩ := bind_eq_ok_iff.mp read
    obtain rfl := Except.ok.inj made
    simp [field, Meaning.setBy?]

namespace Pages

theorem FillLines.part {pages : Pages} (filled : pages.FillLines) (part : Part) :
    EndsLine (pages.part part) := by
  cases part with
  | macros => exact filled.macros
  | declarations => exact filled.declarations
  | storage => exact filled.storage
  | functions => exact filled.functions

theorem part_separator (r : Resolution) (part : Part) :
    (ofFragments r [.separator]).part part = "\n" := by
  rw [ofFragments_separator]
  cases part <;> rfl

end Pages

def separated (entries : List (List Fragment)) : List Fragment :=
  entries.flatMap (· ++ [.separator])

/-- What the entries add to one part of the module. -/
def partTexts (r : Resolution) (part : Part) (entries : List (List Fragment)) : List String :=
  entries.map fun code => (Pages.ofFragments r code).part part

theorem part_separated (r : Resolution) (part : Part) (entries : List (List Fragment)) :
    (Pages.ofFragments r (separated entries)).part part = spaced (partTexts r part entries) := by
  induction entries with
  | nil => cases part <;> rfl
  | cons code rest ih =>
    rw [separated, List.flatMap_cons, Pages.ofFragments_append, Pages.ofFragments_append,
      Pages.part_append, Pages.part_append, Pages.part_separator]
    change _ ++ (Pages.ofFragments r (separated rest)).part part = _
    rw [ih, partTexts, partTexts, List.map_cons, spaced_cons]

theorem filter_partTexts (r : Resolution) (part : Part) (entries : List (List Fragment)) :
    (partTexts r part entries).filter (· ≠ "") =
      (partTexts r part (entries.filter fun code => !code.isEmpty)).filter (· ≠ "") := by
  induction entries with
  | nil => rfl
  | cons code rest ih =>
    cases code with
    | nil =>
      have vacant : (Pages.ofFragments r []).part part = "" := by cases part <;> rfl
      rw [List.filter_cons_of_neg (by simp), ← ih, partTexts, List.map_cons, vacant,
        List.filter_cons_of_neg (by simp)]
      rfl
    | cons first more =>
      rw [List.filter_cons_of_pos (by simp), partTexts, partTexts, List.map_cons, List.map_cons,
        List.filter_cons, List.filter_cons]
      change (if _ then _ :: (partTexts r part rest).filter _
        else (partTexts r part rest).filter _) = _
      rw [ih]
      rfl

theorem endsBlank_append_newline {text : String} (ended : EndsLine text) (filled : text ≠ "") :
    EndsBlank (text ++ "\n") := by
  rcases ended with vacant | ⟨front, rfl⟩
  · exact absurd vacant filled
  · exact ⟨front, by rw [String.append_assoc]; rfl⟩

theorem EndsBlank.collapse_parts {front : String} (before : EndsBlank front)
    {first second : List String} (endedFirst : ∀ text ∈ first, EndsLine text)
    (endedSecond : ∀ text ∈ second, EndsLine text) (back : String) :
    Text.collapseBlankLines (front ++ (spaced first ++ (spaced second ++ back))) =
      Text.collapseBlankLines
        (front ++ (spaced (first.filter (· ≠ "")) ++
          (spaced (second.filter (· ≠ "")) ++ back))) := by
  have ended : ∀ text ∈ first.filter (· ≠ ""), EndsLine text := fun text member =>
    endedFirst text (List.mem_of_mem_filter member)
  have behind := (before.append_spaced ended).collapse_spaced endedSecond back
  rw [before.collapse_spaced endedFirst]
  simpa only [String.append_assoc] using behind

/-- Entries that fill whole lines, whatever the tags stand for. -/
def FillEntries (entries : List (List Fragment)) : Prop :=
  ∀ code ∈ entries, ∀ r, (Pages.ofFragments r code).FillLines

theorem FillEntries.partTexts {entries : List (List Fragment)} (filled : FillEntries entries)
    (r : Resolution) (part : Part) : ∀ text ∈ partTexts r part entries, EndsLine text := by
  intro text member
  obtain ⟨code, inside, rfl⟩ := List.mem_map.mp member
  exact (filled code inside r).part part

/-- Behind a blank line, two parts of the code show only the entries that have code. -/
theorem EndsBlank.collapse_entries {front : String} (before : EndsBlank front)
    {entries others : List (List Fragment)} (filled : FillEntries entries)
    (filledOthers : FillEntries others)
    (same : entries.filter (fun code => !code.isEmpty) =
      others.filter fun code => !code.isEmpty)
    (r : Resolution) (first second : Part) (back : String) :
    Text.collapseBlankLines (front ++ ((Pages.ofFragments r (separated entries)).part first ++
        ((Pages.ofFragments r (separated entries)).part second ++ back))) =
      Text.collapseBlankLines (front ++ ((Pages.ofFragments r (separated others)).part first ++
        ((Pages.ofFragments r (separated others)).part second ++ back))) := by
  have texts : ∀ part, (partTexts r part entries).filter (· ≠ "") =
      (partTexts r part others).filter (· ≠ "") := by
    intro part
    rw [filter_partTexts, same, ← filter_partTexts]
  simp only [part_separated]
  rw [before.collapse_parts (filled.partTexts r first) (filled.partTexts r second),
    before.collapse_parts (filledOthers.partTexts r first) (filledOthers.partTexts r second),
    texts first, texts second]

namespace Session

section Bodies

variable {settings : Settings} {t u : Session} {entries others : List (List Fragment)}
  (code : t.fragments = separated entries) (codeOther : u.fragments = separated others)
  (filled : FillEntries entries) (filledOthers : FillEntries others)
  (same : entries.filter (fun code => !code.isEmpty) = others.filter fun code => !code.isEmpty)
  (resolution : t.resolution settings = u.resolution settings)

include code codeOther filled filledOthers same resolution

theorem headerBody_eq_of_entries (includes : t.headerIncludes = u.headerIncludes) :
    t.headerBody settings = u.headerBody settings := by
  have files := endsLine_join_includeLine u.headerIncludes
  have standard : EndsLine "#include <stdint.h>\n" := .inr ⟨"#include <stdint.h>", by decide⟩
  rw [headerBody, headerBody, finish, finish, resolve_headerCode, resolve_headerCode, resolution,
    includes, code, codeOther]
  generalize u.resolution settings = r
  have front : EndsBlank ("#ifndef " ++ r.headerGuard ++ "\n#define " ++ r.headerGuard ++
      "\n\n" ++ ("#include <stdint.h>\n" ++ r.bools.includeLine ++
        String.join (u.headerIncludes.map includeLine)) ++ "\n") := by
    refine EndsLine.append_newline_endsBlank ⟨_, rfl⟩ ?_
    exact (standard.append r.bools.endsLine_includeLine).append files
  have bodies := front.collapse_entries filled filledOthers same r .macros .declarations
    ("\n#endif /* " ++ r.headerGuard ++ " */\n")
  simpa only [String.append_assoc, Pages.part] using bodies

theorem sourceBody_eq_of_entries (includes : t.sourceIncludes = u.sourceIncludes) :
    t.sourceBody settings = u.sourceBody settings := by
  have files := endsLine_join_includeLine u.sourceIncludes
  rw [sourceBody, sourceBody, finish, finish, resolve_sourceCode, resolve_sourceCode, resolution,
    includes, code, codeOther]
  generalize u.resolution settings = r
  have front : EndsBlank ("#include \"" ++ r.headerFile ++ "\"\n" ++
      String.join (u.sourceIncludes.map includeLine) ++ "\n") := by
    refine endsBlank_append_newline ?_ ?_
    · exact EndsLine.append (endsLine_of_append _ ⟨"\"", by decide⟩) files
    · simp
  have bodies := front.collapse_entries filled filledOthers same r .storage .functions ""
  simpa only [String.append_assoc, Pages.part, String.append_empty] using bodies

end Bodies

end Session

def Meaning.entryCode (scope : Scope) (meanings : List Meaning) : List (List Fragment) :=
  meanings.map fun meaning => meaning.newFields.map (ModuleField.code scope)

namespace Meaning

theorem fragments_eq_separated (scope : Scope) (meanings : List Meaning) :
    fragments scope meanings = separated (entryCode scope meanings) := by
  rw [fragments, separated, entryCode, List.flatMap_map]

theorem fillEntries_entryCode (scope : Scope) (meanings : List Meaning) :
    FillEntries (entryCode scope meanings) := by
  intro code member r
  obtain ⟨meaning, -, rfl⟩ := List.mem_map.mp member
  refine Pages.fillLines_ofFragments r fun fragment own => ?_
  obtain ⟨field, -, rfl⟩ := List.mem_map.mp own
  exact field.fillLines_code r scope

theorem filter_entryCode (scope : Scope) (meanings : List Meaning) :
    (entryCode scope meanings).filter (fun code => !code.isEmpty) =
      (effect meanings).fields.map (List.map (ModuleField.code scope)) := by
  rw [entryCode, effect, List.filter_map, List.filter_map, List.map_map]
  congr 2
  funext meaning
  simp

end Meaning

namespace Document

variable {services : Services}

theorem meanings_append_iff {front back : Document} {all : List Meaning} :
    Document.meanings services (front ++ back) = .ok all ↔
      ∃ first second, Document.meanings services front = .ok first ∧
        Document.meanings services back = .ok second ∧ first ++ second = all := by
  rw [Document.meanings, List.mapM_append]
  simp only [bind_eq_ok_iff]
  constructor
  · rintro ⟨first, head, second, tail, made⟩
    exact ⟨first, second, head, tail, Except.ok.inj made⟩
  · rintro ⟨first, second, head, tail, rfl⟩
    exact ⟨first, head, second, tail, rfl⟩

/-- If the entries of one document have meanings, so have those of the other, and they ask for the
same. -/
def Follows (services : Services) (one other : Document) : Prop :=
  ∀ all, Document.meanings services one = .ok all →
    ∃ others, Document.meanings services other = .ok others ∧
      Meaning.effect all = Meaning.effect others

theorem follows_of_effect_swap {d e : Entry}
    (swap : ∀ own next, d.meaning services = .ok own → e.meaning services = .ok next →
      ∀ before after, Meaning.effect (before ++ own :: next :: after) =
        Meaning.effect (before ++ next :: own :: after))
    (before after : Document) :
    Follows services (before ++ d :: e :: after) (before ++ e :: d :: after) := by
  intro all read
  obtain ⟨front, _, head, behind, rfl⟩ := meanings_append_iff.mp read
  obtain ⟨own, _, readD, later, rfl⟩ := mapM_cons_eq_ok_iff.mp behind
  obtain ⟨next, back, readE, tail, rfl⟩ := mapM_cons_eq_ok_iff.mp later
  refine ⟨front ++ next :: own :: back, ?_, swap own next readD readE front back⟩
  refine meanings_append_iff.mpr ⟨front, next :: own :: back, head, ?_, rfl⟩
  exact mapM_cons_eq_ok_iff.mpr ⟨next, own :: back, readE,
    mapM_cons_eq_ok_iff.mpr ⟨own, back, readD, tail, rfl⟩, rfl⟩

section Directive

variable {d : Entry} {directive : Directive} (named : d.directive? = some directive)
  (stateOnly : directive.isStateOnly = true)

include named stateOnly

private theorem setBy?_own {own : Meaning} (read : d.meaning services = .ok own) :
    own.setBy? = some directive := by
  rw [Entry.setBy?_of_meaning read, named]
  simp [Option.filter, stateOnly]

omit named stateOnly in
private theorem setBy?_other {e : Entry} (other : e.directive? ≠ some directive) {next : Meaning}
    (read : e.meaning services = .ok next) : next.setBy? ≠ some directive := by
  rw [Entry.setBy?_of_meaning read]
  intro same
  exact other (Option.eq_some_of_filter_eq_some same)

theorem follows_swap {e : Entry} (other : e.directive? ≠ some directive)
    (before after : Document) :
    Follows services (before ++ d :: e :: after) (before ++ e :: d :: after) ∧
      Follows services (before ++ e :: d :: after) (before ++ d :: e :: after) := by
  constructor
  · apply follows_of_effect_swap
    intro own next readD readE front back
    exact Meaning.effect_swap (setBy?_own named stateOnly readD) (setBy?_other other readE)
      front back
  · apply follows_of_effect_swap
    intro next own readE readD front back
    exact (Meaning.effect_swap (setBy?_own named stateOnly readD) (setBy?_other other readE)
      front back).symm

theorem follows_move {front back front' back' : Document}
    (rest : front ++ back = front' ++ back')
    (others : ∀ e ∈ front ++ back, e.directive? ≠ some directive) :
    Follows services (front ++ d :: back) (front' ++ d :: back') := by
  intro all read
  obtain ⟨first, tail, head, tailRead, rfl⟩ := meanings_append_iff.mp read
  obtain ⟨own, second, readD, backRead, rfl⟩ := mapM_cons_eq_ok_iff.mp tailRead
  have plain : Document.meanings services (front ++ back) = .ok (first ++ second) :=
    meanings_append_iff.mpr ⟨first, second, head, backRead, rfl⟩
  have free : ∀ meaning ∈ first ++ second, meaning.setBy? ≠ some directive := by
    intro meaning member
    obtain ⟨e, inside, readE⟩ := exists_of_mem_mapM plain member
    exact setBy?_other (others e inside) readE
  rw [rest] at plain
  obtain ⟨first', second', head', back'Read, same⟩ := meanings_append_iff.mp plain
  refine ⟨first' ++ own :: second', meanings_append_iff.mpr ⟨first', own :: second', head',
    mapM_cons_eq_ok_iff.mpr ⟨own, second', readD, back'Read, rfl⟩, rfl⟩, ?_⟩
  have set := setBy?_own named stateOnly readD
  have left := Meaning.effect_move set (fun m inside => free m (List.mem_append_left _ inside))
    second
  have right := Meaning.effect_move set
    (fun m inside => free m (same ▸ List.mem_append_left _ inside)) second'
  rw [left, right, same]

end Directive

end Document

namespace Session

theorem Reachable.fragments_eq_separated {settings : Settings} {s : Session}
    (reached : Reachable settings s) :
    ∃ entries, s.fragments = separated entries ∧ FillEntries entries := by
  refine reached.invariant (P := fun s => ∃ entries, s.fragments = separated entries ∧
    FillEntries entries) ⟨[], rfl, by simp [FillEntries]⟩ ?_
  rintro s services document ⟨entries, code, filled⟩
  obtain ⟨meanings, added⟩ := fragments_processDocument (settings.serving services) s document
  refine ⟨entries ++ Meaning.entryCode ⟨settings.naming, s.sections.length⟩ meanings, ?_, ?_⟩
  · rw [added, code, Meaning.fragments_eq_separated, separated, separated, separated,
      List.flatMap_append]
    rfl
  · intro own member
    rcases List.mem_append.mp member with old | new
    · exact filled own old
    · exact Meaning.fillEntries_entryCode _ meanings own new

/-- Two documents that are accepted alike and leave the same module. -/
structure SameModule (settings : Settings) (s : Session) (one other : Document) : Prop where
  accepted : (s.processDocument settings one).fault = none ↔
    (s.processDocument settings other).fault = none
  header : (s.processDocument settings one).fault = none →
    (s.processDocument settings one).session.headerBody settings =
      (s.processDocument settings other).session.headerBody settings
  source : (s.processDocument settings one).fault = none →
    (s.processDocument settings one).session.sourceBody settings =
      (s.processDocument settings other).session.sourceBody settings
  files : (s.processDocument settings one).fault = none →
    (s.processDocument settings one).session.render settings =
      (s.processDocument settings other).session.render settings

section Effect

variable {all others : List Meaning} (same : Meaning.effect all = Meaning.effect others)

include same

theorem sectionOfMeanings_eq (scope : Scope) :
    Section.ofMeanings scope all =
      { Section.ofMeanings scope others with
        fragments := (Meaning.fragments scope all).toArray } := by
  have label : Meaning.last? Meaning.label? all = Meaning.last? Meaning.label? others :=
    congrArg Effect.label same
  have fields : Meaning.allFields all = Meaning.allFields others := by
    rw [← Meaning.flatten_fields_effect, same, Meaning.flatten_fields_effect]
  simp [Section.ofMeanings, Section.extend, label, fields]

theorem filter_entryCode_eq (scope : Scope) (entries : List (List Fragment)) :
    (entries ++ Meaning.entryCode scope all).filter (fun code => !code.isEmpty) =
      (entries ++ Meaning.entryCode scope others).filter fun code => !code.isEmpty := by
  rw [List.filter_append, List.filter_append, Meaning.filter_entryCode,
    Meaning.filter_entryCode, same]

end Effect

theorem fragments_openSection_applyAll {s : Session} {entries : List (List Fragment)}
    (code : s.fragments = separated entries) (naming : NamingStyle) (meanings : List Meaning)
    (definitions : Array Definition) :
    fragments { s.openSection.applyAll naming meanings with definitions := definitions } =
      separated (entries ++ Meaning.entryCode ⟨naming, s.sections.length⟩ meanings) := by
  have added :
      fragments { s.openSection.applyAll naming meanings with definitions := definitions } =
        s.fragments ++ Meaning.fragments ⟨naming, s.sections.length⟩ meanings := by
    rw [openSection_applyAll]
    simp [fragments, Section.ofMeanings, Section.extend]
  rw [added, code, Meaning.fragments_eq_separated, separated, separated, separated,
    List.flatMap_append]

theorem processDocument_of_follows {settings : Settings} {s : Session}
    {entries : List (List Fragment)} (code : s.fragments = separated entries)
    (filled : FillEntries entries) {one other : Document}
    (follows : Document.Follows settings.services one other) {t : Session}
    (run : s.processDocument settings one = .done t) :
    ∃ u, s.processDocument settings other = .done u ∧
      t.headerBody settings = u.headerBody settings ∧
      t.sourceBody settings = u.sourceBody settings := by
  obtain ⟨all, read, admitted, rfl⟩ := (processDocument_eq_done_iff settings s one t).mp run
  obtain ⟨others, readOther, same⟩ := follows all read
  have sections := sectionOfMeanings_eq same ⟨settings.naming, s.sections.length⟩
  have accepted : s.Admits ((Section.ofMeanings ⟨settings.naming, s.sections.length⟩
      others).symbols settings.naming) := by
    rw [sections] at admitted
    exact admitted
  refine ⟨_, (processDocument_eq_done_iff settings s other _).mpr
    ⟨others, readOther, accepted, rfl⟩, ?_⟩
  have base : Meaning.last? Meaning.baseName? all = Meaning.last? Meaning.baseName? others :=
    congrArg Effect.baseName same
  have bools : Meaning.last? Meaning.bools? all = Meaning.last? Meaning.bools? others :=
    congrArg Effect.bools same
  have headers : all.flatMap Meaning.headerFiles = others.flatMap Meaning.headerFiles :=
    congrArg Effect.headerFiles same
  have sources : all.flatMap Meaning.sourceFiles = others.flatMap Meaning.sourceFiles :=
    congrArg Effect.sourceFiles same
  have fill : ∀ meanings, FillEntries
      (entries ++ Meaning.entryCode ⟨settings.naming, s.sections.length⟩ meanings) := by
    intro meanings own member
    rcases List.mem_append.mp member with old | new
    · exact filled own old
    · exact Meaning.fillEntries_entryCode _ meanings own new
  have codeOne := fragments_openSection_applyAll code settings.naming all
  have codeOther := fragments_openSection_applyAll code settings.naming others
  have resolved : ∀ definitions definitions' : Array Definition,
      resolution settings { s.openSection.applyAll settings.naming all with
        definitions := definitions } =
      resolution settings { s.openSection.applyAll settings.naming others with
        definitions := definitions' } := by
    intro definitions definitions'
    rw [openSection_applyAll, openSection_applyAll, sections, base, bools]
    simp only [resolution, headerFile, fileBase, List.reverse_cons, List.map_append,
      List.map_cons]
  constructor
  · refine headerBody_eq_of_entries (codeOne _) (codeOther _) (fill all) (fill others)
      (filter_entryCode_eq same _ entries) (resolved _ _) ?_
    rw [openSection_applyAll, openSection_applyAll, headers]
  · refine sourceBody_eq_of_entries (codeOne _) (codeOther _) (fill all) (fill others)
      (filter_entryCode_eq same _ entries) (resolved _ _) ?_
    rw [openSection_applyAll, openSection_applyAll, sources]

/-- Documents that follow each other are accepted alike and leave the same module. -/
theorem sameModule_of_follows {settings : Settings} {s : Session}
    (reached : Reachable settings s) {one other : Document}
    (forth : Document.Follows settings.services one other)
    (back : Document.Follows settings.services other one) : SameModule settings s one other := by
  obtain ⟨entries, code, filled⟩ := reached.fragments_eq_separated
  have done : ∀ {document : Document}, (s.processDocument settings document).fault = none →
      s.processDocument settings document =
        .done (s.processDocument settings document).session := fun faultless =>
    Outcome.eq_done (Option.isNone_iff_eq_none.mpr faultless)
  have bodies : (s.processDocument settings one).fault = none →
      (s.processDocument settings other).fault = none ∧
        (s.processDocument settings one).session.headerBody settings =
          (s.processDocument settings other).session.headerBody settings ∧
        (s.processDocument settings one).session.sourceBody settings =
          (s.processDocument settings other).session.sourceBody settings := by
    intro faultless
    obtain ⟨u, run, same⟩ := processDocument_of_follows code filled forth (done faultless)
    rw [run]
    exact ⟨rfl, same⟩
  refine ⟨⟨fun faultless => (bodies faultless).1, fun faultless => ?_⟩,
    fun faultless => (bodies faultless).2.1, fun faultless => (bodies faultless).2.2,
    fun faultless => ?_⟩
  · obtain ⟨t, run, -⟩ := processDocument_of_follows code filled back (done faultless)
    rw [run]
    rfl
  · obtain ⟨-, header, source⟩ := bodies faultless
    rw [render, render, header, source]

/-- In every reachable session, a directive that only sets something may change places with a
neighbour that is not the same directive: the document is accepted as before and gives the same
header and source, digests included. If no other entry of the document is the same directive, it may
stand anywhere. -/
theorem directive_position_irrelevant (settings : Settings) (s : Session)
    (reached : Reachable settings s) (d : Entry) (directive : Directive)
    (named : d.directive? = some directive) (stateOnly : directive.isStateOnly = true) :
    (∀ (before : Document) (e : Entry) (after : Document), e.directive? ≠ some directive →
      SameModule settings s (before ++ d :: e :: after) (before ++ e :: d :: after)) ∧
    ∀ front back front' back' : Document, front ++ back = front' ++ back' →
      (∀ e ∈ front ++ back, e.directive? ≠ some directive) →
      SameModule settings s (front ++ d :: back) (front' ++ d :: back') := by
  constructor
  · intro before e after other
    obtain ⟨forth, back⟩ := Document.follows_swap named stateOnly other before after
    exact sameModule_of_follows reached forth back
  · intro front back front' back' rest others
    apply sameModule_of_follows reached
    · exact Document.follows_move named stateOnly rest others
    · exact Document.follows_move named stateOnly rest.symm (rest ▸ others)

/-- A session whose second call has stopped behind its first field. -/
private def interrupted : Session :=
  (((fresh (.steady .snake)).perform (.steady .snake)
    (.object [("bool:w:Ready", .bool true)])).session.perform (.steady .snake)
    (.object [("string:Title", .string "a"), ("int8:Far", .number (.ofInt 300))])).session

private def label : Entry := ⟨"Section_Prefix", .string "left", none⟩

private def level : Entry := ⟨"int8:w:Level", .number (.ofInt 7), none⟩

private def note : Entry := ⟨"macro:Note", .string "1\n\n\n2", none⟩

theorem directive_position_irrelevant_after_fault :
    Reachable (.steady .snake) interrupted ∧
      (interrupted.processDocument (.steady .snake) [note, label, level]).fault = none ∧
      (interrupted.processDocument (.steady .snake) [note, level, label]).fault = none ∧
      (interrupted.processDocument (.steady .snake) [note, label, level]).session.render
          (.steady .snake) =
        (interrupted.processDocument (.steady .snake) [note, level, label]).session.render
          (.steady .snake) ∧
      (interrupted.processDocument (.steady .snake) [label, note, level]).session.headerBody
          (.steady .snake) =
        (interrupted.processDocument (.steady .snake) [note, level, label]).session.headerBody
          (.steady .snake) := by
  have reached : Reachable (.steady .snake) interrupted :=
    .call (.call .fresh (.steady "v1" 1700000000) _) (.steady "v1" 1700000000) _
  have named : label.directive? = some .sectionPrefix := by decide +kernel
  have others : ∀ e ∈ [note, level], e.directive? ≠ some .sectionPrefix := by decide +kernel
  have accepted : (interrupted.processDocument (.steady .snake)
      [note, label, level]).fault.isNone = true := by decide +kernel
  have inFront : (interrupted.processDocument (.steady .snake)
      [label, note, level]).fault.isNone = true := by decide +kernel
  have place := directive_position_irrelevant (.steady .snake) interrupted reached label
    .sectionPrefix named rfl
  have swapped := place.1 [note] level [] (others level (by simp))
  have moved := place.2 [] [note, level] [note, level] [] rfl others
  rw [Option.isNone_iff_eq_none] at accepted inFront
  exact ⟨reached, accepted, swapped.accepted.mp accepted, swapped.files accepted,
    moved.header inFront⟩

end Session

end AccessorGen
