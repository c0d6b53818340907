/- Code that stays.
   Whatever a call does, it adds behind what is there: the sections of earlier documents keep their
   labels and their code, and the code of a document holds no tags but those of the document itself
   and of the storage of booleans. So the text of every part of the module grows at its end. -/

import AccessorGen.Proofs.Module.Deferral
import AccessorGen.Proofs.Session.Reachable

set_option autoImplicit false
set_option relaxedAutoImplicit false

namespace AccessorGen

/-- The tags that the code of a document's fields may hold: the one for what stands before its own
names, and those for booleans. -/
def Tag.BelongsTo (document : Nat) : Tag → Prop
  | .sectionPrefix index => index = document
  | .boolType | .boolTrue | .boolFalse => True
  | .headerGuard | .headerFile | .boolInclude => False

namespace Fragment

def part (code : Fragment) : Part → Snippet
  | .macros => code.macros
  | .declarations => code.declarations
  | .storage => code.storage
  | .functions => code.functions

/-- Code whose tags all belong to one document. -/
def BelongsTo (document : Nat) (code : Fragment) : Prop :=
  ∀ (part : Part) (t : Tag), .tag t ∈ (code.part part).pieces → t.BelongsTo document

theorem belongsTo_separator (document : Nat) : separator.BelongsTo document := by
  intro part t member
  cases part <;> simp [Fragment.part, separator] at member

end Fragment

def PiecesBelongTo (document : Nat) (pieces : List Piece) : Prop :=
  ∀ t, .tag t ∈ pieces → t.BelongsTo document

namespace PiecesBelongTo

variable {document : Nat}

@[simp] theorem nil : PiecesBelongTo document [] := by
  intro t member
  cases member

@[simp] theorem cons_text (s : String) (pieces : List Piece) :
    PiecesBelongTo document (.text s :: pieces) ↔ PiecesBelongTo document pieces := by
  simp [PiecesBelongTo]

@[simp] theorem cons_tag (t : Tag) (pieces : List Piece) :
    PiecesBelongTo document (.tag t :: pieces) ↔
      t.BelongsTo document ∧ PiecesBelongTo document pieces := by
  simp [PiecesBelongTo]

@[simp] theorem append (front back : List Piece) :
    PiecesBelongTo document (front ++ back) ↔
      PiecesBelongTo document front ∧ PiecesBelongTo document back := by
  simp only [PiecesBelongTo, List.mem_append, or_imp, forall_and]

end PiecesBelongTo

namespace Accessor

/-- A function whose tags all belong to one document. -/
structure BelongsTo (document : Nat) (a : Accessor) : Prop where
  prototype : PiecesBelongTo document a.prototype
  body : PiecesBelongTo document a.body

end Accessor

theorem Fragment.belongsTo_ofStorage {document : Nat} {storage : List Piece}
    {accessors : List Accessor} (own : PiecesBelongTo document storage)
    (functions : ∀ a ∈ accessors, a.BelongsTo document) :
    (Fragment.ofStorage storage accessors).BelongsTo document := by
  intro part t member
  cases part with
  | macros => cases member
  | declarations =>
    rw [Fragment.part, ofStorage, Snippet.tag_mem_ofPieces, List.mem_flatMap] at member
    obtain ⟨a, listed, inside⟩ := member
    rcases List.mem_append.mp inside with named | ending
    · exact (functions a listed).prototype t named
    · simp at ending
  | storage => exact own t (Snippet.tag_mem_ofPieces.mp member)
  | functions =>
    rw [Fragment.part, ofStorage, Snippet.tag_mem_ofPieces, List.mem_flatMap] at member
    obtain ⟨a, listed, inside⟩ := member
    have both := functions a listed
    have whole : PiecesBelongTo document a.definition := by
      simp [Accessor.definition, both.prototype, both.body]
    exact whole t inside

namespace Scope

variable (scope : Scope) (d : Descriptor)

theorem belongsTo_qualified (name : String) :
    PiecesBelongTo scope.document (scope.qualified name) := by
  simp [qualified, Tag.BelongsTo]

theorem belongsTo_scalar {cType value : Piece} (type : PiecesBelongTo scope.document [cType])
    (initial : PiecesBelongTo scope.document [value]) :
    (scope.scalar d cType value).BelongsTo scope.document := by
  have storage : PiecesBelongTo scope.document (scope.storage d) := scope.belongsTo_qualified _
  have named : ∀ verb, PiecesBelongTo scope.document (scope.function verb d) := fun verb =>
    scope.belongsTo_qualified _
  have joined : ∀ {piece : Piece} {rest : List Piece}, PiecesBelongTo scope.document [piece] →
      (PiecesBelongTo scope.document (piece :: rest) ↔ PiecesBelongTo scope.document rest) := by
    intro piece rest own
    rw [← List.singleton_append, PiecesBelongTo.append]
    exact and_iff_right own
  have get : (scope.scalarGet d cType).BelongsTo scope.document := by
    constructor <;> simp [scalarGet, joined type, storage, named]
  have set : (scope.scalarSet d cType).BelongsTo scope.document := by
    constructor <;> simp [scalarSet, joined type, storage, named]
  apply Fragment.belongsTo_ofStorage
  · simp [joined type, joined initial, storage]
  · intro a listed
    cases access : d.access with
    | readOnly => simp_all
    | writable =>
      rw [access] at listed
      rcases List.mem_pair.mp listed with rfl | rfl
      · exact get
      · exact set

theorem belongsTo_string (value : String) :
    (scope.string d value).BelongsTo scope.document := by
  have storage : PiecesBelongTo scope.document (scope.storage d) := scope.belongsTo_qualified _
  have named : ∀ verb, PiecesBelongTo scope.document (scope.function verb d) := fun verb =>
    scope.belongsTo_qualified _
  have len : (scope.stringLen d).BelongsTo scope.document := by
    constructor <;> simp [stringLen, storage, named]
  have ptr : (scope.stringPtr d).BelongsTo scope.document := by
    constructor <;> simp [stringPtr, storage, named]
  have get : (scope.stringGet d).BelongsTo scope.document := by
    constructor <;> simp [stringGet, storage, named, Tag.BelongsTo]
  have set : (scope.stringSet d).BelongsTo scope.document := by
    constructor <;> simp [stringSet, storage, named, Tag.BelongsTo]
  apply Fragment.belongsTo_ofStorage
  · simp [storage]
  · intro a listed
    cases access : d.access with
    | readOnly =>
      rw [access] at listed
      rcases List.mem_pair.mp listed with rfl | rfl
      · exact len
      · exact ptr
    | writable =>
      rw [access] at listed
      simp only [List.mem_cons, List.not_mem_nil, or_false] at listed
      rcases listed with rfl | rfl | rfl | rfl
      · exact len
      · exact ptr
      · exact get
      · exact set

theorem belongsTo_macroDefinition (text : String) :
    (scope.macroDefinition d text).BelongsTo scope.document := by
  have named := scope.belongsTo_qualified (scope.naming.macroName d.name)
  intro part t member
  cases part with
  | macros =>
    have whole : PiecesBelongTo scope.document (.text "#define " ::
        scope.qualified (scope.naming.macroName d.name) ++
          [.text (d.params.getD "" ++ " " ++ text ++ "\n")]) := by
      simp [named]
    exact whole t (Snippet.tag_mem_ofPieces.mp member)
  | _ => cases member

end Scope

theorem ModuleField.belongsTo_code (scope : Scope) (field : ModuleField) :
    (field.code scope).BelongsTo scope.document := by
  rw [code]
  cases field.content with
  | number cType literal => exact scope.belongsTo_scalar _ (by simp) (by simp)
  | boolean b =>
    refine scope.belongsTo_scalar _ (by simp [Tag.BelongsTo]) ?_
    cases b <;> simp [Tag.BelongsTo]
  | string value => exact scope.belongsTo_string _ value
  | replacement text => exact scope.belongsTo_macroDefinition _ text

theorem Meaning.belongsTo_fragments (scope : Scope) (meanings : List Meaning) :
    ∀ code ∈ Meaning.fragments scope meanings, code.BelongsTo scope.document := by
  intro code member
  obtain ⟨meaning, -, inside⟩ := List.mem_flatMap.mp member
  rcases List.mem_append.mp inside with own | separator
  · obtain ⟨field, -, rfl⟩ := List.mem_map.mp own
    exact field.belongsTo_code scope
  · obtain rfl := List.mem_singleton.mp separator
    exact Fragment.belongsTo_separator scope.document

namespace Session

def buffer (s : Session) (part : Part) : List Snippet :=
  s.fragments.map fun code => code.part part

/-- The text of one part of the module, before blank lines are collapsed. -/
def partText (settings : Settings) (s : Session) (part : Part) : String :=
  (Snippet.join (s.buffer part)).resolve (s.resolution settings)

/-- Every document has captured code with its own tags only. -/
def Indexed (s : Session) : Prop :=
  ∀ (index : Nat) (sec : Section), s.sections.reverse[index]? = some sec →
    ∀ code ∈ sec.fragments.toList, code.BelongsTo index

/-- A session in which `s` has been continued. -/
structure Extends (s t : Session) : Prop where
  sections : s.sections <:+ t.sections
  headerIncludes : s.headerIncludes <+: t.headerIncludes
  sourceIncludes : s.sourceIncludes <+: t.sourceIncludes

theorem Extends.refl (s : Session) : s.Extends s :=
  ⟨List.suffix_rfl, List.prefix_rfl, List.prefix_rfl⟩

theorem Extends.trans {s t u : Session} (first : s.Extends t) (second : t.Extends u) :
    s.Extends u where
  sections := first.sections.trans second.sections
  headerIncludes := first.headerIncludes.trans second.headerIncludes
  sourceIncludes := first.sourceIncludes.trans second.sourceIncludes

theorem sections_processDocument (settings : Settings) (s : Session) (document : Document) :
    ∃ meanings, (s.processDocument settings document).session.sections =
      Section.ofMeanings ⟨settings.naming, s.sections.length⟩ meanings :: s.sections := by
  obtain ⟨meanings, processed⟩ := session_processDocument settings s document
  refine ⟨meanings, ?_⟩
  rw [processed, openSection_applyAll]

/-- Whether a document is accepted or not, it only adds to the session. -/
theorem extends_processDocument (settings : Settings) (s : Session) (document : Document) :
    s.Extends (s.processDocument settings document).session := by
  obtain ⟨meanings, processed⟩ := session_processDocument settings s document
  rw [processed, openSection_applyAll]
  exact ⟨List.suffix_cons _ _, List.prefix_append _ _, List.prefix_append _ _⟩

theorem extends_perform (settings : Settings) (s : Session) {call : Call}
    (proper : call ≠ .reset) : s.Extends (s.perform settings call).session := by
  have step : ∀ t document, s.Extends t →
      s.Extends (t.processDocument settings document).session := by
    intro t document before
    exact before.trans (extends_processDocument settings t document)
  exact keeps_perform step proper (Extends.refl s)

theorem Indexed.processDocument {s : Session} (indexed : s.Indexed) (settings : Settings)
    (document : Document) : (s.processDocument settings document).session.Indexed := by
  obtain ⟨meanings, sections⟩ := sections_processDocument settings s document
  intro index sec place code member
  rw [sections, List.reverse_cons] at place
  have bound : index < s.sections.length + 1 := by
    have inside := (List.getElem?_eq_some_iff.mp place).1
    simpa using inside
  by_cases earlier : index < s.sections.length
  · rw [List.getElem?_append_left (by simpa using earlier)] at place
    exact indexed index sec place code member
  · -- The new section is the last one.
    obtain rfl : index = s.sections.length := by omega
    have last := List.getElem?_concat_length (l := s.sections.reverse)
      (a := Section.ofMeanings ⟨settings.naming, s.sections.length⟩ meanings)
    rw [List.length_reverse, place] at last
    obtain rfl := Option.some.inj last
    simp only [Section.ofMeanings, Section.extend, Array.toList_append, List.nil_append] at member
    exact Meaning.belongsTo_fragments _ meanings code member

theorem Reachable.indexed {settings : Settings} {s : Session} (reached : Reachable settings s) :
    s.Indexed := by
  refine reached.invariant ?_ fun s services document holds => ?_
  · intro index sec place
    simp [Session.fresh] at place
  · exact holds.processDocument _ document

theorem getElem?_prefixes (settings : Settings) {s : Session} {index : Nat} {sec : Section}
    (place : s.sections.reverse[index]? = some sec) :
    (s.resolution settings).prefixes[index]? = some (labelPrefix settings.naming sec.label) := by
  simp only [resolution, List.getElem?_toArray, List.getElem?_map, place, Option.map_some]

theorem Extends.reverse_sections {s t : Session} (further : s.Extends t) :
    s.sections.reverse <+: t.sections.reverse :=
  List.reverse_prefix.mpr further.sections

theorem Extends.getElem?_sections {s t : Session} (further : s.Extends t) {index : Nat}
    {sec : Section} (place : s.sections.reverse[index]? = some sec) :
    t.sections.reverse[index]? = some sec := by
  obtain ⟨new, sections⟩ := further.reverse_sections
  rw [← sections, List.getElem?_append_left, place]
  exact (List.getElem?_eq_some_iff.mp place).1

theorem Extends.fragments {s t : Session} (further : s.Extends t) :
    s.fragments <+: t.fragments := by
  obtain ⟨new, sections⟩ := further.reverse_sections
  refine ⟨new.flatMap fun sec => sec.fragments.toList, ?_⟩
  rw [Session.fragments, Session.fragments, ← sections, List.flatMap_append]

theorem Extends.buffer {s t : Session} (further : s.Extends t) (part : Part) :
    s.buffer part <+: t.buffer part :=
  further.fragments.map _

/-- The code of a session has the same text in every continuation in which booleans are stored in
the same way. -/
theorem Extends.resolve_part {settings : Settings} {s t : Session} (further : s.Extends t)
    (indexed : s.Indexed) (bools : s.bools = t.bools) {code : Fragment}
    (member : code ∈ s.fragments) (part : Part) :
    (code.part part).resolve (t.resolution settings) =
      (code.part part).resolve (s.resolution settings) := by
  obtain ⟨sec, listed, inside⟩ := List.mem_flatMap.mp member
  obtain ⟨index, place⟩ := List.mem_iff_getElem?.mp listed
  have later := further.getElem?_sections place
  apply Snippet.resolve_congr
  intro tag holds
  have own := indexed index sec place code inside part tag holds
  cases tag with
  | sectionPrefix document =>
    obtain rfl : document = index := own
    simp only [Resolution.tag, getElem?_prefixes settings place, getElem?_prefixes settings later]
  | boolType | boolTrue | boolFalse => simp [Resolution.tag, resolution, bools]
  | headerGuard | headerFile | boolInclude => cases own

theorem Extends.partText {settings : Settings} {s t : Session} (further : s.Extends t)
    (indexed : s.Indexed) (bools : s.bools = t.bools) (part : Part) :
    ∃ more, t.partText settings part = s.partText settings part ++ more := by
  obtain ⟨new, longer⟩ := further.buffer part
  have kept : (Snippet.join (s.buffer part)).resolve (t.resolution settings) =
      (Snippet.join (s.buffer part)).resolve (s.resolution settings) := by
    apply Snippet.resolve_join_congr
    intro snippet listed
    obtain ⟨code, member, rfl⟩ := List.mem_map.mp listed
    exact further.resolve_part indexed bools member part
  refine ⟨(Snippet.join new).resolve (t.resolution settings), ?_⟩
  rw [Session.partText, Session.partText, ← longer, Snippet.resolve_join_append, kept]

theorem document_processEntries (settings : Settings) (document : Document) (s : Session) :
    (processEntries settings document s.openSection).session.sections.length =
        s.sections.length + 1 ∧
      (processEntries settings document s.openSection).session.document = s.sections.length := by
  obtain ⟨meanings, entries⟩ := session_processEntries settings document s.openSection
  have count : (processEntries settings document s.openSection).session.sections.length =
      s.sections.length + 1 := by
    rw [entries, openSection_applyAll, List.length_cons]
  refine ⟨count, ?_⟩
  rw [Session.document, count]
  omega

/-- Captured code is append-only. In every reachable session, the code of a document holds no prefix
tag but that of the document itself, which therefore always finds its prefix; and while entries are
processed, their document is the newest. Every further call, also one that ends with a fault, keeps
the labels of the documents before it and adds to the code and to the included files at their ends,
and unless it changes how booleans are stored, so does the text of every part of the module. -/
theorem captured_code_append_only (settings : Settings) (s : Session)
    (reached : Reachable settings s) :
    (∀ (index : Nat) (sec : Section), s.sections.reverse[index]? = some sec →
      ∀ code ∈ sec.fragments.toList, ∀ (part : Part) (document : Nat),
        .tag (.sectionPrefix document) ∈ (code.part part).pieces →
          document = index ∧ document < s.sections.length ∧
            (s.resolution settings).prefixes[document]? =
              some (labelPrefix settings.naming sec.label)) ∧
    (∀ (services : Services) (entries : Document) (t : Session),
      (processEntries (settings.serving services) entries s.openSection).session = t →
        t.sections.length = s.sections.length + 1 ∧ t.document = s.sections.length) ∧
    ∀ (services : Services) (call : Call) (t : Session), call ≠ .reset →
      (s.perform (settings.serving services) call).session = t →
        (s.sections.reverse.map Section.label <+: t.sections.reverse.map Section.label) ∧
        (∀ part, s.buffer part <+: t.buffer part) ∧
        s.headerIncludes <+: t.headerIncludes ∧
        s.sourceIncludes <+: t.sourceIncludes ∧
        (s.bools = t.bools →
          ∀ part, ∃ more, t.partText settings part = s.partText settings part ++ more) := by
  refine ⟨?_, ?_, ?_⟩
  · intro index sec place code member part document holds
    obtain rfl : document = index := reached.indexed index sec place code member part _ holds
    have bound := (List.getElem?_eq_some_iff.mp place).1
    rw [List.length_reverse] at bound
    exact ⟨rfl, bound, getElem?_prefixes settings place⟩
  · rintro services entries t rfl
    exact document_processEntries (settings.serving services) entries s
  · rintro services call t proper rfl
    have further := extends_perform (settings.serving services) s proper
    exact ⟨further.reverse_sections.map _, further.buffer, further.headerIncludes,
      further.sourceIncludes, further.partText reached.indexed⟩

/-- A session whose second call has stopped behind its first field. -/
private def halted : Session :=
  (((fresh (.steady .snake)).perform (.steady .snake)
    (.object [("bool:w:Ready", .bool true), ("Section_Prefix", .string "left")])).session.perform
    (.steady .snake)
    (.object [("string:Title", .string "a"), ("int8:Far", .number (.ofInt 300))])).session

/-- A call that stops as well, behind a label of its own. -/
private def unfinished : Call :=
  .object [("uint8:Level", .number (.ofInt 7)), ("Section_Prefix", .string "right"),
    ("Include_Header", .array [.string "a.h"]), ("Unknown", .null)]

theorem captured_code_append_only_after_faults :
    Reachable (.steady .snake) halted ∧
      ∃ t, (halted.perform (.steady .snake) unfinished).session = t ∧
        (halted.perform (.steady .snake) unfinished).fault.isSome = true ∧
        halted.sections.reverse.map Section.label = ["left", ""] ∧
        t.sections.reverse.map Section.label = ["left", "", "right"] ∧
        (halted.sections.reverse.map Section.label <+: t.sections.reverse.map Section.label) ∧
        (∀ part, halted.buffer part <+: t.buffer part) ∧
        halted.headerIncludes <+: t.headerIncludes ∧
        ∀ part, ∃ more, t.partText (.steady .snake) part =
          halted.partText (.steady .snake) part ++ more := by
  have reached : Reachable (.steady .snake) halted :=
    .call (.call .fresh (.steady "v1" 1700000000) _) (.steady "v1" 1700000000) _
  have bools : halted.bools = (halted.perform (.steady .snake) unfinished).session.bools := by
    decide +kernel
  obtain ⟨-, -, calls⟩ := captured_code_append_only (.steady .snake) halted reached
  obtain ⟨labels, code, header, -, text⟩ :=
    calls (.steady "v1" 1700000000) unfinished _ (by intro reset; cases reset) rfl
  exact ⟨reached, _, rfl, by decide +kernel, by decide +kernel, by decide +kernel, labels, code,
    header, text bools⟩

end Session

end AccessorGen
