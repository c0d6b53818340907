/- Where registered symbols come from.
   A document that fails leaves its code behind, and of its symbols all, some or none. But whatever
   is registered belongs to a field whose code has been taken into the module, and so a clash always
   has two fields of the module behind it. -/

import AccessorGen.Proofs.Module.AppendOnly
import AccessorGen.Proofs.Session.ClashOrigin
import AccessorGen.Proofs.Session.FailingEntry

set_option autoImplicit false
set_option relaxedAutoImplicit false

namespace AccessorGen

/-- A field that has been captured, and the index of the document that it stands in. -/
structure Capture where
  document : Nat
  field : CapturedField
  deriving DecidableEq, Repr

namespace Capture

/-- The field has this code in its document, for a value that its key admits. -/
structure WrittenAs (naming : NamingStyle) (capture : Capture) (code : Fragment) : Prop where
  parsed : Descriptor.parse capture.field.key = .ok capture.field.descriptor
  emitted : ∃ (value : Json.Value) (literal : Option String) (checked : FieldValue),
    FieldValue.validate capture.field.key capture.field.descriptor value literal = .ok checked ∧
    Scope.emit ⟨naming, capture.document⟩ capture.field.key capture.field.descriptor checked =
      .ok code

/-- The symbol is one of the field, behind what stands before the names of its document. -/
def Defines (settings : Settings) (s : Session) (capture : Capture) (symbol : String) : Prop :=
  ∃ own ∈ settings.naming.symbols capture.field.descriptor,
    symbol = (s.resolution settings).tag (.sectionPrefix capture.document) ++ own

end Capture

namespace Session

def captures (s : Session) : List Capture :=
  (s.sections.reverse.mapIdx fun document sec =>
    sec.fields.toList.map (Capture.mk document)).flatten

def fieldCode (s : Session) : List Fragment :=
  s.fragments.filter (· ≠ .separator)

/-- Captured fields and code are in step, and every registered symbol is defined by a captured field
with the registered key. -/
structure Traced (settings : Settings) (s : Session) : Prop where
  code : List.Forall₂ (Capture.WrittenAs settings.naming) s.captures s.fieldCode
  definitions : ∀ definition ∈ s.definitions.toList, ∃ capture ∈ s.captures,
    capture.field.key = definition.key ∧ capture.Defines settings s definition.symbol

theorem captures_of_sections {s t : Session} {sec : Section}
    (sections : t.sections = sec :: s.sections) :
    t.captures = s.captures ++ sec.fields.toList.map (Capture.mk s.sections.length) := by
  simp [captures, sections, List.mapIdx_append]

theorem fieldCode_of_sections {s t : Session} {sec : Section}
    (sections : t.sections = sec :: s.sections) :
    t.fieldCode = s.fieldCode ++ sec.fragments.toList.filter (· ≠ .separator) := by
  simp [fieldCode, fragments, sections]

theorem exists_section_of_mem_captures {s : Session} {capture : Capture}
    (member : capture ∈ s.captures) :
    ∃ sec, s.sections.reverse[capture.document]? = some sec := by
  obtain ⟨group, listed, inside⟩ := List.mem_flatten.mp member
  obtain ⟨document, bound, rfl⟩ := List.mem_mapIdx.mp listed
  obtain ⟨field, -, rfl⟩ := List.mem_map.mp inside
  exact ⟨_, List.getElem?_eq_getElem bound⟩

theorem defines_of_extends {settings : Settings} {s t : Session} (further : s.Extends t)
    {capture : Capture} (member : capture ∈ s.captures) {symbol : String}
    (defines : capture.Defines settings s symbol) : capture.Defines settings t symbol := by
  obtain ⟨sec, place⟩ := exists_section_of_mem_captures member
  have later := further.getElem?_sections place
  have same : (t.resolution settings).tag (.sectionPrefix capture.document) =
      (s.resolution settings).tag (.sectionPrefix capture.document) := by
    rw [Resolution.tag, Resolution.tag, getElem?_prefixes settings place,
      getElem?_prefixes settings later]
  obtain ⟨own, listed, named⟩ := defines
  exact ⟨own, listed, by rw [same, named]⟩

end Session

namespace ModuleField

theorem code_ne_separator (scope : Scope) (field : ModuleField) :
    field.code scope ≠ .separator := by
  intro same
  have macros := congrArg (fun code : Fragment => code.macros.pieces) same
  have plain : Fragment.separator.macros.pieces = [.text "\n"] := rfl
  rw [plain] at macros
  unfold code Scope.code at macros
  cases content : field.content with
  | replacement text =>
    have tagged : .tag (.sectionPrefix scope.document) ∈
        (scope.macroDefinition field.descriptor text).macros.pieces := by
      rw [Scope.macroDefinition, Snippet.tag_mem_ofPieces]
      simp [Scope.qualified]
    rw [content] at macros
    rw [macros] at tagged
    simp at tagged
  | _ =>
    rw [content] at macros
    cases macros

/-- A field that has been read has its code in every document. -/
theorem writtenAs_code (naming : NamingStyle) (document : Nat) {key : String}
    {value : Json.Value} {literal : Option String} {field : ModuleField}
    (made : read key value literal = .ok field) :
    Capture.WrittenAs naming ⟨document, field.captured⟩ (field.code ⟨naming, document⟩) := by
  obtain ⟨d, parsed, checks⟩ := bind_eq_ok_iff.mp made
  obtain ⟨checked, accepted, fits⟩ := bind_eq_ok_iff.mp checks
  split at fits
  · rename_i content held
    obtain rfl := Except.ok.inj fits
    refine ⟨parsed, value, literal, checked, accepted, ?_⟩
    have emits := Scope.emit_eq ⟨naming, document⟩ key d checked
    rw [held] at emits
    exact emits
  · cases fits

end ModuleField

namespace Meaning

theorem filter_fragments (scope : Scope) (meanings : List Meaning) :
    (fragments scope meanings).filter (· ≠ .separator) =
      (allFields meanings).map (ModuleField.code scope) := by
  induction meanings with
  | nil => rfl
  | cons meaning rest ih =>
    have own : (meaning.newFields.map (ModuleField.code scope)).filter (· ≠ .separator) =
        meaning.newFields.map (ModuleField.code scope) := by
      rw [List.filter_eq_self]
      intro code member
      obtain ⟨field, -, rfl⟩ := List.mem_map.mp member
      exact decide_eq_true (field.code_ne_separator scope)
    rw [fragments, allFields] at *
    simp only [List.flatMap_cons, List.filter_append, List.map_append]
    rw [own, ih]
    simp

end Meaning

theorem Entry.read_of_meaning {services : Services} {entry : Entry} {fields : List ModuleField}
    (meant : entry.meaning services = .ok (.fields fields)) :
    ∀ field ∈ fields, ∃ key value literal, ModuleField.read key value literal = .ok field := by
  intro field member
  obtain ⟨d, parsed, meant⟩ := bind_eq_ok_iff.mp meant
  split at meant
  · split at meant
    · cases meant
    · rcases Directive.meaning_cases meant with ⟨-, set⟩ | ⟨-, _, same, made⟩
      · cases set
      · obtain rfl := Meaning.fields.inj same
        exact made field member
  · obtain ⟨own, checked, made⟩ := bind_eq_ok_iff.mp meant
    obtain rfl := Meaning.fields.inj (Except.ok.inj made)
    obtain rfl := List.mem_singleton.mp member
    refine ⟨entry.key, entry.value, entry.literal, ?_⟩
    rw [ModuleField.read, parsed]
    exact checked

theorem Document.read_of_meanings {services : Services} {document : Document}
    {meanings : List Meaning} (meant : document.meanings services = .ok meanings) :
    ∀ field ∈ Meaning.allFields meanings,
      ∃ key value literal, ModuleField.read key value literal = .ok field := by
  intro field member
  obtain ⟨meaning, inside, own⟩ := List.mem_flatMap.mp member
  obtain ⟨entry, -, made⟩ := exists_of_mem_mapM meant inside
  cases meaning with
  | fields added => exact Entry.read_of_meaning made field own
  | _ => cases own

namespace Session

/-- What a document does, whether it is accepted or not: it adds a section with its fields and
their code, and registers symbols of this section from the front. -/
structure Adds (settings : Settings) (s t : Session) (sec : Section) (new : List Definition) :
    Prop where
  sections : t.sections = sec :: s.sections
  code : List.Forall₂ (Capture.WrittenAs settings.naming)
    (sec.fields.toList.map (Capture.mk s.sections.length))
    (sec.fragments.toList.filter (· ≠ .separator))
  definitions : t.definitions.toList = s.definitions.toList ++ new
  own : new <+: sectionDefinitions settings.naming sec

private theorem adds_of_meanings {settings : Settings} {services : Services} {s t : Session}
    {document : Document} {meanings : List Meaning} {new : List Definition}
    (meant : document.meanings services = .ok meanings)
    (sections : t.sections =
      Section.ofMeanings ⟨settings.naming, s.sections.length⟩ meanings :: s.sections)
    (definitions : t.definitions.toList = s.definitions.toList ++ new)
    (own : new <+: sectionDefinitions settings.naming
      (Section.ofMeanings ⟨settings.naming, s.sections.length⟩ meanings)) :
    Adds settings s t (Section.ofMeanings ⟨settings.naming, s.sections.length⟩ meanings) new where
  sections := sections
  code := by
    simp only [Section.ofMeanings, Section.extend, Array.toList_append, List.nil_append,
      Meaning.filter_fragments, List.map_map]
    rw [List.forall₂_map_left_iff, List.forall₂_map_right_iff, List.forall₂_same]
    intro field member
    obtain ⟨key, value, literal, made⟩ := Document.read_of_meanings meant field member
    exact ModuleField.writtenAs_code settings.naming s.sections.length made
  definitions := definitions
  own := own

/-- A document adds a section. If it ends with a clash, the symbol of one of its definitions has
been registered before it, or belongs to an earlier definition of its own. -/
theorem adds_processDocument (settings : Settings) (s : Session) (document : Document) :
    ∃ sec new, Adds settings s (s.processDocument settings document).session sec new ∧
      ∀ fault, (s.processDocument settings document).fault = some fault →
        fault.isClash = true → ∃ clash old,
          fault = .symbolClash clash.key clash.symbol old.key ∧ old.symbol = clash.symbol ∧
          (old ∈ s.definitions.toList ∧ clash ∈ sectionDefinitions settings.naming sec ∨
            List.Sublist [old, clash] (sectionDefinitions settings.naming sec)) := by
  rw [processDocument]
  cases ended : (processEntries settings document s.openSection).fault with
  | some cause =>
    have stopped := Outcome.eq_stopped ended
    obtain ⟨front, entry, rest, -, before, -⟩ := exists_failing_entry stopped
    obtain ⟨meanings, meant, run⟩ := (processEntries_eq_done_iff _ _ _ _).mp before
    rw [openSection_applyAll] at run
    rw [stopped, Outcome.andThen_fault, ← run]
    refine ⟨_, [], adds_of_meanings meant rfl (List.append_nil _).symm List.nil_prefix, ?_⟩
    intro fault failed genuine
    obtain rfl := Option.some.inj failed
    rw [noClash_processEntries settings document s.openSection cause ended] at genuine
    cases genuine
  | none =>
    have done := Outcome.eq_done (Option.isNone_iff_eq_none.mpr ended)
    obtain ⟨meanings, meant, run⟩ := (processEntries_eq_done_iff _ _ _ _).mp done
    rw [openSection_applyAll] at run
    rw [done, Outcome.andThen_done, ← run, register]
    dsimp only
    obtain ⟨front, back, shape, session, stops⟩ := define_cases
      (sectionDefinitions settings.naming
        (Section.ofMeanings ⟨settings.naming, s.sections.length⟩ meanings)) _
    refine ⟨_, front, adds_of_meanings meant ?_ ?_ ⟨back, shape.symm⟩, ?_⟩
    · rw [session]
    · rw [session, Array.toList_append]
    · intro fault failed genuine
      obtain ⟨clash, rest, old, rfl, named, same, known⟩ := stops fault failed
      refine ⟨clash, old, named, same, ?_⟩
      rw [shape]
      rcases known with before | within
      · exact .inl ⟨before, List.mem_append_right front List.mem_cons_self⟩
      · have pair := List.Sublist.append (List.singleton_sublist.mpr within)
          ((List.nil_sublist rest).cons_cons clash)
        exact .inr pair

/-- Two of the results for a list stand in order: they are those of two members in order, or both
belong to one member. -/
private theorem sublist_pair_flatMap {α β : Type} {f : α → List β} {xs : List α} {first second : β}
    (pair : List.Sublist [first, second] (xs.flatMap f)) :
    (∃ x y, List.Sublist [x, y] xs ∧ first ∈ f x ∧ second ∈ f y) ∨
      ∃ x ∈ xs, List.Sublist [first, second] (f x) := by
  induction xs with
  | nil => cases pair
  | cons x xs ih =>
    rw [List.flatMap_cons, List.sublist_append_iff] at pair
    obtain ⟨front, back, shape, inHead, inTail⟩ := pair
    match front, shape with
    | [], shape =>
      rw [← List.nil_append back, ← shape] at inTail
      rcases ih inTail with ⟨y, z, ordered, own⟩ | ⟨y, member, both⟩
      · exact .inl ⟨y, z, ordered.cons x, own⟩
      · exact .inr ⟨y, List.mem_cons_of_mem x member, both⟩
    | [_], shape =>
      obtain ⟨rfl, rfl⟩ : first = _ ∧ [second] = back := by simpa using shape
      obtain ⟨y, member, own⟩ := List.mem_flatMap.mp (List.singleton_sublist.mp inTail)
      exact .inl ⟨x, y, (List.singleton_sublist.mpr member).cons_cons x,
        List.singleton_sublist.mp inHead, own⟩
    | _ :: _ :: more, shape =>
      obtain ⟨rfl, rfl, rfl, -⟩ : first = _ ∧ second = _ ∧ more = [] ∧ back = [] := by
        simpa using shape
      exact .inr ⟨x, List.mem_cons_self, inHead⟩

namespace Adds

variable {settings : Settings} {s t : Session} {sec : Section} {new : List Definition}

theorem captures (adds : Adds settings s t sec new) :
    t.captures = s.captures ++ sec.fields.toList.map (Capture.mk s.sections.length) :=
  captures_of_sections adds.sections

theorem defines (adds : Adds settings s t sec new) {field : CapturedField}
    {definition : Definition}
    (listed : definition ∈ (settings.naming.symbols field.descriptor).map fun symbol =>
      Definition.mk (labelPrefix settings.naming sec.label ++ symbol) field.key) :
    field.key = definition.key ∧
      Capture.Defines settings t ⟨s.sections.length, field⟩ definition.symbol := by
  obtain ⟨own, member, rfl⟩ := List.mem_map.mp listed
  refine ⟨rfl, own, member, ?_⟩
  have place : t.sections.reverse[s.sections.length]? = some sec := by
    rw [adds.sections, List.reverse_cons]
    simp
  rw [Resolution.tag, getElem?_prefixes settings place]
  rfl

theorem traced (adds : Adds settings s t sec new) (further : s.Extends t)
    (before : s.Traced settings) : t.Traced settings where
  code := by
    rw [adds.captures, fieldCode_of_sections adds.sections]
    exact List.rel_append before.code adds.code
  definitions := by
    intro definition member
    rw [adds.definitions, List.mem_append] at member
    rw [adds.captures]
    rcases member with old | recent
    · obtain ⟨capture, captured, key, defines⟩ := before.definitions definition old
      exact ⟨capture, List.mem_append_left _ captured, key,
        defines_of_extends further captured defines⟩
    · obtain ⟨field, listed, inside⟩ := List.mem_flatMap.mp (adds.own.subset recent)
      obtain ⟨key, defines⟩ := adds.defines inside
      exact ⟨⟨s.sections.length, field⟩, List.mem_append_right _ (List.mem_map_of_mem listed), key,
        defines⟩

end Adds

theorem traced_processDocument {settings : Settings} {s : Session} (before : s.Traced settings)
    (document : Document) : (s.processDocument settings document).session.Traced settings := by
  obtain ⟨sec, new, adds, -⟩ := adds_processDocument settings s document
  exact adds.traced (extends_processDocument settings s document) before

theorem traced_serving {settings : Settings} {services : Services} {s : Session} :
    s.Traced (settings.serving services) ↔ s.Traced settings :=
  ⟨fun traced => ⟨traced.code, traced.definitions⟩, fun traced => ⟨traced.code, traced.definitions⟩⟩

theorem Reachable.traced {settings : Settings} {s : Session} (reached : Reachable settings s) :
    s.Traced settings := by
  refine reached.invariant ?_ ?_
  · exact ⟨.nil, by simp [Session.fresh]⟩
  · intro s services document before
    exact traced_serving.mp (traced_processDocument (traced_serving.mpr before) document)

/-- In a traced session, a document that ends with a clash leaves two captured fields with the
symbol of the clash. -/
theorem exists_captures_of_clash {settings : Settings} {s : Session} (before : s.Traced settings)
    {document : Document} {key symbol other : String}
    (clash : (s.processDocument settings document).fault = some (.symbolClash key symbol other)) :
    ∃ first second,
      List.Sublist [first, second] (s.processDocument settings document).session.captures ∧
      first.field.key = other ∧ second.field.key = key ∧
      second.document = (s.processDocument settings document).session.document ∧
      first.Defines settings (s.processDocument settings document).session symbol ∧
      second.Defines settings (s.processDocument settings document).session symbol := by
  obtain ⟨sec, new, adds, stops⟩ := adds_processDocument settings s document
  have further := extends_processDocument settings s document
  obtain ⟨later, earlier, named, same, known⟩ := stops _ clash rfl
  obtain ⟨rfl, rfl, rfl⟩ := Fault.symbolClash.inj named
  have newest : (s.processDocument settings document).session.document = s.sections.length := by
    rw [Session.document, adds.sections, List.length_cons, Nat.add_sub_cancel]
  rw [adds.captures, newest]
  rcases known with ⟨old, own⟩ | pair
  · obtain ⟨capture, captured, oldKey, oldDefines⟩ := before.definitions earlier old
    obtain ⟨field, listed, inside⟩ := List.mem_flatMap.mp own
    obtain ⟨newKey, newDefines⟩ := adds.defines inside
    have ordered := List.Sublist.append (List.singleton_sublist.mpr captured)
      (List.singleton_sublist.mpr (List.mem_map_of_mem (f := Capture.mk s.sections.length) listed))
    rw [same] at oldDefines
    exact ⟨capture, _, ordered, oldKey, newKey, rfl,
      defines_of_extends further captured oldDefines, newDefines⟩
  · rcases sublist_pair_flatMap pair with
      ⟨first, second, ordered, inFirst, inSecond⟩ | ⟨field, -, both⟩
    · obtain ⟨oldKey, oldDefines⟩ := adds.defines inFirst
      obtain ⟨newKey, newDefines⟩ := adds.defines inSecond
      rw [same] at oldDefines
      exact ⟨⟨_, first⟩, ⟨_, second⟩,
        (ordered.map (Capture.mk s.sections.length)).trans (List.sublist_append_right _ _), oldKey,
        newKey, rfl, oldDefines, newDefines⟩
    · -- Both cannot belong to one field, which would have the symbol twice.
      have symbols := both.map Definition.symbol
      rw [List.map_map] at symbols
      have apart := (nodup_labelled_symbols settings.naming sec.label field.descriptor).sublist
        symbols
      simp [same] at apart

theorem isClash_register (settings : Settings) (s : Session) {fault : Fault}
    (refused : (s.register settings).fault = some fault) : fault.isClash = true := by
  rw [register] at refused
  split at refused
  · cases refused
  · rename_i active closed sections
    obtain ⟨front, back, -, -, stops⟩ :=
      define_cases (sectionDefinitions settings.naming active) s
    obtain ⟨clash, rest, old, -, rfl, -⟩ := stops fault refused
    rfl

/-- Clashes are never spurious. In every reachable session, also after calls that have failed, each
registered symbol is defined by a captured field with the registered key, whose code is part of the
module. The registry refuses a document by a clash only, and whenever a call ends with a clash, two
captured fields of the module define the symbol: the later one, in the document that is refused, has
the key that is named first, and the earlier one has the other key. -/
theorem clashes_never_spurious (settings : Settings) (s : Session)
    (reached : Reachable settings s) :
    s.Traced settings ∧
    (∀ (u : Session) (fault : Fault), (u.register settings).fault = some fault →
      ∃ key symbol other, fault = .symbolClash key symbol other ∧
        fault.message = Fault.quoted key ++ ": generates the same C symbol " ++
          Fault.quoted symbol ++ " as " ++ Fault.quoted other) ∧
    ∀ (services : Services) (call : Call) (t : Session) (key symbol other : String),
      s.perform (settings.serving services) call = ⟨t, some (.symbolClash key symbol other)⟩ →
        t.Traced settings ∧ ∃ first second : Capture,
          List.Sublist [first, second] t.captures ∧
          first.field.key = other ∧ second.field.key = key ∧ second.document = t.document ∧
          first.Defines settings t symbol ∧ second.Defines settings t symbol := by
  refine ⟨reached.traced, ?_, ?_⟩
  · intro u fault refused
    have clash := u.isClash_register settings refused
    cases fault with
    | symbolClash key symbol other => exact ⟨key, symbol, other, rfl, rfl⟩
    | _ => cases clash
  · intro services call t key symbol other ended
    have next : Reachable settings (s.perform (settings.serving services) call).session :=
      .call reached services call
    rw [ended] at next
    refine ⟨next.traced, ?_⟩
    have step : ∀ (u : Session) (document : Document), u.Traced (settings.serving services) →
        (u.processDocument (settings.serving services) document).session.Traced
          (settings.serving services) :=
      fun u document holds => traced_processDocument holds document
    obtain ⟨u, document, before, processed⟩ := exists_document_of_clash step
      (traced_serving.mpr reached.traced) rfl (congrArg Outcome.fault ended)
    rw [ended] at processed
    have clash := exists_captures_of_clash before (congrArg Outcome.fault processed)
    rw [processed] at clash
    exact clash

private def levelCall : Call :=
  .object [("int8:Level", .number (.ofInt 1)), ("Section_Prefix", .string "net")]

/-- A call that is refused for its second field. The first one has been registered then. -/
private def refusedCall : Call :=
  .object [("bool:Ready", .bool true), ("uint8:Level", .number (.ofInt 7)),
    ("Section_Prefix", .string "net")]

private def readyCall : Call :=
  .object [("string:Ready", .string "yes"), ("Section_Prefix", .string "net")]

private def refused : Session :=
  (((fresh (.steady .pascal)).perform (.steady .pascal) levelCall).session.perform
    (.steady .pascal) refusedCall).session

/-- A field clashes with one of a document that has been refused itself. -/
theorem clashes_never_spurious_after_refusal :
    Reachable (.steady .pascal) refused ∧
      refused.registered = ["NET_Level", "NET_GetLevel", "NET_Ready", "NET_GetReady"] ∧
      (Fault.symbolClash "string:Ready" "NET_Ready" "bool:Ready").message =
        "'string:Ready': generates the same C symbol 'NET_Ready' as 'bool:Ready'" ∧
      ∃ (t : Session) (first second : Capture),
        refused.perform (.steady .pascal) readyCall =
          ⟨t, some (.symbolClash "string:Ready" "NET_Ready" "bool:Ready")⟩ ∧
        List.Sublist [first, second] t.captures ∧
        first.field.key = "bool:Ready" ∧ second.field.key = "string:Ready" ∧
        first.Defines (.steady .pascal) t "NET_Ready" ∧
        second.Defines (.steady .pascal) t "NET_Ready" := by
  have reached : Reachable (.steady .pascal) refused :=
    .call (.call .fresh (.steady "v1" 1700000000) _) (.steady "v1" 1700000000) _
  have clash : refused.perform (.steady .pascal) readyCall =
      ⟨(refused.perform (.steady .pascal) readyCall).session,
        some (.symbolClash "string:Ready" "NET_Ready" "bool:Ready")⟩ := rfl
  obtain ⟨-, -, calls⟩ := clashes_never_spurious (.steady .pascal) refused reached
  obtain ⟨-, first, second, ordered, old, new, -, oldDefines, newDefines⟩ :=
    calls (.steady "v1" 1700000000) readyCall _ _ _ _ clash
  exact ⟨reached, by decide +kernel, by decide +kernel, _, first, second, clash, ordered, old, new,
    oldDefines, newDefines⟩

end Session

end AccessorGen
