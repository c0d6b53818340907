/- Documents with a single field.
   The symbols of one field are all different, under every label. So in a fresh session the registry
   has nothing against a document with one field, whatever directives without fields stand around
   it. -/

import AccessorGen.Proofs.FieldValue
import AccessorGen.Proofs.Module.DirectivePosition
import AccessorGen.Proofs.Session.SymbolUniqueness

set_option autoImplicit false
set_option relaxedAutoImplicit false

namespace AccessorGen

def Entry.SetsOnly (entry : Entry) : Prop :=
  ∃ directive, entry.directive? = some directive ∧ directive.isStateOnly = true

theorem Entry.newFields_of_setsOnly {services : Services} {entry : Entry} {meaning : Meaning}
    (sets : entry.SetsOnly) (read : entry.meaning services = .ok meaning) :
    meaning.newFields = [] := by
  obtain ⟨directive, named, stateOnly⟩ := sets
  have set := Entry.setBy?_of_meaning read
  rw [named, Option.filter_some, if_pos stateOnly] at set
  cases meaning with
  | fields added => cases set
  | _ => rfl

theorem Document.allFields_of_setsOnly {services : Services} {document : Document}
    {meanings : List Meaning} (sets : ∀ entry ∈ document, entry.SetsOnly)
    (read : document.meanings services = .ok meanings) : Meaning.allFields meanings = [] := by
  rw [Meaning.allFields, List.flatMap_eq_nil_iff]
  intro meaning member
  obtain ⟨entry, inside, own⟩ := exists_of_mem_mapM read member
  exact Entry.newFields_of_setsOnly (sets entry inside) own

theorem Entry.meaning_of_validate {services : Services} {key : String} {d : Descriptor}
    {value : Json.Value} {literal : Option String} {checked : FieldValue}
    (parsed : Descriptor.parse key = .ok d)
    (accepted : FieldValue.validate key d value literal = .ok checked) :
    ∃ content, meaning services ⟨key, value, literal⟩ = .ok (.fields [⟨key, d, content⟩]) := by
  have field : d.type ≠ .config := by
    intro config
    rw [FieldValue.validate, config] at accepted
    cases accepted
  obtain ⟨content, held, -⟩ := FieldValue.exists_ofValue? accepted
  refine ⟨content, ?_⟩
  rw [meaning_of_parse parsed, if_neg field, ModuleField.check_eq_ok accepted held]
  rfl

theorem Document.allFields_of_single {services : Services} {front back : Document} {entry : Entry}
    {field : ModuleField} {meanings : List Meaning}
    (sets : ∀ other ∈ front ++ back, other.SetsOnly)
    (own : entry.meaning services = .ok (.fields [field]))
    (read : Document.meanings services (front ++ entry :: back) = .ok meanings) :
    Meaning.allFields meanings = [field] := by
  rw [Document.meanings, List.mapM_append] at read
  obtain ⟨before, readFront, read⟩ := bind_eq_ok_iff.mp read
  obtain ⟨rest, readRest, joined⟩ := bind_eq_ok_iff.mp read
  obtain ⟨first, after, head, readBack, rfl⟩ := mapM_cons_eq_ok_iff.mp readRest
  obtain rfl := Except.ok.inj joined
  obtain rfl := Except.ok.inj (own.symm.trans head)
  have noneBefore := allFields_of_setsOnly
    (fun other member => sets other (List.mem_append_left back member)) readFront
  have noneAfter := allFields_of_setsOnly
    (fun other member => sets other (List.mem_append_right front member)) readBack
  rw [Meaning.allFields] at noneBefore noneAfter ⊢
  rw [List.flatMap_append, List.flatMap_cons, noneBefore, noneAfter]
  rfl

namespace Session

theorem processDocument_fault_of_admits {settings : Settings} {s : Session} {document : Document}
    (admitted : ∀ meanings, document.meanings settings.services = .ok meanings →
      s.Admits ((Section.ofMeanings ⟨settings.naming, s.sections.length⟩ meanings).symbols
        settings.naming)) :
    (s.processDocument settings document).fault =
      (processEntries settings document s.openSection).fault := by
  cases ended : (processEntries settings document s.openSection).fault with
  | some cause =>
    have stopped := Outcome.eq_stopped ended
    rw [processDocument, stopped, Outcome.andThen_fault]
  | none =>
    have done := Outcome.eq_done (Option.isNone_iff_eq_none.mpr ended)
    obtain ⟨meanings, read, -⟩ := (processEntries_eq_done_iff _ _ _ _).mp done
    rw [(processDocument_eq_done_iff _ _ _ _).mpr ⟨meanings, read, admitted meanings read, rfl⟩]
    rfl

theorem admits_single {settings : Settings} {scope : Scope} {meanings : List Meaning}
    {field : ModuleField} (single : Meaning.allFields meanings = [field]) :
    (fresh settings).Admits ((Section.ofMeanings scope meanings).symbols settings.naming) := by
  refine ⟨?_, ?_⟩
  · rw [Section.symbols_ofMeanings, single, List.flatMap_singleton]
    exact nodup_labelled_symbols settings.naming _ field.descriptor
  · exact List.disjoint_nil_right _

/-- A field never clashes with itself: the symbols of a descriptor that a key can have are all
different, and so a document with a single valid field is accepted in a fresh session. If directives
without fields stand around the field, the document ends as its entries do, and never for a
clash. -/
theorem field_never_clashes_with_itself (settings : Settings) (key : String) (d : Descriptor)
    (parsed : Descriptor.parse key = .ok d) :
    (settings.naming.symbols d).Nodup ∧
    ∀ (value : Json.Value) (literal : Option String) (checked : FieldValue),
      FieldValue.validate key d value literal = .ok checked →
        ((fresh settings).processDocument settings [⟨key, value, literal⟩]).fault = none ∧
        ∀ front back : Document, (∀ entry ∈ front ++ back, entry.SetsOnly) →
          ((fresh settings).processDocument settings
              (front ++ ⟨key, value, literal⟩ :: back)).fault =
            (processEntries settings (front ++ ⟨key, value, literal⟩ :: back)
              (fresh settings).openSection).fault := by
  refine ⟨settings.naming.nodup_symbols d, ?_⟩
  intro value literal checked accepted
  obtain ⟨content, own⟩ := Entry.meaning_of_validate parsed accepted
  have around : ∀ front back : Document, (∀ entry ∈ front ++ back, entry.SetsOnly) →
      ((fresh settings).processDocument settings (front ++ ⟨key, value, literal⟩ :: back)).fault =
        (processEntries settings (front ++ ⟨key, value, literal⟩ :: back)
          (fresh settings).openSection).fault := by
    intro front back sets
    apply processDocument_fault_of_admits
    intro meanings read
    exact admits_single (Document.allFields_of_single sets own read)
  refine ⟨?_, around⟩
  have alone := around [] [] (by simp)
  rw [List.nil_append] at alone
  rw [alone, processEntries, processEntry_eq, own]
  rfl

private def capitalSigma : Json.Value := .string "Σ"

/-- In lower case the capital sigma at the end of a word differs from one within it, and the name of
the variable stays in capitals. The label stands behind the field. -/
theorem field_never_clashes_with_itself_sigma :
    Descriptor.parse "string[4]:rw:GET_ΣΑΣ" =
        .ok ⟨.string, some (.fixed 4), .writable, "GET_ΣΑΣ", none⟩ ∧
      (NamingStyle.snake.symbols
        ⟨.string, some (.fixed 4), .writable, "GET_ΣΑΣ", none⟩).Nodup ∧
      ((fresh (.steady .snake)).processDocument (.steady .snake)
        [⟨"string[4]:rw:GET_ΣΑΣ", capitalSigma, none⟩,
          ⟨"Section_Prefix", .string "get", none⟩]).fault = none := by
  have parsed : Descriptor.parse "string[4]:rw:GET_ΣΑΣ" =
      .ok ⟨.string, some (.fixed 4), .writable, "GET_ΣΑΣ", none⟩ := by
    rfl
  have accepted : FieldValue.validate "string[4]:rw:GET_ΣΑΣ"
      ⟨.string, some (.fixed 4), .writable, "GET_ΣΑΣ", none⟩ capitalSigma none =
        .ok (.text "Σ") := by
    rfl
  have label : Entry.SetsOnly ⟨"Section_Prefix", .string "get", none⟩ :=
    ⟨.sectionPrefix, by rfl, rfl⟩
  obtain ⟨nodup, documents⟩ := field_never_clashes_with_itself (.steady .snake) _ _ parsed
  obtain ⟨-, around⟩ := documents capitalSigma none _ accepted
  refine ⟨parsed, nodup, ?_⟩
  have ends := around [] [⟨"Section_Prefix", .string "get", none⟩] (by simpa using label)
  rw [List.nil_append] at ends
  rw [ends]
  rfl

end Session

end AccessorGen
