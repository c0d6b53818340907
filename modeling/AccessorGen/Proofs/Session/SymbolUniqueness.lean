/- Distinct symbols.
   In a session without faults all C symbols of the module are distinct, and a further document is
   accepted exactly if it keeps them so. The order of its entries does not matter for that. -/

import AccessorGen.Proofs.Session.Calls
import Mathlib.Data.List.Perm.Basic

set_option autoImplicit false
set_option relaxedAutoImplicit false

namespace AccessorGen

theorem mapM_perm {α β ε : Type} {read : α → Except ε β} {first second : List α}
    (perm : first.Perm second) {results : List β} (done : first.mapM read = .ok results) :
    ∃ others, second.mapM read = .ok others ∧ results.Perm others := by
  induction perm generalizing results with
  | nil => exact ⟨results, done, .refl _⟩
  | cons a _ ih =>
    obtain ⟨result, rest, head, tail, rfl⟩ := mapM_cons_eq_ok_iff.mp done
    obtain ⟨others, read, same⟩ := ih tail
    exact ⟨result :: others, mapM_cons_eq_ok_iff.mpr ⟨result, others, head, read, rfl⟩,
      same.cons result⟩
  | swap a b l =>
    obtain ⟨x, rest, headB, tail, rfl⟩ := mapM_cons_eq_ok_iff.mp done
    obtain ⟨y, others, headA, read, rfl⟩ := mapM_cons_eq_ok_iff.mp tail
    refine ⟨y :: x :: others, ?_, .swap y x others⟩
    exact mapM_cons_eq_ok_iff.mpr ⟨y, x :: others, headA,
      mapM_cons_eq_ok_iff.mpr ⟨x, others, headB, read, rfl⟩, rfl⟩
  | trans _ _ ih₁ ih₂ =>
    obtain ⟨middle, read, same⟩ := ih₁ done
    obtain ⟨others, readOthers, sameOthers⟩ := ih₂ read
    exact ⟨others, readOthers, same.trans sameOthers⟩

theorem Section.symbols_ofMeanings (naming : NamingStyle) (scope : Scope)
    (meanings : List Meaning) :
    (Section.ofMeanings scope meanings).symbols naming =
      (Meaning.allFields meanings).flatMap fun field =>
        (naming.symbols field.descriptor).map fun symbol =>
          Session.labelPrefix naming (Meaning.finalLabel meanings) ++ symbol := by
  simp [Section.symbols, Section.ofMeanings, Section.extend, Meaning.finalLabel,
    ModuleField.captured, List.flatMap_map]

theorem Section.symbols_ofMeanings_perm (naming : NamingStyle) (scope : Scope)
    {first second : List Meaning} (perm : first.Perm second)
    (label : Meaning.finalLabel first = Meaning.finalLabel second) :
    ((Section.ofMeanings scope first).symbols naming).Perm
      ((Section.ofMeanings scope second).symbols naming) := by
  rw [Section.symbols_ofMeanings, Section.symbols_ofMeanings, label]
  exact (perm.flatMap_right Meaning.newFields).flatMap_right _

namespace Session

/-- In closed form, a document whose entries have meanings is accepted exactly if its symbols are
distinct and new to the module. -/
theorem processDocument_fault_eq_none_iff {settings : Settings} {documents : List (List Meaning)}
    {document : Document} {meanings : List Meaning}
    (read : document.meanings settings.services = .ok meanings) :
    ((ofMeanings settings documents).processDocument settings document).fault = none ↔
      ((Section.ofMeanings ⟨settings.naming, documents.length⟩ meanings).symbols
          settings.naming).Nodup ∧
        List.Disjoint
          ((Section.ofMeanings ⟨settings.naming, documents.length⟩ meanings).symbols
            settings.naming)
          ((ofMeanings settings documents).symbols settings.naming) := by
  rw [← admits_pending_iff settings documents meanings]
  constructor
  · intro accepted
    obtain ⟨others, same, admitted, -⟩ :=
      (processDocument_ofMeanings_iff settings documents document _).mp
        (Outcome.eq_done (Option.isNone_iff_eq_none.mpr accepted))
    obtain rfl := Except.ok.inj (read.symm.trans same)
    exact admitted
  · intro admitted
    rw [(processDocument_ofMeanings_iff settings documents document _).mpr
      ⟨meanings, read, admitted, rfl⟩]
    rfl

theorem processDocument_fault_kind {settings : Settings} {documents : List (List Meaning)}
    {document : Document} {meanings : List Meaning} {fault : Fault}
    (read : document.meanings settings.services = .ok meanings)
    (failed : ((ofMeanings settings documents).processDocument settings document).fault =
      some fault) :
    fault.kind = .config := by
  have entries := (processEntries_eq_done_iff settings document
    (ofMeanings settings documents).openSection _).mpr ⟨meanings, read, rfl⟩
  rw [processDocument, entries, Outcome.andThen_done, applyAll_openSection_ofMeanings] at failed
  -- The entries are through, so that only the registry is left to refuse the document.
  by_cases admitted : (pending settings documents meanings).Admits
      ((Section.ofMeanings ⟨settings.naming, documents.length⟩ meanings).symbols settings.naming)
  · rw [register_pending_eq_done admitted] at failed
    cases failed
  · obtain ⟨t, key, symbol, other, clash⟩ :=
      register_eq_clash (sections_pending settings documents meanings) admitted
    rw [clash] at failed
    obtain rfl := Option.some.inj failed
    rfl

theorem processDocument_fault_perm {settings : Settings} {documents : List (List Meaning)}
    {document other : Document} {meanings others : List Meaning}
    (read : document.meanings settings.services = .ok meanings)
    (readOther : other.meanings settings.services = .ok others) (perm : meanings.Perm others)
    (label : Meaning.finalLabel meanings = Meaning.finalLabel others) :
    ((ofMeanings settings documents).processDocument settings other).fault = none ↔
      ((ofMeanings settings documents).processDocument settings document).fault = none := by
  have symbols := Section.symbols_ofMeanings_perm settings.naming
    ⟨settings.naming, documents.length⟩ perm label
  rw [processDocument_fault_eq_none_iff read, processDocument_fault_eq_none_iff readOther,
    symbols.nodup_iff, symbols.disjoint_left]

/-- In a session without faults the C symbols of the module are pairwise distinct. A further
document whose entries are all processed is accepted exactly if its own symbols, under its final
label, are pairwise distinct and new to the module, and is refused as misconfigured otherwise.
Entries in another order that end with the same label are processed and accepted alike. -/
theorem symbols_nodup_and_document_accepted_iff (settings : Settings) (calls : List ServedCall)
    (s : Session) (completed : performAll settings calls (fresh settings) = .done s) :
    (s.symbols settings.naming).Nodup ∧
    ∀ (document : Document) (t : Session),
      processEntries settings document s.openSection = .done t →
      ∃ active, t.sections = active :: s.sections ∧
        ((s.processDocument settings document).fault = none ↔
          (active.symbols settings.naming).Nodup ∧
            List.Disjoint (active.symbols settings.naming) (s.symbols settings.naming)) ∧
        (∀ fault, (s.processDocument settings document).fault = some fault →
          fault.kind = .config) ∧
        ∀ other : Document, document.Perm other →
          ∃ u active', processEntries settings other s.openSection = .done u ∧
            u.sections = active' :: s.sections ∧
            (active'.label = active.label →
              ((s.processDocument settings other).fault = none ↔
                (s.processDocument settings document).fault = none)) := by
  obtain ⟨_, documents, -, -, rfl, distinct⟩ := performAll_fresh_eq_done completed
  refine ⟨distinct, ?_⟩
  intro document t run
  obtain ⟨meanings, read, rfl⟩ :=
    (processEntries_eq_done_iff settings document _ t).mp run
  refine ⟨Section.ofMeanings ⟨settings.naming, documents.length⟩ meanings, ?_,
    processDocument_fault_eq_none_iff read, fun fault => processDocument_fault_kind read, ?_⟩
  · rw [applyAll_openSection_ofMeanings, sections_pending]
  · intro other perm
    obtain ⟨others, readOther, same⟩ := mapM_perm perm read
    refine ⟨_, Section.ofMeanings ⟨settings.naming, documents.length⟩ others,
      (processEntries_eq_done_iff settings other _ _).mpr ⟨others, readOther, rfl⟩, ?_, ?_⟩
    · rw [applyAll_openSection_ofMeanings, sections_pending]
    · intro label
      exact processDocument_fault_perm read readOther same label.symm

/-- A section without a label, and a minute later a section with one that repeats some of its
names. -/
private def relabelled : List ServedCall :=
  [⟨.steady "v1" 1700000000,
      .object [("Date_Time", .bool true), ("int8:Level", .number (.ofInt 1))]⟩,
    ⟨.steady "v2" 1700000060,
      .value (.array [.object [("Date_Time", .bool true), ("Git_Repository", .string "."),
        ("Section_Prefix", .string "B")]])⟩]

/-- The names of the first section may return under the label of the second, and a document that
repeats one of its symbols is refused. -/
theorem symbols_nodup_in_relabelled_section :
    ∃ s, performAll (.steady .snake) relabelled (fresh (.steady .snake)) = .done s ∧
      (s.symbols .snake).Nodup ∧
      ∃ fault, (s.processDocument (.steady .snake)
        [⟨"bool:w:LEVEL", .bool true, none⟩]).fault = some fault ∧ fault.kind = .config := by
  have completed :
      (performAll (.steady .snake) relabelled (fresh (.steady .snake))).fault.isNone = true := by
    decide +kernel
  have entries : (processEntries (.steady .snake) [⟨"bool:w:LEVEL", .bool true, none⟩]
      (performAll (.steady .snake) relabelled
        (fresh (.steady .snake))).session.openSection).fault.isNone = true := by
    decide +kernel
  have refused : ((performAll (.steady .snake) relabelled
      (fresh (.steady .snake))).session.processDocument (.steady .snake)
        [⟨"bool:w:LEVEL", .bool true, none⟩]).fault.isSome = true := by
    decide +kernel
  have claim := symbols_nodup_and_document_accepted_iff (.steady .snake) relabelled _
    (Outcome.eq_done completed)
  obtain ⟨_, _, _, config, _⟩ := claim.2 _ _ (Outcome.eq_done entries)
  obtain ⟨fault, failed⟩ := Option.isSome_iff_exists.mp refused
  exact ⟨_, Outcome.eq_done completed, claim.1, fault, failed, config fault failed⟩

end Session

end AccessorGen
