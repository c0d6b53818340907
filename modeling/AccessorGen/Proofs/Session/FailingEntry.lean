/- Entries that fail.
   An entry takes effect as a whole or not at all, also if it stands for several fields. A document
   that stops at an entry leaves the session as the entries before it have made it. -/

import AccessorGen.Proofs.Session.Calls

set_option autoImplicit false
set_option relaxedAutoImplicit false

namespace AccessorGen

theorem Outcome.andThen_assoc (outcome : Outcome) (next last : Session → Outcome) :
    (outcome.andThen next).andThen last = outcome.andThen fun s => (next s).andThen last := by
  obtain ⟨s, fault⟩ := outcome
  cases fault <;> rfl

namespace Session

theorem processEntry_of_fault {settings : Settings} {s : Session} {entry : Entry} {fault : Fault}
    (failed : (s.processEntry settings entry).fault = some fault) :
    s.processEntry settings entry = ⟨s, some fault⟩ := by
  rw [processEntry_eq] at failed ⊢
  cases meaning : entry.meaning settings.services with
  | ok own =>
    rw [meaning] at failed
    cases failed
  | error cause =>
    rw [meaning, given_error] at failed
    obtain rfl := Option.some.inj failed
    rfl

theorem processEntries_append (settings : Settings) (front back : Document) (s : Session) :
    processEntries settings (front ++ back) s =
      (processEntries settings front s).andThen (processEntries settings back) := by
  induction front generalizing s with
  | nil => rfl
  | cons entry rest ih =>
    simp only [List.cons_append, processEntries, Outcome.andThen_assoc, ih]

theorem processEntries_of_failing {settings : Settings} {front rest : Document} {entry : Entry}
    {s t : Session} {fault : Fault} (before : processEntries settings front s = .done t)
    (failed : (t.processEntry settings entry).fault = some fault) :
    processEntries settings (front ++ entry :: rest) s = ⟨t, some fault⟩ := by
  rw [processEntries_append, before, Outcome.andThen_done, processEntries,
    processEntry_of_fault failed, Outcome.andThen_fault]

/-- Entries that stop with a fault stop at one of them, in the session that those before it have
left. -/
theorem exists_failing_entry {settings : Settings} {document : Document} {s t : Session}
    {fault : Fault} (stopped : processEntries settings document s = ⟨t, some fault⟩) :
    ∃ front entry rest, document = front ++ entry :: rest ∧
      processEntries settings front s = .done t ∧
      (t.processEntry settings entry).fault = some fault := by
  induction document generalizing s with
  | nil => cases congrArg Outcome.fault stopped
  | cons first others ih =>
    rw [processEntries] at stopped
    cases outcome : (s.processEntry settings first).fault with
    | some cause =>
      rw [processEntry_of_fault outcome, Outcome.andThen_fault] at stopped
      obtain ⟨rfl, same⟩ := Outcome.mk.inj stopped
      exact ⟨[], first, others, rfl, rfl, outcome.trans same⟩
    | none =>
      have done : s.processEntry settings first =
          .done (s.processEntry settings first).session :=
        Outcome.eq_done (by rw [outcome]; rfl)
      rw [done, Outcome.andThen_done] at stopped
      obtain ⟨front, entry, rest, rfl, before, failed⟩ := ih stopped
      refine ⟨first :: front, entry, rest, rfl, ?_, failed⟩
      rw [processEntries, done, Outcome.andThen_done, before]

/-- An entry that ends with a fault has no effect, whatever it stands for. So a document stops at an
entry exactly if all entries before it are done and it has a fault in the session that these have
left, and then the document ends with this fault and this session. -/
theorem failing_entry_has_no_effect (settings : Settings) (s : Session) :
    (∀ (key : String) (value : Json.Value) (literal : Option String) (fault : Fault),
      (s.processEntry settings ⟨key, value, literal⟩).fault = some fault →
        (s.processEntry settings ⟨key, value, literal⟩).session = s) ∧
    ∀ (document : Document) (t : Session) (fault : Fault),
      (processEntries settings document s.openSection = ⟨t, some fault⟩ ↔
        ∃ front entry rest, document = front ++ entry :: rest ∧
          processEntries settings front s.openSection = .done t ∧
          (t.processEntry settings entry).fault = some fault) ∧
      (processEntries settings document s.openSection = ⟨t, some fault⟩ →
        s.processDocument settings document = ⟨t, some fault⟩) := by
  refine ⟨?_, ?_⟩
  · intro key value literal fault failed
    rw [processEntry_of_fault failed]
  · intro document t fault
    refine ⟨⟨exists_failing_entry, ?_⟩, ?_⟩
    · rintro ⟨front, entry, rest, rfl, before, failed⟩
      exact processEntries_of_failing before failed
    · intro stopped
      rw [processDocument, stopped, Outcome.andThen_fault]

/-- A time before 1970 between two fields. The clock answers, but its timestamp fits no field. -/
private def earlyTime : Document :=
  [⟨"int8:First", .number (.ofInt 1), none⟩, ⟨"Date_Time", .bool true, none⟩,
    ⟨"int8:Second", .number (.ofInt 2), none⟩]

private def earlySettings : Settings :=
  (Settings.steady .pascal).serving (.steady "v1" (-1))

/-- The entry before the time stays, and of the time itself nothing does. -/
theorem failing_entry_has_no_effect_early :
    ∃ t fault,
      fault.message = "'uint32:Unix_Time': value -1 is outside of the range of uint32" ∧
      processEntries earlySettings (earlyTime.take 1) (fresh earlySettings).openSection =
        .done t ∧
      (t.processEntry earlySettings ⟨"Date_Time", .bool true, none⟩).fault = some fault ∧
      (t.processEntry earlySettings ⟨"Date_Time", .bool true, none⟩).session = t ∧
      (fresh earlySettings).processDocument earlySettings earlyTime = ⟨t, some fault⟩ := by
  have before : (processEntries earlySettings (earlyTime.take 1)
      (fresh earlySettings).openSection).fault.isNone = true := by
    decide +kernel
  have refused : ((processEntries earlySettings (earlyTime.take 1)
      (fresh earlySettings).openSection).session.processEntry earlySettings
        ⟨"Date_Time", .bool true, none⟩).fault.map Fault.message =
      some "'uint32:Unix_Time': value -1 is outside of the range of uint32" := by
    decide +kernel
  obtain ⟨fault, failed, wording⟩ := Option.map_eq_some_iff.mp refused
  obtain ⟨stop, ends⟩ := (failing_entry_has_no_effect earlySettings (fresh earlySettings)).2
    earlyTime _ fault
  refine ⟨_, fault, wording, Outcome.eq_done before, failed, ?_, ?_⟩
  · exact (failing_entry_has_no_effect earlySettings _).1 _ _ _ _ failed
  · exact ends (stop.mpr ⟨earlyTime.take 1, _, _, rfl, Outcome.eq_done before, failed⟩)

end Session

end AccessorGen
