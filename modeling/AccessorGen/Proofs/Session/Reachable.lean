/- Reachable sessions.
   A session may be in use for any number of calls, and a call that stops with a fault leaves behind
   what it has done so far. What every document keeps, whether it is accepted or not, holds of every
   session that can be reached. -/

import AccessorGen.Proofs.Session.Calls
import AccessorGen.Session.Module

set_option autoImplicit false
set_option relaxedAutoImplicit false

namespace AccessorGen

namespace Session

/-- The sessions that calls lead to, also calls that end with a fault. -/
inductive Reachable (settings : Settings) : Session → Prop where
  | fresh : Reachable settings (fresh settings)
  | call {s : Session} (reached : Reachable settings s) (services : Services) (call : Call) :
      Reachable settings (s.perform (settings.serving services) call).session

section Invariant

variable {P : Session → Prop} {settings : Settings}

private theorem keeps_andThen {outcome : Outcome} {next : Session → Outcome}
    (first : P outcome.session) (second : ∀ s, P s → P (next s).session) :
    P (outcome.andThen next).session := by
  obtain ⟨s, fault⟩ := outcome
  cases fault with
  | none => exact second s first
  | some fault => exact first

private theorem keeps_processDocuments
    (step : ∀ s document, P s → P (s.processDocument settings document).session)
    (documents : List Document) {s : Session} (holds : P s) :
    P (processDocuments settings documents s).session := by
  induction documents generalizing s with
  | nil => exact holds
  | cons document rest ih => exact keeps_andThen (step s document holds) fun t later => ih later

private theorem keeps_processItems
    (step : ∀ s document, P s → P (s.processDocument settings document).session)
    (items : List Json.Value) (index : Nat) {s : Session} (holds : P s) :
    P (processItems settings index items s).session := by
  induction items generalizing index s with
  | nil => exact holds
  | cons item rest ih =>
    cases item with
    | object members =>
      exact keeps_andThen (step s _ holds) fun t later => ih (index + 1) later
    | _ => exact holds

theorem keeps_perform
    (step : ∀ s document, P s → P (s.processDocument settings document).session) {call : Call}
    (proper : call ≠ .reset) {s : Session} (holds : P s) :
    P (s.perform settings call).session := by
  cases call with
  | text input =>
    rw [perform, processText]
    cases Document.readAll input with
    | error fault => exact holds
    | ok documents => exact keeps_processDocuments step documents holds
  | value input =>
    cases input with
    | object members => exact step s _ holds
    | array items => exact keeps_processItems step items 0 holds
    | _ => exact holds
  | object members => exact step s _ holds
  | reset => exact absurd rfl proper

/-- What a fresh session satisfies and every document keeps holds of every reachable session. -/
theorem Reachable.invariant (start : P (Session.fresh settings))
    (step : ∀ (s : Session) (services : Services) (document : Document), P s →
      P (s.processDocument (settings.serving services) document).session)
    {s : Session} (reached : Reachable settings s) : P s := by
  induction reached with
  | fresh => exact start
  | call _ services call ih =>
    by_cases reset : call = .reset
    · rw [reset]
      exact start
    · exact keeps_perform (fun s document => step s services document) reset ih

end Invariant

theorem session_processEntries (settings : Settings) (document : Document) (s : Session) :
    ∃ meanings, (processEntries settings document s).session =
      s.applyAll settings.naming meanings := by
  induction document generalizing s with
  | nil => exact ⟨[], rfl⟩
  | cons entry rest ih =>
    rw [processEntries, processEntry_eq]
    cases entry.meaning settings.services with
    | error fault => exact ⟨[], rfl⟩
    | ok meaning =>
      obtain ⟨later, run⟩ := ih (s.advance settings.naming meaning)
      exact ⟨meaning :: later, run⟩

/-- Whether a document is accepted or not, entries of it have been carried out in a section of its
own, and besides only the registry may have changed. -/
theorem session_processDocument (settings : Settings) (s : Session) (document : Document) :
    ∃ meanings, (s.processDocument settings document).session =
      { s.openSection.applyAll settings.naming meanings with
        definitions := (s.processDocument settings document).session.definitions } := by
  obtain ⟨meanings, entries⟩ := session_processEntries settings document s.openSection
  refine ⟨meanings, ?_⟩
  rw [← entries, processDocument]
  generalize processEntries settings document s.openSection = outcome
  obtain ⟨t, fault⟩ := outcome
  cases fault with
  | some fault => rfl
  | none => exact session_register settings t

theorem fragments_processDocument (settings : Settings) (s : Session) (document : Document) :
    ∃ meanings, (s.processDocument settings document).session.fragments =
      s.fragments ++ Meaning.fragments ⟨settings.naming, s.sections.length⟩ meanings := by
  obtain ⟨meanings, processed⟩ := session_processDocument settings s document
  refine ⟨meanings, ?_⟩
  rw [processed, openSection_applyAll]
  simp [fragments, Section.ofMeanings, Section.extend]

end Session

end AccessorGen
