/- Where clashes come from.
   Reading an input, an entry or a value can fail in many ways, and none of them is a clash of
   symbols. So a call that ends with a clash has stopped in the registry, at one of its
   documents. -/

import AccessorGen.Proofs.Session.Culprits
import AccessorGen.Proofs.Session.Reachable

set_option autoImplicit false
set_option relaxedAutoImplicit false

namespace AccessorGen

@[simp] def Fault.isClash : Fault → Bool
  | .symbolClash _ _ _ => true
  | _ => false

theorem Fault.isClash_of_subject {fault : Fault}
    (other : ∀ key earlier, fault.subject ≠ .clash key earlier) : fault.isClash = false := by
  cases fault with
  | symbolClash key symbol earlier => exact absurd rfl (other key earlier)
  | _ => rfl

theorem Document.blames_readAll (text : String) : BlamesOnly (· = .input) (readAll text) := by
  have item : ∀ index tree, BlamesOnly (· = .input) (ofItem index tree) := by
    intro index tree
    unfold ofItem
    repeat' split
    all_goals simp [Fault.subject]
  have items : ∀ trees index, BlamesOnly (· = .input) (ofItems index trees) := by
    intro trees
    induction trees with
    | nil => exact fun index => .ok []
    | cons tree rest ih =>
      intro index
      exact (item index tree).bind fun _ => (ih (index + 1)).bind fun _ => .ok _
  unfold readAll
  repeat' split
  all_goals first | exact items _ 0 | simp [Fault.subject]

theorem Entry.clash_not_mem_suspects (entry : Entry) (key earlier : String) :
    .clash key earlier ∉ entry.suspects := by
  unfold suspects
  split <;> simp [Directive.suspects]

namespace Session

theorem noClash_processEntries (settings : Settings) (document : Document) (s : Session) :
    ∀ fault, (processEntries settings document s).fault = some fault → fault.isClash = false := by
  intro fault failed
  obtain ⟨front, entry, rest, -, -, own⟩ := exists_failing_entry (Outcome.eq_stopped failed)
  apply Fault.isClash_of_subject
  intro key earlier about
  exact entry.clash_not_mem_suspects key earlier (about ▸ subject_of_processEntry own)

section Origin

variable {P : Session → Prop} {settings : Settings}

private theorem clash_andThen {outcome : Outcome} {next : Session → Outcome} {clash : Fault}
    (stopped : (outcome.andThen next).fault = some clash) :
    outcome.fault = some clash ∧ outcome.andThen next = outcome ∨
      (next outcome.session).fault = some clash ∧
        outcome.andThen next = next outcome.session := by
  obtain ⟨s, fault⟩ := outcome
  cases fault with
  | none => exact .inr ⟨stopped, rfl⟩
  | some fault => exact .inl ⟨stopped, rfl⟩

private theorem clash_processDocuments
    (step : ∀ s document, P s → P (s.processDocument settings document).session)
    {documents : List Document} {s : Session} (holds : P s) {clash : Fault}
    (stopped : (processDocuments settings documents s).fault = some clash) :
    ∃ u document, P u ∧
      u.processDocument settings document = processDocuments settings documents s := by
  induction documents generalizing s with
  | nil => cases stopped
  | cons document rest ih =>
    rcases clash_andThen stopped with ⟨-, same⟩ | ⟨later, same⟩
    · exact ⟨s, document, holds, same.symm⟩
    · obtain ⟨u, other, kept, processed⟩ := ih (step s document holds) later
      exact ⟨u, other, kept, processed.trans same.symm⟩

private theorem clash_processItems
    (step : ∀ s document, P s → P (s.processDocument settings document).session)
    {items : List Json.Value} {index : Nat} {s : Session} (holds : P s) {clash : Fault}
    (genuine : clash.isClash = true)
    (stopped : (processItems settings index items s).fault = some clash) :
    ∃ u document, P u ∧
      u.processDocument settings document = processItems settings index items s := by
  induction items generalizing index s with
  | nil => cases stopped
  | cons item rest ih =>
    cases item with
    | object members =>
      rcases clash_andThen stopped with ⟨-, same⟩ | ⟨later, same⟩
      · exact ⟨s, _, holds, same.symm⟩
      · obtain ⟨u, other, kept, processed⟩ := ih (step s _ holds) later
        exact ⟨u, other, kept, processed.trans same.symm⟩
    | _ =>
      obtain rfl := Option.some.inj stopped
      cases genuine

/-- A call that ends with a clash has stopped at a document of it. What every document keeps holds
of the session that the document came to. -/
theorem exists_document_of_clash
    (step : ∀ s document, P s → P (s.processDocument settings document).session) {call : Call}
    {s : Session} (holds : P s) {clash : Fault} (genuine : clash.isClash = true)
    (stopped : (s.perform settings call).fault = some clash) :
    ∃ u document, P u ∧ u.processDocument settings document = s.perform settings call := by
  cases call with
  | text input =>
    have blames := Document.blames_readAll input
    rw [perform, processText] at stopped ⊢
    cases read : Document.readAll input with
    | error fault =>
      rw [read, given_error] at stopped
      obtain rfl := Option.some.inj stopped
      have harmless : fault.isClash = false := by
        apply Fault.isClash_of_subject
        intro key earlier about
        rw [blames.subject fault read] at about
        cases about
      rw [harmless] at genuine
      cases genuine
    | ok documents =>
      rw [read, given_ok] at stopped
      exact clash_processDocuments step holds stopped
  | value input =>
    cases input with
    | object members => exact ⟨s, _, holds, rfl⟩
    | array items => exact clash_processItems step holds genuine stopped
    | _ =>
      obtain rfl := Option.some.inj stopped
      cases genuine
  | object members => exact ⟨s, _, holds, rfl⟩
  | reset => cases stopped

end Origin

end Session

end AccessorGen
