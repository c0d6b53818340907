/- Entries that were accepted.
   A call that stops with a fault leaves the entries before the fault in effect, and the next call
   goes on from there. The files that the source includes are those that all accepted entries since
   the last reset ask for, in order. -/

import AccessorGen.Proofs.Module.DirectivePosition

set_option autoImplicit false
set_option relaxedAutoImplicit false

namespace AccessorGen

def Json.Value.texts : Json.Value → List String
  | .array items => items.filterMap fun
    | .string text => some text
    | _ => none
  | _ => []

def Entry.sourceFiles (entry : Entry) : List String :=
  if entry.directive? = some .includeSource then entry.value.texts else []

theorem Directive.texts_of_stringList {directive : Directive} {value : Json.Value}
    {files : List String} (read : directive.stringList value = .ok files) :
    value.texts = files := by
  cases value with
  | array items =>
    change items.mapM directive.listItem = .ok files at read
    have each := mapM_eq_ok_iff.mp read
    clear read
    induction each with
    | nil => rfl
    | @cons item file items files first _ ih =>
      cases item with
      | string text =>
        obtain rfl := Except.ok.inj first
        exact congrArg (text :: ·) ih
      | _ => cases first
  | _ => cases read

theorem Entry.meaning_of_directive? {services : Services} {entry : Entry} {directive : Directive}
    (named : entry.directive? = some directive) :
    entry.meaning services = directive.meaning services entry.key entry.value := by
  rw [directive?] at named
  cases parsed : Descriptor.parse entry.key with
  | error fault =>
    rw [parsed] at named
    cases named
  | ok d =>
    simp only [parsed, Option.ite_none_right_eq_some] at named
    obtain ⟨config, known⟩ := named
    have split : entry.meaning services = _ := meaning_of_parse parsed
    rw [split, if_pos config, known]

theorem Entry.sourceFiles_of_meaning {services : Services} {entry : Entry} {meaning : Meaning}
    (read : entry.meaning services = .ok meaning) : meaning.sourceFiles = entry.sourceFiles := by
  rw [sourceFiles]
  by_cases includes : entry.directive? = some .includeSource
  · rw [meaning_of_directive? includes] at read
    obtain ⟨files, listed, made⟩ := bind_eq_ok_iff.mp read
    obtain rfl := Except.ok.inj made
    rw [if_pos includes, Directive.texts_of_stringList listed]
    rfl
  · rw [if_neg includes]
    cases meaning with
    | sourceIncludes files =>
      obtain ⟨own, -⟩ := Option.filter_eq_some_iff.mp (setBy?_of_meaning read).symm
      exact absurd own includes
    | _ => rfl

theorem flatMap_sourceFiles {services : Services} {entries : List Entry}
    {meanings : List Meaning} (read : entries.mapM (Entry.meaning services) = .ok meanings) :
    meanings.flatMap Meaning.sourceFiles = entries.flatMap Entry.sourceFiles := by
  have each := mapM_eq_ok_iff.mp read
  clear read
  induction each with
  | nil => rfl
  | cons first _ ih =>
    rw [List.flatMap_cons, List.flatMap_cons, ih, Entry.sourceFiles_of_meaning first]

/-- The documents of the objects before the first item that is none. -/
def Document.leading : List Json.Value → List Document
  | .object members :: rest => .ofMembers members :: leading rest
  | _ => []

/-- The documents that a call gets to unless a fault stops it before. Of a text there are none
unless all of it can be read. -/
def Call.reached : Call → List Document
  | .text input => (Document.readAll input).toOption.getD []
  | .value (.object members) => [.ofMembers members]
  | .value (.array items) => Document.leading items
  | .value _ => []
  | .object members => [.ofMembers members]
  | .reset => []

namespace Session

/-- The entries of a document that are accepted: those before the first one with a fault. -/
def acceptedEntries (settings : Settings) : Document → Session → List Entry
  | [], _ => []
  | entry :: rest, s =>
    match s.processEntry settings entry with
    | ⟨t, none⟩ => entry :: acceptedEntries settings rest (t.addFragment .separator)
    | ⟨_, some _⟩ => []

/-- The accepted entries of documents up to the first fault. If the symbols of a document clash,
its entries have been accepted and the documents behind it are not looked at. -/
def acceptedOf (settings : Settings) : List Document → Session → List Entry
  | [], _ => []
  | document :: rest, s =>
    acceptedEntries settings document s.openSection ++
      match s.processDocument settings document with
      | ⟨t, none⟩ => acceptedOf settings rest t
      | ⟨_, some _⟩ => []

/-- The entries in effect after a call, `held` being those before it. -/
def acceptedBy (settings : Settings) (s : Session) (held : List Entry) : Call → List Entry
  | .reset => []
  | call => held ++ acceptedOf settings call.reached s

/-- The session after calls. A call that stops with a fault is followed by the next one. -/
def afterCalls (settings : Settings) : List ServedCall → Session → Session
  | [], s => s
  | ⟨services, call⟩ :: rest, s =>
    afterCalls settings rest (s.perform (settings.serving services) call).session

/-- The entries in effect after calls, in the order of the input. -/
def acceptedAfter (settings : Settings) (held : List Entry) :
    List ServedCall → Session → List Entry
  | [], _ => held
  | ⟨services, call⟩ :: rest, s =>
    acceptedAfter settings (s.acceptedBy (settings.serving services) held call) rest
      (s.perform (settings.serving services) call).session

section Documents

variable (settings : Settings) (s : Session)

/-- Also if entries stop with a fault, each accepted entry has a meaning, and these have been
carried out. -/
theorem session_processEntries_accepted (document : Document) :
    ∃ meanings, (acceptedEntries settings document s).mapM (Entry.meaning settings.services) =
        .ok meanings ∧
      (processEntries settings document s).session = s.applyAll settings.naming meanings := by
  induction document generalizing s with
  | nil => exact ⟨[], rfl, rfl⟩
  | cons entry rest ih =>
    rw [acceptedEntries, processEntries, processEntry_eq]
    cases read : entry.meaning settings.services with
    | error fault => exact ⟨[], rfl, rfl⟩
    | ok meaning =>
      obtain ⟨others, later, run⟩ := ih (s.advance settings.naming meaning)
      exact ⟨meaning :: others,
        mapM_cons_eq_ok_iff.mpr ⟨meaning, others, read, later, rfl⟩, run⟩

theorem sourceIncludes_processDocument (document : Document) :
    (s.processDocument settings document).session.sourceIncludes =
      s.sourceIncludes ++
        (acceptedEntries settings document s.openSection).flatMap Entry.sourceFiles := by
  obtain ⟨meanings, read, run⟩ := session_processEntries_accepted settings s.openSection document
  have entries : (processEntries settings document s.openSection).session.sourceIncludes =
      s.sourceIncludes ++ meanings.flatMap Meaning.sourceFiles := by
    rw [run, openSection_applyAll]
  rw [← flatMap_sourceFiles read, ← entries, processDocument]
  -- The registry is all that the symbols of the document change.
  generalize processEntries settings document s.openSection = outcome
  obtain ⟨t, fault⟩ := outcome
  cases fault with
  | some fault => rfl
  | none =>
    change (t.register settings).session.sourceIncludes = t.sourceIncludes
    rw [session_register]

theorem sourceIncludes_processDocuments (documents : List Document) :
    (processDocuments settings documents s).session.sourceIncludes =
      s.sourceIncludes ++ (acceptedOf settings documents s).flatMap Entry.sourceFiles := by
  induction documents generalizing s with
  | nil => simp [processDocuments, acceptedOf, Outcome.done]
  | cons document rest ih =>
    have first := sourceIncludes_processDocument settings s document
    rw [processDocuments, acceptedOf, List.flatMap_append, ← List.append_assoc, ← first]
    generalize s.processDocument settings document = outcome
    obtain ⟨t, fault⟩ := outcome
    cases fault with
    | none => exact ih t
    | some fault => simp

theorem session_processItems (index : Nat) (items : List Json.Value) :
    (processItems settings index items s).session =
      (processDocuments settings (Document.leading items) s).session := by
  induction items generalizing index s with
  | nil => rfl
  | cons item rest ih =>
    cases item with
    | object members =>
      rw [processItems, Document.leading, processDocuments]
      generalize s.processDocument settings (.ofMembers members) = outcome
      obtain ⟨t, fault⟩ := outcome
      cases fault with
      | none => exact ih t (index + 1)
      | some fault => rfl
    | _ => rfl

/-- Also a call that stops with a fault has processed documents that it gets to, and that is all
that it has done. -/
theorem session_perform {call : Call} (proper : call ≠ .reset) :
    (s.perform settings call).session =
      (processDocuments settings call.reached s).session := by
  have single : ∀ document, (s.processDocument settings document).session =
      (processDocuments settings [document] s).session := by
    intro document
    rw [processDocuments]
    generalize s.processDocument settings document = outcome
    obtain ⟨t, fault⟩ := outcome
    cases fault <;> rfl
  cases call with
  | text input =>
    rw [perform, processText, Call.reached]
    cases Document.readAll input <;> rfl
  | value input =>
    cases input with
    | object members => exact single _
    | array items => exact session_processItems settings s 0 items
    | _ => rfl
  | object members => exact single _
  | reset => exact absurd rfl proper

theorem sourceIncludes_perform {held : List Entry}
    (known : s.sourceIncludes = held.flatMap Entry.sourceFiles) (call : Call) :
    (s.perform settings call).session.sourceIncludes =
      (s.acceptedBy settings held call).flatMap Entry.sourceFiles := by
  by_cases reset : call = .reset
  · rw [reset]
    rfl
  · have taken : s.acceptedBy settings held call =
        held ++ acceptedOf settings call.reached s := by
      cases call with
      | reset => exact absurd rfl reset
      | _ => rfl
    rw [session_perform settings s reset, sourceIncludes_processDocuments, known, taken,
      List.flatMap_append]

end Documents

theorem sourceIncludes_afterCalls {settings : Settings} {s : Session} {held : List Entry}
    (known : s.sourceIncludes = held.flatMap Entry.sourceFiles) (calls : List ServedCall) :
    (afterCalls settings calls s).sourceIncludes =
      (acceptedAfter settings held calls s).flatMap Entry.sourceFiles := by
  induction calls generalizing s held with
  | nil => exact known
  | cons served rest ih =>
    obtain ⟨services, call⟩ := served
    exact ih (sourceIncludes_perform (settings.serving services) s known call)

end Session

end AccessorGen
