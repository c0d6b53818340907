/- Calls on a session.
   A client hands over texts, values and objects, and may reset the session in between. The services
   may answer differently at every call. Calls that all end without a fault leave what their
   documents since the last reset have put together. -/

import AccessorGen.Proofs.Json.Members
import AccessorGen.Proofs.Session.ClosedForm

set_option autoImplicit false
set_option relaxedAutoImplicit false

namespace AccessorGen

/-- Services that know one revision and one time, in a zone one hour ahead. -/
def Services.steady (revision : String) (timestamp : Int) : Services :=
  ⟨fun _ => .ok revision, .ok ⟨timestamp, 3600⟩⟩

def Settings.steady (naming : NamingStyle) : Settings :=
  ⟨naming, none, .steady "v1" 1700000000⟩

def Settings.serving (settings : Settings) (services : Services) : Settings :=
  { settings with services := services }

/-- What a client asks of a session. -/
inductive Call where
  | text (input : String)
  | value (input : Json.Value)
  | object (members : List (String × Json.Value))
  | reset

def Call.documents? : Call → Option (List Document)
  | .text input => (Document.readAll input).toOption
  | .value input => input.objects?.map fun objects => objects.map Document.ofMembers
  | .object members => some [.ofMembers members]
  | .reset => some []

theorem Call.spelled_of_documents? {call : Call} {documents : List Document}
    (handed : call.documents? = some documents) :
    ∀ document ∈ documents, ∀ entry ∈ document, entry.Spelled := by
  have plain : ∀ members, ∀ entry ∈ Document.ofMembers members, entry.Spelled := by
    intro members entry inside
    obtain ⟨member, -, rfl⟩ := List.mem_map.mp inside
    exact Entry.spelled_of_literal rfl
  cases call with
  | text input =>
    simp only [documents?] at handed
    cases read : Document.readAll input with
    | error fault =>
      rw [read] at handed
      cases handed
    | ok own =>
      rw [read] at handed
      obtain rfl := Option.some.inj handed
      exact fun document inside entry member =>
        (Document.sourced_of_readAll read document inside entry member).spelled
  | value input =>
    obtain ⟨objects, -, rfl⟩ := Option.map_eq_some_iff.mp handed
    intro document inside
    obtain ⟨members, -, rfl⟩ := List.mem_map.mp inside
    exact plain members
  | object members =>
    obtain rfl := Option.some.inj handed
    intro document inside
    obtain rfl := List.mem_singleton.mp inside
    exact plain members
  | reset =>
    obtain rfl := Option.some.inj handed
    intro document inside
    cases inside

/-- A call with what the services answer while it is carried out. From one call to the next the
answers may change. -/
structure ServedCall where
  services : Services
  call : Call

/-- The documents that a session holds after calls: those since the last reset. `held` are the
documents before the calls. -/
def ServedCall.documentsAfter? (held : List ServedDocument) :
    List ServedCall → Option (List ServedDocument)
  | [] => some held
  | ⟨_, .reset⟩ :: rest => documentsAfter? [] rest
  | ⟨services, call⟩ :: rest => do
    let more ← call.documents?
    documentsAfter? (held ++ more.map (ServedDocument.mk services)) rest

theorem ServedCall.spelled_of_documentsAfter? {calls : List ServedCall}
    {held documents : List ServedDocument}
    (before : ∀ served ∈ held, ∀ entry ∈ served.document, entry.Spelled)
    (after : documentsAfter? held calls = some documents) :
    ∀ served ∈ documents, ∀ entry ∈ served.document, entry.Spelled := by
  induction calls generalizing held with
  | nil =>
    obtain rfl := Option.some.inj after
    exact before
  | cons first rest ih =>
    obtain ⟨services, call⟩ := first
    by_cases reset : call = .reset
    · subst reset
      exact ih (by simp) after
    · obtain ⟨more, handed, after⟩ : ∃ more, call.documents? = some more ∧
          documentsAfter? (held ++ more.map (ServedDocument.mk services)) rest =
            some documents := by
        cases call with
        | reset => exact absurd rfl reset
        | _ => exact Option.bind_eq_some_iff.mp after
      refine ih (fun served member => ?_) after
      rcases List.mem_append.mp member with old | new
      · exact before served old
      · obtain ⟨document, listed, rfl⟩ := List.mem_map.mp new
        exact Call.spelled_of_documents? handed document listed

namespace Session

def perform (settings : Settings) (s : Session) : Call → Outcome
  | .text input => s.processText settings input
  | .value input => s.processValue settings input
  | .object members => s.processDocument settings (.ofMembers members)
  | .reset => .done (fresh settings)

def performAll (settings : Settings) : List ServedCall → Session → Outcome
  | [], s => .done s
  | ⟨services, call⟩ :: rest, s =>
    (s.perform (settings.serving services) call).andThen fun s => performAll settings rest s

private theorem processItems_done {settings : Settings} {index : Nat} {items : List Json.Value}
    {s t : Session} (run : processItems settings index items s = .done t) :
    ∃ objects, items.mapM Json.Value.members? = some objects ∧
      processDocuments settings (objects.map Document.ofMembers) s = .done t := by
  induction items generalizing index s with
  | nil => exact ⟨[], rfl, run⟩
  | cons item rest ih =>
    cases item with
    | object members =>
      rw [processItems, Outcome.andThen_eq_done_iff] at run
      obtain ⟨u, first, others⟩ := run
      obtain ⟨objects, read, more⟩ := ih others
      refine ⟨members :: objects, ?_, ?_⟩
      · simp [Json.Value.members?, read]
      · rw [List.map_cons, processDocuments, first, Outcome.andThen_done, more]
    | _ => cases congrArg Outcome.fault run

theorem perform_done {settings : Settings} {s t : Session} {call : Call}
    (proper : call ≠ .reset) (run : s.perform settings call = .done t) :
    ∃ documents, call.documents? = some documents ∧
      processDocuments settings documents s = .done t := by
  cases call with
  | text input =>
    rw [perform, processText] at run
    cases read : Document.readAll input with
    | error fault =>
      rw [read] at run
      cases congrArg Outcome.fault run
    | ok documents =>
      rw [read] at run
      exact ⟨documents, by simp [Call.documents?, read, Except.toOption], run⟩
  | value input =>
    cases input with
    | object members =>
      refine ⟨[.ofMembers members], rfl, ?_⟩
      rw [processDocuments]
      rw [perform, processValue] at run
      rw [run]
      rfl
    | array items =>
      obtain ⟨objects, read, more⟩ := processItems_done run
      exact ⟨objects.map Document.ofMembers, by
        simp [Call.documents?, Json.Value.objects?, read], more⟩
    | _ => cases congrArg Outcome.fault run
  | object members =>
    refine ⟨[.ofMembers members], rfl, ?_⟩
    rw [processDocuments]
    rw [perform] at run
    rw [run]
    rfl
  | reset => exact absurd rfl proper

private theorem mapM_served (services : Services) (documents : List Document) :
    (documents.map (ServedDocument.mk services)).mapM ServedDocument.meanings =
      documents.mapM (Document.meanings services) := by
  rw [List.mapM_map]
  rfl

private theorem performAll_ofMeanings {settings : Settings} {held : List ServedDocument}
    {before : List (List Meaning)} {calls : List ServedCall} {t : Session}
    (known : held.mapM ServedDocument.meanings = .ok before)
    (distinct : ((ofMeanings settings before).symbols settings.naming).Nodup)
    (run : performAll settings calls (ofMeanings settings before) = .done t) :
    ∃ documents meanings, ServedCall.documentsAfter? held calls = some documents ∧
      documents.mapM ServedDocument.meanings = .ok meanings ∧
      ofMeanings settings meanings = t ∧ (t.symbols settings.naming).Nodup := by
  induction calls generalizing held before with
  | nil =>
    obtain rfl : ofMeanings settings before = t := congrArg Outcome.session run
    exact ⟨held, before, rfl, known, rfl, distinct⟩
  | cons served rest ih =>
    obtain ⟨services, call⟩ := served
    rw [performAll, Outcome.andThen_eq_done_iff] at run
    obtain ⟨u, first, others⟩ := run
    by_cases reset : call = .reset
    · subst reset
      obtain rfl : ofMeanings settings [] = u := congrArg Outcome.session first
      exact @ih [] [] rfl List.nodup_nil others
    · obtain ⟨documents, handed, taken⟩ := perform_done reset first
      -- The closed form takes no notice of the services.
      obtain ⟨more, read, same, joined⟩ :=
        @processDocuments_ofMeanings (settings.serving services) before documents u distinct taken
      obtain rfl : ofMeanings settings (before ++ more) = u := same
      have all :
          (held ++ documents.map (ServedDocument.mk services)).mapM ServedDocument.meanings =
            .ok (before ++ more) := by
        have later := (mapM_served services documents).trans read
        rw [List.mapM_append, known, later]
        rfl
      obtain ⟨final, meanings, after, known⟩ := ih all joined others
      refine ⟨final, meanings, ?_, known⟩
      cases call with
      | reset => exact absurd rfl reset
      | _ =>
        simp only [ServedCall.documentsAfter?, handed, after, Option.bind_eq_bind,
          Option.bind_some]

/-- Calls that all end without a fault leave the closed form of their documents, in which all
symbols are distinct. -/
theorem performAll_fresh_eq_done {settings : Settings} {calls : List ServedCall} {s : Session}
    (completed : performAll settings calls (fresh settings) = .done s) :
    ∃ documents meanings, ServedCall.documentsAfter? [] calls = some documents ∧
      documents.mapM ServedDocument.meanings = .ok meanings ∧
      ofMeanings settings meanings = s ∧ (s.symbols settings.naming).Nodup :=
  @performAll_ofMeanings settings [] [] calls s rfl List.nodup_nil completed

end Session

end AccessorGen
