/- The two ways into a session.
   A text is read with its numbers as they are written, a value with its numbers in normal spelling.
   Nothing else tells the two apart, unless an object of the text stands for a text that it holds:
   they succeed together, fail together, and leave sessions that differ in the spelling of numbers
   at most. -/

import AccessorGen.Proofs.Json.Members
import AccessorGen.Proofs.Session.Calls

set_option autoImplicit false
set_option relaxedAutoImplicit false

namespace AccessorGen

/-- A number in normal spelling: no capital mark, and a sign on every exponent. -/
def Json.Number.IsNormal (n : Json.Number) : Prop :=
  ∀ e, n.exponent = some e → e.capital = false ∧ e.sign ≠ none

theorem Json.Number.IsNormal.normal_eq {n : Json.Number} (normal : n.IsNormal) :
    n.normal = n := by
  obtain ⟨negative, whole, fraction, exponent, filled⟩ := n
  cases exponent with
  | none => rfl
  | some e =>
    obtain ⟨capital, sign, digits⟩ := e
    obtain ⟨small, signed⟩ := normal _ rfl
    obtain ⟨mark, rfl⟩ := Option.ne_none_iff_exists'.mp signed
    obtain rfl : capital = false := small
    rfl

section Numbers

variable (services : Services) (key : String) (d : Descriptor) (n : Json.Number)

/-- The result of a number that is refused or taken regardless of how it is spelled. -/
private def SpellingBlind (result : Option String → Except Fault ModuleField) : Prop :=
  (∃ kind, ∀ literal, ∃ fault, result literal = .error fault ∧ fault.kind = kind) ∨
    ∃ cType, d.type.cNumericType? = some cType ∧
      ∀ literal, result literal =
        .ok ⟨key, d, .number cType (literal.getD n.normal.spelling)⟩

private theorem spellingBlind_of_validate {accepted : Bool} {wrap : String → FieldValue}
    {cType : String} (numeric : d.type.cNumericType? = some cType)
    (fits : ∀ literal, Content.ofValue? d.type (wrap literal) = some (.number cType literal))
    (validated : ∀ literal, FieldValue.validate key d (.number n) literal =
      if accepted then .ok (wrap (literal.getD n.normal.spelling))
      else .error (.outOfRange key (literal.getD n.normal.spelling) d.type)) :
    SpellingBlind key d n (ModuleField.check key d (.number n)) := by
  cases accepted with
  | false =>
    exact .inl ⟨.range, fun literal => ⟨_, ModuleField.check_eq_error (validated literal), rfl⟩⟩
  | true =>
    refine .inr ⟨cType, numeric, fun literal => ?_⟩
    exact ModuleField.check_eq_ok (validated literal) (fits _)

private theorem spellingBlind_of_wrongKind {wanted : Requirement}
    (validated : ∀ literal, FieldValue.validate key d (.number n) literal =
      .error (.wrongKind key wanted .number)) :
    SpellingBlind key d n (ModuleField.check key d (.number n)) :=
  .inl ⟨.type, fun literal => ⟨_, ModuleField.check_eq_error (validated literal), rfl⟩⟩

private theorem spellingBlind_integer {domain : IntDomain} {cType : String}
    (numeric : d.type.cNumericType? = some cType)
    (validated : ∀ literal, FieldValue.validate key d (.number n) literal =
      FieldValue.checkInteger key d.type domain (.number n) literal) :
    SpellingBlind key d n (ModuleField.check key d (.number n)) := by
  cases value : n.int? with
  | none =>
    refine @spellingBlind_of_wrongKind key d n .integer fun literal => ?_
    rw [validated, FieldValue.checkInteger, value]
    rfl
  | some i =>
    have fits : ∀ literal, Content.ofValue? d.type (.integer literal) =
        some (.number cType literal) := by
      intro literal
      rw [Content.ofValue?, numeric, Option.map_some]
    refine @spellingBlind_of_validate key d n (IntDomain.wide.holds i && domain.holds i) .integer
      cType numeric fits fun literal => ?_
    rw [validated]
    simp only [FieldValue.checkInteger, value]

private theorem spellingBlind_real {format : RealFormat} {cType : String}
    (numeric : d.type.cNumericType? = some cType)
    (validated : ∀ literal, FieldValue.validate key d (.number n) literal =
      FieldValue.checkReal key d.type format (.number n) literal) :
    SpellingBlind key d n (ModuleField.check key d (.number n)) := by
  have fits : ∀ literal, Content.ofValue? d.type (.real literal) =
      some (.number cType literal) := by
    intro literal
    rw [Content.ofValue?, numeric, Option.map_some]
  exact spellingBlind_of_validate key d n numeric fits validated

private theorem spellingBlind_check :
    SpellingBlind key d n (ModuleField.check key d (.number n)) := by
  cases type : d.type with
  | config =>
    refine .inl ⟨.config, fun literal => ⟨.noFieldValue key, ?_, rfl⟩⟩
    apply ModuleField.check_eq_error
    simp only [FieldValue.validate, type]
  | signed width =>
    obtain ⟨cType, numeric⟩ : ∃ cType, d.type.cNumericType? = some cType := by
      rw [type]
      cases width <;> exact ⟨_, rfl⟩
    refine @spellingBlind_integer key d n width.signedDomain cType numeric fun literal => ?_
    simp only [FieldValue.validate, type]
  | unsigned width =>
    obtain ⟨cType, numeric⟩ : ∃ cType, d.type.cNumericType? = some cType := by
      rw [type]
      cases width <;> exact ⟨_, rfl⟩
    refine @spellingBlind_integer key d n width.unsignedDomain cType numeric fun literal => ?_
    simp only [FieldValue.validate, type]
  | float =>
    refine @spellingBlind_real key d n .binary32 "float" (by rw [type]; rfl) fun literal => ?_
    simp only [FieldValue.validate, type]
  | double =>
    refine @spellingBlind_real key d n .binary64 "double" (by rw [type]; rfl) fun literal => ?_
    simp only [FieldValue.validate, type]
  | boolean =>
    refine @spellingBlind_of_wrongKind key d n .boolean fun literal => ?_
    simp only [FieldValue.validate, type]
    rfl
  | string =>
    refine @spellingBlind_of_wrongKind key d n .string fun literal => ?_
    simp only [FieldValue.validate, type]
    rfl
  | cMacro =>
    refine @spellingBlind_of_wrongKind key d n .string fun literal => ?_
    simp only [FieldValue.validate, type]
    rfl

private theorem Directive.meaning_number (directive : Directive) :
    ∃ fault, directive.meaning services key (.number n) = .error fault := by
  cases directive <;> exact ⟨_, rfl⟩

theorem Entry.meaning_number :
    (∃ kind, ∀ literal, ∃ fault,
      Entry.meaning services ⟨key, .number n, literal⟩ = .error fault ∧ fault.kind = kind) ∨
    ∃ d cType, Descriptor.parse key = .ok d ∧ d.type.cNumericType? = some cType ∧
      ∀ literal, Entry.meaning services ⟨key, .number n, literal⟩ =
        .ok (.fields [⟨key, d, .number cType (literal.getD n.normal.spelling)⟩]) := by
  cases parsed : Descriptor.parse key with
  | error fault =>
    refine .inl ⟨fault.kind, fun literal => ⟨fault, ?_, rfl⟩⟩
    rw [Entry.meaning, parsed]
    rfl
  | ok d =>
    have opened : ∀ literal, Entry.meaning services ⟨key, .number n, literal⟩ = _ :=
      fun literal => Entry.meaning_of_parse parsed
    by_cases config : d.type = .config
    · left
      cases known : Directive.ofKeyword? d.name with
      | none =>
        refine ⟨.config, fun literal => ⟨.unknownDirective key d.name, ?_, rfl⟩⟩
        rw [opened, if_pos config, known]
        rfl
      | some directive =>
        obtain ⟨fault, refused⟩ := Directive.meaning_number services key n directive
        refine ⟨fault.kind, fun literal => ⟨fault, ?_, rfl⟩⟩
        rw [opened, if_pos config, known]
        exact refused
    · rcases spellingBlind_check key d n with ⟨kind, refused⟩ | ⟨cType, numeric, taken⟩
      · refine .inl ⟨kind, fun literal => ?_⟩
        obtain ⟨fault, result, same⟩ := refused literal
        refine ⟨fault, ?_, same⟩
        rw [opened, if_neg config, result]
        rfl
      · refine .inr ⟨d, cType, rfl, numeric, fun literal => ?_⟩
        rw [opened, if_neg config, taken]
        rfl

end Numbers

/-- The code that two runs take up for the same entries. It differs in the numbers of fields: the
first run spells them as the text does, and the second one in normal form. -/
inductive Fragment.Respelled (scope : Scope) :
    Document → List Fragment → List Fragment → Prop
  | nil : Respelled scope [] [] []
  | number {entries : Document} {written normal : List Fragment} {key : String}
      {n : Json.Number} {literal : String} {d : Descriptor} {cType : String}
      (parsed : Descriptor.parse key = .ok d) (numeric : d.type.cNumericType? = some cType)
      (others : Respelled scope entries written normal) :
      Respelled scope (entries ++ [⟨key, .number n, some literal⟩])
        (written ++ [scope.scalar d (.text cType) (.text literal), .separator])
        (normal ++ [scope.scalar d (.text cType) (.text n.normal.spelling), .separator])
  | other {entries : Document} {written normal : List Fragment} {entry : Entry}
      {code : List Fragment} (different : ∀ n, entry.value ≠ .number n)
      (others : Respelled scope entries written normal) :
      Respelled scope (entries ++ [entry]) (written ++ (code ++ [.separator]))
        (normal ++ (code ++ [.separator]))

/-- The sections that two runs leave for the same documents, on top of the sections that were there
`before`. Sections and documents are newest first. -/
inductive Section.Respelled (naming : NamingStyle) (before : List Section) :
    List Document → List Section → List Section → Prop
  | nil : Respelled naming before [] before before
  | cons {documents : List Document} {written normal : List Section} {document : Document}
      {label : String} {fields : Array CapturedField} {code code' : Array Fragment}
      (earlier : Respelled naming before documents written normal)
      (own : Fragment.Respelled ⟨naming, written.length⟩ document code.toList code'.toList) :
      Respelled naming before (document :: documents) (⟨label, fields, code⟩ :: written)
        (⟨label, fields, code'⟩ :: normal)

/-- The sessions that two runs leave for the same documents, newest first, when both start from the
session `before`: they differ in the code of the new sections at most. -/
structure Session.Respelled (naming : NamingStyle) (before : Session) (documents : List Document)
    (written normal : Session) : Prop where
  sections :
    Section.Respelled naming before.sections documents written.sections normal.sections
  others : written = { normal with sections := written.sections }

/-- Two runs that end alike: with sessions that agree but for spelling, and both without a fault or
with faults of the same kind. -/
structure Outcome.Respelled (naming : NamingStyle) (before : Session) (documents : List Document)
    (written normal : Outcome) : Prop where
  sessions : Session.Respelled naming before documents written.session normal.session
  faults : written.fault.map Fault.kind = normal.fault.map Fault.kind

/-- What has been processed of documents when a run ends: all of them, or some of them and the first
entries of the next one. -/
inductive Processed {α : Type} : List (List α) → List (List α) → Prop
  | all : Processed [] []
  | stopped {taken members : List α} {rest : List (List α)} (initial : taken <+: members) :
      Processed [taken] (members :: rest)
  | next {part rest : List (List α)} (members : List α) (further : Processed part rest) :
      Processed (members :: part) (members :: rest)

/-- What an entry means to two runs. -/
private inductive Meaning.Respelled : Entry → Meaning → Meaning → Prop
  | number {key : String} {n : Json.Number} {literal : String} {d : Descriptor} {cType : String}
      (parsed : Descriptor.parse key = .ok d) (numeric : d.type.cNumericType? = some cType) :
      Respelled ⟨key, .number n, some literal⟩ (.fields [⟨key, d, .number cType literal⟩])
        (.fields [⟨key, d, .number cType n.normal.spelling⟩])
  | other {entry : Entry} {meaning : Meaning} (different : ∀ n, entry.value ≠ .number n) :
      Respelled entry meaning meaning

private theorem Section.Respelled.length_eq {naming : NamingStyle}
    {before written normal : List Section} {documents : List Document}
    (respelled : Respelled naming before documents written normal) :
    written.length = normal.length := by
  induction respelled with
  | nil => rfl
  | cons earlier own ih => rw [List.length_cons, List.length_cons, ih]

private theorem Outcome.Respelled.ends {naming : NamingStyle} {before : Session}
    {documents : List Document} {written normal : Outcome}
    (respelled : Respelled naming before documents written normal) :
    (∃ s t, written = .done s ∧ normal = .done t ∧
      Session.Respelled naming before documents s t) ∨
    ∃ s t fault fault', written = ⟨s, some fault⟩ ∧ normal = ⟨t, some fault'⟩ := by
  obtain ⟨s, fault⟩ := written
  obtain ⟨t, fault'⟩ := normal
  obtain ⟨sessions, faults⟩ := respelled
  cases fault with
  | none =>
    cases fault' with
    | none => exact .inl ⟨s, t, rfl, rfl, sessions⟩
    | some fault' => cases faults
  | some fault =>
    cases fault' with
    | none => cases faults
    | some fault' => exact .inr ⟨s, t, fault, fault', rfl, rfl⟩

namespace Session

private theorem meaning_entry (services : Services) {text : List Char} {entry : Entry}
    (sourced : entry.Sourced text) :
    (∃ fault fault', Entry.meaning services entry = .error fault ∧
        Entry.meaning services ⟨entry.key, entry.value, none⟩ = .error fault' ∧
        fault.kind = fault'.kind) ∨
      ∃ first second, Entry.meaning services entry = .ok first ∧
        Entry.meaning services ⟨entry.key, entry.value, none⟩ = .ok second ∧
        Meaning.Respelled entry first second := by
  obtain ⟨key, value, given⟩ := entry
  by_cases numeric : ∃ n, value = .number n
  · obtain ⟨n, rfl⟩ := numeric
    obtain ⟨literal, rfl, -⟩ := sourced.number n rfl
    rcases Entry.meaning_number services key n with
      ⟨kind, refused⟩ | ⟨d, cType, parsed, type, taken⟩
    · obtain ⟨fault, result, same⟩ := refused (some literal)
      obtain ⟨fault', result', same'⟩ := refused none
      exact .inl ⟨fault, fault', result, result', same.trans same'.symm⟩
    · exact .inr ⟨_, _, taken (some literal), taken none, .number parsed type⟩
  · have different : ∀ n, value ≠ .number n := fun n same => numeric ⟨n, same⟩
    obtain rfl := sourced.other different
    cases result : Entry.meaning services ⟨key, value, none⟩ with
    | error fault => exact .inl ⟨fault, fault, rfl, rfl, rfl⟩
    | ok meaning => exact .inr ⟨meaning, meaning, rfl, rfl, .other different⟩

/-- Sessions that agree but for spelling still do after both have carried out an entry. -/
private theorem Respelled.advance {naming : NamingStyle} {before a b : Session}
    {documents : List Document} {taken : Document} {entry : Entry} {first second : Meaning}
    (respelled : Respelled naming before (taken :: documents) a b)
    (meanings : Meaning.Respelled entry first second) :
    Respelled naming before ((taken ++ [entry]) :: documents)
      (a.advance naming first) (b.advance naming second) := by
  obtain ⟨sections, base, bools, header, source, definitions⟩ := a
  obtain ⟨sections', base', bools', header', source', definitions'⟩ := b
  obtain ⟨related, others⟩ := respelled
  obtain ⟨-, rfl, rfl, rfl, rfl, rfl⟩ := Session.mk.inj others
  cases related with
  | cons earlier own =>
    rw [advance_mk, advance_mk, ← earlier.length_eq]
    cases meanings with
    | number parsed numeric =>
      refine ⟨.cons earlier ?_, rfl⟩
      simpa [Meaning.fragments, ModuleField.code, Scope.code] using own.number parsed numeric
    | other different =>
      refine ⟨.cons earlier ?_, rfl⟩
      simpa [Meaning.fragments] using own.other different

private theorem processEntries_respelled {settings : Settings} {before a b : Session}
    {documents : List Document} {taken : Document}
    (respelled : Respelled settings.naming before (taken :: documents) a b) {text : List Char}
    {document : Document} (sourced : ∀ entry ∈ document, entry.Sourced text) :
    ∃ read, read <+: document ∧
      Outcome.Respelled settings.naming before ((taken ++ read) :: documents)
        (processEntries settings document a)
        (processEntries settings (.ofMembers document.members) b) ∧
      ((processEntries settings document a).fault = none → read = document) := by
  induction document generalizing a b taken with
  | nil => exact ⟨[], List.nil_prefix, ⟨by rwa [List.append_nil], rfl⟩, fun _ => rfl⟩
  | cons entry rest ih =>
    obtain ⟨own, others⟩ := List.forall_mem_cons.mp sourced
    have second : processEntries settings (.ofMembers (Document.members (entry :: rest))) b =
        (b.processEntry settings ⟨entry.key, entry.value, none⟩).andThen fun s =>
          processEntries settings (.ofMembers (Document.members rest)) (s.addFragment .separator) :=
      rfl
    rw [processEntries, second, processEntry_eq, processEntry_eq]
    rcases meaning_entry settings.services own with
      ⟨fault, fault', refused, refused', kinds⟩ | ⟨meaning, meaning', read, read', meanings⟩
    · -- Both runs stop before this entry, in sessions that agree so far.
      rw [refused, refused']
      refine ⟨[], List.nil_prefix, ⟨?_, congrArg some kinds⟩, fun done => ?_⟩
      · rw [List.append_nil]
        exact respelled
      · cases done
    · rw [read, read']
      obtain ⟨more, initial, ended, complete⟩ := ih (respelled.advance meanings) others
      refine ⟨entry :: more, (List.prefix_cons_inj _).mpr initial, ?_, fun done => ?_⟩
      · rw [List.append_cons]
        exact ended
      · rw [complete done]

private theorem define_sections (new : List Definition) (s : Session) (sections : List Section) :
    define new { s with sections := sections } =
      ⟨{ (define new s).session with sections := sections }, (define new s).fault⟩ := by
  induction new generalizing s with
  | nil => rfl
  | cons first rest ih =>
    rw [define, define]
    cases s.definitions.find? fun old => old.symbol == first.symbol with
    | some old => rfl
    | none => exact ih { s with definitions := s.definitions.push first }

private theorem Respelled.register {settings : Settings} {before a b : Session}
    {documents : List Document} {document : Document}
    (respelled : Respelled settings.naming before (document :: documents) a b) :
    Outcome.Respelled settings.naming before (document :: documents)
      (a.register settings) (b.register settings) := by
  obtain ⟨sections, base, bools, header, source, definitions⟩ := a
  obtain ⟨sections', base', bools', header', source', definitions'⟩ := b
  obtain ⟨related, others⟩ := respelled
  obtain ⟨-, rfl, rfl, rfl, rfl, rfl⟩ := Session.mk.inj others
  cases related with
  | @cons _ written normal _ label fields code code' earlier own =>
    have split := define_sections (sectionDefinitions settings.naming ⟨label, fields, code⟩)
      ⟨⟨label, fields, code'⟩ :: normal, base, bools, header, source, definitions⟩
      (⟨label, fields, code⟩ :: written)
    have kept := sections_define (sectionDefinitions settings.naming ⟨label, fields, code⟩)
      ⟨⟨label, fields, code'⟩ :: normal, base, bools, header, source, definitions⟩
    have same : sectionDefinitions settings.naming ⟨label, fields, code'⟩ =
        sectionDefinitions settings.naming ⟨label, fields, code⟩ :=
      rfl
    simp only [Session.register, same]
    rw [split]
    refine ⟨⟨?_, rfl⟩, rfl⟩
    rw [kept]
    exact .cons earlier own

private theorem processDocument_respelled {settings : Settings} {before a b : Session}
    {documents : List Document} (respelled : Respelled settings.naming before documents a b)
    {text : List Char} {document : Document} (sourced : ∀ entry ∈ document, entry.Sourced text) :
    ∃ read, read <+: document ∧
      Outcome.Respelled settings.naming before (read :: documents)
        (a.processDocument settings document)
        (b.processDocument settings (.ofMembers document.members)) ∧
      ((a.processDocument settings document).fault = none → read = document) := by
  have opened : Respelled settings.naming before ([] :: documents) a.openSection b.openSection := by
    obtain ⟨related, others⟩ := respelled
    refine ⟨.cons related .nil, ?_⟩
    rw [openSection, others]
    rfl
  obtain ⟨read, initial, ended, complete⟩ := processEntries_respelled opened sourced
  rw [List.nil_append] at ended
  rw [processDocument, processDocument]
  rcases ended.ends with ⟨s, t, first, second, sessions⟩ | ⟨s, t, fault, fault', first, second⟩
  · rw [first, second]
    refine ⟨read, initial, sessions.register, fun _ => complete ?_⟩
    rw [first]
    rfl
  · rw [first, second] at ended ⊢
    exact ⟨read, initial, ended, fun done => by cases done⟩

/-- Documents of a text and their values end alike. -/
theorem processDocuments_respelled {settings : Settings} {before a b : Session}
    {done : List Document} (respelled : Respelled settings.naming before done a b)
    {text : List Char} {documents : List Document}
    (sourced : ∀ document ∈ documents, ∀ entry ∈ document, entry.Sourced text) :
    ∃ part, Processed part documents ∧
      Outcome.Respelled settings.naming before (part.reverse ++ done)
        (processDocuments settings documents a)
        (processDocuments settings ((documents.map Document.members).map .ofMembers) b) ∧
      ((processDocuments settings documents a).fault = none → part = documents) := by
  induction documents generalizing a b done with
  | nil => exact ⟨[], .all, ⟨respelled, rfl⟩, fun _ => rfl⟩
  | cons document rest ih =>
    obtain ⟨own, others⟩ := List.forall_mem_cons.mp sourced
    obtain ⟨read, initial, ended, complete⟩ := processDocument_respelled respelled own
    rw [List.map_cons, List.map_cons, processDocuments, processDocuments]
    rcases ended.ends with ⟨s, t, first, second, sessions⟩ | ⟨s, t, fault, fault', first, second⟩
    · rw [first, second]
      have whole : read = document := by
        apply complete
        rw [first]
        rfl
      subst whole
      obtain ⟨part, further, all, finished⟩ := ih sessions others
      refine ⟨read :: part, .next read further, ?_, fun ok => ?_⟩
      · rw [List.reverse_cons, List.append_assoc, List.singleton_append]
        exact all
      · rw [finished ok]
    · rw [first, second] at ended ⊢
      exact ⟨[read], .stopped initial, ended, fun ok => by cases ok⟩

private theorem processItems_objects (settings : Settings) (index : Nat)
    (objects : List (List (String × Json.Value))) (s : Session) :
    processItems settings index (objects.map .object) s =
      processDocuments settings (objects.map .ofMembers) s := by
  induction objects generalizing index s with
  | nil => rfl
  | cons members rest ih =>
    simp only [List.map_cons, processItems, processDocuments, ih]

private theorem processValue_eq (settings : Settings) (s : Session) {value : Json.Value}
    {objects : List (List (String × Json.Value))} (proper : value.objects? = some objects) :
    s.processValue settings value = processDocuments settings (objects.map .ofMembers) s := by
  cases value with
  | object members =>
    obtain rfl := Option.some.inj proper
    change s.processDocument settings (.ofMembers members) =
      (s.processDocument settings (.ofMembers members)).andThen .done
    obtain ⟨t, fault⟩ := s.processDocument settings (.ofMembers members)
    cases fault <;> rfl
  | array items =>
    obtain rfl := Json.mapM_members?_eq_some proper
    exact processItems_objects settings 0 objects s
  | _ => cases proper

/-- The numbers of the fields of a document are written by themselves and in normal form. -/
def FieldsNormal (document : Document) : Prop :=
  ∀ entry ∈ document, ∀ n d, entry.value = .number n → Descriptor.parse entry.key = .ok d →
    d.type ≠ .config → ¬ entry.Bracketed ∧ n.IsNormal

private theorem meaning_of_normal {services : Services} {text : List Char} {entry : Entry}
    (sourced : entry.Sourced text) (normal : FieldsNormal [entry]) :
    Entry.meaning services entry = Entry.meaning services ⟨entry.key, entry.value, none⟩ := by
  obtain ⟨key, value, given⟩ := entry
  by_cases numeric : ∃ n, value = .number n
  · obtain ⟨n, rfl⟩ := numeric
    obtain ⟨literal, rfl, -, spelled⟩ := sourced.number n rfl
    cases parsed : Descriptor.parse key with
    | error fault =>
      rw [Entry.meaning, Entry.meaning, parsed]
      rfl
    | ok d =>
      rw [Entry.meaning_of_parse parsed, Entry.meaning_of_parse parsed]
      by_cases config : d.type = .config
      · -- A directive takes no notice of the spelling.
        rw [if_pos config, if_pos config]
      · obtain ⟨bare, own⟩ := normal _ List.mem_cons_self n d rfl parsed config
        obtain rfl := spelled.resolve_right bare
        have spelling : n.spelling = n.normal.spelling := by rw [own.normal_eq]
        have validated : FieldValue.validate key d (.number n) (some n.spelling) =
            FieldValue.validate key d (.number n) none := by
          rw [spelling]
          unfold FieldValue.validate
          split <;> rfl
        simp only [ModuleField.check, validated]
  · obtain rfl := sourced.other fun n same => numeric ⟨n, same⟩
    rfl

private theorem processEntries_of_normal {settings : Settings} {text : List Char}
    {document : Document} (sourced : ∀ entry ∈ document, entry.Sourced text)
    (normal : FieldsNormal document) (s : Session) :
    processEntries settings document s =
      processEntries settings (.ofMembers document.members) s := by
  induction document generalizing s with
  | nil => rfl
  | cons entry rest ih =>
    obtain ⟨own, others⟩ := List.forall_mem_cons.mp sourced
    have here : FieldsNormal [entry] := fun other inside =>
      normal other (List.mem_cons.mpr (.inl (List.mem_singleton.mp inside)))
    have later : FieldsNormal rest := fun other inside =>
      normal other (List.mem_cons_of_mem _ inside)
    change (s.processEntry settings entry).andThen
        (fun s => processEntries settings rest (s.addFragment .separator)) =
      (s.processEntry settings ⟨entry.key, entry.value, none⟩).andThen
        fun s => processEntries settings (.ofMembers (Document.members rest))
          (s.addFragment .separator)
    simp only [processEntry_eq, meaning_of_normal own here, ih others later]

theorem processDocuments_of_normal {settings : Settings} {text : List Char}
    {documents : List Document}
    (sourced : ∀ document ∈ documents, ∀ entry ∈ document, entry.Sourced text)
    (normal : ∀ document ∈ documents, FieldsNormal document) (s : Session) :
    processDocuments settings documents s =
      processDocuments settings ((documents.map Document.members).map .ofMembers) s := by
  induction documents generalizing s with
  | nil => rfl
  | cons document rest ih =>
    obtain ⟨own, others⟩ := List.forall_mem_cons.mp sourced
    obtain ⟨here, later⟩ := List.forall_mem_cons.mp normal
    simp only [List.map_cons, processDocuments, processDocument,
      processEntries_of_normal own here, ih others later]

/-- Two objects with numbers out of normal form, a repeated name, white space and a number in an
object of its own. -/
private def looseText : String :=
  "[ \x7b\"float:A\": 1E5, \"int8:B\": -0,\n\"float:A\": 2.50e3\x7d, \x7b\"double:C\" :1e-3, " ++
    "\"int8:D\": \x7b\"$serde_json::private::Number\": \"7\"\x7d\x7d ]"

/-- An object that stands for another one. -/
private def heldText : String :=
  "\x7b\"$serde_json::private::RawValue\": \"\x7b\\\"int8:A\\\": 1\x7d\"\x7d"

end Session

end AccessorGen
