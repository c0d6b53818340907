/- What faults are about.
   Every fault is about the input as a whole, a key, a directive, or two keys that clash, and its
   message names what it is about. An entry that fails does so with a fault about its own key, about
   the directive that it is, or about a field that this directive adds. -/

import AccessorGen.Proofs.Session.FailingEntry

set_option autoImplicit false
set_option relaxedAutoImplicit false

namespace AccessorGen

namespace Fault

inductive Subject where
  | input
  | key (key : String)
  | directive (directive : Directive)
  /-- Two keys with a common symbol, the earlier one last. -/
  | clash (key other : String)
  deriving DecidableEq, Repr

def subject : Fault → Subject
  | .notJson | .notDocuments _ | .notDocument _ _ => .input
  | .malformedKey key | .unknownType key _ | .sizeNotNumber key _ | .sizeTooLarge key _
  | .badQualifier key _ | .misplacedParams key | .misplacedSize key _ | .noFieldValue key
  | .wrongKind key _ _ | .outOfRange key _ _ | .stringTooLong key _ _ | .valueMisfit key _
  | .unknownDirective key _ | .collaborator key _ => .key key
  | .wrongDirectiveKind directive _ _ => .directive directive
  | .versionShape _ | .versionRange _ _ => .directive .version
  | .symbolClash key _ other => .clash key other

def Subject.names : Subject → List String
  | .input => []
  | .key own => [own]
  | .directive own => [own.keyword]
  | .clash later earlier => [later, earlier]

def Mentions (fault : Fault) (name : String) : Prop :=
  name.toList <:+: fault.message.toList

theorem mentions_of_message {fault : Fault} (front name back : String)
    (shape : fault.message = front ++ quoted name ++ back) : fault.Mentions name := by
  refine ⟨front.toList ++ ['\''], '\'' :: back.toList, ?_⟩
  simp [shape, quoted]

theorem exists_message_of_key {fault : Fault} {key : String} (about : fault.subject = .key key) :
    ∃ rest, fault.message = quoted key ++ rest := by
  cases fault with
  | notJson | notDocuments | notDocument | wrongDirectiveKind | versionShape | versionRange
  | symbolClash => cases about
  | malformedKey | misplacedParams | noFieldValue =>
    obtain rfl := Subject.key.inj about
    exact ⟨_, rfl⟩
  | unknownType | sizeNotNumber | sizeTooLarge | badQualifier | misplacedSize | wrongKind
  | outOfRange | stringTooLong | valueMisfit | unknownDirective | collaborator =>
    obtain rfl := Subject.key.inj about
    dsimp only [message]
    simp only [String.append_assoc]
    exact ⟨_, rfl⟩

theorem exists_message_of_directive {fault : Fault} {directive : Directive}
    (about : fault.subject = .directive directive) :
    ∃ rest, fault.message = "directive " ++ quoted directive.keyword ++ rest := by
  cases fault with
  | wrongDirectiveKind | versionShape | versionRange =>
    obtain rfl := Subject.directive.inj about
    dsimp only [message]
    simp only [String.append_assoc]
    exact ⟨_, rfl⟩
  | _ => cases about

/-- The message of a fault names what the fault is about. -/
theorem mentions_of_subject {fault : Fault} {name : String}
    (named : name ∈ fault.subject.names) : fault.Mentions name := by
  cases about : fault.subject with
  | input =>
    rw [about] at named
    cases named
  | key key =>
    rw [about] at named
    obtain rfl := List.mem_singleton.mp named
    obtain ⟨rest, shape⟩ := exists_message_of_key about
    exact mentions_of_message "" name rest (by rw [shape, String.empty_append])
  | directive directive =>
    rw [about] at named
    obtain rfl := List.mem_singleton.mp named
    obtain ⟨rest, shape⟩ := exists_message_of_directive about
    exact mentions_of_message "directive " _ rest shape
  | clash key other =>
    rw [about] at named
    cases fault with
    | symbolClash own symbol earlier =>
      obtain ⟨rfl, rfl⟩ := Subject.clash.inj about
      rcases List.mem_pair.mp named with rfl | rfl
      · refine mentions_of_message "" name
          (": generates the same C symbol " ++ quoted symbol ++ " as " ++ quoted earlier) ?_
        dsimp only [message]
        simp only [String.empty_append, String.append_assoc]
      · refine mentions_of_message
          (quoted own ++ ": generates the same C symbol " ++ quoted symbol ++ " as ") name "" ?_
        rw [String.append_empty]
        rfl
    | _ => cases about

end Fault

/-- A reading that succeeds, or fails with a fault about an allowed subject. -/
structure BlamesOnly {α : Type} (allowed : Fault.Subject → Prop) (result : Except Fault α) :
    Prop where
  subject : ∀ fault, result = .error fault → allowed fault.subject

namespace BlamesOnly

variable {α β : Type} {allowed : Fault.Subject → Prop}

@[simp] theorem ok (a : α) : BlamesOnly allowed (.ok a : Except Fault α) := by
  constructor
  intro fault failed
  cases failed

@[simp] theorem error_iff (fault : Fault) :
    BlamesOnly allowed (.error fault : Except Fault α) ↔ allowed fault.subject := by
  constructor
  · intro blames
    exact blames.subject fault rfl
  · intro fits
    constructor
    intro cause failed
    rwa [← Except.error.inj failed]

theorem bind {result : Except Fault α} {next : α → Except Fault β}
    (first : BlamesOnly allowed result) (later : ∀ a, BlamesOnly allowed (next a)) :
    BlamesOnly allowed (result >>= next) := by
  cases result with
  | ok a => exact later a
  | error fault => exact (error_iff fault).mpr (first.subject fault rfl)

theorem mapM {read : α → Except Fault β} (each : ∀ a, BlamesOnly allowed (read a))
    (list : List α) : BlamesOnly allowed (list.mapM read) := by
  induction list with
  | nil => exact ok []
  | cons first rest ih =>
    rw [List.mapM_cons]
    exact (each first).bind fun a => ih.bind fun others => ok _

theorem mono {more : Fault.Subject → Prop} {result : Except Fault α}
    (blames : BlamesOnly allowed result) (fewer : ∀ subject, allowed subject → more subject) :
    BlamesOnly more result :=
  ⟨fun fault failed => fewer _ (blames.subject fault failed)⟩

end BlamesOnly

theorem Descriptor.blames_parse (key : String) : BlamesOnly (· = .key key) (parse key) := by
  have type : ∀ word, BlamesOnly (· = .key key) (readType key word) := by
    intro word
    unfold readType
    split
    · exact .ok _
    · split <;> simp [Fault.subject]
  have size : ∀ word, BlamesOnly (· = .key key) (readSize key word) := by
    intro word
    unfold readSize
    repeat' split
    all_goals simp [Fault.subject]
  have access : ∀ word, BlamesOnly (· = .key key) (readAccess key word) := by
    intro word
    unfold readAccess
    split <;> simp [Fault.subject]
  have annotations : ∀ d, BlamesOnly (· = .key key) (checkAnnotations key d) := by
    intro d
    unfold checkAnnotations
    repeat' split
    all_goals simp [Fault.subject]
  unfold parse
  split
  · exact (BlamesOnly.error_iff _).mpr rfl
  · rename_i tokens _
    refine (type tokens.typeWord).bind fun _ => ?_
    refine (size tokens.size).bind fun _ => ?_
    refine (access tokens.qualifier).bind fun _ => ?_
    exact (annotations _).bind fun _ => .ok _

theorem FieldValue.blames_validate (key : String) (d : Descriptor) (value : Json.Value)
    (literal : Option String) : BlamesOnly (· = .key key) (validate key d value literal) := by
  unfold validate checkInteger checkReal checkBoolean checkString checkMacro
  repeat' split
  all_goals simp [Fault.subject]

namespace ModuleField

theorem blames_check (key : String) (d : Descriptor) (value : Json.Value)
    (literal : Option String) : BlamesOnly (· = .key key) (check key d value literal) := by
  refine (FieldValue.blames_validate key d value literal).bind fun checked => ?_
  split
  · exact .ok _
  · exact (BlamesOnly.error_iff _).mpr rfl

theorem blames_read (key : String) (value : Json.Value) (literal : Option String) :
    BlamesOnly (· = .key key) (read key value literal) :=
  (Descriptor.blames_parse key).bind fun d => blames_check key d value literal

end ModuleField

theorem Version.blames_ofValue (value : Json.Value) :
    BlamesOnly (· = .directive .version) (ofValue value) := by
  have component : ∀ whole label value,
      BlamesOnly (· = .directive .version) (component whole label value) := by
    intro whole label value
    unfold Version.component
    repeat' split
    all_goals simp [Fault.subject]
  unfold ofValue
  split
  · refine (component _ _ _).bind fun _ => ?_
    refine (component _ _ _).bind fun _ => ?_
    exact (component _ _ _).bind fun _ => .ok _
  · exact (BlamesOnly.error_iff _).mpr rfl

namespace Directive

def fieldKeys : Directive → List String
  | .gitRepository => ["string[]:Git_Commit_Str"]
  | .dateTime => ["uint32:Unix_Time", "string:Time_Str"]
  | .version => ["string:Version_Str", "uint32:Version_Num"]
  | _ => []

/-- A directive that is carried out adds fields with exactly these keys, or none. -/
theorem map_key_of_meaning {services : Services} {key : String} {directive : Directive}
    {value : Json.Value} {meaning : Meaning}
    (meant : directive.meaning services key value = .ok meaning) :
    meaning.newFields.map ModuleField.key = directive.fieldKeys ∨ meaning.newFields = [] := by
  have named : ∀ {key : String} {value : Json.Value} {literal : Option String}
      {field : ModuleField}, ModuleField.read key value literal = .ok field → field.key = key := by
    intro key value literal field made
    obtain ⟨d, -, checked⟩ := bind_eq_ok_iff.mp made
    exact congrArg CapturedField.key (ModuleField.captured_of_check checked)
  cases directive with
  | gitRepository =>
    obtain ⟨repository, -, meant⟩ := bind_eq_ok_iff.mp meant
    obtain ⟨revision, -, meant⟩ := bind_eq_ok_iff.mp meant
    obtain ⟨own, made, meant⟩ := bind_eq_ok_iff.mp meant
    obtain rfl := Except.ok.inj meant
    exact .inl (by simp [fieldKeys, named made])
  | dateTime =>
    obtain ⟨wanted, -, meant⟩ := bind_eq_ok_iff.mp meant
    cases wanted with
    | false =>
      obtain rfl := Except.ok.inj meant
      exact .inr rfl
    | true =>
      obtain ⟨now, -, meant⟩ := bind_eq_ok_iff.mp meant
      obtain ⟨stamp, madeStamp, meant⟩ := bind_eq_ok_iff.mp meant
      obtain ⟨text, madeText, meant⟩ := bind_eq_ok_iff.mp meant
      obtain rfl := Except.ok.inj meant
      exact .inl (by simp [fieldKeys, named madeStamp, named madeText])
  | version =>
    obtain ⟨version, -, meant⟩ := bind_eq_ok_iff.mp meant
    obtain ⟨text, madeText, meant⟩ := bind_eq_ok_iff.mp meant
    obtain ⟨packed, madePacked, meant⟩ := bind_eq_ok_iff.mp meant
    obtain rfl := Except.ok.inj meant
    exact .inl (by simp [fieldKeys, named madeText, named madePacked])
  | _ =>
    obtain ⟨_, -, meant⟩ := bind_eq_ok_iff.mp meant
    obtain rfl := Except.ok.inj meant
    exact .inr rfl

/-- What a directive that stands under a key can fail for: the key, the directive itself, or a field
that it adds. -/
def suspects (directive : Directive) (key : String) : List Fault.Subject :=
  .key key :: .directive directive :: directive.fieldKeys.map .key

theorem blames_meaning (services : Services) (key : String) (directive : Directive)
    (value : Json.Value) :
    BlamesOnly (· ∈ directive.suspects key) (directive.meaning services key value) := by
  have own : .directive directive ∈ directive.suspects key := by simp [suspects]
  have string : BlamesOnly (· ∈ directive.suspects key) (directive.string value) := by
    unfold Directive.string
    split <;> simp [Fault.subject, own]
  have boolean : BlamesOnly (· ∈ directive.suspects key) (directive.boolean value) := by
    unfold Directive.boolean
    split <;> simp [Fault.subject, own]
  have stringList : BlamesOnly (· ∈ directive.suspects key) (directive.stringList value) := by
    unfold Directive.stringList
    split
    · refine BlamesOnly.mapM (fun item => ?_) _
      unfold listItem
      split <;> simp [Fault.subject, own]
    · exact (BlamesOnly.error_iff _).mpr own
  have served : ∀ {α : Type} (answer : Except (List String) α),
      BlamesOnly (· ∈ directive.suspects key) (answer.mapError (Fault.collaborator key)) := by
    intro α answer
    cases answer with
    | ok a => exact .ok a
    | error causes => exact (BlamesOnly.error_iff _).mpr List.mem_cons_self
  have added : ∀ name ∈ directive.fieldKeys, ∀ (value : Json.Value) (literal : Option String),
      BlamesOnly (· ∈ directive.suspects key) (ModuleField.read name value literal) := by
    intro name listed value literal
    refine (ModuleField.blames_read name value literal).mono ?_
    rintro _ rfl
    simp [suspects, listed]
  cases directive with
  | sectionPrefix | moduleName => exact string.bind fun _ => .ok _
  | boolIsInteger => exact boolean.bind fun _ => .ok _
  | includeSource | includeHeader => exact stringList.bind fun _ => .ok _
  | gitRepository =>
    refine string.bind fun repository => (served _).bind fun revision => ?_
    exact (added _ (by decide) _ _).bind fun _ => .ok _
  | dateTime =>
    refine boolean.bind fun wanted => ?_
    cases wanted with
    | false => exact .ok _
    | true =>
      refine (served _).bind fun now => (added _ (by decide) _ _).bind fun _ => ?_
      exact (added _ (by decide) _ _).bind fun _ => .ok _
  | version =>
    refine ((Version.blames_ofValue value).mono ?_).bind fun version => ?_
    · rintro _ rfl
      exact own
    refine (added _ (by decide) _ _).bind fun _ => ?_
    exact (added _ (by decide) _ _).bind fun _ => .ok _

end Directive

/-- What an entry can fail for: its key, and if it is a directive, what this can fail for. -/
def Entry.suspects (entry : Entry) : List Fault.Subject :=
  match entry.directive? with
  | some directive => directive.suspects entry.key
  | none => [.key entry.key]

theorem Entry.key_mem_suspects (entry : Entry) : .key entry.key ∈ entry.suspects := by
  unfold suspects
  split <;> exact List.mem_cons_self

theorem Entry.blames_meaning (services : Services) (entry : Entry) :
    BlamesOnly (· ∈ entry.suspects) (entry.meaning services) := by
  have own : ∀ subject : Fault.Subject, subject = .key entry.key → subject ∈ entry.suspects := by
    rintro _ rfl
    exact entry.key_mem_suspects
  cases parsed : Descriptor.parse entry.key with
  | error fault =>
    rw [meaning, parsed]
    exact (BlamesOnly.error_iff _).mpr
      (own _ ((Descriptor.blames_parse entry.key).subject fault parsed))
  | ok d =>
    rw [meaning_of_parse parsed]
    by_cases config : d.type = .config
    · rw [if_pos config]
      cases found : Directive.ofKeyword? d.name with
      | none => exact (BlamesOnly.error_iff _).mpr entry.key_mem_suspects
      | some directive =>
        have named : entry.directive? = some directive := by
          rw [directive?, parsed]
          exact (if_pos config).trans found
        rw [suspects, named]
        exact directive.blames_meaning services entry.key entry.value
    · rw [if_neg config]
      refine BlamesOnly.bind ?_ fun _ => .ok _
      exact (ModuleField.blames_check entry.key d entry.value entry.literal).mono own

/-- The message names the key of an entry, the directive that the entry is, or a field that this
directive adds. -/
def Fault.NamesEntry (fault : Fault) (entry : Entry) : Prop :=
  fault.Mentions entry.key ∨ ∃ directive, entry.directive? = some directive ∧
    (fault.Mentions directive.keyword ∨ ∃ key ∈ directive.fieldKeys, fault.Mentions key)

theorem Fault.namesEntry_of_suspect {fault : Fault} {entry : Entry}
    (suspect : fault.subject ∈ entry.suspects) : fault.NamesEntry entry := by
  have named : ∀ {subject : Subject} {name : String}, fault.subject = subject →
      name ∈ subject.names → fault.Mentions name := by
    rintro _ name rfl member
    exact mentions_of_subject member
  unfold Entry.suspects at suspect
  split at suspect
  · rename_i directive found
    rcases List.mem_cons.mp suspect with own | others
    · exact .inl (named own List.mem_cons_self)
    · refine .inr ⟨directive, found, ?_⟩
      rcases List.mem_cons.mp others with itself | field
      · exact .inl (named itself List.mem_cons_self)
      · obtain ⟨key, listed, same⟩ := List.mem_map.mp field
        exact .inr ⟨key, listed, named same.symm List.mem_cons_self⟩
  · exact .inl (named (List.mem_singleton.mp suspect) List.mem_cons_self)

namespace Session

theorem subject_of_processEntry {settings : Settings} {s : Session} {entry : Entry} {fault : Fault}
    (failed : (s.processEntry settings entry).fault = some fault) :
    fault.subject ∈ entry.suspects := by
  rw [processEntry_eq] at failed
  cases meaning : entry.meaning settings.services with
  | ok own =>
    rw [meaning] at failed
    cases failed
  | error cause =>
    rw [meaning] at failed
    obtain rfl := Option.some.inj failed
    exact (entry.blames_meaning settings.services).subject cause meaning

/-- The registry refuses a document for a field of it and a definition that has been taken up
before, and names the keys of both. -/
theorem mentions_of_register {settings : Settings} {s : Session} {active : Section}
    {closed : List Section} (sections : s.sections = active :: closed) {fault : Fault}
    (refused : (s.register settings).fault = some fault) :
    ∃ field ∈ active.fields.toList, ∃ own ∈ settings.naming.symbols field.descriptor,
      ∃ old ∈ (s.register settings).session.definitions.toList,
        old.symbol = labelPrefix settings.naming active.label ++ own ∧
        fault.Mentions field.key ∧ fault.Mentions old.key := by
  have opened : s.register settings = define (sectionDefinitions settings.naming active) s := by
    rw [register, sections]
  rw [opened] at refused ⊢
  obtain ⟨front, back, shape, session, stops⟩ :=
    define_cases (sectionDefinitions settings.naming active) s
  obtain ⟨clash, rest, old, rfl, rfl, same, known⟩ := stops fault refused
  have listed : clash ∈ sectionDefinitions settings.naming active := by
    rw [shape]
    exact List.mem_append_right front List.mem_cons_self
  obtain ⟨field, captured, inside⟩ := List.mem_flatMap.mp listed
  obtain ⟨own, symbol, rfl⟩ := List.mem_map.mp inside
  refine ⟨field, captured, own, symbol, old, ?_, same, ?_, ?_⟩
  · rw [session, Array.toList_append]
    exact List.mem_append.mpr known
  · apply Fault.mentions_of_subject
    exact List.mem_cons_self
  · apply Fault.mentions_of_subject
    exact List.mem_cons_of_mem _ List.mem_cons_self

/-- A document that fails stops at the first entry that has a fault, and then the message names the
key of this entry, or the directive that the entry is, or a field that this directive adds. Or all
of its entries are processed and the registry refuses it, and then the message names a field of the
document and the key under which one of its symbols has been defined before. -/
theorem faults_name_their_culprit (settings : Settings) (s : Session) (document : Document)
    (fault : Fault) (failed : (s.processDocument settings document).fault = some fault) :
    (∃ front entry rest t, document = front ++ entry :: rest ∧
      processEntries settings front s.openSection = .done t ∧
      (t.processEntry settings entry).fault = some fault ∧ fault.NamesEntry entry) ∨
    ∃ t active, processEntries settings document s.openSection = .done t ∧
      t.sections = active :: s.sections ∧
      ∃ field ∈ active.fields.toList, ∃ own ∈ settings.naming.symbols field.descriptor,
        ∃ old ∈ (s.processDocument settings document).session.definitions.toList,
          old.symbol = labelPrefix settings.naming active.label ++ own ∧
          fault.Mentions field.key ∧ fault.Mentions old.key := by
  rw [processDocument] at failed ⊢
  cases ended : (processEntries settings document s.openSection).fault with
  | some cause =>
    have stopped := Outcome.eq_stopped ended
    rw [stopped, Outcome.andThen_fault] at failed
    obtain rfl := Option.some.inj failed
    obtain ⟨front, entry, rest, shape, before, own⟩ := exists_failing_entry stopped
    exact .inl ⟨front, entry, rest, _, shape, before, own,
      Fault.namesEntry_of_suspect (subject_of_processEntry own)⟩
  | none =>
    have done := Outcome.eq_done (Option.isNone_iff_eq_none.mpr ended)
    obtain ⟨meanings, -, run⟩ := (processEntries_eq_done_iff _ _ _ _).mp done
    have sections : (processEntries settings document s.openSection).session.sections =
        Section.ofMeanings ⟨settings.naming, s.sections.length⟩ meanings :: s.sections := by
      rw [← run, openSection_applyAll]
    rw [done, Outcome.andThen_done] at failed ⊢
    exact .inr ⟨_, _, rfl, sections, mentions_of_register sections failed⟩

/-- A version with a component that fits no byte, behind a field and before a key that is none. -/
private def wideVersion : Document :=
  [⟨"int8:First", .number (.ofInt 1), none⟩,
    ⟨" Version ", .array [.number (.ofInt 1), .number (.ofInt 256), .number (.ofInt 0),
      .string "", .string ""], none⟩,
    ⟨"int8::", .null, none⟩]

/-- The message has the keyword, and not the key as it is written, which has blanks around it. The
key behind it, which is malformed, does not count. -/
theorem faults_name_their_culprit_version :
    ∃ fault, ((fresh (.steady .snake)).processDocument (.steady .snake) wideVersion).fault =
        some fault ∧
      fault.message = "directive 'Version': minor 256 must be in [0, 256)" ∧
      ∃ front entry rest t, wideVersion = front ++ entry :: rest ∧
        processEntries (.steady .snake) front (fresh (.steady .snake)).openSection = .done t ∧
        (t.processEntry (.steady .snake) entry).fault = some fault ∧ fault.NamesEntry entry := by
  have refused : ((fresh (.steady .snake)).processDocument (.steady .snake) wideVersion).fault.map
      Fault.message = some "directive 'Version': minor 256 must be in [0, 256)" := by
    decide +kernel
  have stops : (processEntries (.steady .snake) wideVersion
      (fresh (.steady .snake)).openSection).fault.isSome = true := by
    decide +kernel
  obtain ⟨fault, failed, wording⟩ := Option.map_eq_some_iff.mp refused
  refine ⟨fault, failed, wording, ?_⟩
  rcases faults_name_their_culprit (.steady .snake) (fresh (.steady .snake)) wideVersion fault
    failed with atEntry | ⟨t, active, done, -⟩
  · exact atEntry
  · rw [done] at stops
    cases stops

end Session

end AccessorGen
