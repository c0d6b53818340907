/- The meaning of an entry.
   What an entry asks for depends on the entry and on the services, not on the session that it comes
   to. Processing an entry carries out its meaning, or stops and leaves the session as it is. -/

import AccessorGen.Proofs.Json.Lexeme
import AccessorGen.Proofs.Key.Names
import AccessorGen.Session

set_option autoImplicit false
set_option relaxedAutoImplicit false

namespace AccessorGen

inductive Content where
  | number (cType literal : String)
  | boolean (b : Bool)
  | string (value : String)
  /-- What a macro stands for. -/
  | replacement (text : String)
  deriving DecidableEq, Repr

/-- What a field of a type holds after a check; nothing if the value belongs to another type. -/
def Content.ofValue? (type : FieldType) : FieldValue → Option Content
  | .integer literal => type.cNumericType?.map fun cType => .number cType literal
  | .real literal => type.cNumericType?.map fun cType => .number cType literal
  | .boolean b => if type = .boolean then some (.boolean b) else none
  | .text s =>
    if type = .string then some (.string s)
    else if type = .cMacro then some (.replacement s)
    else none

def Content.Fits (type : FieldType) : Content → Prop
  | .number cType _ => type.cNumericType? = some cType
  | .boolean _ => type = .boolean
  | .string _ => type = .string
  | .replacement _ => type = .cMacro

theorem Content.fits_of_ofValue? {type : FieldType} {value : FieldValue} {content : Content}
    (held : ofValue? type value = some content) : content.Fits type := by
  cases value with
  | integer literal =>
    obtain ⟨cType, named, rfl⟩ := Option.map_eq_some_iff.mp held
    exact named
  | real literal =>
    obtain ⟨cType, named, rfl⟩ := Option.map_eq_some_iff.mp held
    exact named
  | boolean b =>
    rw [ofValue?] at held
    split at held
    · rename_i boolean
      obtain rfl := Option.some.inj held
      exact boolean
    · cases held
  | text s =>
    rw [ofValue?] at held
    split at held
    · rename_i string
      obtain rfl := Option.some.inj held
      exact string
    · split at held
      · rename_i definition
        obtain rfl := Option.some.inj held
        exact definition
      · cases held

def Scope.code (scope : Scope) (d : Descriptor) : Content → Fragment
  | .number cType literal => scope.scalar d (.text cType) (.text literal)
  | .boolean b => scope.scalar d (.tag .boolType) (.tag (if b then .boolTrue else .boolFalse))
  | .string value => scope.string d value
  | .replacement text => scope.macroDefinition d text

theorem Scope.emit_eq (scope : Scope) (key : String) (d : Descriptor) (value : FieldValue) :
    scope.emit key d value =
      match Content.ofValue? d.type value with
      | some content => .ok (scope.code d content)
      | none => .error (.valueMisfit key d.type) := by
  cases value with
  | integer literal =>
    simp only [emit, numeric, Content.ofValue?]
    cases d.type.cNumericType? <;> rfl
  | real literal =>
    simp only [emit, numeric, Content.ofValue?]
    cases d.type.cNumericType? <;> rfl
  | boolean b =>
    simp only [emit, Content.ofValue?]
    split <;> rfl
  | text s =>
    simp only [emit, Content.ofValue?]
    split
    · rfl
    · split <;> rfl

structure ModuleField where
  key : String
  descriptor : Descriptor
  content : Content
  deriving DecidableEq, Repr

namespace ModuleField

def captured (field : ModuleField) : CapturedField :=
  ⟨field.key, field.descriptor⟩

def code (scope : Scope) (field : ModuleField) : Fragment :=
  scope.code field.descriptor field.content

/-- The field of a key whose descriptor is known, if its value passes the check. -/
def check (key : String) (d : Descriptor) (value : Json.Value) (literal : Option String) :
    Except Fault ModuleField := do
  let checked ← FieldValue.validate key d value literal
  match Content.ofValue? d.type checked with
  | some content => return ⟨key, d, content⟩
  | none => throw (.valueMisfit key d.type)

def read (key : String) (value : Json.Value) (literal : Option String) :
    Except Fault ModuleField := do
  let d ← Descriptor.parse key
  check key d value literal

theorem check_eq_error {key : String} {d : Descriptor} {value : Json.Value}
    {literal : Option String} {fault : Fault}
    (refused : FieldValue.validate key d value literal = .error fault) :
    check key d value literal = .error fault := by
  rw [check, refused]
  rfl

theorem check_eq_ok {key : String} {d : Descriptor} {value : Json.Value} {literal : Option String}
    {checked : FieldValue} {content : Content}
    (accepted : FieldValue.validate key d value literal = .ok checked)
    (fits : Content.ofValue? d.type checked = some content) :
    check key d value literal = .ok ⟨key, d, content⟩ := by
  rw [check, accepted]
  change (match Content.ofValue? d.type checked with
    | some content => pure ⟨key, d, content⟩
    | none => throw (.valueMisfit key d.type) : Except Fault ModuleField) = _
  rw [fits]
  rfl

theorem read_eq_ok {key : String} {d : Descriptor} {value : Json.Value} {literal : Option String}
    {checked : FieldValue} {content : Content} (parsed : Descriptor.parse key = .ok d)
    (accepted : FieldValue.validate key d value literal = .ok checked)
    (fits : Content.ofValue? d.type checked = some content) :
    read key value literal = .ok ⟨key, d, content⟩ := by
  rw [read, parsed]
  exact check_eq_ok accepted fits

/-- A field whose content belongs to the type that its key declares. -/
structure Sound (field : ModuleField) : Prop where
  parsed : Descriptor.parse field.key = .ok field.descriptor
  fits : field.content.Fits field.descriptor.type

theorem Sound.exists_string {field : ModuleField} (sound : field.Sound)
    (type : field.descriptor.type = .string) : ∃ value, field.content = .string value := by
  have fits := sound.fits
  rw [type] at fits
  cases content : field.content with
  | string value => exact ⟨value, rfl⟩
  | _ =>
    rw [content] at fits
    cases fits

theorem captured_of_check {key : String} {d : Descriptor} {value : Json.Value}
    {literal : Option String} {field : ModuleField}
    (made : check key d value literal = .ok field) : field.captured = ⟨key, d⟩ := by
  obtain ⟨checked, -, fits⟩ := bind_eq_ok_iff.mp made
  split at fits
  · obtain rfl := Except.ok.inj fits
    rfl
  · cases fits

theorem check_of_read {key : String} {d : Descriptor} {value : Json.Value}
    {literal : Option String} {field : ModuleField} (parsed : Descriptor.parse key = .ok d)
    (made : read key value literal = .ok field) : check key d value literal = .ok field := by
  rw [read, parsed] at made
  exact made

theorem sound_of_check {key : String} {d : Descriptor} {value : Json.Value}
    {literal : Option String} {field : ModuleField} (parsed : Descriptor.parse key = .ok d)
    (made : check key d value literal = .ok field) : field.Sound := by
  obtain ⟨checked, -, fits⟩ := bind_eq_ok_iff.mp made
  split at fits
  · rename_i content held
    obtain rfl := Except.ok.inj fits
    exact ⟨parsed, Content.fits_of_ofValue? held⟩
  · cases fits

theorem sound_of_read {key : String} {value : Json.Value} {literal : Option String}
    {field : ModuleField} (made : read key value literal = .ok field) : field.Sound := by
  obtain ⟨d, parsed, checked⟩ := bind_eq_ok_iff.mp made
  exact sound_of_check parsed checked

theorem read_text {key : String} {d : Descriptor} (parsed : Descriptor.parse key = .ok d)
    (string : d.type = .string) (unbounded : ∀ bytes, d.size ≠ some (.fixed bytes))
    (text : String) (literal : Option String) :
    read key (.string text) literal = .ok ⟨key, d, .string text⟩ := by
  have accepted : FieldValue.validate key d (.string text) literal = .ok (.text text) := by
    simp only [FieldValue.validate, string, FieldValue.checkString]
  have fits : Content.ofValue? d.type (.text text) = some (.string text) := by
    simp only [Content.ofValue?, string, if_true]
  exact read_eq_ok parsed accepted fits

theorem read_unsigned {key : String} {d : Descriptor} {width : IntWidth} {cType : String}
    (parsed : Descriptor.parse key = .ok d) (unsigned : d.type = .unsigned width)
    (named : d.type.cNumericType? = some cType) {n : Nat} (small : n < Nat.pow 2 width.bits)
    (literal : String) :
    read key (.number (.ofInt n)) (some literal) = .ok ⟨key, d, .number cType literal⟩ := by
  have value := Json.Number.int?_ofInt n
  have inside : width.unsignedDomain.holds n = true := by
    have below : (n : Int) < (Nat.pow 2 width.bits : Nat) := by exact_mod_cast small
    exact (IntDomain.holds_iff _ _).mpr ⟨Int.natCast_nonneg n, below⟩
  have integer : d.type.intDomain? = some width.unsignedDomain := by rw [unsigned]; rfl
  have wide := FieldType.holds_wide_and integer n
  have accepted : FieldValue.validate key d (.number (.ofInt n)) (some literal) =
      .ok (.integer literal) := by
    rw [inside] at wide
    simp only [FieldValue.validate, unsigned, FieldValue.checkInteger, value, inside, wide, if_true,
      Option.getD_some]
  have fits : Content.ofValue? d.type (.integer literal) = some (.number cType literal) := by
    rw [Content.ofValue?, named, Option.map_some]
  exact read_eq_ok parsed accepted fits

theorem read_timeText (text : String) :
    read "string:Time_Str" (.string text) none =
      .ok ⟨"string:Time_Str", ⟨.string, none, .readOnly, "Time_Str", none⟩, .string text⟩ :=
  read_text rfl rfl (by simp) text none

theorem read_versionNumber (version : Version) (literal : String) :
    read "uint32:Version_Num" (.number (.ofInt version.packed)) (some literal) =
      .ok ⟨"uint32:Version_Num", ⟨.unsigned .w32, none, .readOnly, "Version_Num", none⟩,
        .number "uint32_t" literal⟩ := by
  have small : version.packed < 2 ^ IntWidth.w32.bits := by
    have major := version.major.isLt
    have minor := version.minor.isLt
    have patch := version.patch.isLt
    have bits : 2 ^ IntWidth.w32.bits = 4294967296 := rfl
    rw [bits, Version.packed]
    omega
  exact read_unsigned rfl rfl rfl small literal

end ModuleField

/-- Whether a directive only sets something and adds no fields. -/
def Directive.isStateOnly : Directive → Bool
  | .sectionPrefix | .moduleName | .boolIsInteger | .includeSource | .includeHeader => true
  | .gitRepository | .dateTime | .version => false

def Entry.directive? (entry : Entry) : Option Directive :=
  match Descriptor.parse entry.key with
  | .ok d => if d.type = .config then Directive.ofKeyword? d.name else none
  | .error _ => none

/-- What an entry asks for. -/
inductive Meaning where
  | label (label : String)
  | baseName (name : String)
  | bools (storage : BoolStorage)
  | sourceIncludes (files : List String)
  | headerIncludes (files : List String)
  | fields (fields : List ModuleField)
  deriving DecidableEq, Repr

/-- The directive without fields that asks for this. -/
def Meaning.setBy? : Meaning → Option Directive
  | .label _ => some .sectionPrefix
  | .baseName _ => some .moduleName
  | .bools _ => some .boolIsInteger
  | .sourceIncludes _ => some .includeSource
  | .headerIncludes _ => some .includeHeader
  | .fields _ => none

/-- What a directive asks for. The fields of a time or a version come in pairs. -/
def Directive.meaning (services : Services) (key : String) (directive : Directive)
    (value : Json.Value) : Except Fault Meaning :=
  match directive with
  | .sectionPrefix => return .label (← directive.string value)
  | .moduleName => return .baseName (← directive.string value)
  | .boolIsInteger => return .bools (if ← directive.boolean value then .integer else .native)
  | .includeSource => return .sourceIncludes (← directive.stringList value)
  | .includeHeader => return .headerIncludes (← directive.stringList value)
  | .gitRepository => do
    let repository ← directive.string value
    let revision ← (services.revision repository).mapError (Fault.collaborator key)
    return .fields [← ModuleField.read "string[]:Git_Commit_Str" (.string revision) none]
  | .dateTime => do
    if ← directive.boolean value then
      let now ← services.clock.mapError (Fault.collaborator key)
      let stamp ← ModuleField.read "uint32:Unix_Time" (.number (.ofInt now.timestamp)) none
      return .fields [stamp, ← ModuleField.read "string:Time_Str" (.string now.display) none]
    else return .fields []
  | .version => do
    let version ← Version.ofValue value
    let text ← ModuleField.read "string:Version_Str" (.string version.display) none
    let packed ← ModuleField.read "uint32:Version_Num" (.number (.ofInt version.packed))
      (some version.packedLiteral)
    return .fields [text, packed]

/-- What an entry asks for: a directive its effect, and any other entry its field. -/
def Entry.meaning (services : Services) (entry : Entry) : Except Fault Meaning := do
  let d ← Descriptor.parse entry.key
  if d.type = .config then
    match Directive.ofKeyword? d.name with
    | none => throw (.unknownDirective entry.key d.name)
    | some directive => directive.meaning services entry.key entry.value
  else return .fields [← ModuleField.check entry.key d entry.value entry.literal]

theorem Entry.meaning_of_parse {services : Services} {key : String} {value : Json.Value}
    {literal : Option String} {d : Descriptor} (parsed : Descriptor.parse key = .ok d) :
    meaning services ⟨key, value, literal⟩ =
      if d.type = .config then
        match Directive.ofKeyword? d.name with
        | none => throw (.unknownDirective key d.name)
        | some directive => directive.meaning services key value
      else do return .fields [← ModuleField.check key d value literal] := by
  rw [meaning, parsed]
  rfl

/-- A directive sets something, or it adds fields that pass the same checks as any others. -/
theorem Directive.meaning_cases {services : Services} {key : String} {directive : Directive}
    {value : Json.Value} {meaning : Meaning}
    (read : directive.meaning services key value = .ok meaning) :
    directive.isStateOnly = true ∧ meaning.setBy? = some directive ∨
      directive.isStateOnly = false ∧ ∃ fields, meaning = .fields fields ∧
        ∀ field ∈ fields, ∃ key value literal,
          ModuleField.read key value literal = .ok field := by
  cases directive with
  | gitRepository =>
    obtain ⟨repository, -, read⟩ := bind_eq_ok_iff.mp read
    obtain ⟨revision, -, read⟩ := bind_eq_ok_iff.mp read
    obtain ⟨own, made, read⟩ := bind_eq_ok_iff.mp read
    obtain rfl := Except.ok.inj read
    exact .inr ⟨rfl, _, rfl, by simpa using ⟨_, _, _, made⟩⟩
  | dateTime =>
    obtain ⟨wanted, -, read⟩ := bind_eq_ok_iff.mp read
    cases wanted with
    | false =>
      obtain rfl := Except.ok.inj read
      exact .inr ⟨rfl, _, rfl, by simp⟩
    | true =>
      obtain ⟨now, -, read⟩ := bind_eq_ok_iff.mp read
      obtain ⟨stamp, madeStamp, read⟩ := bind_eq_ok_iff.mp read
      obtain ⟨text, madeText, read⟩ := bind_eq_ok_iff.mp read
      obtain rfl := Except.ok.inj read
      exact .inr ⟨rfl, _, rfl, by simpa using ⟨⟨_, _, _, madeStamp⟩, ⟨_, _, _, madeText⟩⟩⟩
  | version =>
    obtain ⟨version, -, read⟩ := bind_eq_ok_iff.mp read
    obtain ⟨text, madeText, read⟩ := bind_eq_ok_iff.mp read
    obtain ⟨packed, madePacked, read⟩ := bind_eq_ok_iff.mp read
    obtain rfl := Except.ok.inj read
    exact .inr ⟨rfl, _, rfl, by simpa using ⟨⟨_, _, _, madeText⟩, ⟨_, _, _, madePacked⟩⟩⟩
  | _ =>
    obtain ⟨_, -, read⟩ := bind_eq_ok_iff.mp read
    obtain rfl := Except.ok.inj read
    exact .inl ⟨rfl, rfl⟩

theorem Entry.sound_of_meaning {services : Services} {entry : Entry}
    {fields : List ModuleField} (read : entry.meaning services = .ok (.fields fields)) :
    ∀ field ∈ fields, field.Sound := by
  obtain ⟨d, parsed, read⟩ := bind_eq_ok_iff.mp read
  split at read
  · split at read
    · cases read
    · rcases Directive.meaning_cases read with ⟨-, set⟩ | ⟨-, _, same, made⟩
      · cases set
      · obtain rfl := Meaning.fields.inj same
        intro field member
        obtain ⟨key, value, literal, own⟩ := made field member
        exact ModuleField.sound_of_read own
  · obtain ⟨own, checked, made⟩ := bind_eq_ok_iff.mp read
    obtain rfl := Meaning.fields.inj (Except.ok.inj made)
    simpa using ModuleField.sound_of_check parsed checked

namespace Session

def take (naming : NamingStyle) (s : Session) (field : ModuleField) : Session :=
  s.addField field.captured (field.code ⟨naming, s.document⟩)

def apply (naming : NamingStyle) (s : Session) : Meaning → Session
  | .label label => s.mapActive fun active => { active with label := label }
  | .baseName name => { s with baseName := some name }
  | .bools storage => { s with bools := storage }
  | .sourceIncludes files => { s with sourceIncludes := s.sourceIncludes ++ files }
  | .headerIncludes files => { s with headerIncludes := s.headerIncludes ++ files }
  | .fields fields => fields.foldl (take naming) s

private theorem given_bind {α β : Type} (s : Session) (result : Except Fault α)
    (next : α → Except Fault β) (use : β → Outcome) :
    s.given (result >>= next) use = s.given result fun a => s.given (next a) use := by
  cases result <;> rfl

private theorem given_pure {α : Type} (s : Session) (a : α) (use : α → Outcome) :
    s.given (pure a) use = use a :=
  rfl

private theorem given_andThen {α : Type} (s : Session) (result : Except Fault α)
    (use : α → Outcome) (next : Session → Outcome) :
    (s.given result use).andThen next = s.given result fun a => (use a).andThen next := by
  cases result <;> rfl

private theorem capture_eq (settings : Settings) (s : Session) (key : String) (d : Descriptor)
    (value : Json.Value) (literal : Option String) :
    s.capture settings key d value literal =
      s.given (ModuleField.check key d value literal) fun field =>
        .done (s.take settings.naming field) := by
  rw [capture, ModuleField.check, given_bind]
  congr 1
  funext checked
  rw [Scope.emit_eq]
  cases Content.ofValue? d.type checked <;> rfl

private theorem synthesize_eq (settings : Settings) (s : Session) (key : String)
    (value : Json.Value) (literal : Option String) :
    s.synthesize settings key value literal =
      s.given (ModuleField.read key value literal) fun field =>
        .done (s.take settings.naming field) := by
  rw [synthesize, ModuleField.read, given_bind]
  congr 1
  funext d
  exact capture_eq settings s key d value literal

private theorem addRevision_eq (settings : Settings) (s : Session) (key repository : String) :
    s.addRevision settings key repository =
      s.given ((settings.services.revision repository).mapError (Fault.collaborator key))
        fun revision =>
          s.given (ModuleField.read "string[]:Git_Commit_Str" (.string revision) none) fun field =>
            .done (s.take settings.naming field) := by
  rw [addRevision]
  cases settings.services.revision repository with
  | error causes => rfl
  | ok revision => exact synthesize_eq settings s _ _ _

private theorem addTime_eq (settings : Settings) (s : Session) (key : String) :
    s.addTime settings key =
      s.given (settings.services.clock.mapError (Fault.collaborator key)) fun now =>
        s.given (ModuleField.read "uint32:Unix_Time" (.number (.ofInt now.timestamp)) none)
          fun stamp =>
            s.given (ModuleField.read "string:Time_Str" (.string now.display) none) fun text =>
              .done ((s.take settings.naming stamp).take settings.naming text) := by
  rw [addTime]
  cases settings.services.clock with
  | error causes => rfl
  | ok now =>
    change (s.synthesize settings _ _ _).andThen _ = s.given _ _
    rw [synthesize_eq, given_andThen]
    refine congrArg (s.given _) (funext fun stamp => ?_)
    rw [Outcome.andThen_done, synthesize_eq, ModuleField.read_timeText]
    rfl

private theorem addVersion_eq (settings : Settings) (s : Session) (version : Version) :
    s.addVersion settings version =
      s.given (ModuleField.read "string:Version_Str" (.string version.display) none) fun text =>
        s.given (ModuleField.read "uint32:Version_Num" (.number (.ofInt version.packed))
          (some version.packedLiteral)) fun packed =>
            .done ((s.take settings.naming text).take settings.naming packed) := by
  rw [addVersion, synthesize_eq, given_andThen]
  refine congrArg (s.given _) (funext fun text => ?_)
  rw [Outcome.andThen_done, synthesize_eq, ModuleField.read_versionNumber]
  rfl

private theorem direct_eq (settings : Settings) (s : Session) (key : String)
    (directive : Directive) (value : Json.Value) :
    s.direct settings key directive value =
      s.given (directive.meaning settings.services key value) fun meaning =>
        .done (s.apply settings.naming meaning) := by
  cases directive with
  | sectionPrefix => simp only [direct, Directive.meaning, given_bind, given_pure, apply]
  | moduleName => simp only [direct, Directive.meaning, given_bind, given_pure, apply]
  | boolIsInteger => simp only [direct, Directive.meaning, given_bind, given_pure, apply]
  | includeSource => simp only [direct, Directive.meaning, given_bind, given_pure, apply]
  | includeHeader => simp only [direct, Directive.meaning, given_bind, given_pure, apply]
  | gitRepository =>
    simp only [direct, Directive.meaning, given_bind, given_pure, apply, addRevision_eq,
      List.foldl_cons, List.foldl_nil]
  | dateTime =>
    simp only [direct, Directive.meaning, given_bind]
    refine congrArg (s.given _) (funext fun wanted => ?_)
    cases wanted with
    | false => rfl
    | true =>
      simp only [if_true, addTime_eq, given_bind, given_pure, apply, List.foldl_cons,
        List.foldl_nil]
  | version =>
    simp only [direct, Directive.meaning, given_bind, given_pure, apply, addVersion_eq,
      List.foldl_cons, List.foldl_nil]

/-- An entry carries out its meaning, or stops and leaves the session as it is. -/
theorem processEntry_eq (settings : Settings) (s : Session) (entry : Entry) :
    s.processEntry settings entry =
      s.given (entry.meaning settings.services) fun meaning =>
        .done (s.apply settings.naming meaning) := by
  rw [processEntry, Entry.meaning, given_bind]
  refine congrArg (s.given _) (funext fun d => ?_)
  split
  · cases Directive.ofKeyword? d.name with
    | none => rfl
    | some directive => exact direct_eq settings s entry.key directive entry.value
  · rw [capture_eq, given_bind]
    rfl

end Session

end AccessorGen
