/- Sessions.
   A session turns documents into the code of one module. Every document opens a section, whose
   label may be set anywhere in the document; nothing that depends on labels, file names or the
   storage of booleans is written before the module is rendered. -/

import AccessorGen.Directive.Argument
import AccessorGen.Document
import AccessorGen.Fragment
import AccessorGen.LocalTime
import AccessorGen.Version

set_option autoImplicit false
set_option relaxedAutoImplicit false

namespace AccessorGen

/-- The services that a session calls. A failing service gives its causes, outermost first. -/
structure Services where
  /-- The revision of the repository at a path. -/
  revision : String → Except (List String) String
  clock : Except (List String) LocalTime

structure Settings where
  naming : NamingStyle
  /-- The base name of both files, unless a module name is given. -/
  baseName : Option String
  services : Services

structure CapturedField where
  key : String
  descriptor : Descriptor
  deriving DecidableEq, Repr

/-- What one document has contributed. -/
structure Section where
  /-- The label as given; empty for none. -/
  label : String
  fields : Array CapturedField
  /-- The code of the fields and the separators between entries, in order. -/
  fragments : Array Fragment
  deriving DecidableEq, Repr

/-- A C symbol of the module and the key that defined it. -/
structure Definition where
  symbol : String
  key : String
  deriving DecidableEq, Repr

structure Session where
  /-- The sections, newest first. -/
  sections : List Section
  /-- The base name of both files, if one is set. -/
  baseName : Option String
  bools : BoolStorage
  /-- Files that the header includes after the standard ones. -/
  headerIncludes : List String
  /-- Files that the source includes after the header. -/
  sourceIncludes : List String
  /-- The symbols of all finished documents, in order. -/
  definitions : Array Definition
  deriving DecidableEq, Repr

/-- What an operation leaves behind: the session, also after a fault, and the fault. -/
structure Outcome where
  session : Session
  fault : Option Fault

namespace Outcome

def done (session : Session) : Outcome :=
  ⟨session, none⟩

/-- Goes on with the next operation unless there was a fault. -/
def andThen (outcome : Outcome) (next : Session → Outcome) : Outcome :=
  match outcome.fault with
  | none => next outcome.session
  | some _ => outcome

@[simp] theorem andThen_done (s : Session) (next : Session → Outcome) :
    (done s).andThen next = next s :=
  rfl

@[simp] theorem andThen_fault (s : Session) (fault : Fault) (next : Session → Outcome) :
    andThen ⟨s, some fault⟩ next = ⟨s, some fault⟩ :=
  rfl

end Outcome

namespace Session

def fresh (settings : Settings) : Session where
  sections := []
  baseName := settings.baseName
  bools := .native
  headerIncludes := []
  sourceIncludes := []
  definitions := #[]

/-- Goes on with a result, or stops with its fault and leaves the session as it is. -/
def given {α : Type} (s : Session) (result : Except Fault α) (use : α → Outcome) : Outcome :=
  match result with
  | .ok a => use a
  | .error fault => ⟨s, some fault⟩

@[simp] theorem given_ok {α : Type} (s : Session) (a : α) (use : α → Outcome) :
    s.given (.ok a) use = use a :=
  rfl

@[simp] theorem given_error {α : Type} (s : Session) (fault : Fault) (use : α → Outcome) :
    s.given (.error fault) use = ⟨s, some fault⟩ :=
  rfl

def document (s : Session) : Nat :=
  s.sections.length - 1

def mapActive (s : Session) (f : Section → Section) : Session :=
  match s.sections with
  | [] => s
  | active :: closed => { s with sections := f active :: closed }

def openSection (s : Session) : Session :=
  { s with sections := ⟨"", #[], #[]⟩ :: s.sections }

def addFragment (s : Session) (fragment : Fragment) : Session :=
  s.mapActive fun active => { active with fragments := active.fragments.push fragment }

def addField (s : Session) (field : CapturedField) (fragment : Fragment) : Session :=
  (s.addFragment fragment).mapActive fun active =>
    { active with fields := active.fields.push field }

/-- Checks the value of a field, and takes the field and its code into the section. -/
def capture (settings : Settings) (s : Session) (key : String) (d : Descriptor)
    (value : Json.Value) (literal : Option String) : Outcome :=
  s.given (FieldValue.validate key d value literal) fun checked =>
    s.given (Scope.emit ⟨settings.naming, s.document⟩ key d checked) fun fragment =>
      .done (s.addField ⟨key, d⟩ fragment)

/-- Adds a field on behalf of a directive, under the same checks as any other field. -/
def synthesize (settings : Settings) (s : Session) (key : String) (value : Json.Value)
    (literal : Option String) : Outcome :=
  s.given (Descriptor.parse key) fun d => s.capture settings key d value literal

def addRevision (settings : Settings) (s : Session) (key repository : String) : Outcome :=
  match settings.services.revision repository with
  | .error causes => ⟨s, some (.collaborator key causes)⟩
  | .ok revision => s.synthesize settings "string[]:Git_Commit_Str" (.string revision) none

/-- Adds fields with the time of the generation: a timestamp and a text. -/
def addTime (settings : Settings) (s : Session) (key : String) : Outcome :=
  match settings.services.clock with
  | .error causes => ⟨s, some (.collaborator key causes)⟩
  | .ok now =>
    (s.synthesize settings "uint32:Unix_Time" (.number (.ofInt now.timestamp)) none).andThen
      fun s => s.synthesize settings "string:Time_Str" (.string now.display) none

def addVersion (settings : Settings) (s : Session) (version : Version) : Outcome :=
  (s.synthesize settings "string:Version_Str" (.string version.display) none).andThen fun s =>
    s.synthesize settings "uint32:Version_Num" (.number (.ofInt version.packed))
      (some version.packedLiteral)

def direct (settings : Settings) (s : Session) (key : String) (directive : Directive)
    (value : Json.Value) : Outcome :=
  match directive with
  | .sectionPrefix =>
    s.given (directive.string value) fun label =>
      .done (s.mapActive fun active => { active with label := label })
  | .moduleName =>
    s.given (directive.string value) fun name => .done { s with baseName := some name }
  | .boolIsInteger =>
    s.given (directive.boolean value) fun isInteger =>
      .done { s with bools := if isInteger then .integer else .native }
  | .includeSource =>
    s.given (directive.stringList value) fun files =>
      .done { s with sourceIncludes := s.sourceIncludes ++ files }
  | .includeHeader =>
    s.given (directive.stringList value) fun files =>
      .done { s with headerIncludes := s.headerIncludes ++ files }
  | .gitRepository =>
    s.given (directive.string value) fun repository => s.addRevision settings key repository
  | .dateTime =>
    s.given (directive.boolean value) fun wanted =>
      if wanted then s.addTime settings key else .done s
  | .version => s.given (Version.ofValue value) fun version => s.addVersion settings version

def processEntry (settings : Settings) (s : Session) (entry : Entry) : Outcome :=
  s.given (Descriptor.parse entry.key) fun d =>
    if d.type = .config then
      match Directive.ofKeyword? d.name with
      | none => ⟨s, some (.unknownDirective entry.key d.name)⟩
      | some directive => s.direct settings entry.key directive entry.value
    else s.capture settings entry.key d entry.value entry.literal

/-- Processes entries in order, with a separator after each of them. -/
def processEntries (settings : Settings) : Document → Session → Outcome
  | [], s => .done s
  | entry :: rest, s =>
    (s.processEntry settings entry).andThen fun s =>
      processEntries settings rest (s.addFragment .separator)

def labelPrefix (naming : NamingStyle) (label : String) : String :=
  if label = "" then "" else naming.sectionPrefix label

def sectionDefinitions (naming : NamingStyle) (sec : Section) : List Definition :=
  sec.fields.toList.flatMap fun field =>
    (naming.symbols field.descriptor).map fun symbol =>
      ⟨labelPrefix naming sec.label ++ symbol, field.key⟩

/-- Takes up definitions in order and stops at the first symbol that is already defined. -/
def define : List Definition → Session → Outcome
  | [], s => .done s
  | new :: rest, s =>
    match s.definitions.find? fun old => old.symbol == new.symbol with
    | some old => ⟨s, some (.symbolClash new.key new.symbol old.key)⟩
    | none => define rest { s with definitions := s.definitions.push new }

/-- Takes up the symbols of the document that has just been processed. -/
def register (settings : Settings) (s : Session) : Outcome :=
  match s.sections with
  | [] => .done s
  | active :: _ => define (sectionDefinitions settings.naming active) s

def processDocument (settings : Settings) (s : Session) (document : Document) : Outcome :=
  (processEntries settings document s.openSection).andThen fun s => s.register settings

def processDocuments (settings : Settings) : List Document → Session → Outcome
  | [], s => .done s
  | document :: rest, s =>
    (s.processDocument settings document).andThen fun s => processDocuments settings rest s

/-- Processes an input text, with numbers as written. Nothing is processed unless all of the text
can be read. -/
def processText (settings : Settings) (s : Session) (text : String) : Outcome :=
  s.given (Document.readAll text) fun documents => processDocuments settings documents s

def processItems (settings : Settings) (index : Nat) : List Json.Value → Session → Outcome
  | [], s => .done s
  | .object members :: rest, s =>
    (s.processDocument settings (.ofMembers members)).andThen fun s =>
      processItems settings (index + 1) rest s
  | item :: _, s => ⟨s, some (.notDocument index item.kind)⟩

/-- Processes a value: an object or an array of objects, with numbers in normal spelling. -/
def processValue (settings : Settings) (s : Session) (value : Json.Value) : Outcome :=
  match value with
  | .object members => s.processDocument settings (.ofMembers members)
  | .array items => processItems settings 0 items s
  | _ => ⟨s, some (.notDocuments value.kind)⟩

end Session

end AccessorGen
