/- A run of the program.
   The input is read and processed, and each output file is written unless it is up to date. -/

import AccessorGen.Command.Arguments
import AccessorGen.Files.FileError
import AccessorGen.Files.OutputPath
import AccessorGen.Session.Module

set_option autoImplicit false
set_option relaxedAutoImplicit false

namespace AccessorGen.Command

open Files

/-- Why a file cannot be read as a text. -/
inductive TextError where
  | file (cause : FileError)
  | notUtf8
  deriving DecidableEq, Repr

def TextError.message : TextError → String
  | .file cause => cause.message
  | .notUtf8 => "stream did not contain valid UTF-8"

inductive Failure where
  | readInput (path : String) (cause : TextError)
  /-- The output path has no file name. -/
  | noFileName (path : String)
  | convert (input : String) (fault : Fault)
  | readOutput (path : String) (cause : TextError)
  /-- A check found an output file out of date. -/
  | stale (path : String)
  | makeDirectory (path : String) (cause : FileError)
  | writeOutput (path : String) (cause : FileError)

def Failure.message : Failure → String
  | .readInput path cause => "read input: " ++ path ++ ": " ++ cause.message
  | .noFileName path => "output path has no file name: " ++ path
  | .convert input fault => "convert: " ++ input ++ ": " ++ (Diagnostic.ofFault fault).display
  | .readOutput path cause => "read existing output: " ++ path ++ ": " ++ cause.message
  | .stale path => "generated output differs: " ++ path
  | .makeDirectory path cause => "create output dir: " ++ path ++ ": " ++ cause.message
  | .writeOutput path cause => "write output: " ++ path ++ ": " ++ cause.message

structure Ending where
  code : Nat
  stdout : String
  stderr : String
  deriving DecidableEq, Repr

/-- Where an output file lies, and whether it was written. -/
structure Written where
  path : String
  artifact : Artifact
  written : Bool
  deriving DecidableEq, Repr

def Written.toJson (w : Written) : Json.Value :=
  .object
    [("path", .string w.path), ("sha256", .string w.artifact.digest), ("written", .bool w.written)]

def report (header source : Written) : String :=
  (Json.Value.object [("header", header.toJson), ("source", source.toJson)]).indented ++ "\n"

def faultReport (fault : Fault) : String :=
  (Json.Value.object [("error", (Diagnostic.ofFault fault).toJson)]).indented ++ "\n"

section

variable {m : Type → Type} [Monad m] [MonadFiles m]

def readText (path : String) : m (Except TextError String) := do
  match ← MonadFiles.read path with
  | .error cause => return .error (.file cause)
  | .ok bytes =>
    match String.fromUTF8? bytes with
    | some text => return .ok text
    | none => return .error .notUtf8

def existingText (path : String) : m (Except Failure (Option String)) := do
  match ← readText path with
  | .ok text => return .ok (some text)
  | .error (.file .notFound) => return .ok none
  | .error cause => return .error (.readOutput path cause)

def prepareDirectory (path : String) : m (Except Failure Unit) :=
  let directory := String.ofList (OutputPath.directory path.toList)
  if directory = "" then return .ok ()
  else do
    match ← MonadFiles.makeDirectories directory with
    | .ok () => return .ok ()
    | .error cause => return .error (.makeDirectory directory cause)

def store (path : String) (artifact : Artifact) : m (Except Failure Unit) := do
  match ← prepareDirectory path with
  | .error failure => return .error failure
  | .ok () =>
    match ← MonadFiles.write path artifact.text.toUTF8 with
    | .ok () => return .ok ()
    | .error cause => return .error (.writeOutput path cause)

/-- Writes an artifact unless the file is up to date. A check only looks. -/
def update (check : Bool) (path : String) (artifact : Artifact) :
    m (Except Failure Written) := do
  match ← existingText path with
  | .error failure => return .error failure
  | .ok existing =>
    if !artifact.needsWrite existing then return .ok ⟨path, artifact, false⟩
    else if check then return .error (.stale path)
    else
      match ← store path artifact with
      | .error failure => return .error failure
      | .ok () => return .ok ⟨path, artifact, true⟩

/-- The base path of both output files and their base name. -/
def outputBase (output : String) : Except Failure (List Char × String) :=
  let base := OutputPath.base output.toList
  match OutputPath.named? base with
  | none => .error (.noFileName output)
  | some named => .ok (base, String.ofList named.name)

def convert (services : Services) (args : Arguments) (baseName text : String) :
    Except Fault ModuleFiles :=
  let settings : Settings := ⟨args.naming, some baseName, services⟩
  let outcome := (Session.fresh settings).processText settings text
  match outcome.fault with
  | some fault => .error fault
  | none => .ok (outcome.session.render settings)

def outputPath (base : List Char) (extension : Char) : String :=
  String.ofList (OutputPath.withExtension base extension)

/-- Brings both output files up to date, the header first. -/
def updateBoth (args : Arguments) (base : List Char) (files : ModuleFiles) :
    m (Except Failure (Written × Written)) := do
  match ← update args.check (outputPath base 'h') files.header with
  | .error failure => return .error failure
  | .ok header =>
    match ← update args.check (outputPath base 'c') files.source with
    | .error failure => return .error failure
    | .ok source => return .ok (header, source)

def failed (stdout : String) (failure : Failure) : Ending :=
  ⟨1, stdout, failure.message⟩

def run (services : Services) (args : Arguments) : m Ending := do
  match ← readText args.input with
  | .error cause => return failed "" (.readInput args.input cause)
  | .ok text =>
    match outputBase args.output with
    | .error failure => return failed "" failure
    | .ok (base, baseName) =>
      match convert services args baseName text with
      | .error fault =>
        let printed := if args.reportJson then faultReport fault else ""
        return failed printed (.convert args.input fault)
      | .ok files =>
        if args.stdout then return ⟨0, files.header.text ++ files.source.text, ""⟩
        else
          match ← updateBoth args base files with
          | .error failure => return failed "" failure
          | .ok (header, source) =>
            return ⟨0, if args.reportJson then report header source else "", ""⟩

/-- What is printed for a command line that breaks the rules. -/
def usageText : String :=
  "Usage: buildinfo [OPTIONS] <INPUT> <OUTPUT>\n\nFor more information, try '--help'."

def runLine (services : Services) (line : List String) : m Ending :=
  match Request.ofArguments line with
  | .help => return ⟨0, helpText, ""⟩
  | .misuse => return ⟨2, "", usageText⟩
  | .run args => run services args

end

end AccessorGen.Command
