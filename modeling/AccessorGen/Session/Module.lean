/- The module of a session.
   Header and source are put together from the code that the session has taken up, and only then
   does every tag get its text. -/

import AccessorGen.Artifact
import AccessorGen.Session
import AccessorGen.Text.BlankLines

set_option autoImplicit false
set_option relaxedAutoImplicit false

namespace AccessorGen

structure ModuleFiles where
  header : Artifact
  source : Artifact
  deriving DecidableEq, Repr

namespace Session

/-- The base name when neither a module name nor a label is given. -/
def standardBase : String := "INFO"

/-- The base name of both files: the one that is set, or the label of the last document. -/
def fileBase (s : Session) : String :=
  match s.baseName with
  | some base => base
  | none =>
    match s.sections with
    | [] => standardBase
    | active :: _ => if active.label = "" then standardBase else active.label

def headerFile (settings : Settings) (s : Session) : String :=
  settings.naming.headerFile s.fileBase

def sourceFile (settings : Settings) (s : Session) : String :=
  settings.naming.sourceFile s.fileBase

/-- The text of every tag at this point of the session. -/
def resolution (settings : Settings) (s : Session) : Resolution where
  prefixes :=
    (s.sections.reverse.map fun sec => labelPrefix settings.naming sec.label).toArray
  headerGuard := settings.naming.headerGuard s.fileBase
  headerFile := s.headerFile settings
  bools := s.bools

def fragments (s : Session) : List Fragment :=
  s.sections.reverse.flatMap fun sec => sec.fragments.toList

/-- The line that includes a file: a name in angle brackets as it is, any other in quotes. -/
def includeLine (file : String) : String :=
  if file.toList.head? = some '<' ∧ file.toList.getLast? = some '>' then
    "#include " ++ file ++ "\n"
  else "#include \"" ++ file ++ "\"\n"

def includeLines (files : List String) : List Piece :=
  files.map fun file => .text (includeLine file)

/-- The header with its tags: the guard, the includes, macros and declarations. -/
def headerCode (s : Session) : Snippet :=
  .join
    [.ofPieces
      ([.text "#ifndef ", .tag .headerGuard, .text "\n#define ", .tag .headerGuard, .text "\n\n",
        .text (includeLine "<stdint.h>"), .tag .boolInclude] ++
        includeLines s.headerIncludes ++ [.text "\n"]),
    .join (s.fragments.map Fragment.macros),
    .join (s.fragments.map Fragment.declarations),
    .ofPieces [.text "\n#endif /* ", .tag .headerGuard, .text " */\n"]]

/-- The source with its tags: the includes, variables and functions. -/
def sourceCode (s : Session) : Snippet :=
  .join
    [.ofPieces
      ([.text "#include \"", .tag .headerFile, .text "\"\n"] ++
        includeLines s.sourceIncludes ++ [.text "\n"]),
    .join (s.fragments.map Fragment.storage),
    .join (s.fragments.map Fragment.functions)]

def finish (settings : Settings) (s : Session) (code : Snippet) : String :=
  Text.collapseBlankLines (code.resolve (s.resolution settings))

def headerBody (settings : Settings) (s : Session) : String :=
  s.finish settings s.headerCode

def sourceBody (settings : Settings) (s : Session) : String :=
  s.finish settings s.sourceCode

def render (settings : Settings) (s : Session) : ModuleFiles :=
  ⟨.stamp (s.headerBody settings), .stamp (s.sourceBody settings)⟩

end Session

end AccessorGen
