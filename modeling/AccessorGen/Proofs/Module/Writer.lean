/- Writing a module at once.
   A writer that is told in advance how a session ends needs no tags: it goes through the documents
   once and writes the text of every field down when it meets it. -/

import AccessorGen.Proofs.Session.ClosedForm
import AccessorGen.Session.Module

set_option autoImplicit false
set_option relaxedAutoImplicit false

namespace AccessorGen

structure Routine where
  prototype : String
  /-- The lines between the braces. -/
  body : String
  deriving DecidableEq, Repr

structure Pages where
  macros : String
  declarations : String
  storage : String
  functions : String
  deriving DecidableEq, Repr

namespace Pages

def blank : Pages :=
  ⟨"", "", "", ""⟩

def writeMacro (pages : Pages) (line : String) : Pages :=
  { pages with macros := pages.macros ++ line }

def writeVariable (pages : Pages) (line : String) : Pages :=
  { pages with storage := pages.storage ++ line }

def writeRoutine (pages : Pages) (routine : Routine) : Pages :=
  { pages with
    declarations := pages.declarations ++ routine.prototype ++ ";\n"
    functions :=
      pages.functions ++ "\n" ++ routine.prototype ++ " \x7b\n" ++ routine.body ++ "\x7d\n" }

def endLine (pages : Pages) : Pages :=
  ⟨pages.macros ++ "\n", pages.declarations ++ "\n", pages.storage ++ "\n",
    pages.functions ++ "\n"⟩

end Pages

/-- What the fields of a document are written with. -/
structure Pen where
  naming : NamingStyle
  /-- What stands before every C name of the document. -/
  front : String
  bools : BoolStorage
  deriving DecidableEq, Repr

namespace Pen

def storage (pen : Pen) (d : Descriptor) : String :=
  pen.front ++ pen.naming.globalVariable d.name

def function (pen : Pen) (verb : String) (d : Descriptor) : String :=
  pen.front ++ pen.naming.accessor verb d.name

def scalarGet (pen : Pen) (d : Descriptor) (cType : String) : Routine where
  prototype := cType ++ " " ++ pen.function "Get" d ++ "(void)"
  body :=
    "    " ++ cType ++ " val;\n\n    CRITICAL_BLOCK(\n        val = " ++ pen.storage d ++
      ";\n    );\n\n    return val;\n"

def scalarSet (pen : Pen) (d : Descriptor) (cType : String) : Routine where
  prototype := "void " ++ pen.function "Set" d ++ "(" ++ cType ++ " val)"
  body := "    CRITICAL_BLOCK(\n        " ++ pen.storage d ++ " = val;\n    );\n"

def scalarRoutines (pen : Pen) (d : Descriptor) (cType : String) : List Routine :=
  match d.access with
  | .readOnly => [pen.scalarGet d cType]
  | .writable => [pen.scalarGet d cType, pen.scalarSet d cType]

def stringLen (pen : Pen) (d : Descriptor) : Routine where
  prototype := "uint16_t " ++ pen.function "Len" d ++ "(void)"
  body := "    return sizeof(" ++ pen.storage d ++ ");\n"

def stringPtr (pen : Pen) (d : Descriptor) : Routine where
  prototype := "const char *" ++ pen.function "Ptr" d ++ "(void)"
  body := "    return &" ++ pen.storage d ++ "[0];\n"

def stringGet (pen : Pen) (d : Descriptor) : Routine where
  prototype :=
    pen.bools.typeName ++ " " ++ pen.function "Get" d ++ "(char *buff_ptr, uint16_t len)"
  body :=
    "    " ++ pen.bools.typeName ++ " success = " ++ pen.bools.literal true ++
      ";\n    uint16_t i;\n    const char *ptr = &" ++ pen.storage d ++
      "[0];\n\n    if (len == 0) \x7b\n        return " ++ pen.bools.literal false ++
      ";\n    \x7d\n\n    CRITICAL_BLOCK(\n        for (i = 0; i < sizeof(" ++ pen.storage d ++
      "); i++) \x7b\n            if (i >= len) \x7b\n                success = " ++
      pen.bools.literal false ++
      (";\n                break;\n            \x7d\n            buff_ptr[i] = ptr[i];\n" ++
        "        \x7d\n    );\n\n    buff_ptr[len - 1] = 0;\n    return success;\n")

def stringSet (pen : Pen) (d : Descriptor) : Routine where
  prototype :=
    pen.bools.typeName ++ " " ++ pen.function "Set" d ++ "(const char *buff_ptr, uint16_t len)"
  body :=
    "    " ++ pen.bools.typeName ++ " success = " ++ pen.bools.literal true ++
      ";\n    uint16_t i;\n    char *ptr = &" ++ pen.storage d ++
      ("[0];\n\n    CRITICAL_BLOCK(\n        for (i = 0; i < len; i++) \x7b\n" ++
        "            if (i >= sizeof(") ++ pen.storage d ++
      ")) \x7b\n                success = " ++ pen.bools.literal false ++
      (";\n                break;\n            \x7d\n            ptr[i] = buff_ptr[i];\n" ++
        "        \x7d\n        if (i >= sizeof(") ++ pen.storage d ++
      ")) \x7b\n            i = sizeof(" ++ pen.storage d ++
      ") - 1;\n        \x7d\n        ptr[i] = 0;\n    );\n\n    return success;\n"

def stringRoutines (pen : Pen) (d : Descriptor) : List Routine :=
  match d.access with
  | .readOnly => [pen.stringLen d, pen.stringPtr d]
  | .writable => [pen.stringLen d, pen.stringPtr d, pen.stringGet d, pen.stringSet d]

def scalarLine (pen : Pen) (d : Descriptor) (cType value : String) : String :=
  "static " ++ cType ++ " " ++ pen.storage d ++ " = " ++ value ++ ";\n"

def stringLine (pen : Pen) (d : Descriptor) (value : String) : String :=
  "static char " ++ pen.storage d ++ "[" ++ Scope.sizeText d.size ++ "] = \"" ++
    Text.CLiteral.encode value ++ "\";\n"

def macroLine (pen : Pen) (d : Descriptor) (replacement : String) : String :=
  "#define " ++ pen.front ++ pen.naming.macroName d.name ++ d.params.getD "" ++ " " ++
    replacement ++ "\n"

def write (pen : Pen) (pages : Pages) (field : ModuleField) : Pages :=
  let d := field.descriptor
  match field.content with
  | .number cType literal =>
    (pen.scalarRoutines d cType).foldl .writeRoutine
      (pages.writeVariable (pen.scalarLine d cType literal))
  | .boolean b =>
    (pen.scalarRoutines d pen.bools.typeName).foldl .writeRoutine
      (pages.writeVariable (pen.scalarLine d pen.bools.typeName (pen.bools.literal b)))
  | .string value =>
    (pen.stringRoutines d).foldl .writeRoutine (pages.writeVariable (pen.stringLine d value))
  | .replacement text => pages.writeMacro (pen.macroLine d text)

def writeEntry (services : Services) (pen : Pen) (pages : Pages) (entry : Entry) :
    Except Fault Pages := do
  let meaning ← entry.meaning services
  return (meaning.newFields.foldl pen.write pages).endLine

def writeDocument (services : Services) (pen : Pen) (pages : Pages) (document : Document) :
    Except Fault Pages :=
  document.foldlM (pen.writeEntry services) pages

end Pen

/-- How a session ends, as far as a writer has to know it. -/
structure Briefing where
  /-- The last label of each document, empty for none. -/
  labels : List String
  base : String
  bools : BoolStorage
  headerIncludes : List String
  sourceIncludes : List String
  deriving DecidableEq, Repr

/-- Both files as text, without their banners. -/
structure ModuleText where
  header : String
  source : String
  deriving DecidableEq, Repr

namespace Briefing

/-- The base name that the labels leave: the label of the last document, if there is one. -/
def labelBase (labels : List String) : String :=
  match labels.getLast? with
  | some label => if label = "" then "INFO" else label
  | none => "INFO"

/-- The end of a session with documents of the given meanings. The last module name counts, then the
settings, then the label of the last document; of the ways to store booleans the last one counts. -/
def ofMeanings (settings : Settings) (documents : List (List Meaning)) : Briefing where
  labels := documents.map Meaning.finalLabel
  base :=
    ((Meaning.last? Meaning.baseName? documents.flatten).or settings.baseName).getD
      (labelBase (documents.map Meaning.finalLabel))
  bools := (Meaning.last? Meaning.bools? documents.flatten).getD .native
  headerIncludes := documents.flatten.flatMap Meaning.headerFiles
  sourceIncludes := documents.flatten.flatMap Meaning.sourceFiles

def pen (briefing : Briefing) (naming : NamingStyle) (label : String) : Pen where
  naming := naming
  front := if label = "" then "" else upperIdentifier label ++ "_"
  bools := briefing.bools

def header (briefing : Briefing) (naming : NamingStyle) (pages : Pages) : String :=
  "#ifndef " ++ naming.headerGuard briefing.base ++ "\n#define " ++
    naming.headerGuard briefing.base ++ "\n\n" ++ "#include <stdint.h>\n" ++
    briefing.bools.includeLine ++
    String.join (briefing.headerIncludes.map Session.includeLine) ++ "\n" ++
    pages.macros ++ pages.declarations ++
    "\n#endif /* " ++ naming.headerGuard briefing.base ++ " */\n"

def source (briefing : Briefing) (naming : NamingStyle) (pages : Pages) : String :=
  "#include \"" ++ naming.headerFile briefing.base ++ "\"\n" ++
    String.join (briefing.sourceIncludes.map Session.includeLine) ++ "\n" ++
    pages.storage ++ pages.functions

def writeAll (briefing : Briefing) (naming : NamingStyle)
    (documents : List (String × ServedDocument)) (pages : Pages) : Except Fault Pages :=
  documents.foldlM
    (fun pages (label, served) =>
      (briefing.pen naming label).writeDocument served.services pages served.document)
    pages

/-- Writes a module in one pass over its documents. -/
def generate (briefing : Briefing) (naming : NamingStyle) (documents : List ServedDocument) :
    Except Fault ModuleText := do
  let pages ← briefing.writeAll naming (briefing.labels.zip documents) .blank
  return ⟨Text.collapseBlankLines (briefing.header naming pages),
    Text.collapseBlankLines (briefing.source naming pages)⟩

end Briefing

end AccessorGen
