/- Fragments.
   The C code of one field: a macro definition, or a static variable with its accessor functions,
   each of them declared in the header and defined in the source. It is given in pieces here, and
   filled into templates in `Proofs.Module.Templates`. -/

import AccessorGen.FieldValue
import AccessorGen.NamingStyle
import AccessorGen.Snippet
import AccessorGen.Text.CLiteral

set_option autoImplicit false
set_option relaxedAutoImplicit false

namespace AccessorGen

/-- Code for the four parts of a module. -/
structure Fragment where
  macros : Snippet
  declarations : Snippet
  storage : Snippet
  functions : Snippet
  deriving DecidableEq, Repr

def Fragment.separator : Fragment :=
  let lineBreak := Snippet.ofPieces [.text "\n"]
  ⟨lineBreak, lineBreak, lineBreak, lineBreak⟩

structure Accessor where
  prototype : List Piece
  /-- The lines between the braces. -/
  body : List Piece
  deriving DecidableEq, Repr

namespace Accessor

def declaration (a : Accessor) : List Piece :=
  a.prototype ++ [.text ";\n"]

def definition (a : Accessor) : List Piece :=
  .text "\n" :: a.prototype ++ [.text " \x7b\n"] ++ a.body ++ [.text "\x7d\n"]

end Accessor

def Fragment.ofStorage (storage : List Piece) (accessors : List Accessor) : Fragment where
  macros := .empty
  declarations := .ofPieces (accessors.flatMap Accessor.declaration)
  storage := .ofPieces storage
  functions := .ofPieces (accessors.flatMap Accessor.definition)

/-- The document that a field belongs to and the style of its names. -/
structure Scope where
  naming : NamingStyle
  document : Nat
  deriving DecidableEq, Repr

namespace Scope

def qualified (scope : Scope) (name : String) : List Piece :=
  [.tag (.sectionPrefix scope.document), .text name]

def storage (scope : Scope) (d : Descriptor) : List Piece :=
  scope.qualified (scope.naming.globalVariable d.name)

def function (scope : Scope) (verb : String) (d : Descriptor) : List Piece :=
  scope.qualified (scope.naming.accessor verb d.name)

def scalarGet (scope : Scope) (d : Descriptor) (cType : Piece) : Accessor where
  prototype := cType :: .text " " :: scope.function "Get" d ++ [.text "(void)"]
  body :=
    .text "    " :: cType :: .text " val;\n\n    CRITICAL_BLOCK(\n        val = " ::
      scope.storage d ++ [.text ";\n    );\n\n    return val;\n"]

def scalarSet (scope : Scope) (d : Descriptor) (cType : Piece) : Accessor where
  prototype := .text "void " :: scope.function "Set" d ++ [.text "(", cType, .text " val)"]
  body :=
    .text "    CRITICAL_BLOCK(\n        " :: scope.storage d ++ [.text " = val;\n    );\n"]

def scalar (scope : Scope) (d : Descriptor) (cType value : Piece) : Fragment :=
  .ofStorage
    (.text "static " :: cType :: .text " " :: scope.storage d ++
      [.text " = ", value, .text ";\n"])
    (match d.access with
      | .readOnly => [scope.scalarGet d cType]
      | .writable => [scope.scalarGet d cType, scope.scalarSet d cType])

def stringLen (scope : Scope) (d : Descriptor) : Accessor where
  prototype := .text "uint16_t " :: scope.function "Len" d ++ [.text "(void)"]
  body := .text "    return sizeof(" :: scope.storage d ++ [.text ");\n"]

def stringPtr (scope : Scope) (d : Descriptor) : Accessor where
  prototype := .text "const char *" :: scope.function "Ptr" d ++ [.text "(void)"]
  body := .text "    return &" :: scope.storage d ++ [.text "[0];\n"]

def stringGet (scope : Scope) (d : Descriptor) : Accessor where
  prototype :=
    .tag .boolType :: .text " " :: scope.function "Get" d ++
      [.text "(char *buff_ptr, uint16_t len)"]
  body :=
    [.text "    ", .tag .boolType, .text " success = ", .tag .boolTrue,
      .text ";\n    uint16_t i;\n    const char *ptr = &"] ++
    scope.storage d ++
    [.text "[0];\n\n    if (len == 0) \x7b\n        return ", .tag .boolFalse,
      .text ";\n    \x7d\n\n    CRITICAL_BLOCK(\n        for (i = 0; i < sizeof("] ++
    scope.storage d ++
    [.text "); i++) \x7b\n            if (i >= len) \x7b\n                success = ",
      .tag .boolFalse,
      .text (";\n                break;\n            \x7d\n            buff_ptr[i] = ptr[i];\n" ++
        "        \x7d\n    );\n\n    buff_ptr[len - 1] = 0;\n    return success;\n")]

def stringSet (scope : Scope) (d : Descriptor) : Accessor where
  prototype :=
    .tag .boolType :: .text " " :: scope.function "Set" d ++
      [.text "(const char *buff_ptr, uint16_t len)"]
  body :=
    [.text "    ", .tag .boolType, .text " success = ", .tag .boolTrue,
      .text ";\n    uint16_t i;\n    char *ptr = &"] ++
    scope.storage d ++
    [.text
      ("[0];\n\n    CRITICAL_BLOCK(\n        for (i = 0; i < len; i++) \x7b\n" ++
        "            if (i >= sizeof(")] ++
    scope.storage d ++
    [.text ")) \x7b\n                success = ", .tag .boolFalse,
      .text
        (";\n                break;\n            \x7d\n            ptr[i] = buff_ptr[i];\n" ++
          "        \x7d\n        if (i >= sizeof(")] ++
    scope.storage d ++
    [.text ")) \x7b\n            i = sizeof("] ++
    scope.storage d ++
    [.text ") - 1;\n        \x7d\n        ptr[i] = 0;\n    );\n\n    return success;\n"]

def sizeText (size : Option Size) : String :=
  match size with
  | some (.fixed bytes) => toString bytes
  | _ => ""

def string (scope : Scope) (d : Descriptor) (value : String) : Fragment :=
  .ofStorage
    (.text "static char " :: scope.storage d ++
      [.text ("[" ++ sizeText d.size ++ "] = \"" ++ Text.CLiteral.encode value ++ "\";\n")])
    (match d.access with
      | .readOnly => [scope.stringLen d, scope.stringPtr d]
      | .writable => [scope.stringLen d, scope.stringPtr d, scope.stringGet d, scope.stringSet d])

def macroDefinition (scope : Scope) (d : Descriptor) (value : String) : Fragment where
  macros :=
    .ofPieces
      (.text "#define " :: scope.qualified (scope.naming.macroName d.name) ++
        [.text (d.params.getD "" ++ " " ++ value ++ "\n")])
  declarations := .empty
  storage := .empty
  functions := .empty

def numeric (scope : Scope) (key : String) (d : Descriptor) (literal : String) :
    Except Fault Fragment :=
  match d.type.cNumericType? with
  | some cType => .ok (scope.scalar d (.text cType) (.text literal))
  | none => .error (.valueMisfit key d.type)

def emit (scope : Scope) (key : String) (d : Descriptor) (value : FieldValue) :
    Except Fault Fragment :=
  match value with
  | .integer literal => scope.numeric key d literal
  | .real literal => scope.numeric key d literal
  | .boolean b =>
    if d.type = .boolean then
      .ok (scope.scalar d (.tag .boolType) (.tag (if b then .boolTrue else .boolFalse)))
    else .error (.valueMisfit key d.type)
  | .text s =>
    if d.type = .string then .ok (scope.string d s)
    else if d.type = .cMacro then .ok (scope.macroDefinition d s)
    else .error (.valueMisfit key d.type)

end Scope

/-- The functions of a field, by what they do to it. -/
def Descriptor.verbs (d : Descriptor) : List String :=
  match d.type, d.access with
  | .string, .readOnly => ["Len", "Ptr"]
  | .string, .writable => ["Len", "Ptr", "Get", "Set"]
  | _, .readOnly => ["Get"]
  | _, .writable => ["Get", "Set"]

/-- The C names that the code of a field defines, without what stands before the names of its
document. -/
def NamingStyle.symbols (naming : NamingStyle) (d : Descriptor) : List String :=
  if d.type = .cMacro then [naming.macroName d.name]
  else naming.globalVariable d.name :: d.verbs.map fun verb => naming.accessor verb d.name

end AccessorGen
