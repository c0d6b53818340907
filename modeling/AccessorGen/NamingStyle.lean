/- Naming styles.
   Names are given in the form `Project_Name`. A style turns them into the names of variables,
   functions, macros and files. -/

import AccessorGen.Text.LetterCase

set_option autoImplicit false
set_option relaxedAutoImplicit false

namespace AccessorGen

inductive NamingStyle where
  /-- Functions are written `ProjectName`, and global variables `Project_Name`. -/
  | pascal
  /-- Functions are written `project_name`, and global variables `ProjectName`. -/
  | snake
  deriving DecidableEq, Repr

def lowerName (name : String) : String :=
  String.ofList (Text.lower name.toList)

def upperName (name : String) : String :=
  String.ofList (Text.upper name.toList)

def joinedName (name : String) : String :=
  String.ofList (name.toList.filter (· != '_'))

/-- A name without its underscores, the first character in lower case. An underscore at the front
stays. -/
def camelName (name : String) : String :=
  match name.toList with
  | [] => ""
  | first :: rest => String.ofList (Text.lowerChar first ++ rest.filter (· != '_'))

/-- A character as it stands in a C identifier in upper case: letters and digits of ASCII, and an
underscore for all else. -/
def identifierChar (c : Char) : Char :=
  if c.isAlphanum then c.toUpper else '_'

def upperIdentifier (name : String) : String :=
  String.ofList (name.toList.map identifierChar)

namespace NamingStyle

def standard : NamingStyle := .pascal

def localVariable : NamingStyle → String → String
  | .pascal, name => lowerName name
  | .snake, name => camelName name

def globalVariable : NamingStyle → String → String
  | .pascal, name => name
  | .snake, name => joinedName name

def function : NamingStyle → String → String
  | .pascal, name => joinedName name
  | .snake, name => lowerName name

/-- The name of a macro, the same in every style. -/
def macroName (_ : NamingStyle) (name : String) : String :=
  upperName name

/-- What stands before every C name of a section, the same in every style. -/
def sectionPrefix (_ : NamingStyle) (name : String) : String :=
  upperIdentifier name ++ "_"

def sourceFile (_ : NamingStyle) (name : String) : String :=
  lowerName name ++ ".c"

def headerFile (_ : NamingStyle) (name : String) : String :=
  lowerName name ++ ".h"

def headerGuard (_ : NamingStyle) (name : String) : String :=
  upperIdentifier name ++ "_H_"

/-- The name of the function that does `verb` to a field. -/
def accessor (style : NamingStyle) (verb name : String) : String :=
  style.function (verb ++ "_" ++ name)

end NamingStyle

end AccessorGen
