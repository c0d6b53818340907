/- Directives.
   The keywords that a key without a type may name to steer the session. -/

set_option autoImplicit false
set_option relaxedAutoImplicit false

namespace AccessorGen

inductive Directive where
  /-- Names the section that the document opens. -/
  | sectionPrefix
  /-- Names the module, and with it both files. -/
  | moduleName
  /-- Stores booleans as integers, or as booleans again. -/
  | boolIsInteger
  /-- Adds include lines to the source file. -/
  | includeSource
  /-- Adds include lines to the header file. -/
  | includeHeader
  /-- Adds a field with the revision of a repository. -/
  | gitRepository
  /-- Adds fields with the time of the generation. -/
  | dateTime
  /-- Adds fields with a semantic version. -/
  | version
  deriving DecidableEq, Repr

namespace Directive

def all : List Directive :=
  [.sectionPrefix, .moduleName, .boolIsInteger, .includeSource, .includeHeader, .gitRepository,
    .dateTime, .version]

def keyword : Directive → String
  | .sectionPrefix => "Section_Prefix"
  | .moduleName => "Module_Name"
  | .boolIsInteger => "Bool_Is_Integer"
  | .includeSource => "Include_Source"
  | .includeHeader => "Include_Header"
  | .gitRepository => "Git_Repository"
  | .dateTime => "Date_Time"
  | .version => "Version"

def ofKeyword? (word : String) : Option Directive :=
  all.find? fun directive => directive.keyword == word

end Directive

end AccessorGen
