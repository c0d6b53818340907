/- Faults.
   Everything that can be wrong with a schema or with the services that a session calls, the kind
   that each fault belongs to, and its wording. -/

import AccessorGen.Directive
import AccessorGen.FieldType
import AccessorGen.Json.Value
import AccessorGen.Size

set_option autoImplicit false
set_option relaxedAutoImplicit false

namespace AccessorGen

inductive FaultKind where
  /-- A text or a key that does not follow its grammar. -/
  | syntactic
  /-- A value of the wrong kind. -/
  | type
  /-- A value outside of its domain. -/
  | range
  /-- A misplaced annotation, an unknown directive or a wrong directive value. -/
  | config
  /-- A failing revision source or clock. -/
  | collaborator
  deriving DecidableEq, Repr

def FaultKind.name : FaultKind → String
  | .syntactic => "syntax"
  | .type => "type"
  | .range => "range"
  | .config => "config"
  | .collaborator => "collaborator"

/-- What a place in a schema asks for. -/
inductive Requirement where
  | integer
  | number
  | boolean
  | string
  | stringList
  deriving DecidableEq, Repr

def Requirement.phrase : Requirement → String
  | .integer => "an integer"
  | .number => "a number"
  | .boolean => "a boolean"
  | .string => "a string"
  | .stringList => "an array of strings"

inductive Fault where
  /-- The input text is no JSON. -/
  | notJson
  /-- The input is neither an object nor an array. -/
  | notDocuments (kind : Json.Kind)
  /-- An element of the input array is no object. -/
  | notDocument (index : Nat) (kind : Json.Kind)
  /-- A key does not follow the key grammar. -/
  | malformedKey (key : String)
  | unknownType (key word : String)
  | sizeNotNumber (key word : String)
  | sizeTooLarge (key word : String)
  | badQualifier (key word : String)
  /-- A parameter list on something else than a macro. -/
  | misplacedParams (key : String)
  /-- A size on something else than a string. -/
  | misplacedSize (key : String) (type : FieldType)
  /-- A directive where a field value is checked. -/
  | noFieldValue (key : String)
  /-- A field value of the wrong kind. -/
  | wrongKind (key : String) (wanted : Requirement) (kind : Json.Kind)
  /-- A numeric literal outside of the domain of its type. -/
  | outOfRange (key literal : String) (type : FieldType)
  | stringTooLong (key : String) (bytes capacity : Nat)
  /-- A checked value of another type than the field. -/
  | valueMisfit (key : String) (type : FieldType)
  | unknownDirective (key name : String)
  /-- A directive value of the wrong kind. -/
  | wrongDirectiveKind (directive : Directive) (wanted : Requirement) (kind : Json.Kind)
  /-- A version that is no list of three integers and two strings. -/
  | versionShape (value : Json.Value)
  /-- A version component that does not fit one byte. -/
  | versionRange (component literal : String)
  /-- A service that failed, with its chain of causes, outermost first. -/
  | collaborator (key : String) (causes : List String)
  /-- Two fields that define one C symbol. -/
  | symbolClash (key symbol other : String)

namespace Fault

def kind : Fault → FaultKind
  | .notJson => .syntactic
  | .notDocuments _ => .type
  | .notDocument _ _ => .type
  | .malformedKey _ => .syntactic
  | .unknownType _ _ => .type
  | .sizeNotNumber _ _ => .syntactic
  | .sizeTooLarge _ _ => .range
  | .badQualifier _ _ => .config
  | .misplacedParams _ => .config
  | .misplacedSize _ _ => .config
  | .noFieldValue _ => .config
  | .wrongKind _ _ _ => .type
  | .outOfRange _ _ _ => .range
  | .stringTooLong _ _ _ => .range
  | .valueMisfit _ _ => .type
  | .unknownDirective _ _ => .config
  | .wrongDirectiveKind _ _ _ => .config
  | .versionShape _ => .config
  | .versionRange _ _ => .range
  | .collaborator _ _ => .collaborator
  | .symbolClash _ _ _ => .config

def quoted (key : String) : String :=
  "'" ++ key ++ "'"

def sizeRefusal : FieldType → String
  | .cMacro => "a macro cannot have a size"
  | .config => "a directive cannot have a size"
  | type => type.name ++ " fields cannot have a size (arrays are not supported)"

def message : Fault → String
  | .notJson => "input is not valid JSON"
  | .notDocuments kind => "input must be an object or an array of objects, got " ++ kind.name
  | .notDocument index kind =>
    "document[" ++ toString index ++ "] must be an object, got " ++ kind.name
  | .malformedKey key => quoted key ++ " does not match 'type[size]:qualifier:name(params)'"
  | .unknownType key word => quoted key ++ ": unknown field type " ++ quoted word
  | .sizeNotNumber key word => quoted key ++ ": size " ++ quoted word ++ " is not a number"
  | .sizeTooLarge key word =>
    quoted key ++ ": size " ++ word ++ " exceeds the largest supported capacity (" ++
      toString Size.maxBytes ++ ")"
  | .badQualifier key word =>
    quoted key ++ ": invalid qualifier " ++ quoted word ++ " (expected 'r' or 'w')"
  | .misplacedParams key => quoted key ++ ": only macros take a parameter list"
  | .misplacedSize key type => quoted key ++ ": " ++ sizeRefusal type
  | .noFieldValue key => quoted key ++ ": directives carry no field value"
  | .wrongKind key wanted kind =>
    quoted key ++ ": expected " ++ wanted.phrase ++ ", got " ++ kind.name
  | .outOfRange key literal type =>
    quoted key ++ ": value " ++ literal ++ " is outside of the range of " ++ type.name
  | .stringTooLong key bytes capacity =>
    quoted key ++ ": string of " ++ toString bytes ++ " bytes does not fit size " ++
      toString capacity ++ " (terminator included)"
  | .valueMisfit key type => quoted key ++ ": value does not fit type " ++ type.name
  | .unknownDirective key name => quoted key ++ ": unknown directive " ++ quoted name
  | .wrongDirectiveKind directive wanted kind =>
    "directive " ++ quoted directive.keyword ++ " expects " ++ wanted.phrase ++ ", got " ++
      kind.name
  | .versionShape value =>
    "directive " ++ quoted Directive.version.keyword ++
      " expects [major, minor, patch, pre_release, build_metadata], got " ++ value.compact
  | .versionRange component literal =>
    "directive " ++ quoted Directive.version.keyword ++ ": " ++ component ++ " " ++ literal ++
      " must be in [0, 256)"
  | .collaborator key causes => quoted key ++ ": " ++ ": ".intercalate causes
  | .symbolClash key symbol other =>
    quoted key ++ ": generates the same C symbol " ++ quoted symbol ++ " as " ++ quoted other

end Fault

structure Diagnostic where
  kind : FaultKind
  message : String
  deriving DecidableEq, Repr

namespace Diagnostic

def ofFault (fault : Fault) : Diagnostic :=
  ⟨fault.kind, fault.message⟩

def display (d : Diagnostic) : String :=
  d.kind.name ++ " error: " ++ d.message

def toJson (d : Diagnostic) : Json.Value :=
  .object [("kind", .string d.kind.name), ("message", .string d.message)]

end Diagnostic

end AccessorGen
