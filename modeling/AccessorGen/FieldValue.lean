/- Field values.
   A JSON value becomes a field value when it passes the domain check of the field's type. Numbers
   keep their spelling. -/

import AccessorGen.Decimal
import AccessorGen.Key.Descriptor

set_option autoImplicit false
set_option relaxedAutoImplicit false

namespace AccessorGen

inductive FieldValue where
  | integer (literal : String)
  | real (literal : String)
  | boolean (b : Bool)
  | text (s : String)
  deriving DecidableEq, Repr

namespace FieldValue

/-- Checks an integer: its spelling has neither fraction nor exponent, and its value has at most 128
bits and lies in the domain. -/
def checkInteger (key : String) (type : FieldType) (domain : IntDomain) (value : Json.Value)
    (literal : Option String) : Except Fault FieldValue :=
  match value with
  | .number n =>
    match n.int? with
    | none => .error (.wrongKind key .integer value.kind)
    | some i =>
      let spelling := literal.getD n.normal.spelling
      if IntDomain.wide.holds i && domain.holds i then .ok (.integer spelling)
      else .error (.outOfRange key spelling type)
  | _ => .error (.wrongKind key .integer value.kind)

/-- Checks a real number: its magnitude lies in the format. -/
def checkReal (key : String) (type : FieldType) (format : RealFormat) (value : Json.Value)
    (literal : Option String) : Except Fault FieldValue :=
  match value with
  | .number n =>
    let spelling := literal.getD n.normal.spelling
    if format.admits (.ofNumber n) then .ok (.real spelling)
    else .error (.outOfRange key spelling type)
  | _ => .error (.wrongKind key .number value.kind)

def checkBoolean (key : String) (value : Json.Value) : Except Fault FieldValue :=
  match value with
  | .bool b => .ok (.boolean b)
  | _ => .error (.wrongKind key .boolean value.kind)

/-- Checks a string: its bytes and a terminator fit a fixed size. -/
def checkString (key : String) (size : Option Size) (value : Json.Value) :
    Except Fault FieldValue :=
  match value with
  | .string s =>
    match size with
    | some (.fixed capacity) =>
      if s.utf8ByteSize + 1 ≤ capacity then .ok (.text s)
      else .error (.stringTooLong key s.utf8ByteSize capacity)
    | _ => .ok (.text s)
  | _ => .error (.wrongKind key .string value.kind)

def checkMacro (key : String) (value : Json.Value) : Except Fault FieldValue :=
  match value with
  | .string s => .ok (.text s)
  | _ => .error (.wrongKind key .string value.kind)

/-- The field value of a JSON value. A number is spelled by `literal` if that is given, and in its
normal spelling otherwise. -/
def validate (key : String) (d : Descriptor) (value : Json.Value) (literal : Option String) :
    Except Fault FieldValue :=
  match d.type with
  | .config => .error (.noFieldValue key)
  | .signed width => checkInteger key d.type width.signedDomain value literal
  | .unsigned width => checkInteger key d.type width.unsignedDomain value literal
  | .float => checkReal key d.type .binary32 value literal
  | .double => checkReal key d.type .binary64 value literal
  | .boolean => checkBoolean key value
  | .string => checkString key d.size value
  | .cMacro => checkMacro key value

end FieldValue

end AccessorGen
