/- Descriptors.
   The meaning of a key: the type, size, access and name of a field, and the parameters of a
   macro. -/

import AccessorGen.Fault
import AccessorGen.Key.Tokens
import AccessorGen.Text.Digits

set_option autoImplicit false
set_option relaxedAutoImplicit false

namespace AccessorGen

/-- Who may change a field. -/
inductive Access where
  | readOnly
  | writable
  deriving DecidableEq, Repr

def Access.ofQualifier? (word : String) : Option Access :=
  if word = "" ∨ word = "r" then some .readOnly
  else if word = "w" ∨ word = "rw" then some .writable
  else none

structure Descriptor where
  type : FieldType
  size : Option Size
  access : Access
  name : String
  /-- The parameter list of a macro, with its parentheses. -/
  params : Option String
  deriving DecidableEq, Repr

namespace Descriptor

/-- The type that a type word names; without a type word the key is a directive. -/
def readType (key : String) (word : List Char) : Except Fault FieldType :=
  if word.isEmpty then .ok .config
  else
    match FieldType.ofName? (String.ofList word) with
    | some type => .ok type
    | none => .error (.unknownType key (String.ofList word))

def readSize (key : String) : Option (List Char) → Except Fault (Option Size)
  | none => .ok none
  | some word =>
    if word.isEmpty then .ok (some .fitted)
    else
      match Text.Digits.ofChars? word with
      | none => .error (.sizeNotNumber key (String.ofList word))
      | some digits =>
        if digits.value ≤ Size.maxBytes then .ok (some (.fixed digits.value))
        else .error (.sizeTooLarge key (String.ofList word))

def readAccess (key : String) (word : List Char) : Except Fault Access :=
  match Access.ofQualifier? (String.ofList word) with
  | some access => .ok access
  | none => .error (.badQualifier key (String.ofList word))

/-- Refuses a parameter list on anything but a macro, then a size on anything but a string. -/
def checkAnnotations (key : String) (d : Descriptor) : Except Fault Unit :=
  if d.params.isSome ∧ d.type ≠ .cMacro then .error (.misplacedParams key)
  else if d.size.isSome ∧ d.type ≠ .string then .error (.misplacedSize key d.type)
  else .ok ()

/-- The descriptor of a key whose tokens are known. -/
def ofTokens (key : String) (tokens : Key.Tokens) : Except Fault Descriptor := do
  let type ← readType key tokens.typeWord
  let size ← readSize key tokens.size
  let access ← readAccess key tokens.qualifier
  let descriptor : Descriptor :=
    ⟨type, size, access, String.ofList tokens.name, tokens.params.map String.ofList⟩
  checkAnnotations key descriptor
  return descriptor

def parse (key : String) : Except Fault Descriptor :=
  match Key.scan? key.toList with
  | none => .error (.malformedKey key)
  | some tokens => ofTokens key tokens

end Descriptor

end AccessorGen
