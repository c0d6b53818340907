/- The body of a C string literal. -/

import AccessorGen.Text.Numeral

set_option autoImplicit false
set_option relaxedAutoImplicit false

namespace AccessorGen.Text.CLiteral

/-- One character inside a C string literal: control characters as escapes, the unnamed ones by
three octal digits, so that no digit that follows can join them. -/
def encodeChar (c : Char) : List Char :=
  if c = '\\' then ['\\', '\\']
  else if c = '"' then ['\\', '"']
  else if c = '\n' then ['\\', 'n']
  else if c = '\r' then ['\\', 'r']
  else if c = '\t' then ['\\', 't']
  else if c.toNat < 0x20 ∨ c.toNat = 0x7f then '\\' :: fixedDigits 8 3 c.toNat
  else [c]

def encode (s : String) : String :=
  String.ofList (s.toList.flatMap encodeChar)

end AccessorGen.Text.CLiteral
