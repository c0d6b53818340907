/- Positional numerals of a fixed width. -/

set_option autoImplicit false
set_option relaxedAutoImplicit false

namespace AccessorGen.Text

/-- The last `width` digits of `n` in a base of at most sixteen, letters in lower case. -/
def fixedDigits (base : Nat) : Nat → Nat → List Char
  | 0, _ => []
  | width + 1, n => fixedDigits base width (n / base) ++ [Nat.digitChar (n % base)]

example : fixedDigits 10 4 70 = ['0', '0', '7', '0'] := by decide

example : fixedDigits 16 2 0x1f = ['1', 'f'] := by decide

end AccessorGen.Text
