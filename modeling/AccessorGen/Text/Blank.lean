/- White space.
   The characters with the Unicode property White_Space, and trimming by them. -/

import AccessorGen.Text.CodeRange

set_option autoImplicit false
set_option relaxedAutoImplicit false

namespace AccessorGen.Text

/-- The code points with the property White_Space. -/
def blankRanges : List CodeRange := [
  ⟨0x0009, 0x000D⟩, ⟨0x0020, 0x0020⟩, ⟨0x0085, 0x0085⟩, ⟨0x00A0, 0x00A0⟩,
  ⟨0x1680, 0x1680⟩, ⟨0x2000, 0x200A⟩, ⟨0x2028, 0x2029⟩, ⟨0x202F, 0x202F⟩,
  ⟨0x205F, 0x205F⟩, ⟨0x3000, 0x3000⟩]

def isBlank (c : Char) : Bool :=
  CodeRange.covers blankRanges c.toNat

def trimEnd (cs : List Char) : List Char :=
  (cs.reverse.dropWhile isBlank).reverse

def trim (cs : List Char) : List Char :=
  trimEnd (cs.dropWhile isBlank)

example : CodeRange.ascending blankRanges = true := by decide

example : isBlank '\u3000' = true ∧ isBlank '\u200b' = false := by decide

end AccessorGen.Text
