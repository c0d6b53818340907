/- Prefixes and guards as C identifiers.
   All characters of a prefix and of a guard may stand in a C identifier, whatever the name is that
   they are made from. But a digit at the front of the name stays at the front, and then neither of
   them is an identifier. -/

import AccessorGen.NamingStyle

set_option autoImplicit false
set_option relaxedAutoImplicit false

namespace AccessorGen

namespace Text

def isIdentifierChar (c : Char) : Bool :=
  c.isAlphanum || c == '_'

def startsWithDigit (cs : List Char) : Bool :=
  cs.head?.any Char.isDigit

/-- An identifier of C: at least one character, all of them allowed, and no digit at the front. -/
structure IsCIdentifier (cs : List Char) : Prop where
  filled : cs ≠ []
  chars : cs.all isIdentifierChar = true
  start : startsWithDigit cs = false

theorem isCIdentifier_iff {cs : List Char} (filled : cs ≠ [])
    (chars : cs.all isIdentifierChar = true) :
    IsCIdentifier cs ↔ startsWithDigit cs = false :=
  ⟨fun identifier => identifier.start, fun start => ⟨filled, chars, start⟩⟩

end Text

open Text (isIdentifierChar startsWithDigit IsCIdentifier)

theorem isIdentifierChar_identifierChar (c : Char) :
    isIdentifierChar (identifierChar c) = true := by
  unfold identifierChar isIdentifierChar
  split
  · rename_i letter
    rw [Bool.or_eq_true]
    left
    delta Char.isAlphanum Char.isAlpha Char.isUpper Char.isLower Char.isDigit at letter ⊢
    delta Char.toUpper
    split
    · rename_i lower
      simp only [UInt32.le_iff_toNat_le] at lower
      simp [UInt32.le_iff_toNat_le] at lower ⊢
      omega
    · exact letter
  · decide

theorem isDigit_identifierChar (c : Char) : (identifierChar c).isDigit = c.isDigit := by
  unfold identifierChar
  split
  · delta Char.isDigit Char.toUpper
    split
    · rename_i lower
      -- Neither a small letter nor the capital for it is a digit.
      simp only [UInt32.le_iff_toNat_le] at lower
      rw [Bool.eq_iff_iff]
      simp [UInt32.le_iff_toNat_le] at lower ⊢
      omega
    · rfl
  · rename_i other
    have digit : c.isDigit = false := by
      simp [Char.isAlphanum] at other
      exact other.2
    rw [digit]
    decide

theorem all_isIdentifierChar_upperIdentifier (name : String) :
    (upperIdentifier name).toList.all isIdentifierChar = true := by
  rw [upperIdentifier, String.toList_ofList, List.all_map]
  exact List.all_eq_true.mpr fun c _ => isIdentifierChar_identifierChar c

/-- What is put behind an identifier in upper case changes nothing at its front, unless the name is
empty. -/
theorem startsWithDigit_upperIdentifier_append (name : String) {ending : List Char}
    (plain : startsWithDigit ending = false) :
    startsWithDigit ((upperIdentifier name).toList ++ ending) = startsWithDigit name.toList := by
  rw [upperIdentifier, String.toList_ofList]
  cases letters : name.toList with
  | nil => simpa [startsWithDigit] using plain
  | cons c rest => simp [startsWithDigit, isDigit_identifierChar]

theorem isCIdentifier_upperIdentifier_append_iff (name : String) {ending : String}
    (filled : ending ≠ "") (chars : ending.toList.all isIdentifierChar = true)
    (start : startsWithDigit ending.toList = false) :
    IsCIdentifier (upperIdentifier name ++ ending).toList ↔
      startsWithDigit name.toList = false := by
  have all : (upperIdentifier name ++ ending).toList.all isIdentifierChar = true := by
    rw [String.toList_append, List.all_append, all_isIdentifierChar_upperIdentifier, chars]
    rfl
  have nonempty : (upperIdentifier name ++ ending).toList ≠ [] := by
    rw [String.toList_append]
    exact List.append_ne_nil_of_right_ne_nil _ (mt String.toList_eq_nil_iff.mp filled)
  rw [Text.isCIdentifier_iff nonempty all, String.toList_append,
    startsWithDigit_upperIdentifier_append name start]

namespace NamingStyle

/-- In both styles and for every name, also an empty one, all characters of the prefix and of the
guard may stand in an identifier, and each of the two is an identifier exactly if the name does not
start with a digit. -/
theorem prefix_and_guard_identifiers_iff (naming : NamingStyle) (name : String) :
    (naming.sectionPrefix name).toList.all isIdentifierChar = true ∧
    (naming.headerGuard name).toList.all isIdentifierChar = true ∧
    (IsCIdentifier (naming.sectionPrefix name).toList ↔ startsWithDigit name.toList = false) ∧
    (IsCIdentifier (naming.headerGuard name).toList ↔ startsWithDigit name.toList = false) := by
  have all := all_isIdentifierChar_upperIdentifier name
  refine ⟨?_, ?_, ?_, ?_⟩
  · rw [sectionPrefix, String.toList_append, List.all_append, all]
    rfl
  · rw [headerGuard, String.toList_append, List.all_append, all]
    rfl
  · exact isCIdentifier_upperIdentifier_append_iff name (by decide) (by decide) (by decide)
  · exact isCIdentifier_upperIdentifier_append_iff name (by decide) (by decide) (by decide)

/-- A name that starts with a digit, in both styles. -/
theorem prefix_and_guard_start_with_digit :
    pascal.sectionPrefix "2fa" = "2FA_" ∧ pascal.headerGuard "2fa" = "2FA_H_" ∧
    ¬ IsCIdentifier (pascal.sectionPrefix "2fa").toList ∧
    ¬ IsCIdentifier (pascal.headerGuard "2fa").toList ∧
    ¬ IsCIdentifier (snake.sectionPrefix "2fa").toList ∧
    ¬ IsCIdentifier (snake.headerGuard "2fa").toList := by
  have digit : ∀ cs : List Char, startsWithDigit cs = true → ¬ IsCIdentifier cs := by
    intro cs starts identifier
    rw [identifier.start] at starts
    cases starts
  exact ⟨by decide, by decide, digit _ (by decide), digit _ (by decide), digit _ (by decide),
    digit _ (by decide)⟩

end NamingStyle

end AccessorGen
