/- Decimal digits.
   A digit sequence is a list of digits, most significant first; it may start with zeros. -/

set_option autoImplicit false
set_option relaxedAutoImplicit false

namespace AccessorGen.Text

/-- Decimal digits, most significant first. -/
abbrev Digits := List (Fin 10)

def digit? (c : Char) : Option (Fin 10) :=
  if h : '0'.toNat ≤ c.toNat ∧ c.toNat ≤ '9'.toNat then
    some ⟨c.toNat - '0'.toNat, by
      have zero : '0'.toNat = 48 := rfl
      have nine : '9'.toNat = 57 := rfl
      omega⟩
  else none

namespace Digits

def chars (digits : Digits) : List Char :=
  digits.map fun digit => Nat.digitChar digit.val

def value (digits : Digits) : Nat :=
  digits.foldl (fun n digit => 10 * n + digit.val) 0

/-- The digits of a text that holds digits only, and at least one. -/
def ofChars? (cs : List Char) : Option Digits :=
  if cs.isEmpty then none else cs.mapM digit?

def ofNat (n : Nat) : Digits :=
  (Nat.toDigits 10 n).map fun c => (digit? c).getD 0

/-- There is at least one digit, and zero is first only where it is alone. -/
structure Canonical (digits : Digits) : Prop where
  filled : digits ≠ []
  lead : digits.head? = some 0 → digits = [0]

instance (digits : Digits) : Decidable digits.Canonical :=
  decidable_of_iff (digits ≠ [] ∧ (digits.head? = some 0 → digits = [0]))
    ⟨fun both => ⟨both.1, both.2⟩, fun canonical => ⟨canonical.filled, canonical.lead⟩⟩

theorem digit?_digitChar (digit : Fin 10) : digit? (Nat.digitChar digit.val) = some digit := by
  revert digit
  decide

private theorem ofNat_of_lt {n : Nat} (small : n < 10) : ofNat n = [⟨n, small⟩] := by
  rw [ofNat, Nat.toDigits_of_lt_base small, List.map_singleton, digit?_digitChar ⟨n, small⟩]
  rfl

private theorem ofNat_of_le {n : Nat} (large : 10 ≤ n) :
    ofNat n = ofNat (n / 10) ++ [⟨n % 10, Nat.mod_lt n (by decide)⟩] := by
  rw [ofNat, Nat.toDigits_eq_if (by decide), if_neg (by omega), List.map_append,
    List.map_singleton, digit?_digitChar ⟨n % 10, Nat.mod_lt n (by decide)⟩]
  rfl

private theorem exists_head_ofNat {n : Nat} (positive : 0 < n) :
    ∃ digit, (ofNat n).head? = some digit ∧ digit ≠ 0 := by
  induction n using Nat.strongRecOn with
  | ind n ih =>
    by_cases small : n < 10
    · refine ⟨⟨n, small⟩, by rw [ofNat_of_lt small]; rfl, ?_⟩
      intro zero
      have none : n = 0 := congrArg Fin.val zero
      omega
    · obtain ⟨digit, first, nonzero⟩ := ih (n / 10) (by omega) (by omega)
      refine ⟨digit, ?_, nonzero⟩
      rw [ofNat_of_le (by omega), List.head?_append, first]
      rfl

theorem canonical_ofNat (n : Nat) : (ofNat n).Canonical := by
  rcases Nat.eq_zero_or_pos n with rfl | positive
  · decide
  · obtain ⟨digit, first, nonzero⟩ := exists_head_ofNat positive
    constructor
    · intro none
      rw [none] at first
      cases first
    · intro zero
      exact absurd (Option.some.inj (first.symm.trans zero)) nonzero

end Digits

example : (Digits.ofChars? ['0', '4', '2']).map Digits.value = some 42 := by decide

end AccessorGen.Text
