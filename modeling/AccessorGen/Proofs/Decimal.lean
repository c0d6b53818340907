/- The exact value of a number.
   A number has a rational value, however many digits it has and however long its exponent is. The
   decimal that is made of it for the check has the same magnitude, and its places alone bound this
   magnitude. -/

import AccessorGen.Decimal
import Mathlib.Algebra.Order.Field.Power
import Mathlib.Data.Rat.Defs
import Mathlib.Tactic.FieldSimp
import Mathlib.Tactic.Linarith
import Mathlib.Tactic.Positivity
import Mathlib.Tactic.Ring

set_option autoImplicit false
set_option relaxedAutoImplicit false

namespace AccessorGen

namespace Text.Digits

private theorem foldl_value (digits : Digits) (start : Nat) :
    digits.foldl (fun n digit => 10 * n + digit.val) start =
      start * 10 ^ digits.length + digits.value := by
  induction digits generalizing start with
  | nil => simp [value]
  | cons digit rest ih =>
    have own := ih (10 * 0 + digit.val)
    rw [value, List.foldl_cons, List.foldl_cons, ih, own, List.length_cons]
    ring

theorem value_cons (digit : Fin 10) (rest : Digits) :
    value (digit :: rest) = digit.val * 10 ^ rest.length + rest.value := by
  have split := foldl_value rest (10 * 0 + digit.val)
  rw [value, List.foldl_cons, split]
  ring

theorem value_append (front back : Digits) :
    value (front ++ back) = front.value * 10 ^ back.length + back.value := by
  rw [value, List.foldl_append, foldl_value]
  rfl

theorem value_lt (digits : Digits) : digits.value < 10 ^ digits.length := by
  induction digits with
  | nil => simp [value]
  | cons digit rest ih =>
    have small : digit.val + 1 ≤ 10 := digit.isLt
    calc value (digit :: rest) = digit.val * 10 ^ rest.length + value rest := value_cons digit rest
      _ < digit.val * 10 ^ rest.length + 10 ^ rest.length := Nat.add_lt_add_left ih _
      _ = (digit.val + 1) * 10 ^ rest.length := (Nat.add_one_mul _ _).symm
      _ ≤ 10 * 10 ^ rest.length := Nat.mul_le_mul_right _ small
      _ = 10 ^ (digit :: rest).length := by rw [List.length_cons, Nat.pow_succ, Nat.mul_comm]

theorem le_value_cons {digit : Fin 10} (nonzero : digit.val ≠ 0) (rest : Digits) :
    10 ^ rest.length ≤ value (digit :: rest) := by
  have positive : 1 * 10 ^ rest.length ≤ digit.val * 10 ^ rest.length :=
    Nat.mul_le_mul_right _ (by omega)
  rw [value_cons]
  omega

theorem value_dropWhile (digits : Digits) :
    value (digits.dropWhile fun digit => digit.val == 0) = digits.value := by
  induction digits with
  | nil => rfl
  | cons digit rest ih =>
    by_cases zero : digit.val = 0
    · rw [List.dropWhile_cons_of_pos (by simpa using zero), ih, value_cons, zero]
      ring
    · rw [List.dropWhile_cons_of_neg (by simpa using zero)]

end Text.Digits

namespace Json.Number

def magnitude (n : Number) : ℚ :=
  let fraction := n.fraction.getD []
  (n.whole.value + fraction.value / 10 ^ fraction.length) *
    10 ^ (n.exponent.map Exponent.value).getD 0

/-- The exact value of a number. -/
def rational (n : Number) : ℚ :=
  if n.negative then -n.magnitude else n.magnitude

theorem magnitude_nonneg (n : Number) : 0 ≤ n.magnitude := by
  rw [magnitude]
  positivity

@[simp] theorem abs_rational (n : Number) : |n.rational| = n.magnitude := by
  have positive := n.magnitude_nonneg
  unfold rational
  split
  · rw [abs_neg, abs_of_nonneg positive]
  · exact abs_of_nonneg positive

theorem rational_of_int? {n : Number} {i : Int} (whole : n.int? = some i) : n.rational = i := by
  obtain ⟨integral, value⟩ := Option.ite_none_right_eq_some.mp whole
  obtain ⟨fraction, exponent⟩ : n.fraction = none ∧ n.exponent = none := by
    simpa [isIntegral] using integral
  have magnitude : n.magnitude = n.whole.value := by
    simp [Number.magnitude, fraction, exponent, Text.Digits.value]
  rw [← Option.some.inj value, rational, magnitude]
  split
  · push_cast
    rfl
  · push_cast
    rfl

theorem rational_normal (n : Number) : n.normal.rational = n.rational := by
  have same : n.normal.exponent.map Exponent.value = n.exponent.map Exponent.value := by
    cases exponent : n.exponent with
    | none => simp [normal, exponent]
    | some e =>
      obtain ⟨capital, sign, digits⟩ := e
      rcases sign with _ | _ | _ <;>
        simp [normal, exponent, Exponent.normal, Exponent.value]
  have magnitude : n.normal.magnitude = n.magnitude := by
    rw [Number.magnitude, same]
    rfl
  rw [rational, magnitude]
  rfl

end Json.Number

namespace Decimal

def magnitude (d : Decimal) : ℚ :=
  d.digits.value * 10 ^ d.scale

theorem magnitude_ofNumber (n : Json.Number) : (ofNumber n).magnitude = n.magnitude := by
  have digits : (ofNumber n).digits.value =
      n.whole.value * 10 ^ (n.fraction.getD []).length + (n.fraction.getD []).value := by
    rw [ofNumber, Text.Digits.value_dropWhile, Text.Digits.value_append]
  have ten : (10 : ℚ) ≠ 0 := by norm_num
  have scale : (10 : ℚ) ^ (ofNumber n).scale =
      10 ^ (n.exponent.map Json.Exponent.value).getD 0 / 10 ^ (n.fraction.getD []).length := by
    rw [ofNumber, zpow_sub₀ ten, zpow_natCast]
  rw [magnitude, Json.Number.magnitude, digits, scale]
  push_cast
  field_simp

theorem denominator_pos (d : Decimal) : 0 < d.denominator :=
  Nat.pow_pos (by decide)

theorem magnitude_eq_div (d : Decimal) : d.magnitude = d.numerator / d.denominator := by
  have numerator : d.numerator = d.digits.value * 10 ^ d.scale.toNat := rfl
  have denominator : d.denominator = 10 ^ (-d.scale).toNat := rfl
  have scale : (10 : ℚ) ^ d.scale = 10 ^ d.scale.toNat / 10 ^ (-d.scale).toNat := by
    rw [← zpow_natCast, ← zpow_natCast, ← zpow_sub₀ (by norm_num), Int.toNat_sub_toNat_neg]
  rw [magnitude, numerator, denominator, scale]
  push_cast
  ring

theorem magnitude_lt (d : Decimal) : d.magnitude < 10 ^ d.places := by
  have bound : (d.digits.value : ℚ) < 10 ^ d.digits.length := by
    exact_mod_cast d.digits.value_lt
  rw [magnitude, places, zpow_add₀ (by norm_num), zpow_natCast]
  exact mul_lt_mul_of_pos_right bound (by positivity)

theorem le_magnitude {d : Decimal} {digit : Fin 10} {rest : Text.Digits}
    (shape : d.digits = digit :: rest) (nonzero : digit.val ≠ 0) :
    10 ^ (d.places - 1) ≤ d.magnitude := by
  have bound : (10 : ℚ) ^ rest.length ≤ d.digits.value := by
    rw [shape]
    exact_mod_cast Text.Digits.le_value_cons nonzero rest
  have exponent : d.places - 1 = rest.length + d.scale := by
    rw [places, shape, List.length_cons]
    omega
  rw [magnitude, exponent, zpow_add₀ (by norm_num), zpow_natCast]
  exact mul_le_mul_of_nonneg_right bound (by positivity)

theorem magnitude_of_isEmpty {d : Decimal} (empty : d.digits.isEmpty = true) :
    d.magnitude = 0 := by
  rw [magnitude, List.isEmpty_iff.mp empty]
  simp [Text.Digits.value]

theorem nonzero_of_ofNumber {n : Json.Number} {digit : Fin 10} {rest : Text.Digits}
    (shape : (ofNumber n).digits = digit :: rest) : digit.val ≠ 0 := by
  have first := List.head?_dropWhile_not (fun digit : Fin 10 => digit.val == 0)
    (n.whole ++ n.fraction.getD [])
  have same : (n.whole ++ n.fraction.getD []).dropWhile (fun digit => digit.val == 0) =
      digit :: rest := shape
  rw [same] at first
  simpa using first

end Decimal

end AccessorGen
