/- Rounding to a binary format.
   A quotient is rounded to the nearest integer, and a fraction to the nearest number of a format, a
   tie to the even significand. Where the rounded number stays below a limit of the format is told
   by the fraction itself: it must not pass the middle to the next number. -/

import AccessorGen.Proofs.Decimal

set_option autoImplicit false
set_option relaxedAutoImplicit false

namespace AccessorGen

/-- A quotient is rounded up to `m` at most if it does not pass the middle between `m` and the next
integer, and the middle itself goes to the even one of the two. -/
theorem roundQuotient_le_iff {n d m : Nat} (positive : 0 < d) :
    roundQuotient n d ≤ m ↔
      2 * n < (2 * m + 1) * d ∨ 2 * n = (2 * m + 1) * d ∧ m % 2 = 0 := by
  have parts := Nat.div_add_mod n d
  have rest := Nat.mod_lt n positive
  have middle : (2 * m + 1) * d = 2 * (d * m) + d := by ring
  have bounds : n / d ≤ roundQuotient n d ∧ roundQuotient n d ≤ n / d + 1 := by
    unfold roundQuotient
    dsimp only
    split_ifs <;> omega
  rw [middle]
  rcases Nat.lt_trichotomy (n / d) m with below | same | above
  · have product : d * (n / d + 1) ≤ d * m := Nat.mul_le_mul_left d below
    rw [Nat.mul_add_one] at product
    constructor
    · intro _
      omega
    · intro _
      omega
  · unfold roundQuotient
    rw [same] at parts ⊢
    dsimp only
    split_ifs <;> omega
  · have product : d * (m + 1) ≤ d * (n / d) := Nat.mul_le_mul_left d above
    rw [Nat.mul_add_one] at product
    constructor
    · intro _
      omega
    · intro _
      omega

namespace RealFormat

/-- The smallest positive number of a format is two to minus this. -/
def unit (format : RealFormat) : Nat :=
  format.maxExponent + format.precision - 2

/-- By how many bits a fraction of so many units is longer than a significand. -/
def shift (format : RealFormat) (units d : Nat) : Nat :=
  (units / d).log2 + 1 - format.precision

/-- The fraction rounded to a significand of the format at any exponent, in units of the smallest
positive number. -/
def roundUnits (format : RealFormat) (n d : Nat) : Nat :=
  let units := n * 2 ^ format.unit
  roundQuotient units (d * 2 ^ format.shift units d) * 2 ^ format.shift units d

theorem unitExponent_eq : unitExponent = binary64.unit :=
  rfl

theorem roundToUnits_eq (n d : Nat) : roundToUnits n d = binary64.roundUnits n d := by
  simp only [roundToUnits, roundUnits, shift, unitExponent_eq, Nat.pow_eq]

variable {format : RealFormat} {units d : Nat}

theorem lt_of_shift (positive : 0 < d) :
    units < d * 2 ^ (format.precision + format.shift units d) := by
  have bits : units / d < 2 ^ ((units / d).log2 + 1) := Nat.lt_log2_self
  have enough : 2 ^ ((units / d).log2 + 1) ≤ 2 ^ (format.precision + format.shift units d) := by
    apply Nat.pow_le_pow_right (by decide)
    unfold shift
    omega
  rw [Nat.mul_comm]
  exact (Nat.div_lt_iff_lt_mul positive).mp (Nat.lt_of_lt_of_le bits enough)

theorem le_of_shift (precise : 0 < format.precision)
    (shifted : 0 < format.shift units d) :
    d * 2 ^ (format.precision - 1 + format.shift units d) ≤ units := by
  have exponent : format.precision - 1 + format.shift units d = (units / d).log2 := by
    unfold shift at shifted ⊢
    omega
  have nonzero : units / d ≠ 0 := by
    intro zero
    rw [shift, zero] at shifted
    simp at shifted
    omega
  have bits : 2 ^ (units / d).log2 ≤ units / d := Nat.log2_self_le nonzero
  rw [exponent]
  exact (Nat.mul_le_mul_left d bits).trans (Nat.mul_div_le units d)

/-- A rounded significand may need one bit more, and then all other bits of it are zero. -/
theorem significand_le (positive : 0 < d) :
    roundQuotient units (d * 2 ^ format.shift units d) ≤ 2 ^ format.precision := by
  have below := @lt_of_shift format units d positive
  have middle : (2 * 2 ^ format.precision + 1) * (d * 2 ^ format.shift units d) =
      2 * (d * 2 ^ (format.precision + format.shift units d)) + d * 2 ^ format.shift units d := by
    ring
  rw [roundQuotient_le_iff (by positivity), middle]
  left
  omega

theorem le_significand (positive : 0 < d) (precise : 0 < format.precision)
    (shifted : 0 < format.shift units d) :
    2 ^ (format.precision - 1) ≤ roundQuotient units (d * 2 ^ format.shift units d) := by
  have above := le_of_shift precise shifted
  rw [Nat.pow_add] at above
  by_contra small
  have low : roundQuotient units (d * 2 ^ format.shift units d) ≤
      2 ^ (format.precision - 1) - 1 := by
    omega
  have bits : 0 < 2 ^ (format.precision - 1) := by positivity
  have place : 0 < d * 2 ^ format.shift units d := by positivity
  rw [roundQuotient_le_iff place] at low
  have odd : 2 * (2 ^ (format.precision - 1) - 1) + 1 = 2 * 2 ^ (format.precision - 1) - 1 := by
    omega
  have less : (2 * 2 ^ (format.precision - 1) - 1) * (d * 2 ^ format.shift units d) <
      2 * 2 ^ (format.precision - 1) * (d * 2 ^ format.shift units d) :=
    Nat.mul_lt_mul_of_pos_right (by omega) place
  have same : 2 * 2 ^ (format.precision - 1) * (d * 2 ^ format.shift units d) =
      2 * (d * (2 ^ (format.precision - 1) * 2 ^ format.shift units d)) := by
    ring
  rw [odd] at low
  omega

theorem roundUnits_le_iff {n m s : Nat} (positive : 0 < d) (precise : 0 < format.precision)
    (normal : 2 ^ (format.precision - 1) ≤ m) (short : m < 2 ^ format.precision) :
    format.roundUnits n d ≤ m * 2 ^ s ↔
      2 * (n * 2 ^ format.unit) < (2 * m + 1) * (d * 2 ^ s) ∨
        2 * (n * 2 ^ format.unit) = (2 * m + 1) * (d * 2 ^ s) ∧ m % 2 = 0 := by
  unfold roundUnits
  dsimp only
  generalize n * 2 ^ format.unit = units
  have middle : (2 * m + 1) * (d * 2 ^ s) = 2 * (d * (m * 2 ^ s)) + d * 2 ^ s := by ring
  have place : 0 < d * 2 ^ s := by positivity
  rcases Nat.lt_trichotomy (format.shift units d) s with finer | same | coarser
  · have room : 2 ^ (format.precision + format.shift units d) ≤ m * 2 ^ s := by
      calc 2 ^ (format.precision + format.shift units d)
          ≤ 2 ^ (format.precision - 1 + s) := Nat.pow_le_pow_right (by decide) (by omega)
        _ = 2 ^ (format.precision - 1) * 2 ^ s := Nat.pow_add _ _ _
        _ ≤ m * 2 ^ s := Nat.mul_le_mul_right _ normal
    have rounded := Nat.mul_le_mul_right (2 ^ format.shift units d)
      (@significand_le format units d positive)
    rw [← Nat.pow_add] at rounded
    have below := @lt_of_shift format units d positive
    have product := Nat.mul_le_mul_left d room
    rw [middle]
    exact ⟨fun _ => .inl (by omega), fun _ => rounded.trans room⟩
  · rw [same, Nat.mul_le_mul_right_iff (by positivity), roundQuotient_le_iff place]
  · have room : (m + 1) * 2 ^ s ≤ 2 ^ (format.precision - 1 + format.shift units d) := by
      calc (m + 1) * 2 ^ s ≤ 2 ^ format.precision * 2 ^ s := Nat.mul_le_mul_right _ short
        _ = 2 ^ (format.precision + s) := (Nat.pow_add _ _ _).symm
        _ ≤ 2 ^ (format.precision - 1 + format.shift units d) :=
          Nat.pow_le_pow_right (by decide) (by omega)
    have rounded := Nat.mul_le_mul_right (2 ^ format.shift units d)
      (le_significand positive precise (Nat.zero_lt_of_lt coarser))
    rw [← Nat.pow_add] at rounded
    have above := le_of_shift precise (Nat.zero_lt_of_lt coarser)
    have product := Nat.mul_le_mul_left d room
    rw [Nat.add_one_mul] at room product
    rw [Nat.mul_add] at product
    rw [middle]
    have step : 0 < 2 ^ s := by positivity
    constructor
    · intro _
      omega
    · intro _
      omega

/-- `x` is a finite number of the format, with this significand and the exponent of its last
place. -/
structure Holds (format : RealFormat) (significand exponent : ℤ) (x : ℚ) : Prop where
  short : |significand| < 2 ^ format.precision
  low : 2 - format.maxExponent - format.precision ≤ exponent
  high : exponent + format.precision ≤ format.maxExponent + 1
  value : x = significand * 2 ^ exponent

def Represents (format : RealFormat) (x : ℚ) : Prop :=
  ∃ significand exponent, format.Holds significand exponent x

structure Nearest (format : RealFormat) (q x : ℚ) : Prop where
  represented : format.Represents x
  least : ∀ y, format.Represents y → |q - x| ≤ |q - y|

/-- The number of the format that is nearest, and of two the one with the even significand. -/
structure RoundsTo (format : RealFormat) (q x : ℚ) : Prop extends format.Nearest q x where
  even : ∀ y, format.Represents y → |q - y| = |q - x| → y ≠ x →
    ∃ significand exponent, format.Holds significand exponent x ∧ Even significand

end RealFormat

theorem abs_sub_roundQuotient {n d : Nat} (positive : 0 < d) :
    2 * |(n : ℤ) - roundQuotient n d * d| ≤ d ∧
      (2 * |(n : ℤ) - roundQuotient n d * d| = d → roundQuotient n d % 2 = 0) := by
  have parts : (d : ℤ) * (n / d : Nat) + (n % d : Nat) = n := by
    exact_mod_cast Nat.div_add_mod n d
  have rest : n % d < d := Nat.mod_lt n positive
  have down : (n : ℤ) - (n / d : Nat) * d = (n % d : Nat) := by linarith
  have up : (n : ℤ) - ((n / d + 1 : Nat) : ℤ) * d = -((d - n % d : Nat) : ℤ) := by
    push_cast [Nat.le_of_lt rest] at parts ⊢
    linarith
  unfold roundQuotient
  dsimp only
  split_ifs
  · rw [down, Nat.abs_cast]
    omega
  · rw [up, abs_neg, Nat.abs_cast]
    omega
  · rw [down, Nat.abs_cast]
    omega
  · rw [up, abs_neg, Nat.abs_cast]
    omega

/-- No multiple of the divisor is nearer than that of the rounded quotient, and another that is as
near leaves an even one. -/
theorem roundQuotient_nearest {n d : Nat} (positive : 0 < d) (k : ℤ) :
    |(n : ℤ) - roundQuotient n d * d| ≤ |(n : ℤ) - k * d| ∧
      (|(n : ℤ) - k * d| = |(n : ℤ) - roundQuotient n d * d| → k ≠ roundQuotient n d →
        roundQuotient n d % 2 = 0) := by
  obtain ⟨near, even⟩ := @abs_sub_roundQuotient n d positive
  by_cases same : k = roundQuotient n d
  · rw [same]
    exact ⟨le_rfl, fun _ other => absurd rfl other⟩
  · have apart : (d : ℤ) ≤ |(roundQuotient n d : ℤ) * d - k * d| := by
      rw [← sub_mul, abs_mul, Nat.abs_cast]
      have one : 1 ≤ |(roundQuotient n d : ℤ) - k| := Int.one_le_abs (sub_ne_zero.mpr (Ne.symm same))
      nlinarith
    have triangle := abs_sub_le ((roundQuotient n d : ℤ) * d) n (k * d)
    rw [abs_sub_comm _ (n : ℤ)] at triangle
    exact ⟨by linarith, fun tie _ => even (by linarith)⟩

namespace RealFormat

variable {format : RealFormat} {n d : Nat}

theorem roundUnits_nearest (positive : 0 < d) (precise : 0 < format.precision) {k : ℤ} {j : Nat}
    (short : |k| < 2 ^ format.precision) :
    |((n * 2 ^ format.unit : Nat) : ℤ) - format.roundUnits n d * d| ≤
        |((n * 2 ^ format.unit : Nat) : ℤ) - k * 2 ^ j * d| ∧
      (|((n * 2 ^ format.unit : Nat) : ℤ) - k * 2 ^ j * d| =
          |((n * 2 ^ format.unit : Nat) : ℤ) - format.roundUnits n d * d| →
        k * 2 ^ j ≠ format.roundUnits n d →
        roundQuotient (n * 2 ^ format.unit)
          (d * 2 ^ format.shift (n * 2 ^ format.unit) d) % 2 = 0) := by
  unfold roundUnits
  dsimp only
  generalize n * 2 ^ format.unit = units
  have scaled : ((roundQuotient units (d * 2 ^ format.shift units d) *
      2 ^ format.shift units d : Nat) : ℤ) * d =
      roundQuotient units (d * 2 ^ format.shift units d) *
        ((d * 2 ^ format.shift units d : Nat) : ℤ) := by
    push_cast
    ring
  have place : 0 < d * 2 ^ format.shift units d := by positivity
  rw [scaled]
  by_cases coarse : format.shift units d ≤ j
  · -- The candidate is a multiple of the last place.
    have split : k * 2 ^ j =
        k * 2 ^ (j - format.shift units d) * 2 ^ format.shift units d := by
      rw [mul_assoc, ← pow_add, Nat.sub_add_cancel coarse]
    have multiple : k * 2 ^ j * d =
        k * 2 ^ (j - format.shift units d) * ((d * 2 ^ format.shift units d : Nat) : ℤ) := by
      rw [split]
      push_cast
      ring
    obtain ⟨near, even⟩ := roundQuotient_nearest (n := units) place
      (k * 2 ^ (j - format.shift units d))
    rw [multiple]
    refine ⟨near, fun tie other => even tie fun same => other ?_⟩
    rw [split, same]
    push_cast
    rfl
  · -- The candidate lies below the least normal significand, and this one below the fraction.
    have shifted : 0 < format.shift units d := by omega
    have above : (2 : ℤ) ^ (format.precision - 1) * ((d * 2 ^ format.shift units d : Nat) : ℤ) ≤
        units := by
      have bound := le_of_shift precise shifted
      have product : d * 2 ^ (format.precision - 1 + format.shift units d) =
          2 ^ (format.precision - 1) * (d * 2 ^ format.shift units d) := by
        ring
      rw [product] at bound
      exact_mod_cast bound
    have below : k * 2 ^ j * d <
        2 ^ (format.precision - 1) * ((d * 2 ^ format.shift units d : Nat) : ℤ) := by
      have bits : (2 : ℤ) ^ format.precision * 2 ^ j ≤
          2 ^ (format.precision - 1) * 2 ^ format.shift units d := by
        rw [← pow_add, ← pow_add]
        exact pow_le_pow_right₀ (by norm_num) (by omega)
      have less : k * 2 ^ j < 2 ^ format.precision * 2 ^ j :=
        mul_lt_mul_of_pos_right ((le_abs_self k).trans_lt short) (by positivity)
      have scaledUp := mul_lt_mul_of_pos_right (less.trans_le bits)
        (by exact_mod_cast positive : (0 : ℤ) < d)
      push_cast
      linarith
    have near := (roundQuotient_nearest (n := units) place (2 ^ (format.precision - 1))).1
    rw [abs_of_nonneg (by linarith : (0 : ℤ) ≤ units - 2 ^ (format.precision - 1) * _)] at near
    have far : (units : ℤ) - k * 2 ^ j * d ≤ |(units : ℤ) - k * 2 ^ j * d| := le_abs_self _
    refine ⟨by linarith, fun tie _ => ?_⟩
    linarith

/-- A format with room for a significand of at least two bits. -/
structure Proper (format : RealFormat) : Prop where
  wide : 2 ≤ format.precision
  deep : format.precision ≤ format.maxExponent + 1

theorem proper_binary32 : binary32.Proper :=
  ⟨by decide, by decide⟩

theorem proper_binary64 : binary64.Proper :=
  ⟨by decide, by decide⟩

/-- The last place of the largest numbers, counted in units. -/
def top (format : RealFormat) : Nat :=
  format.maxExponent + 1 - format.precision + format.unit

theorem largest_units (format : RealFormat) :
    format.largest * 2 ^ format.unit = (2 ^ format.precision - 1) * 2 ^ format.top := by
  rw [top, pow_add, ← mul_assoc]
  rfl

theorem Holds.exists_units (proper : format.Proper) {significand exponent : ℤ} {x : ℚ}
    (holds : format.Holds significand exponent x) :
    ∃ j : Nat, x = ((significand * 2 ^ j : ℤ) : ℚ) / 2 ^ format.unit := by
  have low := holds.low
  have wide := proper.wide
  refine ⟨(exponent + format.unit).toNat, ?_⟩
  have place : exponent = ((exponent + format.unit).toNat : ℤ) - (format.unit : ℤ) := by
    unfold unit
    omega
  rw [holds.value]
  nth_rewrite 1 [place]
  rw [zpow_sub₀ (by norm_num), zpow_natCast, zpow_natCast]
  push_cast
  ring

theorem exists_holds_roundUnits (proper : format.Proper) (positive : 0 < d)
    (bounded : format.roundUnits n d ≤ format.largest * 2 ^ format.unit) :
    ∃ significand exponent,
      format.Holds significand exponent (format.roundUnits n d / 2 ^ format.unit) ∧
        (roundQuotient (n * 2 ^ format.unit)
          (d * 2 ^ format.shift (n * 2 ^ format.unit) d) % 2 = 0 → Even significand) := by
  have wide := proper.wide
  have deep := proper.deep
  have limited : format.roundUnits n d < 2 ^ (format.precision + format.top) := by
    rw [largest_units] at bounded
    refine bounded.trans_lt ?_
    rw [pow_add]
    exact Nat.mul_lt_mul_of_pos_right (Nat.sub_lt (by positivity) (by decide)) (by positivity)
  unfold roundUnits at limited ⊢
  dsimp only at limited ⊢
  generalize n * 2 ^ format.unit = units at limited ⊢
  have upper := @significand_le format units d positive
  have lower := fun shifted => @le_significand format units d positive (by omega) shifted
  generalize format.shift units d = t at limited upper lower ⊢
  generalize roundQuotient units (d * 2 ^ t) = rounded at limited upper lower ⊢
  have value : ∀ (significand : ℤ) (place : Nat),
      (rounded * 2 ^ t : ℕ) = significand * 2 ^ place →
      ((rounded * 2 ^ t : ℕ) : ℚ) / 2 ^ format.unit =
        significand * 2 ^ ((place : ℤ) - format.unit) := by
    intro significand place same
    have cast : ((rounded * 2 ^ t : ℕ) : ℚ) = significand * 2 ^ place := by exact_mod_cast same
    rw [cast, zpow_sub₀ (by norm_num), zpow_natCast, zpow_natCast]
    ring
  rcases Nat.lt_or_ge rounded (2 ^ format.precision) with short | long
  · have within : t ≤ format.top := by
      by_contra beyond
      have least := Nat.mul_le_mul_right (2 ^ t) (lower (by omega))
      rw [← pow_add] at least
      have order := Nat.pow_lt_pow_iff_right (by decide : 1 < 2) |>.mp (least.trans_lt limited)
      omega
    refine ⟨rounded, (t : ℤ) - format.unit, ⟨?_, ?_, ?_, value _ _ (by push_cast; ring)⟩, ?_⟩
    · rw [Nat.abs_cast]
      exact_mod_cast short
    · unfold unit
      omega
    · unfold top unit at within
      unfold unit
      omega
    · intro even
      exact_mod_cast Nat.even_iff.mpr even
  · obtain rfl : rounded = 2 ^ format.precision := Nat.le_antisymm upper long
    rw [← pow_add] at limited
    have within := Nat.pow_lt_pow_iff_right (by decide : 1 < 2) |>.mp limited
    have carry : 2 ^ format.precision = 2 * 2 ^ (format.precision - 1) := by
      rw [← pow_succ', Nat.sub_add_cancel (by omega)]
    refine ⟨2 ^ (format.precision - 1), ((t + 1 : Nat) : ℤ) - format.unit,
      ⟨?_, ?_, ?_, value _ _ ?_⟩, ?_⟩
    · rw [abs_of_nonneg (by positivity)]
      exact pow_lt_pow_right₀ (by norm_num) (by omega)
    · unfold unit
      omega
    · unfold top unit at within
      unfold unit
      omega
    · rw [carry]
      push_cast
      ring
    · intro _
      exact (even_two.pow_of_ne_zero (by omega) : Even ((2 : ℤ) ^ (format.precision - 1)))

private theorem distance_eq (positive : 0 < d) (y : ℤ) :
    |(n : ℚ) / d - y / 2 ^ format.unit| =
      ((|((n * 2 ^ format.unit : ℕ) : ℤ) - y * d| : ℤ) : ℚ) / (d * 2 ^ format.unit) := by
  have divisor : (d : ℚ) ≠ 0 := by exact_mod_cast positive.ne'
  have product : (0 : ℚ) < d * 2 ^ format.unit := by positivity
  rw [div_sub_div _ _ divisor (by positivity), abs_div, abs_of_pos product]
  push_cast
  rw [mul_comm (d : ℚ) y]

/-- Rounding gives the nearest number of the format, and of two the even one, unless it passes the
largest. -/
theorem roundUnits_roundsTo (proper : format.Proper) (positive : 0 < d)
    (bounded : format.roundUnits n d ≤ format.largest * 2 ^ format.unit) :
    format.RoundsTo ((n : ℚ) / d) (format.roundUnits n d / 2 ^ format.unit) := by
  have precise : 0 < format.precision := Nat.zero_lt_of_lt proper.wide
  obtain ⟨significand, exponent, holds, parity⟩ := exists_holds_roundUnits proper positive bounded
  have own := @distance_eq format n d positive (format.roundUnits n d)
  rw [Int.cast_natCast] at own
  have divisor : (0 : ℚ) < d * 2 ^ format.unit := by positivity
  refine ⟨⟨⟨significand, exponent, holds⟩, ?_⟩, ?_⟩
  · rintro y ⟨k, e, held⟩
    obtain ⟨j, rfl⟩ := held.exists_units proper
    have near := (roundUnits_nearest (n := n) (j := j) positive precise held.short).1
    rw [own, distance_eq positive]
    exact div_le_div_of_nonneg_right (by exact_mod_cast near) divisor.le
  · rintro y ⟨k, e, held⟩ tie other
    obtain ⟨j, rfl⟩ := held.exists_units proper
    have even := (roundUnits_nearest (n := n) (j := j) positive precise held.short).2
    rw [own, distance_eq positive, div_left_inj' divisor.ne'] at tie
    refine ⟨significand, exponent, holds, parity (even (by exact_mod_cast tie) fun same => other ?_)⟩
    rw [same, Int.cast_natCast]

theorem Holds.neg {significand exponent : ℤ} {x : ℚ} (holds : format.Holds significand exponent x) :
    format.Holds (-significand) exponent (-x) where
  short := by
    rw [abs_neg]
    exact holds.short
  low := holds.low
  high := holds.high
  value := by
    rw [holds.value]
    push_cast
    ring

theorem Represents.neg {x : ℚ} (represented : format.Represents x) : format.Represents (-x) := by
  obtain ⟨significand, exponent, holds⟩ := represented
  exact ⟨-significand, exponent, holds.neg⟩

theorem RoundsTo.neg {q x : ℚ} (rounds : format.RoundsTo q x) : format.RoundsTo (-q) (-x) := by
  have mirror : ∀ y : ℚ, |-q - y| = |q - -y| := by
    intro y
    rw [← abs_neg]
    congr 1
    ring
  refine ⟨⟨rounds.represented.neg, ?_⟩, ?_⟩
  · intro y represented
    rw [mirror, mirror, neg_neg]
    exact rounds.least (-y) represented.neg
  · intro y represented tie other
    rw [mirror, mirror, neg_neg] at tie
    obtain ⟨significand, exponent, holds, even⟩ := rounds.even (-y) represented.neg tie
      fun same => other (by rw [← same, neg_neg])
    exact ⟨-significand, exponent, holds.neg, even.neg⟩

theorem roundUnits_le_iff_div (proper : format.Proper) (positive : 0 < d) {m s : Nat}
    (normal : 2 ^ (format.precision - 1) ≤ m) (short : m < 2 ^ format.precision) :
    format.roundUnits n d ≤ m * 2 ^ s ↔
      (n : ℚ) / d < (2 * m + 1) * 2 ^ s / 2 ^ (format.unit + 1) ∨
        (n : ℚ) / d = (2 * m + 1) * 2 ^ s / 2 ^ (format.unit + 1) ∧ m % 2 = 0 := by
  have divisor : (0 : ℚ) < d := by exact_mod_cast positive
  have left : n * 2 ^ (format.unit + 1) = 2 * (n * 2 ^ format.unit) := by ring
  have right : (2 * m + 1) * 2 ^ s * d = (2 * m + 1) * (d * 2 ^ s) := by ring
  rw [roundUnits_le_iff positive (Nat.zero_lt_of_lt proper.wide) normal short, ← left, ← right,
    div_lt_div_iff₀ divisor (by positivity), div_eq_div_iff divisor.ne' (by positivity)]
  norm_cast

theorem largest_eq (proper : format.Proper) :
    (format.largest : ℚ) = 2 ^ (format.maxExponent + 1) -
      2 ^ (format.maxExponent + 1 - format.precision) := by
  have split : (2 : ℚ) ^ (format.maxExponent + 1) = 2 ^ format.precision *
      2 ^ (format.maxExponent + 1 - format.precision) := by
    rw [← pow_add, Nat.add_sub_cancel' proper.deep]
  have product : format.largest =
      (2 ^ format.precision - 1) * 2 ^ (format.maxExponent + 1 - format.precision) :=
    rfl
  rw [product, split]
  push_cast [Nat.one_le_two_pow]
  ring

/-- Magnitudes from here on are rounded beyond the largest number of the format. -/
def overflow (format : RealFormat) : ℚ :=
  format.largest + 2 ^ ((format.maxExponent : ℤ) - format.precision)

theorem overflow_eq (proper : format.Proper) :
    format.overflow = (2 * ((2 ^ format.precision - 1 : Nat) : ℚ) + 1) * 2 ^ format.top /
      2 ^ (format.unit + 1) := by
  have deep := proper.deep
  have units : (format.largest : ℚ) =
      ((2 ^ format.precision - 1 : Nat) : ℚ) * 2 ^ format.top / 2 ^ format.unit := by
    rw [eq_div_iff (by positivity)]
    exact_mod_cast format.largest_units
  have half : (2 : ℚ) ^ ((format.maxExponent : ℤ) - format.precision) =
      2 ^ format.top / 2 ^ (format.unit + 1) := by
    rw [← zpow_natCast, ← zpow_natCast, ← zpow_sub₀ (by norm_num)]
    congr 1
    unfold top
    omega
  rw [overflow, units, half, pow_succ]
  field_simp

private theorem exists_roundsTo_div (proper : format.Proper) (positive : 0 < d)
    (short : (n : ℚ) / d < format.overflow) : ∃ x, format.RoundsTo ((n : ℚ) / d) x := by
  have wide := proper.wide
  have bits : 2 ^ format.precision = 2 * 2 ^ (format.precision - 1) := by
    rw [← pow_succ', Nat.sub_add_cancel (by omega)]
  have some : 0 < 2 ^ (format.precision - 1) := by positivity
  refine ⟨_, roundUnits_roundsTo proper positive ?_⟩
  rw [largest_units, roundUnits_le_iff_div proper positive (by omega) (by omega)]
  left
  rw [← overflow_eq proper]
  exact short

theorem exists_roundsTo (proper : format.Proper) {q : ℚ} (short : |q| < format.overflow) :
    ∃ x, format.RoundsTo q x := by
  have fraction : |q| = (q.num.natAbs : ℚ) / q.den := by
    rw [Rat.abs_def, Rat.divInt_eq_div, Int.cast_natCast, Int.cast_natCast]
  rw [fraction] at short
  obtain ⟨x, rounds⟩ := exists_roundsTo_div proper q.den_pos short
  rw [← fraction] at rounds
  rcases abs_choice q with same | opposite
  · exact ⟨x, same ▸ rounds⟩
  · exact ⟨-x, by simpa [opposite] using rounds.neg⟩

end RealFormat

end AccessorGen
