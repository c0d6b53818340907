/- What C stores in a real variable.
   A constant has a type of its own, and its value there is converted to the type of the variable.
   Floating constants are `double`, so that a `float` is rounded twice. Integer constants are exact
   as long as there is a type for them, and a minus sign in front of an unsigned one wraps
   around. -/

import AccessorGen.Proofs.RealDomains
import AccessorGen.Proofs.Text.CNumber

set_option autoImplicit false
set_option relaxedAutoImplicit false

namespace AccessorGen

namespace RealFormat

variable {format : RealFormat}

theorem Represents.roundsTo_self {x : ℚ} (represented : format.Represents x) :
    format.RoundsTo x x := by
  refine ⟨⟨represented, fun y _ => ?_⟩, fun y _ tie other => ?_⟩
  · rw [sub_self, abs_zero]
    exact abs_nonneg _
  · rw [sub_self, abs_zero, abs_eq_zero, sub_eq_zero] at tie
    exact absurd tie.symm other

theorem Nearest.eq_of_represents {x y : ℚ} (nearest : format.Nearest x y)
    (represented : format.Represents x) : y = x := by
  have least := nearest.least x represented
  rw [sub_self, abs_zero] at least
  exact (sub_eq_zero.mp (abs_nonpos_iff.mp least)).symm

theorem two_pow_le_overflow (deep : format.precision ≤ format.maxExponent) :
    2 ^ (format.maxExponent - format.precision) ≤ format.overflow := by
  have whole : (0 : ℚ) ≤ format.largest := Nat.cast_nonneg _
  have exponent : ((format.maxExponent - format.precision : Nat) : ℤ) =
      (format.maxExponent : ℤ) - format.precision := by
    omega
  rw [overflow, ← exponent, zpow_natCast]
  linarith

theorem represents_largest_binary32 : binary64.Represents binary32.largest := by
  refine ⟨2 ^ 24 - 1, 104, ⟨by decide, by decide, by decide, ?_⟩⟩
  have product : binary32.largest = (2 ^ 24 - 1) * 2 ^ 104 := rfl
  rw [product]
  norm_num

/-- What a `float` takes after a first rounding to binary64 does not overflow in the second. -/
theorem abs_lt_overflow_binary32 {q y : ℚ} (small : |q| ≤ binary32.limit)
    (nearest : binary64.Nearest q y) : |y| < binary32.overflow := by
  have largest : (binary32.largest : ℚ) = 2 ^ 128 - 2 ^ 104 := largest_eq proper_binary32
  have overflow : binary32.overflow = 2 ^ 128 - 2 ^ 103 := by
    have half : (2 : ℚ) ^ ((binary32.maxExponent : ℤ) - binary32.precision) = 2 ^ 103 :=
      zpow_natCast 2 103
    rw [RealFormat.overflow, half, largest]
    norm_num
  rw [limit_binary32] at small
  -- The largest `float` with the sign of `q` is a candidate of the first rounding.
  have near : |q - y| ≤ |(|q| - binary32.largest)| := by
    rcases abs_cases q with ⟨same, -⟩ | ⟨opposite, -⟩
    · rw [same]
      exact nearest.least _ represents_largest_binary32
    · have mirror : |(|q| - (binary32.largest : ℚ))| = |q - -binary32.largest| := by
        rw [opposite, ← abs_neg]
        congr 1
        ring
      rw [mirror]
      exact nearest.least _ represents_largest_binary32.neg
  have triangle : |y| - |q| ≤ |q - y| := by
    rw [abs_sub_comm]
    exact abs_sub_abs_le_abs_sub y q
  rw [largest] at near
  rw [overflow]
  rcases abs_cases (|q| - (2 ^ 128 - 2 ^ 104)) with ⟨same, -⟩ | ⟨opposite, -⟩
  · rw [same] at near
    norm_num at near small triangle ⊢
    linarith
  · rw [opposite] at near
    norm_num at near small triangle ⊢
    linarith

end RealFormat

namespace Text

/-- The value of an integer constant in its type. It takes a signed type of 64 bits at most, or else
the unsigned type of 64 bits, in which a minus sign wraps around; beyond that there is no type. -/
def CInteger.typed? (constant : CInteger) : Option Int :=
  let magnitude := ofDigits constant.radix.base constant.digits
  if magnitude < 2 ^ 63 then some constant.value
  else if magnitude < 2 ^ 64 then
    some (if constant.negative then 2 ^ 64 - magnitude else magnitude)
  else none

theorem CInteger.typed?_of_lt {constant : CInteger} (low : -2 ^ 63 < constant.value)
    (high : constant.value < 2 ^ 64) : constant.typed? = some constant.value := by
  unfold typed?
  rw [value] at low high ⊢
  dsimp only at low high ⊢
  generalize ofDigits constant.radix.base constant.digits = magnitude at low high ⊢
  generalize constant.negative = negative at low high ⊢
  cases negative with
  | true =>
    rw [if_pos rfl] at low
    have small : magnitude < 2 ^ 63 := by omega
    rw [if_pos small]
  | false =>
    rw [if_neg (by decide)] at high
    have small : magnitude < 2 ^ 64 := by omega
    rw [if_pos small, if_neg Bool.false_ne_true, if_neg Bool.false_ne_true, ite_self]

namespace CNumber

/-- `x` is what a variable of the format holds once it is initialised with the constant. All
conversions round to the nearest number, and to the even one of two. -/
def Stores (format : RealFormat) (x : ℚ) : CNumber → Prop
  | .integer constant => ∃ i, constant.typed? = some i ∧ format.RoundsTo i x
  | .floating constant => ∃ y, RealFormat.binary64.RoundsTo constant.value y ∧ format.RoundsTo y x

/-- As near to `q` as a variable of the format comes by the constant: the nearest number of the
format, or, for floating constants, the nearest to the nearest `double`. -/
def Near (format : RealFormat) (q x : ℚ) : CNumber → Prop
  | .integer _ => format.Nearest q x
  | .floating _ => ∃ y, RealFormat.binary64.Nearest q y ∧ format.Nearest y x

/-- A variable of the format can be initialised with the constant, and then comes as near to `q` as
the conversions allow. A `double` is rounded once at most. -/
structure Initialises (constant : CNumber) (format : RealFormat) (q : ℚ) : Prop where
  stored : ∃ x, constant.Stores format x
  near : ∀ x, constant.Stores format x → constant.Near format q x
  nearest : format = .binary64 → ∀ x, constant.Stores format x → format.Nearest q x

theorem initialises_integer {constant : CInteger} {format : RealFormat} (proper : format.Proper)
    (wide : 64 < format.maxExponent - format.precision)
    (bounds : -2 ^ 63 < (constant.value : ℚ) ∧ (constant.value : ℚ) < 2 ^ 64) :
    (integer constant).Initialises format constant.value := by
  obtain ⟨low, high⟩ : -2 ^ 63 < constant.value ∧ constant.value < 2 ^ 64 := by
    exact_mod_cast bounds
  have typed := CInteger.typed?_of_lt low high
  have near : ∀ x, (integer constant).Stores format x → format.Nearest constant.value x := by
    rintro x ⟨i, known, rounds⟩
    obtain rfl := Option.some.inj (typed.symm.trans known)
    exact rounds.toNearest
  refine ⟨?_, near, fun _ => near⟩
  have short : |constant.value| ≤ 2 ^ 64 := by
    rw [abs_le]
    omega
  have bounded : |(constant.value : ℚ)| < 2 ^ (format.maxExponent - format.precision) := by
    calc |(constant.value : ℚ)| ≤ 2 ^ 64 := by exact_mod_cast short
      _ < 2 ^ (format.maxExponent - format.precision) := pow_lt_pow_right₀ (by norm_num) wide
  obtain ⟨x, rounds⟩ := RealFormat.exists_roundsTo proper
    (bounded.trans_le (RealFormat.two_pow_le_overflow (by omega)))
  exact ⟨x, constant.value, typed, rounds⟩

theorem initialises_double {constant : CFloating}
    (short : |constant.value| < RealFormat.binary64.overflow) :
    (floating constant).Initialises .binary64 constant.value := by
  obtain ⟨y, rounds⟩ := RealFormat.exists_roundsTo RealFormat.proper_binary64 short
  refine ⟨⟨y, y, rounds, rounds.represented.roundsTo_self⟩, ?_, fun _ => ?_⟩
  · rintro x ⟨z, first, second⟩
    exact ⟨z, first.toNearest, second.toNearest⟩
  · rintro x ⟨z, first, second⟩
    rw [second.eq_of_represents first.represented]
    exact first.toNearest

theorem initialises_float {constant : CFloating}
    (small : |constant.value| ≤ RealFormat.binary32.limit) :
    (floating constant).Initialises .binary32 constant.value := by
  have short : |constant.value| < RealFormat.binary64.overflow := by
    calc |constant.value| ≤ RealFormat.binary32.limit := small
      _ < 2 ^ 128 := by
        rw [RealFormat.limit_binary32]
        norm_num
      _ ≤ 2 ^ (RealFormat.binary64.maxExponent - RealFormat.binary64.precision) :=
        pow_le_pow_right₀ (by norm_num) (by decide)
      _ ≤ _ := RealFormat.two_pow_le_overflow (by decide)
  obtain ⟨y, first⟩ := RealFormat.exists_roundsTo RealFormat.proper_binary64 short
  obtain ⟨x, second⟩ := RealFormat.exists_roundsTo RealFormat.proper_binary32
    (RealFormat.abs_lt_overflow_binary32 small first.toNearest)
  refine ⟨⟨x, y, first, second⟩, ?_, fun same => ?_⟩
  · rintro x ⟨z, first, second⟩
    exact ⟨z, first.toNearest, second.toNearest⟩
  · cases same

/-- The constant of a number that the check of a real type admits initialises a variable of this
type, unless it is an integer constant for which C has no type or a minus sign wraps around. -/
theorem initialises_of_admits {type : FieldType} {format : RealFormat}
    (real : type.realFormat? = some format) {n : Json.Number}
    (admitted : format.admits (.ofNumber n) = true) {constant : CNumber}
    (same : constant.value = n.rational)
    (typed : ∀ i, constant = .integer i → -2 ^ 63 < n.rational ∧ n.rational < 2 ^ 64) :
    constant.Initialises format n.rational := by
  obtain float | double : format = .binary32 ∨ format = .binary64 := by
    cases type with
    | float => exact .inl (Option.some.inj real).symm
    | double => exact .inr (Option.some.inj real).symm
    | _ => cases real
  all_goals subst format
  · rw [RealFormat.admits_iff RealFormat.narrow_binary32] at admitted
    have small : |n.rational| ≤ RealFormat.binary32.limit := by
      rcases admitted with below | ⟨equal, -⟩
      · exact below.le
      · exact equal.le
    rw [← same] at small typed ⊢
    cases constant with
    | integer i => exact initialises_integer RealFormat.proper_binary32 (by decide) (typed i rfl)
    | floating f => exact initialises_float small
  · rw [RealFormat.admits_iff RealFormat.narrow_binary64] at admitted
    have short : |n.rational| < RealFormat.binary64.overflow := by
      rcases admitted with below | ⟨-, fewer⟩
      · exact below
      · exact absurd fewer (by decide)
    rw [← same] at short typed ⊢
    cases constant with
    | integer i => exact initialises_integer RealFormat.proper_binary64 (by decide) (typed i rfl)
    | floating f => exact initialises_double short

end CNumber

end Text

end AccessorGen
