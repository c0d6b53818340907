/- What the checks of the real types accept.
   A number is rounded to binary64 before it is compared with the largest number of its type. In
   exact arithmetic this admits magnitudes up to a middle of two binary64 numbers: the one beyond
   the largest number of the type. Whether the middle itself is admitted depends on the type. -/

import AccessorGen.Proofs.FieldValue
import AccessorGen.Proofs.Rounding

set_option autoImplicit false
set_option relaxedAutoImplicit false

namespace AccessorGen

namespace RealFormat

variable {format : RealFormat}

/-- The middle between the largest number of the format and the next number of binary64. -/
def limit (format : RealFormat) : ℚ :=
  format.largest + 2 ^ ((format.maxExponent : ℤ) - binary64.precision)

/-- The numbers of a format are among those of binary64. -/
structure Narrow (format : RealFormat) : Prop extends format.Proper where
  precision : format.precision ≤ binary64.precision
  low : binary64.precision ≤ format.maxExponent
  high : format.maxExponent ≤ binary64.maxExponent

theorem narrow_binary32 : binary32.Narrow :=
  ⟨proper_binary32, by decide, by decide, by decide⟩

theorem narrow_binary64 : binary64.Narrow :=
  ⟨proper_binary64, by decide, by decide, by decide⟩

private theorem largest_eq_mul (narrow : format.Narrow) :
    format.largest * 2 ^ unitExponent =
      (2 ^ format.precision - 1) * 2 ^ (binary64.precision - format.precision) *
        2 ^ (format.maxExponent + 1 - binary64.precision + unitExponent) := by
  have precision := narrow.precision
  have low := narrow.low
  have product : format.largest =
      (2 ^ format.precision - 1) * 2 ^ (format.maxExponent + 1 - format.precision) :=
    rfl
  have exponent : binary64.precision - format.precision +
      (format.maxExponent + 1 - binary64.precision + unitExponent) =
      format.maxExponent + 1 - format.precision + unitExponent := by
    omega
  rw [product, mul_assoc, mul_assoc, ← pow_add, ← pow_add, exponent]

private theorem significand_even_iff (narrow : format.Narrow) :
    (2 ^ format.precision - 1) * 2 ^ (binary64.precision - format.precision) % 2 = 0 ↔
      format.precision < binary64.precision := by
  have wide := narrow.wide
  have precision := narrow.precision
  rcases precision.lt_or_eq with shorter | same
  · obtain ⟨k, bits⟩ : ∃ k, binary64.precision - format.precision = k + 1 :=
      ⟨binary64.precision - format.precision - 1, by omega⟩
    rw [bits, pow_succ, ← mul_assoc, Nat.mul_mod_left]
    simp [shorter]
  · rw [same, Nat.sub_self, pow_zero, mul_one]
    decide

private theorem limit_eq (narrow : format.Narrow) :
    (2 * ((2 ^ format.precision - 1) * 2 ^ (binary64.precision - format.precision) : Nat) + 1) *
        2 ^ (format.maxExponent + 1 - binary64.precision + unitExponent) /
        2 ^ (binary64.unit + 1) = format.limit := by
  have low := narrow.low
  have units : (format.largest : ℚ) * 2 ^ unitExponent =
      ((2 ^ format.precision - 1) * 2 ^ (binary64.precision - format.precision) : Nat) *
        2 ^ (format.maxExponent + 1 - binary64.precision + unitExponent) := by
    exact_mod_cast largest_eq_mul narrow
  have half : (2 : ℚ) ^ ((format.maxExponent : ℤ) - binary64.precision) =
      2 ^ (format.maxExponent + 1 - binary64.precision + unitExponent) /
        2 ^ (unitExponent + 1) := by
    have exponent : ((format.maxExponent + 1 - binary64.precision + unitExponent : Nat) : ℤ) -
        ((unitExponent + 1 : Nat) : ℤ) = (format.maxExponent : ℤ) - binary64.precision := by
      omega
    rw [← zpow_natCast, ← zpow_natCast, ← zpow_sub₀ (by norm_num), exponent]
  rw [← unitExponent_eq, limit, half, add_mul, mul_assoc, ← units, pow_succ]
  field_simp

/-- A fraction is rounded to binary64 within a format if it does not pass the middle behind its
largest number; the middle itself is within it if the format has fewer bits. -/
private theorem roundToUnits_le_iff (narrow : format.Narrow) {n d : Nat} (positive : 0 < d) :
    roundToUnits n d ≤ format.largest * Nat.pow 2 unitExponent ↔
      (n : ℚ) / d < format.limit ∨
        (n : ℚ) / d = format.limit ∧ format.precision < binary64.precision := by
  have wide := narrow.wide
  have precision := narrow.precision
  have bits : 2 ^ format.precision = 2 * 2 ^ (format.precision - 1) := by
    rw [← pow_succ', Nat.sub_add_cancel (by omega)]
  have some : 0 < 2 ^ (format.precision - 1) := by positivity
  have rest : 0 < 2 ^ (binary64.precision - format.precision) := by positivity
  have normal : 2 ^ (binary64.precision - 1) ≤
      (2 ^ format.precision - 1) * 2 ^ (binary64.precision - format.precision) := by
    calc 2 ^ (binary64.precision - 1)
        = 2 ^ (format.precision - 1) * 2 ^ (binary64.precision - format.precision) := by
          rw [← pow_add]
          congr 1
          omega
      _ ≤ _ := Nat.mul_le_mul_right _ (by omega)
  have short : (2 ^ format.precision - 1) * 2 ^ (binary64.precision - format.precision) <
      2 ^ binary64.precision := by
    calc _ < 2 ^ format.precision * 2 ^ (binary64.precision - format.precision) :=
          Nat.mul_lt_mul_of_pos_right (by omega) rest
      _ = 2 ^ binary64.precision := by rw [← pow_add, Nat.add_sub_cancel' precision]
  rw [roundToUnits_eq, Nat.pow_eq, largest_eq_mul narrow,
    roundUnits_le_iff_div proper_binary64 positive normal short, limit_eq narrow,
    significand_even_iff narrow]

private theorem one_lt_limit (narrow : format.Narrow) : 1 < format.limit := by
  have largest : 1 ≤ format.largest := by
    have wide := narrow.wide
    have bits : 1 < Nat.pow 2 format.precision := Nat.one_lt_two_pow (by omega)
    exact Nat.mul_pos (Nat.sub_pos_of_lt bits) (Nat.pow_pos (by decide))
  have whole : (1 : ℚ) ≤ format.largest := by exact_mod_cast largest
  have half : (0 : ℚ) < 2 ^ ((format.maxExponent : ℤ) - binary64.precision) := by positivity
  rw [limit]
  linarith

private theorem limit_lt (narrow : format.Narrow) : format.limit < 10 ^ maxPlaces := by
  have high := narrow.high
  have low := narrow.low
  have precision := narrow.precision
  have half : (2 : ℚ) ^ ((format.maxExponent : ℤ) - binary64.precision) <
      2 ^ (format.maxExponent + 1 - format.precision) := by
    rw [← zpow_natCast]
    exact zpow_lt_zpow_right₀ (by norm_num) (by omega)
  calc format.limit < 2 ^ (format.maxExponent + 1) := by
        rw [limit, largest_eq narrow.toProper]
        linarith
    _ ≤ 2 ^ (3 * maxPlaces) := by
        refine pow_le_pow_right₀ (by norm_num) ?_
        have most : binary64.maxExponent + 1 ≤ 3 * maxPlaces := by decide
        omega
    _ = 8 ^ maxPlaces := by
        rw [pow_mul]
        norm_num
    _ ≤ 10 ^ maxPlaces := pow_le_pow_left₀ (by norm_num) (by norm_num) _

/-- The check of a format compares the exact magnitude with its limit. -/
theorem admits_iff (narrow : format.Narrow) (n : Json.Number) :
    format.admits (.ofNumber n) = true ↔
      |n.rational| < format.limit ∨
        |n.rational| = format.limit ∧ format.precision < binary64.precision := by
  rw [n.abs_rational, ← Decimal.magnitude_ofNumber]
  unfold admits
  split_ifs with small large
  · have below : (Decimal.ofNumber n).magnitude < 1 := by
      rcases small with empty | few
      · rw [Decimal.magnitude_of_isEmpty empty]
        norm_num
      · exact (Decimal.magnitude_lt _).trans_le (zpow_le_one_of_nonpos₀ (by norm_num) few)
    simp [below.trans (one_lt_limit narrow)]
  · have above : format.limit < (Decimal.ofNumber n).magnitude := by
      obtain ⟨digit, rest, shape⟩ : ∃ digit rest, (Decimal.ofNumber n).digits = digit :: rest :=
        List.exists_cons_of_ne_nil fun none => small (.inl (List.isEmpty_iff.mpr none))
      calc format.limit < 10 ^ maxPlaces := limit_lt narrow
        _ = 10 ^ (maxPlaces : ℤ) := (zpow_natCast _ _).symm
        _ ≤ 10 ^ ((Decimal.ofNumber n).places - 1) :=
          zpow_le_zpow_right₀ (by norm_num) (by omega)
        _ ≤ (Decimal.ofNumber n).magnitude :=
          Decimal.le_magnitude shape (Decimal.nonzero_of_ofNumber shape)
    simp [above.le, above.ne']
  · rw [decide_eq_true_eq, roundToUnits_le_iff narrow (Decimal.denominator_pos _),
      ← Decimal.magnitude_eq_div]

theorem limit_binary64 : binary64.limit = 2 ^ 1024 - 2 ^ 970 := by
  have last : (2 : ℚ) ^ 971 = 2 * 2 ^ 970 := pow_succ' 2 970
  have half : (2 : ℚ) ^ ((binary64.maxExponent : ℤ) - binary64.precision) = 2 ^ 970 :=
    zpow_natCast 2 970
  have largest : (binary64.largest : ℚ) = 2 ^ 1024 - 2 ^ 971 := largest_eq proper_binary64
  rw [limit, half, largest, last, two_mul, ← sub_sub, sub_add_cancel]

theorem limit_binary32 : binary32.limit = 2 ^ 128 - 2 ^ 104 + 2 ^ 74 := by
  have half : (2 : ℚ) ^ ((binary32.maxExponent : ℤ) - binary64.precision) = 2 ^ 74 :=
    zpow_natCast 2 74
  have largest : (binary32.largest : ℚ) = 2 ^ 128 - 2 ^ 104 := largest_eq proper_binary32
  rw [limit, half, largest]

end RealFormat

namespace FieldValue

/-- What a check for the real numbers of a domain must answer: the value, or the kind of its
fault. -/
def realVerdict (domain : ℚ → Prop) [DecidablePred domain] (literal : Option String) :
    Json.Value → Except FaultKind FieldValue
  | .number n =>
    if domain n.rational then .ok (.real (literal.getD n.normal.spelling)) else .error .range
  | _ => .error .type

private theorem checkReal_verdict {format : RealFormat} {domain : ℚ → Prop}
    [DecidablePred domain] (exact : ∀ n : Json.Number,
      format.admits (.ofNumber n) = true ↔ domain n.rational)
    (key : String) (type : FieldType) (value : Json.Value) (literal : Option String) :
    (checkReal key type format value literal).mapError Fault.kind =
      realVerdict domain literal value := by
  cases value with
  | number n =>
    rw [checkReal, realVerdict]
    by_cases inside : domain n.rational
    · rw [if_pos inside, if_pos ((exact n).mpr inside)]
      rfl
    · rw [if_neg inside, if_neg (mt (exact n).mp inside)]
      rfl
  | _ => rfl

private theorem admits_double (n : Json.Number) :
    RealFormat.binary64.admits (.ofNumber n) = true ↔ |n.rational| < 2 ^ 1024 - 2 ^ 970 := by
  rw [RealFormat.admits_iff RealFormat.narrow_binary64, RealFormat.limit_binary64]
  simp

private theorem admits_float (n : Json.Number) :
    RealFormat.binary32.admits (.ofNumber n) = true ↔
      |n.rational| ≤ 2 ^ 128 - 2 ^ 104 + 2 ^ 74 := by
  have fewer : RealFormat.binary32.precision < RealFormat.binary64.precision := by decide
  rw [RealFormat.admits_iff RealFormat.narrow_binary32, RealFormat.limit_binary32, le_iff_lt_or_eq]
  simp [fewer]

private theorem validate_double {d : Descriptor} (type : d.type = .double) (key : String)
    (value : Json.Value) (literal : Option String) :
    (validate key d value literal).mapError Fault.kind =
      realVerdict (fun q => |q| < 2 ^ 1024 - 2 ^ 970) literal value := by
  rw [validate, type]
  exact checkReal_verdict admits_double key .double value literal

private theorem validate_float {d : Descriptor} (type : d.type = .float) (key : String)
    (value : Json.Value) (literal : Option String) :
    (validate key d value literal).mapError Fault.kind =
      realVerdict (fun q => |q| ≤ 2 ^ 128 - 2 ^ 104 + 2 ^ 74) literal value := by
  rw [validate, type]
  exact checkReal_verdict admits_float key .float value literal

private theorem isOk_of_verdict {answer : Except Fault FieldValue} {domain : ℚ → Prop}
    [DecidablePred domain] {literal : Option String} {n : Json.Number}
    (verdict : answer.mapError Fault.kind = realVerdict domain literal (.number n)) :
    answer.isOk = decide (domain n.rational) := by
  have kept : answer.isOk = (answer.mapError Fault.kind).isOk := by
    cases answer <;> rfl
  rw [kept, verdict, realVerdict]
  by_cases inside : domain n.rational
  · rw [if_pos inside, decide_eq_true inside]
    rfl
  · rw [if_neg inside, decide_eq_false inside]
    rfl

/-- The checks of the real types answer by the exact value of a number, however it is spelled. For
`double` the limit is the middle between the largest number and the overflow, and is refused itself.
For `float` it is the middle between the largest `float` and the next `double`, and is accepted. -/
theorem real_thresholds_exact (key : String) (d : Descriptor) (literal : Option String) :
    (d.type = .double → ∀ value : Json.Value,
      (validate key d value literal).mapError Fault.kind =
        realVerdict (fun q => |q| < 2 ^ 1024 - 2 ^ 970) literal value) ∧
    (d.type = .float → ∀ value : Json.Value,
      (validate key d value literal).mapError Fault.kind =
        realVerdict (fun q => |q| ≤ 2 ^ 128 - 2 ^ 104 + 2 ^ 74) literal value) ∧
    (d.type.realFormat?.isSome = true → ∀ (n m : Json.Number) (other : Option String),
      n.rational = m.rational →
        (validate key d (.number n) literal).isOk = (validate key d (.number m) other).isOk) := by
  refine ⟨?double, ?float, ?spelling⟩
  case double =>
    intro type value
    exact validate_double type key value literal
  case float =>
    intro type value
    exact validate_float type key value literal
  case spelling =>
    intro real n m other same
    cases type : d.type with
    | double =>
      rw [isOk_of_verdict (validate_double type key (.number n) literal),
        isOk_of_verdict (validate_double type key (.number m) other), same]
    | float =>
      rw [isOk_of_verdict (validate_float type key (.number n) literal),
        isOk_of_verdict (validate_float type key (.number m) other), same]
    | _ =>
      rw [type] at real
      cases real

/-- The middle behind the largest `float`, with a point, an exponent and a zero at its end. -/
private def scaledMiddle : Json.Number :=
  ⟨false, .ofNat 3, some (.ofNat 402823466385288787011701149630977802240),
    some ⟨true, some .plus, .ofNat 38⟩, by decide +kernel⟩

private theorem rational_scaledMiddle : scaledMiddle.rational = 2 ^ 128 - 2 ^ 104 + 2 ^ 74 := by
  have length : (Text.Digits.ofNat 402823466385288787011701149630977802240).length = 39 := by
    decide +kernel
  have exponent : Json.Exponent.value ⟨true, some .plus, .ofNat 38⟩ = 38 := by decide +kernel
  norm_num [Json.Number.rational, Json.Number.magnitude, scaledMiddle, Text.Digits.value_ofNat,
    length, exponent]

/-- The middle is accepted in both spellings, and the next integer is refused. -/
theorem real_thresholds_exact_at_middle :
    let d : Descriptor := ⟨.float, none, .readOnly, "Gain", none⟩
    let middle : Int := 340282346638528878701170114963097780224
    (validate "float:Gain" d (.number scaledMiddle) none).isOk = true ∧
      (validate "float:Gain" d (.number (.ofInt middle)) none).isOk = true ∧
      (validate "float:Gain" d (.number (.ofInt (middle + 1))) none).mapError Fault.kind =
        .error .range := by
  intro d middle
  obtain ⟨-, float, spelling⟩ := real_thresholds_exact "float:Gain" d none
  have integer (i : Int) : (Json.Number.ofInt i).rational = i :=
    Json.Number.rational_of_int? (Json.Number.int?_ofInt i)
  have scaled : (validate "float:Gain" d (.number scaledMiddle) none).isOk = true := by
    rw [isOk_of_verdict (float rfl (.number scaledMiddle)), rational_scaledMiddle]
    norm_num
  have same : (Json.Number.ofInt middle).rational = scaledMiddle.rational := by
    rw [integer, rational_scaledMiddle]
    norm_num [middle]
  refine ⟨scaled, ?_, ?_⟩
  · rw [spelling rfl _ scaledMiddle none same, scaled]
  · rw [float rfl, realVerdict, integer, if_neg]
    norm_num [middle]

end FieldValue

end AccessorGen
