/- What the check of each type accepts.
   The domains are told from the text of a value alone: the number that its digits denote, however
   many they are, or the bytes that it takes. A check answers as its domain says, for every value.
   The real types are not among them. -/

import AccessorGen.Proofs.FieldValue
import AccessorGen.Proofs.Text.Digits

set_option autoImplicit false
set_option relaxedAutoImplicit false

namespace AccessorGen

namespace Text

/-- The integer that decimal digits denote, with a minus sign in front if it is negative. -/
def decimalValue : List Char → Int
  | '-' :: digits => -(Nat.ofDigitChars 10 digits 0 : Int)
  | digits => Nat.ofDigitChars 10 digits 0

/-- The text marks a fraction or an exponent. -/
def MarksReal (cs : List Char) : Prop :=
  '.' ∈ cs ∨ 'e' ∈ cs ∨ 'E' ∈ cs

instance (cs : List Char) : Decidable (MarksReal cs) :=
  inferInstanceAs (Decidable (_ ∨ _))

namespace Digits

theorem not_mem_chars {c : Char} (other : ∀ digit : Fin 10, Nat.digitChar digit.val ≠ c)
    (digits : Digits) : c ∉ digits.chars := by
  intro member
  obtain ⟨digit, -, same⟩ := List.mem_map.mp member
  exact other digit same

theorem decimalValue_chars (digits : Digits) : decimalValue digits.chars = digits.value := by
  have unsigned : '-' ∉ digits.chars := not_mem_chars (by decide) digits
  rw [← ofDigitChars_chars digits]
  unfold decimalValue
  split
  · rename_i rest shape
    rw [shape] at unsigned
    exact absurd List.mem_cons_self unsigned
  · rfl

end Digits

end Text

namespace Json.Number

open Text (decimalValue MarksReal)

theorem marksReal_chars (n : Number) : MarksReal n.chars ↔ n.isIntegral = false := by
  have point : ∀ digits : Text.Digits, '.' ∉ digits.chars := Text.Digits.not_mem_chars (by decide)
  have small : ∀ digits : Text.Digits, 'e' ∉ digits.chars := Text.Digits.not_mem_chars (by decide)
  have large : ∀ digits : Text.Digits, 'E' ∉ digits.chars := Text.Digits.not_mem_chars (by decide)
  obtain ⟨negative, whole, fraction, exponent, filled⟩ := n
  cases fraction with
  | some digits => simp [MarksReal, chars, isIntegral]
  | none =>
    cases exponent with
    | none => cases negative <;> simp [MarksReal, chars, isIntegral, point, small, large]
    | some e =>
      obtain ⟨capital, sign, digits⟩ := e
      cases capital <;> simp [MarksReal, chars, isIntegral, Exponent.chars]

theorem decimalValue_chars {n : Number} {i : Int} (whole : n.int? = some i) :
    decimalValue n.chars = i := by
  obtain ⟨negative, digits, fraction, exponent, filled⟩ := n
  obtain ⟨integral, value⟩ := Option.ite_none_right_eq_some.mp whole
  obtain ⟨rfl, rfl⟩ : fraction = none ∧ exponent = none := by simpa [isIntegral] using integral
  cases negative with
  | true =>
    have signed : chars ⟨true, digits, none, none, filled⟩ = '-' :: digits.chars := by simp [chars]
    rw [signed, decimalValue, Text.Digits.ofDigitChars_chars]
    exact Option.some.inj value
  | false =>
    have unsigned : chars ⟨false, digits, none, none, filled⟩ = digits.chars := by simp [chars]
    rw [unsigned, Text.Digits.decimalValue_chars]
    exact Option.some.inj value

theorem int?_eq (n : Number) :
    n.int? =
      if MarksReal n.normal.spelling.toList then none
      else some (decimalValue n.normal.spelling.toList) := by
  have kept : n.normal.isIntegral = n.isIntegral := by simp [isIntegral, normal]
  have marked := n.normal.marksReal_chars
  rw [spelling, String.toList_ofList]
  cases whole : n.int? with
  | none =>
    have real : n.isIntegral = false := by simpa [int?] using whole
    rw [if_pos (marked.mpr (kept.trans real))]
  | some i =>
    have integral : n.isIntegral = true := (Option.ite_none_right_eq_some.mp whole).1
    have unmarked : ¬ MarksReal n.normal.chars := by
      rw [marked, kept, integral]
      decide
    rw [if_neg unmarked, normal_of_int? whole, decimalValue_chars whole]

end Json.Number

namespace FieldValue

/-- What a check for the integers from `low` up to, and without, `high` must answer: the value, or
the kind of its fault. -/
def integerVerdict (low high : Int) (literal : Option String) :
    Json.Value → Except FaultKind FieldValue
  | .number n =>
    let text := n.normal.spelling
    let i := Text.decimalValue text.toList
    if Text.MarksReal text.toList then .error .type
    else if low ≤ i ∧ i < high then .ok (.integer (literal.getD text))
    else .error .range
  | _ => .error .type

/-- What a check for texts must answer, where a text and its terminator fit the capacity if there is
one. -/
def textVerdict (capacity : Option Nat) : Json.Value → Except FaultKind FieldValue
  | .string s =>
    if ∀ bytes ∈ capacity, s.utf8ByteSize + 1 ≤ bytes then .ok (.text s) else .error .range
  | _ => .error .type

def booleanVerdict : Json.Value → Except FaultKind FieldValue
  | .bool b => .ok (.boolean b)
  | _ => .error .type

/-- That an integer is read in 128 bits first makes no difference. -/
private theorem checkInteger_verdict (key : String) {type : FieldType} {domain : IntDomain}
    (integer : type.intDomain? = some domain) (value : Json.Value) (literal : Option String) :
    (checkInteger key type domain value literal).mapError Fault.kind =
      integerVerdict domain.low domain.high literal value := by
  cases value with
  | number n =>
    rw [checkInteger, integerVerdict, Json.Number.int?_eq]
    dsimp only
    simp only [FieldType.holds_wide_and integer]
    by_cases real : Text.MarksReal n.normal.spelling.toList
    · rw [if_pos real, if_pos real]
      rfl
    · rw [if_neg real, if_neg real]
      have inside := domain.holds_iff (Text.decimalValue n.normal.spelling.toList)
      by_cases within : domain.holds (Text.decimalValue n.normal.spelling.toList)
      · rw [if_pos (inside.mp within)]
        dsimp only
        rw [if_pos within]
        rfl
      · rw [if_neg (mt inside.mpr within)]
        dsimp only
        rw [if_neg within]
        rfl
  | _ => rfl

private theorem checkString_fixed (key : String) (capacity : Nat) (value : Json.Value) :
    (checkString key (some (.fixed capacity)) value).mapError Fault.kind =
      textVerdict (some capacity) value := by
  cases value with
  | string s =>
    have fits : (∀ bytes ∈ some capacity, s.utf8ByteSize + 1 ≤ bytes) ↔
        s.utf8ByteSize + 1 ≤ capacity := by
      simp
    rw [checkString, textVerdict]
    by_cases room : s.utf8ByteSize + 1 ≤ capacity
    · rw [if_pos room, if_pos (fits.mpr room)]
      rfl
    · rw [if_neg room, if_neg (mt fits.mp room)]
      rfl
  | _ => rfl

private theorem checkString_open (key : String) {size : Option Size} (value : Json.Value)
    (unbounded : ∀ capacity, size ≠ some (.fixed capacity)) :
    (checkString key size value).mapError Fault.kind = textVerdict none value := by
  cases value with
  | string s =>
    rw [checkString, textVerdict, if_pos (by simp)]
    · rfl
    · exact unbounded
  | _ => rfl

/-- The check of a type that is not real answers as its domain says, for every value: integers by
the number that their text denotes, texts by their bytes. A literal replaces the text of an integer
that is accepted and changes nothing else. -/
theorem validate_classifies (key : String) (d : Descriptor) (value : Json.Value)
    (literal : Option String) :
    let answer := (validate key d value literal).mapError Fault.kind
    (∀ width, d.type = .signed width →
      answer = integerVerdict (-(Nat.pow 2 (width.bits - 1) : Int)) (Nat.pow 2 (width.bits - 1))
        literal value) ∧
    (∀ width, d.type = .unsigned width →
      answer = integerVerdict 0 (Nat.pow 2 width.bits) literal value) ∧
    (∀ capacity, d.type = .string → d.size = some (.fixed capacity) →
      answer = textVerdict (some capacity) value) ∧
    (d.type = .string → (∀ capacity, d.size ≠ some (.fixed capacity)) →
      answer = textVerdict none value) ∧
    (d.type = .cMacro → answer = textVerdict none value) ∧
    (d.type = .boolean → answer = booleanVerdict value) ∧
    (d.type = .config → answer = .error .config) := by
  refine ⟨?signed, ?unsigned, ?fixed, ?fitted, ?cMacro, ?boolean, ?config⟩
  case signed =>
    intro width type
    have integer := congrArg FieldType.intDomain? type
    rw [validate_integer integer, checkInteger_verdict key integer]
    rfl
  case unsigned =>
    intro width type
    have integer := congrArg FieldType.intDomain? type
    rw [validate_integer integer, checkInteger_verdict key integer]
    rfl
  case fixed =>
    intro capacity type size
    rw [validate, type]
    dsimp only
    rw [size]
    exact checkString_fixed key capacity value
  case fitted =>
    intro type unbounded
    rw [validate, type]
    exact checkString_open key value unbounded
  case cMacro =>
    intro type
    rw [validate, type]
    cases value <;> rfl
  case boolean =>
    intro type
    rw [validate, type]
    cases value <;> rfl
  case config =>
    intro type
    rw [validate, type]
    rfl

end FieldValue

end AccessorGen
