/- Digit sequences and the texts that they are written as.
   Reading a text of digits and writing it again gives the same text, and the digits of a natural
   number denote that number. -/

import AccessorGen.Proofs.Readings
import AccessorGen.Text.Digits

set_option autoImplicit false
set_option relaxedAutoImplicit false

namespace AccessorGen.Text

theorem digitChar_of_digit? {c : Char} {digit : Fin 10} (h : digit? c = some digit) :
    Nat.digitChar digit.val = c := by
  unfold digit? at h
  split at h
  · rename_i bounds
    obtain rfl := Option.some.inj h
    have zero : '0'.toNat = 48 := rfl
    have nine : '9'.toNat = 57 := rfl
    rw [← Char.toNat_inj, Nat.toNat_digitChar_of_lt_ten (by simp only; omega)]
    simp only
    omega
  · cases h

theorem digit?_val_of_isDigit {c : Char} (h : c.isDigit = true) :
    ((digit? c).getD 0).val = c.toNat - '0'.toNat := by
  have bounds : '0'.toNat ≤ c.toNat ∧ c.toNat ≤ '9'.toNat := by
    simpa [Char.isDigit, UInt32.le_iff_toNat_le] using h
  rw [digit?, dif_pos bounds]
  rfl

namespace Digits

theorem chars_of_mapM {cs : List Char} {digits : Digits} (h : cs.mapM digit? = some digits) :
    digits.chars = cs := by
  induction cs generalizing digits with
  | nil =>
    obtain rfl : [] = digits := by simpa using h
    rfl
  | cons c cs ih =>
    simp only [List.mapM_cons, Option.bind_eq_bind, Option.bind_eq_some_iff, Option.pure_def,
      Option.some.injEq] at h
    obtain ⟨digit, first, rest, others, rfl⟩ := h
    have tail := ih others
    simp only [chars, List.map_cons] at tail ⊢
    rw [tail, digitChar_of_digit? first]

theorem chars_of_ofChars? {cs : List Char} {digits : Digits} (h : ofChars? cs = some digits) :
    digits.chars = cs := by
  unfold ofChars? at h
  split at h
  · cases h
  · exact chars_of_mapM h

private theorem foldl_ofDigits {cs : List Char} (h : ∀ c ∈ cs, c.isDigit = true) (start : Nat) :
    (cs.map fun c => (digit? c).getD 0).foldl (fun n digit => 10 * n + digit.val) start =
      Nat.ofDigitChars 10 cs start := by
  induction cs generalizing start with
  | nil => rfl
  | cons c cs ih =>
    have rest : ∀ d ∈ cs, d.isDigit = true := fun d member => h d (List.mem_cons_of_mem c member)
    rw [List.map_cons, List.foldl_cons, digit?_val_of_isDigit (h c List.mem_cons_self), ih rest]
    rfl

theorem value_ofNat (n : Nat) : (ofNat n).value = n := by
  have digits : ∀ c ∈ Nat.toDigits 10 n, c.isDigit = true := fun c member =>
    Nat.isDigit_of_mem_toDigits (by decide) (by decide) member
  rw [value, ofNat, foldl_ofDigits digits, Nat.ofDigitChars_ten_toDigits]

private theorem chars_map_digit? {cs : List Char} (h : ∀ c ∈ cs, c.isDigit = true) :
    chars (cs.map fun c => (digit? c).getD 0) = cs := by
  rw [chars, List.map_map]
  conv_rhs => rw [← List.map_id cs]
  apply List.map_congr_left
  intro c member
  have code : ((digit? c).getD 0).val = c.toNat - '0'.toNat := digit?_val_of_isDigit (h c member)
  have low : 48 ≤ c.toNat := Char.isDigit_iff_toNat.mp (h c member) |>.1
  have zero : '0'.toNat = 48 := rfl
  rw [← Char.toNat_inj, Function.comp_apply,
    Nat.toNat_digitChar_of_lt_ten ((digit? c).getD 0).isLt, code, id_eq]
  omega

theorem chars_ofNat (n : Nat) : (ofNat n).chars = (toString n).toList := by
  have written : (toString n).toList = Nat.toDigits 10 n := Nat.toList_repr
  rw [written, ofNat]
  exact chars_map_digit? fun c member =>
    Nat.isDigit_of_mem_toDigits (by decide) (by decide) member

theorem isDigit_of_mem_chars {digits : Digits} {c : Char} (member : c ∈ digits.chars) :
    c.isDigit = true := by
  have every : ∀ digit : Fin 10, (Nat.digitChar digit.val).isDigit = true := by decide
  obtain ⟨digit, -, rfl⟩ := List.mem_map.mp member
  exact every digit

theorem chars_ne_nil {digits : Digits} (filled : digits ≠ []) : digits.chars ≠ [] :=
  fun none => filled (List.map_eq_nil_iff.mp none)

theorem ofChars?_chars {digits : Digits} (filled : digits ≠ []) :
    ofChars? digits.chars = some digits := by
  have nonempty : digits.chars.isEmpty = false := by
    simpa using chars_ne_nil filled
  rw [ofChars?, nonempty, if_neg (by decide), mapM_eq_some_iff, chars, List.forall₂_map_left_iff,
    List.forall₂_same]
  exact fun digit _ => digit?_digitChar digit

private theorem ofDigitChars_chars_from (digits : Digits) (start : Nat) :
    Nat.ofDigitChars 10 digits.chars start =
      digits.foldl (fun n digit => 10 * n + digit.val) start := by
  induction digits generalizing start with
  | nil => rfl
  | cons digit rest ih =>
    have first : (Nat.digitChar digit.val).toNat - '0'.toNat = digit.val := by
      rw [Nat.toNat_digitChar_of_lt_ten digit.isLt]
      exact Nat.add_sub_cancel_left 48 digit.val
    have tail := ih (10 * start + ((Nat.digitChar digit.val).toNat - '0'.toNat))
    rw [first] at tail
    rw [List.foldl_cons, ← tail, ← first]
    rfl

theorem ofDigitChars_chars (digits : Digits) : Nat.ofDigitChars 10 digits.chars 0 = digits.value :=
  ofDigitChars_chars_from digits 0

theorem value_of_ofChars? {cs : List Char} {digits : Digits} (h : ofChars? cs = some digits) :
    digits.value = Nat.ofDigitChars 10 cs 0 := by
  rw [← ofDigitChars_chars, chars_of_ofChars? h]

theorem ofChars?_eq_none_iff {cs : List Char} (filled : cs ≠ []) :
    ofChars? cs = none ↔ ∃ c ∈ cs, c.isDigit = false := by
  constructor
  · intro unread
    by_contra every
    have digits : ∀ c ∈ cs, c.isDigit = true := by
      intro c member
      by_contra other
      exact every ⟨c, member, Bool.not_eq_true _ ▸ other⟩
    have read : ofChars? (chars (cs.map fun c => (digit? c).getD 0)) = some _ :=
      ofChars?_chars (by simpa using filled)
    rw [chars_map_digit? digits, unread] at read
    cases read
  · rintro ⟨c, member, other⟩
    by_contra present
    obtain ⟨digits, read⟩ := Option.ne_none_iff_exists'.mp present
    rw [← chars_of_ofChars? read] at member
    rw [isDigit_of_mem_chars member] at other
    cases other

theorem value_replicate_append (zeros : Nat) (digits : Digits) :
    value (List.replicate zeros 0 ++ digits) = digits.value := by
  induction zeros with
  | zero => rfl
  | succ zeros ih => exact ih

end Digits

end AccessorGen.Text
