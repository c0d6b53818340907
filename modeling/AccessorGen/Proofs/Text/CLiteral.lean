/- Reading C string literals.
   The rules by which a C compiler reads the text between the quotes of a string literal, and the
   fact that they give back every encoded string byte by byte, whatever its neighbours are. -/

import AccessorGen.Text.CLiteral
import Mathlib.Data.List.Basic

set_option autoImplicit false
set_option relaxedAutoImplicit false

namespace AccessorGen.Text.CLiteral

def isOctal (c : Char) : Bool :=
  '0' ≤ c && c ≤ '7'

def octalValue (digits : List Char) : Nat :=
  digits.foldl (fun n digit => 8 * n + (digit.toNat - '0'.toNat)) 0

def simpleEscape? (c : Char) : Option UInt8 :=
  if c = '\\' ∨ c = '"' ∨ c = '\x27' ∨ c = '?' then some c.toUInt8
  else if c = 'a' then some 7
  else if c = 'b' then some 8
  else if c = 't' then some 9
  else if c = 'n' then some 10
  else if c = 'v' then some 11
  else if c = 'f' then some 12
  else if c = 'r' then some 13
  else none

/-- The bytes of the text between the quotes of a string literal, in a compiler that reads and
stores UTF-8. An octal escape takes as many octal digits as follow, up to three. A quote or a line
break that is not escaped has no reading. -/
def decode (body : List Char) : Option (List UInt8) :=
  match body with
  | [] => some []
  | c :: rest =>
    if c = '"' ∨ c = '\n' then none
    else if c = '\\' then
      let digits := (rest.take 3).takeWhile isOctal
      if digits.isEmpty then
        match rest with
        | [] => none
        | letter :: rest => (simpleEscape? letter).bind fun byte => (decode rest).map (byte :: ·)
      else if octalValue digits < 256 then
        (decode (rest.drop digits.length)).map (UInt8.ofNat (octalValue digits) :: ·)
      else none
    else (decode rest).map (String.utf8EncodeChar c ++ ·)
termination_by body.length
decreasing_by all_goals (simp only [List.length_cons, List.length_drop]; omega)

/-- Whether a quote stands in a text that no backslash escapes. -/
def hasBareQuote : List Char → Bool
  | [] => false
  | '\\' :: _ :: rest => hasBareQuote rest
  | c :: rest => c == '"' || hasBareQuote rest

private theorem decode_plain {c : Char} (quote : c ≠ '"') (newline : c ≠ '\n')
    (backslash : c ≠ '\\') (rest : List Char) :
    decode (c :: rest) = (decode rest).map (String.utf8EncodeChar c ++ ·) := by
  rw [decode.eq_def]
  simp [quote, newline, backslash]

private theorem decode_simple {letter : Char} {byte : UInt8} (plain : isOctal letter = false)
    (known : simpleEscape? letter = some byte) (rest : List Char) :
    decode ('\\' :: letter :: rest) = (decode rest).map (byte :: ·) := by
  rw [decode.eq_def]
  simp [plain, known]

private theorem decode_octal {a b c : Char} (octal : isOctal a ∧ isOctal b ∧ isOctal c)
    (small : octalValue [a, b, c] < 256) (rest : List Char) :
    decode ('\\' :: a :: b :: c :: rest) =
      (decode rest).map (UInt8.ofNat (octalValue [a, b, c]) :: ·) := by
  rw [decode.eq_def]
  simp [octal, small]

private theorem fixedDigits_three (n : Nat) :
    fixedDigits 8 3 n =
      [Nat.digitChar (n / 8 / 8 % 8), Nat.digitChar (n / 8 % 8), Nat.digitChar (n % 8)] :=
  rfl

private theorem digitChar_octal {d : Nat} (small : d < 8) :
    isOctal (Nat.digitChar d) ∧ (Nat.digitChar d).toNat - '0'.toNat = d ∧
      Nat.digitChar d ≠ '"' ∧ Nat.digitChar d ≠ '\\' ∧ Nat.digitChar d ≠ '\n' ∧
      Nat.digitChar d ≠ '\r' := by
  have all : ∀ d < 8, isOctal (Nat.digitChar d) ∧ (Nat.digitChar d).toNat - '0'.toNat = d ∧
      Nat.digitChar d ≠ '"' ∧ Nat.digitChar d ≠ '\\' ∧ Nat.digitChar d ≠ '\n' ∧
      Nat.digitChar d ≠ '\r' := by
    decide
  exact all d small

private theorem octalValue_fixedDigits {n : Nat} (small : n < 512) :
    octalValue (fixedDigits 8 3 n) = n := by
  have high := (digitChar_octal (Nat.mod_lt (n / 8 / 8) (by decide : 0 < 8))).2.1
  have middle := (digitChar_octal (Nat.mod_lt (n / 8) (by decide : 0 < 8))).2.1
  have low := (digitChar_octal (Nat.mod_lt n (by decide : 0 < 8))).2.1
  simp only [fixedDigits_three, octalValue, List.foldl_cons, List.foldl_nil, high, middle, low]
  omega

private theorem utf8EncodeChar_ascii {c : Char} (ascii : c.toNat < 128) :
    String.utf8EncodeChar c = [UInt8.ofNat c.toNat] := by
  have single : c.utf8Size = 1 := by
    rw [Char.utf8Size_eq_one_iff, UInt32.le_iff_toNat_le]
    exact Nat.le_of_lt_succ ascii
  rw [String.utf8EncodeChar_eq_singleton single]
  rfl

/-- Reading an encoded character gives its bytes, whatever follows. -/
theorem decode_encodeChar_append (c : Char) (rest : List Char) :
    decode (encodeChar c ++ rest) = (decode rest).map (String.utf8EncodeChar c ++ ·) := by
  unfold encodeChar
  split_ifs with backslash quote newline carriage tab control
  · subst backslash
    exact decode_simple rfl rfl rest
  · subst quote
    exact decode_simple rfl rfl rest
  · subst newline
    exact decode_simple rfl rfl rest
  · subst carriage
    exact decode_simple rfl rfl rest
  · subst tab
    exact decode_simple rfl rfl rest
  · -- All three digits are taken, so that digits at the front of `rest` stay outside.
    have ascii : c.toNat < 128 := by omega
    have value := @octalValue_fixedDigits c.toNat (by omega)
    have high := (digitChar_octal (Nat.mod_lt (c.toNat / 8 / 8) (by decide : 0 < 8))).1
    have middle := (digitChar_octal (Nat.mod_lt (c.toNat / 8) (by decide : 0 < 8))).1
    have low := (digitChar_octal (Nat.mod_lt c.toNat (by decide : 0 < 8))).1
    rw [fixedDigits_three] at value ⊢
    rw [utf8EncodeChar_ascii ascii]
    have step := decode_octal ⟨high, middle, low⟩ (by omega) rest
    rw [value] at step
    exact step
  · exact decode_plain quote newline backslash rest

private theorem toList_toUTF8 (s : String) :
    s.toUTF8.data.toList = s.toList.flatMap String.utf8EncodeChar := by
  have encoded : s.toByteArray = (s.toList.flatMap String.utf8EncodeChar).toByteArray := by
    have list := @String.toByteArray_ofList s.toList
    rwa [String.ofList_toList] at list
  rw [String.toUTF8_eq_toByteArray, encoded, List.toList_data_toByteArray]

theorem decode_encode (s : String) : decode (encode s).toList = some s.toUTF8.data.toList := by
  have read : ∀ cs : List Char,
      decode (cs.flatMap encodeChar) = some (cs.flatMap String.utf8EncodeChar) := by
    intro cs
    induction cs with
    | nil => rw [List.flatMap_nil, decode.eq_def, List.flatMap_nil]
    | cons c cs ih =>
      rw [List.flatMap_cons, List.flatMap_cons, decode_encodeChar_append, ih, Option.map_some]
  rw [encode, String.toList_ofList, read, toList_toUTF8]

private theorem hasBareQuote_cons {c : Char} (quote : c ≠ '"') (backslash : c ≠ '\\')
    (rest : List Char) : hasBareQuote (c :: rest) = hasBareQuote rest := by
  simp [hasBareQuote, quote, backslash]

private theorem hasBareQuote_encodeChar_append (c : Char) (rest : List Char) :
    hasBareQuote (encodeChar c ++ rest) = hasBareQuote rest := by
  unfold encodeChar
  split_ifs with backslash quote newline carriage tab control
  · rfl
  · rfl
  · rfl
  · rfl
  · rfl
  · -- The backslash takes the first digit with it.
    have middle := (digitChar_octal (Nat.mod_lt (c.toNat / 8) (by decide : 0 < 8))).2.2
    have low := (digitChar_octal (Nat.mod_lt c.toNat (by decide : 0 < 8))).2.2
    rw [fixedDigits_three]
    change hasBareQuote (Nat.digitChar (c.toNat / 8 % 8) :: Nat.digitChar (c.toNat % 8) :: rest) =
      hasBareQuote rest
    rw [hasBareQuote_cons middle.1 middle.2.1, hasBareQuote_cons low.1 low.2.1]
  · exact hasBareQuote_cons quote backslash rest

theorem hasBareQuote_encode (s : String) : hasBareQuote (encode s).toList = false := by
  rw [encode, String.toList_ofList]
  induction s.toList with
  | nil => rfl
  | cons c cs ih => rw [List.flatMap_cons, hasBareQuote_encodeChar_append, ih]

private theorem ne_of_mem_encodeChar {c d : Char} (member : d ∈ encodeChar c) :
    d ≠ '\n' ∧ d ≠ '\r' := by
  unfold encodeChar at member
  have escape : ∀ letter : Char, letter ≠ '\n' ∧ letter ≠ '\r' → d ∈ ['\\', letter] →
      d ≠ '\n' ∧ d ≠ '\r' := by
    intro letter plain inside
    simp only [List.mem_cons, List.not_mem_nil, or_false] at inside
    rcases inside with rfl | rfl
    · decide
    · exact plain
  split_ifs at member with backslash quote newline carriage tab control
  · exact escape _ (by decide) member
  · exact escape _ (by decide) member
  · exact escape _ (by decide) member
  · exact escape _ (by decide) member
  · exact escape _ (by decide) member
  · have digit : ∀ n, Nat.digitChar (n % 8) ≠ '\n' ∧ Nat.digitChar (n % 8) ≠ '\r' := fun n =>
      (digitChar_octal (Nat.mod_lt n (by decide))).2.2.2.2
    simp only [fixedDigits_three, List.mem_cons, List.not_mem_nil, or_false] at member
    rcases member with rfl | rfl | rfl | rfl
    · decide
    · exact digit _
    · exact digit _
    · exact digit _
  · obtain rfl := List.mem_singleton.mp member
    exact ⟨newline, carriage⟩

theorem ne_of_mem_encode {s : String} {c : Char} (member : c ∈ (encode s).toList) :
    c ≠ '\n' ∧ c ≠ '\r' := by
  rw [encode, String.toList_ofList, List.mem_flatMap] at member
  obtain ⟨source, -, member⟩ := member
  exact ne_of_mem_encodeChar member

end AccessorGen.Text.CLiteral
