/- Reading numeric constants of C.
   The rules by which a C compiler reads a floating constant, and the exact value that it has. A
   number of JSON is a floating constant if it has a fraction or an exponent, and an integer
   constant otherwise, and in both cases its value stays the same. -/

import AccessorGen.Proofs.Decimal
import AccessorGen.Proofs.FieldDomains
import AccessorGen.Proofs.Text.CInteger

set_option autoImplicit false
set_option relaxedAutoImplicit false

namespace AccessorGen.Text

structure CFloating where
  negative : Bool
  /-- The number that the digits denote without the point. -/
  significand : Nat
  /-- The power of ten that it is scaled by. -/
  scale : Int
  deriving DecidableEq, Repr

namespace CFloating

def value (constant : CFloating) : ℚ :=
  let magnitude : ℚ := constant.significand * 10 ^ constant.scale
  if constant.negative then -magnitude else magnitude

def signedDigits? : List Char → Option Int
  | '+' :: rest => (Digits.ofChars? rest).map fun digits => (digits.value : Int)
  | '-' :: rest => (Digits.ofChars? rest).map fun digits => -(digits.value : Int)
  | cs => (Digits.ofChars? cs).map fun digits => (digits.value : Int)

/-- Reads the exponent of a constant. -/
def exponentPart? : List Char → Option Int
  | 'e' :: rest => signedDigits? rest
  | 'E' :: rest => signedDigits? rest
  | _ => none

/-- Reads a constant. Digits may be missing on one side of the point, and without a point there has
to be an exponent. -/
def unsigned? (negative : Bool) (cs : List Char) : Option CFloating :=
  let whole := cs.takeWhile Char.isDigit
  let rest := cs.dropWhile Char.isDigit
  if rest.head? = some '.' then
    let fraction := rest.tail.takeWhile Char.isDigit
    let tail := rest.tail.dropWhile Char.isDigit
    if whole = [] ∧ fraction = [] then none
    else
      (if tail = [] then some 0 else exponentPart? tail).map fun exponent =>
        ⟨negative, Nat.ofDigitChars 10 (whole ++ fraction) 0, exponent - fraction.length⟩
  else if whole = [] then none
  else (exponentPart? rest).map fun exponent => ⟨negative, Nat.ofDigitChars 10 whole 0, exponent⟩

def read? : List Char → Option CFloating
  | '-' :: rest => unsigned? true rest
  | cs => unsigned? false cs

example : read? "-.25E+2".toList = some ⟨true, 25, 0⟩ := by decide

example : read? "1.".toList = some ⟨false, 1, 0⟩ := by decide

example : read? "15".toList = none := by decide

end CFloating

namespace Digits

theorem takeWhile_chars_append (digits : Digits) {rest : List Char}
    (ended : ∀ c ∈ rest.head?, c.isDigit = false) :
    (digits.chars ++ rest).takeWhile Char.isDigit = digits.chars := by
  have none : rest.takeWhile Char.isDigit = [] := by
    cases rest with
    | nil => rfl
    | cons c rest => exact List.takeWhile_cons_of_neg (by simp [ended c rfl])
  rw [List.takeWhile_append_of_pos fun c member => isDigit_of_mem_chars member, none,
    List.append_nil]

theorem dropWhile_chars_append (digits : Digits) {rest : List Char}
    (ended : ∀ c ∈ rest.head?, c.isDigit = false) :
    (digits.chars ++ rest).dropWhile Char.isDigit = rest := by
  rw [List.dropWhile_append_of_pos fun c member => isDigit_of_mem_chars member]
  cases rest with
  | nil => rfl
  | cons c rest => exact List.dropWhile_cons_of_neg (by simp [ended c rfl])

end Digits

namespace CFloating

private theorem signedDigits?_chars {digits : Digits} (filled : digits ≠ []) :
    signedDigits? digits.chars = some (digits.value : Int) := by
  have plus : ∀ digit : Fin 10, Nat.digitChar digit.val ≠ '+' := by decide
  have minus : ∀ digit : Fin 10, Nat.digitChar digit.val ≠ '-' := by decide
  obtain ⟨digit, others, rfl⟩ := List.exists_cons_of_ne_nil filled
  unfold signedDigits?
  split
  · rename_i rest started
    exact absurd (List.cons.inj started).1 (plus digit)
  · rename_i rest started
    exact absurd (List.cons.inj started).1 (minus digit)
  · rw [Digits.ofChars?_chars filled, Option.map_some]

theorem exponentPart?_chars {e : Json.Exponent} (filled : e.digits ≠ []) :
    exponentPart? e.chars = some e.value := by
  have marked : exponentPart? e.chars =
      signedDigits? ((e.sign.map Json.Sign.char).toList ++ e.digits.chars) := by
    rw [Json.Exponent.chars]
    cases e.capital <;> rfl
  have read := Digits.ofChars?_chars filled
  rw [marked, Json.Exponent.value]
  cases e.sign with
  | none => exact signedDigits?_chars filled
  | some sign => cases sign <;> simp [Json.Sign.char, signedDigits?, read]

private theorem head?_exponent {e : Json.Exponent} : ∀ c ∈ e.chars.head?, c.isDigit = false := by
  rw [Json.Exponent.chars]
  cases e.capital <;> simp

private theorem head?_tail (exponent : Option Json.Exponent) :
    ∀ c ∈ (exponent.elim [] Json.Exponent.chars).head?, c.isDigit = false := by
  cases exponent with
  | none => simp
  | some e => exact head?_exponent

private theorem ofDigitChars_append (front back : Digits) :
    Nat.ofDigitChars 10 (front.chars ++ back.chars) 0 = Digits.value (front ++ back) := by
  have joined : front.chars ++ back.chars = Digits.chars (front ++ back) := List.map_append.symm
  rw [joined, Digits.ofDigitChars_chars]

theorem unsigned?_fraction (negative : Bool) (whole : Digits) {fraction : Digits}
    (filled : fraction ≠ []) {exponent : Option Json.Exponent}
    (scaled : ∀ e ∈ exponent, e.digits ≠ []) :
    unsigned? negative (whole.chars ++ '.' :: (fraction.chars ++
        exponent.elim [] Json.Exponent.chars)) =
      some ⟨negative, Digits.value (whole ++ fraction),
        (exponent.map Json.Exponent.value).getD 0 - fraction.length⟩ := by
  have point : ∀ c ∈ ('.' :: (fraction.chars ++ exponent.elim [] Json.Exponent.chars)).head?,
      c.isDigit = false := by
    simp
  have tail : (if exponent.elim [] Json.Exponent.chars = [] then some 0
      else exponentPart? (exponent.elim [] Json.Exponent.chars)) =
      some ((exponent.map Json.Exponent.value).getD 0) := by
    cases exponent with
    | none => rfl
    | some e =>
      have nonempty : e.chars ≠ [] := by simp [Json.Exponent.chars]
      rw [Option.elim_some, if_neg nonempty, exponentPart?_chars (scaled e rfl)]
      rfl
  have length : fraction.chars.length = fraction.length := List.length_map _
  unfold unsigned?
  rw [Digits.takeWhile_chars_append whole point, Digits.dropWhile_chars_append whole point]
  dsimp only
  rw [if_pos List.head?_cons, List.tail_cons,
    Digits.takeWhile_chars_append fraction (head?_tail exponent),
    Digits.dropWhile_chars_append fraction (head?_tail exponent),
    if_neg fun none => Digits.chars_ne_nil filled none.2, tail, Option.map_some,
    ofDigitChars_append, length]

theorem unsigned?_exponent (negative : Bool) {whole : Digits} (filled : whole ≠ [])
    {e : Json.Exponent} (scaled : e.digits ≠ []) :
    unsigned? negative (whole.chars ++ e.chars) = some ⟨negative, whole.value, e.value⟩ := by
  have mark : e.chars.head? ≠ some '.' := by
    rw [Json.Exponent.chars]
    cases e.capital <;> simp
  unfold unsigned?
  rw [Digits.takeWhile_chars_append whole head?_exponent,
    Digits.dropWhile_chars_append whole head?_exponent]
  dsimp only
  rw [if_neg mark, if_neg (Digits.chars_ne_nil filled), exponentPart?_chars scaled,
    Option.map_some, Digits.ofDigitChars_chars]

private theorem read?_signed (negative : Bool) {rest : List Char}
    (unsigned : rest.head? ≠ some '-') :
    read? ((if negative then ['-'] else []) ++ rest) = unsigned? negative rest := by
  cases negative with
  | true => rfl
  | false =>
    rw [if_neg (by decide), List.nil_append]
    unfold read?
    split
    · rename_i others
      exact absurd rfl unsigned
    · rfl

theorem read?_number {n : Json.Number} (real : n.isIntegral = false) :
    read? n.chars = some ⟨n.negative, Digits.value (n.whole ++ n.fraction.getD []),
      (n.exponent.map Json.Exponent.value).getD 0 - (n.fraction.getD []).length⟩ := by
  have lead : ∀ rest, (n.whole.chars ++ rest).head? ≠ some '-' := by
    intro rest
    obtain ⟨digit, others, shape⟩ := List.exists_cons_of_ne_nil n.filled.whole.filled
    rw [shape]
    simp [Digits.chars]
  rw [n.chars_eq, List.append_assoc, List.append_assoc, read?_signed n.negative (lead _)]
  cases fraction : n.fraction with
  | some digits =>
    exact unsigned?_fraction n.negative n.whole (n.filled.fraction digits fraction)
      n.filled.exponent
  | none =>
    cases exponent : n.exponent with
    | none => simp [Json.Number.isIntegral, fraction, exponent] at real
    | some e =>
      have read := unsigned?_exponent n.negative n.filled.whole.filled
        (n.filled.exponent e exponent)
      simpa using read

theorem value_number (n : Json.Number) :
    value ⟨n.negative, Digits.value (n.whole ++ n.fraction.getD []),
      (n.exponent.map Json.Exponent.value).getD 0 - (n.fraction.getD []).length⟩ =
      n.rational := by
  have magnitude : ((Digits.value (n.whole ++ n.fraction.getD []) : ℕ) : ℚ) *
      10 ^ ((n.exponent.map Json.Exponent.value).getD 0 - (n.fraction.getD []).length) =
      n.magnitude := by
    rw [Json.Number.magnitude, Digits.value_append, zpow_sub₀ (by norm_num), zpow_natCast]
    push_cast
    field_simp
  rw [value, Json.Number.rational]
  dsimp only
  rw [magnitude]

end CFloating

namespace CInteger

private theorem digits?_eq_none {radix : Radix} {cs : List Char} {c : Char} (member : c ∈ cs)
    (other : digit? radix c = none) : digits? radix cs = none := by
  by_contra present
  obtain ⟨digits, read⟩ := Option.ne_none_iff_exists'.mp present
  unfold digits? at read
  split at read
  · cases read
  · rw [mapM_eq_some_iff] at read
    obtain ⟨digit, -, found⟩ := exists_mem_of_forall₂ read.flip member
    rw [other] at found
    cases found

private theorem unsigned?_eq_none {negative : Bool} {cs : List Char} (marked : MarksReal cs)
    (plain : 'x' ∉ cs ∧ 'X' ∉ cs) : unsigned? negative cs = none := by
  obtain ⟨c, member, octal, decimal⟩ :
      ∃ c ∈ cs, digit? .octal c = none ∧ digit? .decimal c = none := by
    rcases marked with point | small | large
    · exact ⟨'.', point, by decide⟩
    · exact ⟨'e', small, by decide⟩
    · exact ⟨'E', large, by decide⟩
  unfold unsigned?
  split
  · rename_i rest
    have unmarked : ¬ (rest.head? = some 'x' ∨ rest.head? = some 'X') := by
      rintro (lower | upper)
      · exact plain.1 (List.mem_cons_of_mem _ (List.mem_of_head? lower))
      · exact plain.2 (List.mem_cons_of_mem _ (List.mem_of_head? upper))
    rw [if_neg unmarked, digits?_eq_none member octal, Option.map_none]
  · rw [digits?_eq_none member decimal, Option.map_none]

theorem read?_eq_none {cs : List Char} (marked : MarksReal cs) (plain : 'x' ∉ cs ∧ 'X' ∉ cs) :
    read? cs = none := by
  unfold read?
  split
  · rename_i rest
    refine unsigned?_eq_none ?_ ⟨fun inside => plain.1 (List.mem_cons_of_mem _ inside),
      fun inside => plain.2 (List.mem_cons_of_mem _ inside)⟩
    simpa [MarksReal] using marked
  · exact unsigned?_eq_none marked plain

end CInteger

end AccessorGen.Text

namespace AccessorGen

theorem Json.Number.not_mem_chars {c : Char} (digits : ∀ digit : Fin 10, digit.val.digitChar ≠ c)
    (others : c ∉ ['-', '+', '.', 'e', 'E']) (n : Json.Number) : c ∉ n.chars := by
  have plain : ∀ ds : Text.Digits, c ∉ ds.chars := Text.Digits.not_mem_chars digits
  have scaled : ∀ e : Json.Exponent, c ∉ e.chars := by
    rintro ⟨capital, sign, ds⟩
    simp only [List.mem_cons, List.not_mem_nil, or_false, not_or] at others
    cases capital <;> rcases sign with _ | _ | _ <;>
      simp [Json.Exponent.chars, Json.Sign.char, plain, others]
  simp only [List.mem_cons, List.not_mem_nil, or_false, not_or] at others
  obtain ⟨negative, whole, fraction, exponent, filled⟩ := n
  cases negative <;> cases fraction <;> cases exponent <;>
    simp [chars, plain, scaled, others]

namespace Text

inductive CNumber where
  | integer (constant : CInteger)
  | floating (constant : CFloating)
  deriving DecidableEq, Repr

namespace CNumber

/-- The exact value of a constant, before it is converted to any type. -/
def value : CNumber → ℚ
  | .integer constant => constant.value
  | .floating constant => constant.value

def read? (cs : List Char) : Option CNumber :=
  match CInteger.read? cs with
  | some constant => some (.integer constant)
  | none => (CFloating.read? cs).map .floating

/-- A constant as a text without marks of a base is read: a floating one if the text marks a
fraction or an exponent, and a decimal integer otherwise, where a lone zero counts as decimal. -/
def Follows (cs : List Char) : CNumber → Prop
  | .integer constant => ¬ MarksReal cs ∧ (constant.radix = .decimal ∨ constant.digits = [0])
  | .floating _ => MarksReal cs

theorem exists_read?_number (n : Json.Number) :
    ∃ constant, read? n.chars = some constant ∧ constant.Follows n.chars ∧
      constant.value = n.rational := by
  have marked := n.marksReal_chars
  cases whole : n.int? with
  | some i =>
    have integral : n.isIntegral = true := (Option.ite_none_right_eq_some.mp whole).1
    have read := CInteger.read?_number whole
    obtain ⟨constant, found, same, -⟩ := CInteger.spells_number whole
    obtain rfl := Option.some.inj (read.symm.trans found)
    refine ⟨.integer _, by rw [CNumber.read?, read], ⟨?_, ?_⟩, ?_⟩
    · rw [marked, integral]
      decide
    · dsimp only
      split
      · rename_i zero
        right
        rw [zero]
        rfl
      · exact .inl rfl
    · rw [value, same, Json.Number.rational_of_int? whole]
  | none =>
    have real : n.isIntegral = false := by simpa [Json.Number.int?] using whole
    have plain := CInteger.read?_eq_none (marked.mpr real)
      ⟨n.not_mem_chars (by decide) (by decide), n.not_mem_chars (by decide) (by decide)⟩
    refine ⟨.floating _, ?_, marked.mpr real, CFloating.value_number n⟩
    rw [CNumber.read?, plain, CFloating.read?_number real, Option.map_some]

end CNumber

end Text

end AccessorGen
