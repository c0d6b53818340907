/- Reading integer constants of C.
   The rules by which a C compiler reads an integer constant, and the texts that they give the
   expected integer for: whole numbers of JSON, and hexadecimal numerals of a fixed width. -/

import AccessorGen.Proofs.Json.Lexeme
import AccessorGen.Proofs.Readings
import AccessorGen.Version

set_option autoImplicit false
set_option relaxedAutoImplicit false

namespace AccessorGen.Text

inductive Radix where
  | octal
  | decimal
  | hexadecimal
  deriving DecidableEq, Repr

def Radix.base : Radix → Nat
  | .octal => 8
  | .decimal => 10
  | .hexadecimal => 16

/-- An integer constant, and whether a minus sign stands before it. -/
structure CInteger where
  negative : Bool
  radix : Radix
  /-- The values of the digits, most significant first. -/
  digits : List Nat
  deriving DecidableEq, Repr

namespace CInteger

def ofDigits (base : Nat) (digits : List Nat) : Nat :=
  digits.foldl (fun n digit => base * n + digit) 0

def value (constant : CInteger) : Int :=
  let magnitude := ofDigits constant.radix.base constant.digits
  if constant.negative then -(magnitude : Int) else magnitude

/-- The digit that a character stands for. Letters count in either case. -/
def digit? (radix : Radix) (c : Char) : Option Nat :=
  (List.range radix.base).find? fun digit => c = digit.digitChar || c = digit.digitChar.toUpper

/-- The digits of a text that holds digits of a radix only, and at least one. -/
def digits? (radix : Radix) (cs : List Char) : Option (List Nat) :=
  if cs.isEmpty then none else cs.mapM (digit? radix)

/-- Reads a constant. One that starts with zero is hexadecimal where an `x` follows, and octal
otherwise, also if zero is all of it. -/
def unsigned? (negative : Bool) : List Char → Option CInteger
  | '0' :: rest =>
    if rest.head? = some 'x' ∨ rest.head? = some 'X' then
      (digits? .hexadecimal rest.tail).map (CInteger.mk negative .hexadecimal)
    else (digits? .octal ('0' :: rest)).map (CInteger.mk negative .octal)
  | cs => (digits? .decimal cs).map (CInteger.mk negative .decimal)

def read? : List Char → Option CInteger
  | '-' :: rest => unsigned? true rest
  | cs => unsigned? false cs

/-- C reads the text as a constant of this value, and takes none but a lone zero as octal. -/
def Spells (cs : List Char) (n : Int) : Prop :=
  ∃ constant, read? cs = some constant ∧ constant.value = n ∧
    (constant.radix = .octal → constant.digits = [0])

example : (read? "-0x1F".toList).map value = some (-31) := by decide

example : (read? "017".toList).map value = some 15 := by decide

theorem digit?_digitChar {radix : Radix} {digit : Nat} (small : digit < radix.base) :
    digit? radix digit.digitChar = some digit ∧
      digit? radix digit.digitChar.toUpper = some digit := by
  have every : ∀ radix : Radix, ∀ digit ∈ List.range radix.base,
      digit? radix digit.digitChar = some digit ∧
        digit? radix digit.digitChar.toUpper = some digit := by
    rintro (_ | _ | _) <;> decide
  exact every radix digit (List.mem_range.mpr small)

theorem digits?_map {radix : Radix} {write : Nat → Char} {digits : List Nat} (filled : digits ≠ [])
    (readable : ∀ digit ∈ digits, digit? radix (write digit) = some digit) :
    digits? radix (digits.map write) = some digits := by
  have nonempty : (digits.map write).isEmpty = false := by
    simpa using filled
  rw [digits?, nonempty, if_neg (by decide), mapM_eq_some_iff, List.forall₂_map_left_iff,
    List.forall₂_same]
  exact readable

private theorem newline_not_mem_of_digits? {radix : Radix} {cs : List Char} {digits : List Nat}
    (read : digits? radix cs = some digits) : '\n' ∉ cs := by
  intro member
  have unread : digit? radix '\n' = none := by
    cases radix <;> decide
  unfold digits? at read
  split at read
  · cases read
  · rw [mapM_eq_some_iff] at read
    obtain ⟨digit, -, found⟩ := exists_mem_of_forall₂ read.flip member
    rw [unread] at found
    cases found

private theorem newline_not_mem_of_unsigned? {negative : Bool} {cs : List Char}
    {constant : CInteger} (read : unsigned? negative cs = some constant) : '\n' ∉ cs := by
  unfold unsigned? at read
  split at read
  · rename_i rest
    split at read
    · rename_i marked
      obtain ⟨digits, found, -⟩ := Option.map_eq_some_iff.mp read
      have plain := newline_not_mem_of_digits? found
      cases rest with
      | nil => simp at marked
      | cons mark rest =>
        have letter : mark ≠ '\n' := by
          rintro rfl
          simp at marked
        simp only [List.mem_cons, not_or]
        exact ⟨by decide, letter.symm, plain⟩
    · obtain ⟨digits, found, -⟩ := Option.map_eq_some_iff.mp read
      exact newline_not_mem_of_digits? found
  · obtain ⟨digits, found, -⟩ := Option.map_eq_some_iff.mp read
    exact newline_not_mem_of_digits? found

theorem Spells.newline_not_mem {cs : List Char} {n : Int} (spells : Spells cs n) : '\n' ∉ cs := by
  obtain ⟨constant, read, -⟩ := spells
  unfold read? at read
  split at read
  · simp only [List.mem_cons, not_or]
    exact ⟨by decide, newline_not_mem_of_unsigned? read⟩
  · exact newline_not_mem_of_unsigned? read

theorem Spells.not_brace {cs : List Char} {n : Int} (spells : Spells cs n) : ¬ ['\x7b'] <+: cs := by
  rintro ⟨rest, rfl⟩
  obtain ⟨constant, read, -⟩ := spells
  have unread : digit? .decimal '\x7b' = none := by decide
  simp [read?, unsigned?, digits?, unread] at read

/-- Zero alone is octal, and any other whole number without zeros in front is decimal. -/
theorem unsigned?_chars {whole : Digits} (canonical : whole.Canonical) (negative : Bool) :
    unsigned? negative whole.chars =
      some ⟨negative, if whole = [0] then .octal else .decimal, whole.map (·.val)⟩ := by
  by_cases zero : whole = [0]
  · subst zero
    cases negative <;> decide
  · have read : digits? .decimal whole.chars = some (whole.map (·.val)) := by
      have shape : whole.chars = (whole.map (·.val)).map Nat.digitChar := by
        rw [Digits.chars, List.map_map]
        rfl
      rw [shape]
      apply digits?_map
      · simpa using canonical.filled
      · intro digit member
        obtain ⟨own, -, rfl⟩ := List.mem_map.mp member
        exact (digit?_digitChar own.isLt).1
    have zeroDigit : ∀ digit : Fin 10, Nat.digitChar digit.val = '0' → digit = 0 := by
      decide
    rw [if_neg zero]
    unfold unsigned?
    split
    · rename_i rest started
      obtain ⟨digit, others, rfl⟩ := List.exists_cons_of_ne_nil canonical.filled
      obtain rfl := zeroDigit digit (List.cons.inj started).1
      exact absurd (canonical.lead rfl) zero
    · rw [read]
      rfl

private theorem value_mk (negative : Bool) (whole : Digits) :
    value ⟨negative, if whole = [0] then .octal else .decimal, whole.map (·.val)⟩ =
      if negative then -(whole.value : Int) else whole.value := by
  have magnitude : ofDigits (if whole = [0] then Radix.octal else .decimal).base
      (whole.map (·.val)) = whole.value := by
    split
    · rename_i zero
      rw [zero]
      rfl
    · rw [ofDigits, List.foldl_map]
      rfl
  rw [value, magnitude]

theorem read?_number {n : Json.Number} {i : Int} (whole : n.int? = some i) :
    read? n.chars = some ⟨n.negative, if n.whole = [0] then .octal else .decimal,
      n.whole.map (·.val)⟩ := by
  have canonical := n.filled.whole
  obtain ⟨negative, digits, fraction, exponent, filled⟩ := n
  obtain ⟨rfl, rfl⟩ : fraction = none ∧ exponent = none := by
    simpa [Json.Number.isIntegral] using (Option.ite_none_right_eq_some.mp whole).1
  rw [← unsigned?_chars canonical]
  cases negative with
  | true => simp [Json.Number.chars, read?]
  | false =>
    have unsigned : ∀ digit : Fin 10, Nat.digitChar digit.val ≠ '-' := by
      decide
    obtain ⟨digit, others, rfl⟩ := List.exists_cons_of_ne_nil canonical.filled
    simp only [Json.Number.chars, Bool.false_eq_true, if_false, List.nil_append,
      List.append_nil]
    unfold read?
    split
    · rename_i rest started
      exact absurd (List.cons.inj started).1 (unsigned digit)
    · rfl

theorem spells_number {n : Json.Number} {i : Int} (whole : n.int? = some i) :
    Spells n.chars i := by
  refine ⟨_, read?_number whole, ?_, ?_⟩
  · rw [value_mk]
    exact Option.some.inj (Option.ite_none_right_eq_some.mp whole).2
  · intro octal
    dsimp only at octal ⊢
    split at octal
    · rename_i zero
      rw [zero]
      rfl
    · cases octal

theorem fixedDigits_eq {base : Nat} (positive : 0 < base) (width n : Nat) :
    ∃ digits, fixedDigits base width n = digits.map Nat.digitChar ∧ digits.length = width ∧
      (∀ digit ∈ digits, digit < base) ∧ ofDigits base digits = n % Nat.pow base width := by
  induction width generalizing n with
  | zero => exact ⟨[], rfl, rfl, by simp, (Nat.mod_one n).symm⟩
  | succ width ih =>
    obtain ⟨digits, shape, length, small, value⟩ := ih (n / base)
    refine ⟨digits ++ [n % base], ?_, ?_, ?_, ?_⟩
    · rw [fixedDigits, shape, List.map_append, List.map_singleton]
    · rw [List.length_append, length, List.length_singleton]
    · intro digit member
      rcases List.mem_append.mp member with front | last
      · exact small digit front
      · rw [List.mem_singleton.mp last]
        exact Nat.mod_lt n positive
    · have power : Nat.pow base (width + 1) = base * Nat.pow base width :=
        Nat.mul_comm (Nat.pow base width) base
      rw [ofDigits] at value
      rw [ofDigits, List.foldl_append, value, List.foldl_cons, List.foldl_nil, power,
        Nat.mod_mul, Nat.add_comm]

theorem spells_hexadecimal {width n : Nat} (filled : 0 < width) (small : n < Nat.pow 16 width) :
    Spells ('0' :: 'x' :: (fixedDigits 16 width n).map Char.toUpper) n := by
  obtain ⟨digits, shape, length, bounded, value⟩ := fixedDigits_eq (by decide : 0 < 16) width n
  have read : digits? .hexadecimal ((fixedDigits 16 width n).map Char.toUpper) = some digits := by
    rw [shape, List.map_map]
    apply digits?_map
    · rintro rfl
      simp only [List.length_nil] at length
      omega
    · intro digit member
      exact (digit?_digitChar (bounded digit member)).2
  refine ⟨⟨false, .hexadecimal, digits⟩, ?_, ?_, ?_⟩
  · simp [read?, unsigned?, read]
  · rw [Nat.mod_eq_of_lt small] at value
    exact congrArg Int.ofNat value
  · intro octal
    cases octal

end CInteger

end AccessorGen.Text

namespace AccessorGen

open Text

theorem Json.Number.spells_ofInt (i : Int) : CInteger.Spells (Number.ofInt i).chars i :=
  CInteger.spells_number (int?_ofInt i)

theorem Text.CInteger.spells_toString (n : Nat) :
    CInteger.Spells (toString n).toList n := by
  have spelled := Json.Number.spells_ofInt n
  have same : (Json.Number.ofInt n).chars = (toString n).toList := by
    rw [← Digits.chars_ofNat]
    simp [Json.Number.ofInt, Json.Number.chars]
  rwa [same] at spelled

namespace Version

theorem packed_lt (version : Version) : version.packed < Nat.pow 16 6 := by
  have major := version.major.isLt
  have minor := version.minor.isLt
  have patch := version.patch.isLt
  have digits : Nat.pow 16 6 = 16777216 := rfl
  rw [digits, packed]
  omega

theorem toList_packedLiteral (version : Version) :
    version.packedLiteral.toList =
      '0' :: 'x' :: (fixedDigits 16 6 version.packed).map Char.toUpper := by
  have marks : "0x".toList = ['0', 'x'] := rfl
  rw [packedLiteral, String.toList_append, marks, String.toList_ofList, List.cons_append,
    List.cons_append, List.nil_append]

theorem spells_packedLiteral (version : Version) :
    CInteger.Spells version.packedLiteral.toList version.packed := by
  rw [version.toList_packedLiteral]
  exact CInteger.spells_hexadecimal (by decide) version.packed_lt

end Version

end AccessorGen
