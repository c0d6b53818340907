/- JSON numbers as they are written.
   A number keeps the parts of its spelling, so that its source text, its normal spelling and its
   exact value can all be read off it. There is no number that cannot be written down. -/

import AccessorGen.Text.Digits

set_option autoImplicit false
set_option relaxedAutoImplicit false

namespace AccessorGen.Json

open Text (Digits digit?)

inductive Sign where
  | plus
  | minus
  deriving DecidableEq, Repr

def Sign.char : Sign → Char
  | .plus => '+'
  | .minus => '-'

/-- The power of ten that a number is scaled by, as written. -/
structure Exponent where
  /-- Whether the mark is the capital `E`. -/
  capital : Bool
  sign : Option Sign
  digits : Digits
  deriving DecidableEq, Repr

def Exponent.chars (e : Exponent) : List Char :=
  (if e.capital then 'E' else 'e') :: ((e.sign.map Sign.char).toList ++ e.digits.chars)

/-- The exponent with a small mark and an explicit sign. -/
def Exponent.normal (e : Exponent) : Exponent :=
  { e with capital := false, sign := some (e.sign.getD .plus) }

def Exponent.value (e : Exponent) : Int :=
  if e.sign = some .minus then -(e.digits.value : Int) else e.digits.value

namespace Number

/-- There is a digit wherever digits are asked for, and no zero in front of other digits of the
whole part. -/
structure Filled (whole : Digits) (fraction : Option Digits) (exponent : Option Exponent) :
    Prop where
  whole : whole.Canonical
  fraction : ∀ digits ∈ fraction, digits ≠ []
  exponent : ∀ e ∈ exponent, e.digits ≠ []

instance (whole : Digits) (fraction : Option Digits) (exponent : Option Exponent) :
    Decidable (Filled whole fraction exponent) :=
  decidable_of_iff (whole.Canonical ∧ (∀ digits ∈ fraction, digits ≠ []) ∧
      ∀ e ∈ exponent, e.digits ≠ [])
    ⟨fun parts => ⟨parts.1, parts.2.1, parts.2.2⟩,
      fun filled => ⟨filled.whole, filled.fraction, filled.exponent⟩⟩

end Number

/-- A number as written: sign, whole part, fraction and exponent. -/
structure Number where
  negative : Bool
  whole : Digits
  fraction : Option Digits
  exponent : Option Exponent
  filled : Number.Filled whole fraction exponent
  deriving DecidableEq, Repr

/-- The characters of a number exactly as written. -/
def Number.chars (n : Number) : List Char :=
  (if n.negative then ['-'] else []) ++ n.whole.chars ++
    (match n.fraction with
      | none => []
      | some digits => '.' :: digits.chars) ++
    (match n.exponent with
      | none => []
      | some e => e.chars)

def Number.spelling (n : Number) : String :=
  String.ofList n.chars

def Number.normal (n : Number) : Number where
  negative := n.negative
  whole := n.whole
  fraction := n.fraction
  exponent := n.exponent.map Exponent.normal
  filled := by
    refine ⟨n.filled.whole, n.filled.fraction, ?_⟩
    intro e member
    obtain ⟨own, given, rfl⟩ := Option.map_eq_some_iff.mp member
    exact n.filled.exponent own given

/-- Whether the spelling has neither a fraction nor an exponent. -/
def Number.isIntegral (n : Number) : Bool :=
  n.fraction.isNone && n.exponent.isNone

def Number.int? (n : Number) : Option Int :=
  if n.isIntegral then
    some (if n.negative then -(n.whole.value : Int) else n.whole.value)
  else none

def Number.ofInt (n : Int) : Number :=
  ⟨n < 0, Digits.ofNat n.natAbs, none, none, Digits.canonical_ofNat _, by simp, by simp⟩

def isDigit (c : Char) : Bool :=
  (digit? c).isSome

/-- Reads the sign at the front of the digits of an exponent. -/
def exponentSign : List Char → Option Sign × List Char
  | '+' :: rest => (some .plus, rest)
  | '-' :: rest => (some .minus, rest)
  | rest => (none, rest)

/-- Reads a text that is an exponent, or empty. -/
def exponent? : List Char → Option (Option Exponent)
  | [] => some none
  | mark :: rest =>
    if mark = 'e' ∨ mark = 'E' then
      let (sign, digits) := exponentSign rest
      (Digits.ofChars? digits).map fun digits => some ⟨mark = 'E', sign, digits⟩
    else none

/-- Reads the fraction at the front of a text, if there is one, with at least one digit behind the
point. -/
def fraction? : List Char → Option (Option Digits × List Char)
  | '.' :: rest =>
    (Digits.ofChars? (rest.takeWhile isDigit)).map fun digits =>
      (some digits, rest.dropWhile isDigit)
  | rest => some (none, rest)

/-- Reads a text that is a number without its sign. -/
def Number.unsigned? (negative : Bool) (cs : List Char) : Option Number := do
  let whole ← Digits.ofChars? (cs.takeWhile isDigit)
  let (fraction, rest) ← fraction? (cs.dropWhile isDigit)
  let exponent ← exponent? rest
  if filled : Filled whole fraction exponent then
    some ⟨negative, whole, fraction, exponent, filled⟩
  else none

def Number.ofChars? : List Char → Option Number
  | '-' :: rest => unsigned? true rest
  | cs => unsigned? false cs

end AccessorGen.Json
