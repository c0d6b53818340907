/- Field types.
   The types that a key can declare, their names in a schema and in C, and the domains of the
   numeric ones. -/

set_option autoImplicit false
set_option relaxedAutoImplicit false

namespace AccessorGen

inductive IntWidth where
  | w8
  | w16
  | w32
  | w64
  deriving DecidableEq, Repr

def IntWidth.bits : IntWidth → Nat
  | .w8 => 8
  | .w16 => 16
  | .w32 => 32
  | .w64 => 64

inductive FieldType where
  /-- A directive: it steers the session and has no storage. -/
  | config
  | string
  | signed (width : IntWidth)
  | unsigned (width : IntWidth)
  | float
  | double
  | boolean
  /-- A definition for the C preprocessor. -/
  | cMacro
  deriving DecidableEq, Repr

namespace FieldType

def all : List FieldType :=
  [.config, .string, .signed .w8, .signed .w16, .signed .w32, .signed .w64, .unsigned .w8,
    .unsigned .w16, .unsigned .w32, .unsigned .w64, .float, .double, .boolean, .cMacro]

def name : FieldType → String
  | .config => "config"
  | .string => "string"
  | .signed .w8 => "int8"
  | .signed .w16 => "int16"
  | .signed .w32 => "int32"
  | .signed .w64 => "int64"
  | .unsigned .w8 => "uint8"
  | .unsigned .w16 => "uint16"
  | .unsigned .w32 => "uint32"
  | .unsigned .w64 => "uint64"
  | .float => "float"
  | .double => "double"
  | .boolean => "bool"
  | .cMacro => "macro"

def ofName? (word : String) : Option FieldType :=
  all.find? fun type => type.name == word

def cNumericType? : FieldType → Option String
  | .signed .w8 => some "int8_t"
  | .signed .w16 => some "int16_t"
  | .signed .w32 => some "int32_t"
  | .signed .w64 => some "int64_t"
  | .unsigned .w8 => some "uint8_t"
  | .unsigned .w16 => some "uint16_t"
  | .unsigned .w32 => some "uint32_t"
  | .unsigned .w64 => some "uint64_t"
  | .float => some "float"
  | .double => some "double"
  | _ => none

end FieldType

/-- The integers from `low` up to, and without, `high`. -/
structure IntDomain where
  low : Int
  high : Int
  deriving DecidableEq, Repr

def IntDomain.holds (domain : IntDomain) (n : Int) : Bool :=
  domain.low ≤ n && n < domain.high

theorem IntDomain.holds_iff (domain : IntDomain) (n : Int) :
    domain.holds n = true ↔ domain.low ≤ n ∧ n < domain.high := by
  simp [holds]

/-- The two's-complement integers of 128 bits, in which every integer is read before its domain is
looked at. -/
def IntDomain.wide : IntDomain :=
  ⟨-(Nat.pow 2 127 : Int), Nat.pow 2 127⟩

/-- The two's-complement integers of a width. -/
def IntWidth.signedDomain (width : IntWidth) : IntDomain :=
  ⟨-(Nat.pow 2 (width.bits - 1) : Int), Nat.pow 2 (width.bits - 1)⟩

def IntWidth.unsignedDomain (width : IntWidth) : IntDomain :=
  ⟨0, Nat.pow 2 width.bits⟩

def FieldType.intDomain? : FieldType → Option IntDomain
  | .signed width => some width.signedDomain
  | .unsigned width => some width.unsignedDomain
  | _ => none

/-- What 128 bits cannot hold lies outside of every domain. -/
theorem FieldType.holds_wide_and {type : FieldType} {domain : IntDomain}
    (integer : type.intDomain? = some domain) (n : Int) :
    (IntDomain.wide.holds n && domain.holds n) = domain.holds n := by
  have bounds : IntDomain.wide.low ≤ domain.low ∧ domain.high ≤ IntDomain.wide.high := by
    cases type with
    | signed width =>
      obtain rfl := Option.some.inj integer
      cases width <;> decide
    | unsigned width =>
      obtain rfl := Option.some.inj integer
      cases width <;> decide
    | _ => cases integer
  rw [Bool.eq_iff_iff, Bool.and_eq_true, IntDomain.holds_iff, IntDomain.holds_iff]
  omega

/-- A binary floating-point format: the bits of its significand and its greatest exponent. -/
structure RealFormat where
  precision : Nat
  maxExponent : Nat
  deriving DecidableEq, Repr

def RealFormat.binary32 : RealFormat := ⟨24, 127⟩

/-- The format of `double`, in which every decimal is first rounded. -/
def RealFormat.binary64 : RealFormat := ⟨53, 1023⟩

def FieldType.realFormat? : FieldType → Option RealFormat
  | .float => some .binary32
  | .double => some .binary64
  | _ => none

def RealFormat.largest (format : RealFormat) : Nat :=
  (Nat.pow 2 format.precision - 1) * Nat.pow 2 (format.maxExponent + 1 - format.precision)

/-- The bit pattern of the largest finite magnitude of a format, stored as a binary64 number:
the biased exponent, then the significand without its leading bit. -/
def RealFormat.largestBits (format : RealFormat) : Nat :=
  (format.maxExponent + binary64.maxExponent) * Nat.pow 2 (binary64.precision - 1) +
    (Nat.pow 2 (format.precision - 1) - 1) * Nat.pow 2 (binary64.precision - format.precision)

example : RealFormat.binary32.largest = 2 ^ 128 - 2 ^ 104 := by decide

example : RealFormat.binary64.largestBits = 0x7fefffffffffffff := by decide

end AccessorGen
