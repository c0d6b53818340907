/- UTF-8 decoding.
   Reading bytes as UTF-8 one sequence at a time: strictly, with the place and the extent of the
   first fault, or leniently, with a replacement character for every faulty sequence. -/

set_option autoImplicit false
set_option relaxedAutoImplicit false

namespace AccessorGen.Text.Utf8

/-- What stands at the front of a byte sequence. -/
inductive Reading where
  /-- The bytes are used up. -/
  | finished
  /-- A whole character of `length` bytes. -/
  | scalar (c : Char) (length : Nat) (rest : List UInt8)
  /-- A sequence that cannot be continued to a character; `length` bytes belong to it. -/
  | broken (length : Nat) (rest : List UInt8)
  /-- A sequence that the end of the bytes cuts off. -/
  | cutOff

/-- Bounds of one byte that continues a sequence. -/
structure Window where
  low : Nat
  high : Nat

def Window.continuation : Window := ⟨0x80, 0xBF⟩

/-- The bits that a first byte contributes and the windows of the bytes that must follow it. The
narrow windows refuse overlong forms, surrogates and code points above U+10FFFF. -/
def lead (byte : Nat) : Option (Nat × List Window) :=
  if byte < 0x80 then some (byte, [])
  else if byte < 0xC2 then none
  else if byte < 0xE0 then some (byte - 0xC0, [.continuation])
  else if byte = 0xE0 then some (0, [⟨0xA0, 0xBF⟩, .continuation])
  else if byte = 0xED then some (0xD, [⟨0x80, 0x9F⟩, .continuation])
  else if byte < 0xF0 then some (byte - 0xE0, [.continuation, .continuation])
  else if byte = 0xF0 then some (0, [⟨0x90, 0xBF⟩, .continuation, .continuation])
  else if byte < 0xF4 then some (byte - 0xF0, [.continuation, .continuation, .continuation])
  else if byte = 0xF4 then some (4, [⟨0x80, 0x8F⟩, .continuation, .continuation])
  else none

/-- Reads the bytes after the first one, `taken` bytes having been read so far. -/
def continueWith (code taken : Nat) : List Window → List UInt8 → Reading
  | [], rest => .scalar (Char.ofNat code) taken rest
  | _ :: _, [] => .cutOff
  | window :: windows, byte :: rest =>
    if window.low ≤ byte.toNat ∧ byte.toNat ≤ window.high then
      continueWith (code * 64 + (byte.toNat - 0x80)) (taken + 1) windows rest
    else .broken taken (byte :: rest)

def read : List UInt8 → Reading
  | [] => .finished
  | byte :: rest =>
    match lead byte.toNat with
    | none => .broken 1 rest
    | some (code, windows) => continueWith code 1 windows rest

def Reading.rest : Reading → List UInt8
  | .scalar _ _ rest => rest
  | .broken _ rest => rest
  | .finished => []
  | .cutOff => []

private theorem continueWith_rest_le (code taken : Nat) (windows : List Window)
    (bytes : List UInt8) :
    (continueWith code taken windows bytes).rest.length ≤ bytes.length := by
  fun_induction continueWith code taken windows bytes with
  | case1 => simp [Reading.rest]
  | case2 => simp [Reading.rest]
  | case3 code taken window windows byte rest inside ih =>
    simp only [List.length_cons]
    omega
  | case4 => simp [Reading.rest]

private theorem read_rest_lt {bytes : List UInt8} (unfinished : read bytes ≠ .finished) :
    (read bytes).rest.length < bytes.length := by
  cases bytes with
  | nil => exact absurd rfl unfinished
  | cons byte rest =>
    simp only [read, List.length_cons]
    split
    · simp [Reading.rest]
    · exact Nat.lt_succ_of_le (continueWith_rest_le _ _ _ _)

private theorem rest_lt_of_scalar {bytes rest : List UInt8} {c : Char} {length : Nat}
    (h : read bytes = .scalar c length rest) : rest.length < bytes.length := by
  have shorter := @read_rest_lt bytes (by simp [h])
  rwa [h] at shorter

private theorem rest_lt_of_broken {bytes rest : List UInt8} {length : Nat}
    (h : read bytes = .broken length rest) : rest.length < bytes.length := by
  have shorter := @read_rest_lt bytes (by simp [h])
  rwa [h] at shorter

inductive Fault where
  /-- A sequence of `length` bytes at `index` cannot be continued. -/
  | invalid (index length : Nat)
  /-- The bytes end within the sequence at `index`. -/
  | incomplete (index : Nat)
  deriving DecidableEq, Repr

def Fault.message : Fault → String
  | .invalid index length =>
    "invalid utf-8 sequence of " ++ toString length ++ " bytes from index " ++ toString index
  | .incomplete index => "incomplete utf-8 byte sequence from index " ++ toString index

/-- Reads from byte `index` on; `seen` holds the characters before it, newest first. -/
def decodeFrom (index : Nat) (seen : List Char) (bytes : List UInt8) :
    Except Fault (List Char) :=
  match h : read bytes with
  | .finished => .ok seen.reverse
  | .scalar c length rest =>
    have := rest_lt_of_scalar h
    decodeFrom (index + length) (c :: seen) rest
  | .broken length _ => .error (.invalid index length)
  | .cutOff => .error (.incomplete index)
termination_by bytes.length

/-- The text that the bytes encode, or the first fault. -/
def decode (bytes : List UInt8) : Except Fault (List Char) :=
  decodeFrom 0 [] bytes

/-- Reads leniently; `seen` holds the characters so far, newest first. -/
def decodeLossyFrom (seen : List Char) (bytes : List UInt8) : List Char :=
  match h : read bytes with
  | .finished => seen.reverse
  | .scalar c _ rest =>
    have := rest_lt_of_scalar h
    decodeLossyFrom (c :: seen) rest
  | .broken _ rest =>
    have := rest_lt_of_broken h
    decodeLossyFrom ('\uFFFD' :: seen) rest
  | .cutOff => ('\uFFFD' :: seen).reverse
termination_by bytes.length

/-- The text with U+FFFD in place of every sequence that is no character. -/
def decodeLossy (bytes : List UInt8) : List Char :=
  decodeLossyFrom [] bytes

end AccessorGen.Text.Utf8
