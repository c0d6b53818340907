/- JSON tokens.
   A text is cut into punctuation, words, numbers and string tokens, each with its piece of the
   text. A string token keeps its escapes of four hexadecimal digits unpaired, because their pairing
   is checked only where the string is read. -/

import AccessorGen.Json.Number

set_option autoImplicit false
set_option relaxedAutoImplicit false

namespace AccessorGen.Json

inductive StringUnit where
  /-- A character, written as it is or by a one-letter escape. -/
  | scalar (c : Char)
  /-- A UTF-16 code unit, written by four hexadecimal digits. -/
  | utf16 (code : Nat)
  deriving DecidableEq, Repr

/-- A string token before its code units are paired. -/
abbrev RawString := List StringUnit

def surrogatePair (high low : Nat) : Char :=
  Char.ofNat (0x10000 + (high - 0xD800) * 0x400 + (low - 0xDC00))

def isHighSurrogate (code : Nat) : Bool :=
  0xD800 ≤ code && code < 0xDC00

def isLowSurrogate (code : Nat) : Bool :=
  0xDC00 ≤ code && code < 0xE000

/-- The characters of a string token, newest first after `seen`; a surrogate without its partner
has none. -/
def RawString.charsFrom (seen : List Char) : RawString → Option (List Char)
  | [] => some seen
  | .scalar c :: rest => charsFrom (c :: seen) rest
  | .utf16 high :: .utf16 low :: rest =>
    if isHighSurrogate high then
      if isLowSurrogate low then charsFrom (surrogatePair high low :: seen) rest else none
    else if isLowSurrogate high then none
    else charsFrom (Char.ofNat high :: seen) (.utf16 low :: rest)
  | .utf16 code :: rest =>
    if isHighSurrogate code || isLowSurrogate code then none
    else charsFrom (Char.ofNat code :: seen) rest

/-- The text of a string token whose surrogates are all paired. -/
def RawString.text? (raw : RawString) : Option String :=
  (raw.charsFrom []).map fun chars => String.ofList chars.reverse

inductive Token where
  | openBrace
  | closeBrace
  | openBracket
  | closeBracket
  | colon
  | comma
  | null
  | bool (b : Bool)
  | number (n : Number)
  | string (raw : RawString)
  deriving DecidableEq, Repr

/-- White space of JSON. -/
def isGap (c : Char) : Bool :=
  c == ' ' || c == '\t' || c == '\n' || c == '\r'

def punctuation? (c : Char) : Option Token :=
  if c = '\x7b' then some .openBrace
  else if c = '\x7d' then some .closeBrace
  else if c = '[' then some .openBracket
  else if c = ']' then some .closeBracket
  else if c = ':' then some .colon
  else if c = ',' then some .comma
  else none

def shortEscape? (c : Char) : Option Char :=
  if c = '"' || c = '\\' || c = '/' then some c
  else if c = 'b' then some '\x08'
  else if c = 'f' then some '\x0c'
  else if c = 'n' then some '\n'
  else if c = 'r' then some '\r'
  else if c = 't' then some '\t'
  else none

def hexValue? (c : Char) : Option Nat :=
  let n := c.toNat
  if '0'.toNat ≤ n && n ≤ '9'.toNat then some (n - '0'.toNat)
  else if 'a'.toNat ≤ n && n ≤ 'f'.toNat then some (n - 'a'.toNat + 10)
  else if 'A'.toNat ≤ n && n ≤ 'F'.toNat then some (n - 'A'.toNat + 10)
  else none

/-- The token of a run of characters that are neither gaps, punctuation nor quotes. -/
def bareToken? (cs : List Char) : Option Token :=
  if cs = "null".toList then some .null
  else if cs = "true".toList then some (.bool true)
  else if cs = "false".toList then some (.bool false)
  else (Number.ofChars? cs).map .number

/-- Where the reading of a text stands. What has been read of a token is newest first. -/
inductive LexMode where
  /-- Between tokens. -/
  | between
  /-- Inside a word or a number. -/
  | bare (seen : List Char)
  /-- Inside a string. -/
  | quoted (seen : RawString)
  /-- After the backslash of an escape. -/
  | escape (seen : RawString)
  /-- Inside a hexadecimal escape, `missing` digits short of its end. -/
  | hex (seen : RawString) (code missing : Nat)
  deriving DecidableEq, Repr

/-- A token with its text and the white space in front of it. -/
structure Lexeme where
  text : List Char
  token : Token
  deriving DecidableEq, Repr

/-- The tokens read so far, newest first, and the place where the reading stands. -/
structure Lexer where
  lexemes : List Lexeme
  /-- What has been read since the last token, newest first. -/
  pending : List Char
  mode : LexMode
  deriving DecidableEq, Repr

namespace Lexer

def start : Lexer :=
  ⟨[], [], .between⟩

def take (lexer : Lexer) (c : Char) (mode : LexMode) : Lexer :=
  ⟨lexer.lexemes, c :: lexer.pending, mode⟩

def emit (lexer : Lexer) (token : Token) : Lexer :=
  ⟨⟨lexer.pending.reverse, token⟩ :: lexer.lexemes, [], .between⟩

/-- Closes a word or a number, if one is open. -/
def closeBare? (lexer : Lexer) : Option Lexer :=
  match lexer.mode with
  | .bare seen => (bareToken? seen.reverse).map lexer.emit
  | _ => some lexer

/-- Reads one character between tokens or inside a word. -/
def outside? (lexer : Lexer) (c : Char) : Option Lexer :=
  if isGap c then lexer.closeBare?.map fun closed => closed.take c .between
  else if c = '"' then lexer.closeBare?.map fun closed => closed.take c (.quoted [])
  else
    match punctuation? c with
    | some token => lexer.closeBare?.map fun closed => (closed.take c .between).emit token
    | none =>
      match lexer.mode with
      | .bare seen => some (lexer.take c (.bare (c :: seen)))
      | _ => some (lexer.take c (.bare [c]))

def step? (lexer : Lexer) (c : Char) : Option Lexer :=
  match lexer.mode with
  | .between => lexer.outside? c
  | .bare _ => lexer.outside? c
  | .quoted seen =>
    if c = '"' then some ((lexer.take c .between).emit (.string seen.reverse))
    else if c = '\\' then some (lexer.take c (.escape seen))
    else if c.toNat < 0x20 then none
    else some (lexer.take c (.quoted (.scalar c :: seen)))
  | .escape seen =>
    if c = 'u' then some (lexer.take c (.hex seen 0 4))
    else (shortEscape? c).map fun d => lexer.take c (.quoted (.scalar d :: seen))
  | .hex seen code missing =>
    (hexValue? c).map fun digit =>
      lexer.take c
        (if missing ≤ 1 then .quoted (.utf16 (16 * code + digit) :: seen)
        else .hex seen (16 * code + digit) (missing - 1))

def finish? (lexer : Lexer) : Option (List Lexeme) :=
  match lexer.mode with
  | .between => some lexer.lexemes.reverse
  | .bare _ => lexer.closeBare?.map fun closed => closed.lexemes.reverse
  | _ => none

end Lexer

/-- The tokens of a text, if all of it can be cut into tokens. -/
def lexemes? (text : String) : Option (List Lexeme) := do
  let lexer ← text.toList.foldlM Lexer.step? .start
  lexer.finish?

end AccessorGen.Json
