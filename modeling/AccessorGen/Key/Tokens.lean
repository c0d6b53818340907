/- The grammar of keys.
   A key reads `type[size]:qualifier:name(params)`. Type, size, qualifier and parameters may be
   missing, and white space may surround every token. -/

import AccessorGen.Text.Blank
import AccessorGen.Text.Split
import AccessorGen.Text.Word

set_option autoImplicit false
set_option relaxedAutoImplicit false

namespace AccessorGen.Key

open Text (isBlank isWordChar splitOn)

/-- The tokens of a key, before any of them is given a meaning. -/
structure Tokens where
  /-- The word before the size; empty when the key has no type. -/
  typeWord : List Char
  /-- The word between the brackets, if there are any. -/
  size : Option (List Char)
  /-- The word between the colons; empty when there is none. -/
  qualifier : List Char
  name : List Char
  /-- The parameter list with its parentheses. -/
  params : Option (List Char)
  deriving DecidableEq, Repr

def skipBlanks (cs : List Char) : List Char :=
  cs.dropWhile isBlank

def word (cs : List Char) : List Char :=
  cs.takeWhile isWordChar

def afterWord (cs : List Char) : List Char :=
  skipBlanks (cs.dropWhile isWordChar)

def isParamChar (c : Char) : Bool :=
  isWordChar c || isBlank c || c == ','

/-- Reads the rest of a type section behind its opening bracket. -/
def sizeSection? (cs : List Char) : Option (List Char) :=
  let inner := skipBlanks cs
  match afterWord inner with
  | ']' :: rest => if (skipBlanks rest).isEmpty then some (word inner) else none
  | _ => none

/-- Reads a type section: a word and an optional size in brackets. -/
def typeSection? (cs : List Char) : Option (List Char × Option (List Char)) :=
  let front := skipBlanks cs
  match afterWord front with
  | [] => some (word front, none)
  | '[' :: rest => (sizeSection? rest).map fun size => (word front, some size)
  | _ => none

def qualifierSection? (cs : List Char) : Option (List Char) :=
  let front := skipBlanks cs
  if (afterWord front).isEmpty then some (word front) else none

/-- Reads the rest of a name section behind its opening parenthesis. -/
def paramsSection? (cs : List Char) : Option (List Char) :=
  match cs.dropWhile isParamChar with
  | ')' :: rest =>
    if (skipBlanks rest).isEmpty then some ('(' :: cs.takeWhile isParamChar ++ [')']) else none
  | _ => none

/-- Reads a name section: a non-empty word and an optional parameter list. -/
def nameSection? (cs : List Char) : Option (List Char × Option (List Char)) :=
  let front := skipBlanks cs
  if (word front).isEmpty then none
  else
    match afterWord front with
    | [] => some (word front, none)
    | '(' :: rest => (paramsSection? rest).map fun params => (word front, some params)
    | _ => none

/-- Cuts a key at its colons and reads each section. -/
def scan? (key : List Char) : Option Tokens :=
  match splitOn ':' key with
  | [name] => do
    let (name, params) ← nameSection? name
    return ⟨[], none, [], name, params⟩
  | [type, name] => do
    let (type, size) ← typeSection? type
    let (name, params) ← nameSection? name
    return ⟨type, size, [], name, params⟩
  | [type, qualifier, name] => do
    let (type, size) ← typeSection? type
    let qualifier ← qualifierSection? qualifier
    let (name, params) ← nameSection? name
    return ⟨type, size, qualifier, name, params⟩
  | _ => none

end AccessorGen.Key
