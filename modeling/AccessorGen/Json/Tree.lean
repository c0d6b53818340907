/- The syntax tree of a JSON text.
   A tree holds what the grammar alone accepts, at any depth, with string tokens not yet read and
   with the text of every value of an object. It becomes a value where every string can be read and
   the nesting is not too deep. An object whose first name is a marker stands for the number or the
   text that it holds. -/

import AccessorGen.Json.Token
import AccessorGen.Json.Value

set_option autoImplicit false
set_option relaxedAutoImplicit false

namespace AccessorGen.Json

structure Member (α : Type) where
  name : RawString
  /-- The text of the value, with the white space in front of it. -/
  source : List Char
  value : α

/-- A JSON text as its grammar sees it. -/
inductive Tree where
  | null
  | bool (b : Bool)
  | number (n : Number)
  | string (raw : RawString)
  | array (items : List Tree)
  | object (members : List (Member Tree))

/-- What a container holds that is not closed yet, newest first. -/
inductive Content where
  /-- An array. -/
  | items (read : List Tree)
  /-- An object between two members. -/
  | members (read : List (Member Tree))
  /-- An object that waits for the value of `name`. -/
  | member (read : List (Member Tree)) (name : RawString)

/-- A container that is not closed yet. -/
structure Frame where
  /-- Its text so far, newest first, with the white space in front of it. -/
  text : List Char
  content : Content

inductive Expectation where
  /-- A value. -/
  | value
  /-- A value or the end of the array that was just opened. -/
  | valueOrEnd
  /-- A member name. -/
  | name
  /-- A member name or the end of the object that was just opened. -/
  | nameOrEnd
  /-- The colon after a member name. -/
  | colon (name : RawString)
  /-- A comma or the end of the innermost container. -/
  | commaOrEnd
  /-- Nothing: the text is complete. -/
  | nothing (root : Tree)

/-- The containers that are open, innermost first, and what may come next. -/
structure Builder where
  frames : List Frame
  expects : Expectation

def Frame.extend (frame : Frame) (text : List Char) (content : Content) : Frame :=
  ⟨text.reverseAux frame.text, content⟩

namespace Builder

/-- Goes on inside the innermost container behind a piece of its text. -/
def pass? (frames : List Frame) (text : List Char) (expects : Expectation) : Option Builder :=
  match frames with
  | [] => none
  | frame :: outer => some ⟨frame.extend text frame.content :: outer, expects⟩

/-- Puts a finished value with its text where it belongs. -/
def place? (frames : List Frame) (source : List Char) (tree : Tree) : Option Builder :=
  match frames with
  | [] => some ⟨[], .nothing tree⟩
  | frame :: outer =>
    match frame.content with
    | .items read => some ⟨frame.extend source (.items (tree :: read)) :: outer, .commaOrEnd⟩
    | .member read name =>
      some ⟨frame.extend source (.members (⟨name, source, tree⟩ :: read)) :: outer, .commaOrEnd⟩
    | .members _ => none

def value? (frames : List Frame) (lexeme : Lexeme) : Option Builder :=
  match lexeme.token with
  | .null => place? frames lexeme.text .null
  | .bool b => place? frames lexeme.text (.bool b)
  | .number n => place? frames lexeme.text (.number n)
  | .string raw => place? frames lexeme.text (.string raw)
  | .openBracket => some ⟨⟨lexeme.text.reverse, .items []⟩ :: frames, .valueOrEnd⟩
  | .openBrace => some ⟨⟨lexeme.text.reverse, .members []⟩ :: frames, .nameOrEnd⟩
  | _ => none

/-- Closes the innermost container by its own bracket. -/
def close? (frames : List Frame) (lexeme : Lexeme) : Option Builder :=
  match frames with
  | [] => none
  | frame :: outer =>
    match frame.content, lexeme.token with
    | .items read, .closeBracket =>
      place? outer (frame.text.reverse ++ lexeme.text) (.array read.reverse)
    | .members read, .closeBrace =>
      place? outer (frame.text.reverse ++ lexeme.text) (.object read.reverse)
    | _, _ => none

def name? (frames : List Frame) (lexeme : Lexeme) : Option Builder :=
  match lexeme.token with
  | .string raw => pass? frames lexeme.text (.colon raw)
  | _ => none

def colon? (frames : List Frame) (lexeme : Lexeme) (name : RawString) : Option Builder :=
  match frames with
  | [] => none
  | frame :: outer =>
    match frame.content, lexeme.token with
    | .members read, .colon => some ⟨frame.extend lexeme.text (.member read name) :: outer, .value⟩
    | _, _ => none

def comma? (frames : List Frame) (text : List Char) : Option Builder :=
  match frames with
  | [] => none
  | frame :: _ =>
    match frame.content with
    | .items _ => pass? frames text .value
    | .members _ => pass? frames text .name
    | .member _ _ => none

def step? (builder : Builder) (lexeme : Lexeme) : Option Builder :=
  match builder.expects with
  | .value => value? builder.frames lexeme
  | .valueOrEnd =>
    if lexeme.token = .closeBracket then close? builder.frames lexeme
    else value? builder.frames lexeme
  | .name => name? builder.frames lexeme
  | .nameOrEnd =>
    if lexeme.token = .closeBrace then close? builder.frames lexeme
    else name? builder.frames lexeme
  | .colon name => colon? builder.frames lexeme name
  | .commaOrEnd =>
    if lexeme.token = .comma then comma? builder.frames lexeme.text
    else close? builder.frames lexeme
  | .nothing _ => none

end Builder

/-- The tree of a token sequence that is one value. -/
def Tree.ofLexemes? (lexemes : List Lexeme) : Option Tree := do
  let builder ← lexemes.foldlM Builder.step? ⟨[], .value⟩
  match builder.expects with
  | .nothing root => some root
  | _ => none

/-- The tree of a text that is one value, with white space around every token. -/
def Tree.ofText? (text : String) : Option Tree := do
  Tree.ofLexemes? (← lexemes? text)

/-- What an object stands for in place of itself. -/
inductive Marker where
  /-- The number that its text spells. -/
  | number
  /-- The value that its text has. -/
  | text
  deriving DecidableEq, Repr

def Marker.ofName? (name : String) : Option Marker :=
  if name = "$serde_json::private::Number" then some .number
  else if name = "$serde_json::private::RawValue" then some .text
  else none

/-- The marker of an object with these members. Only the first name counts. -/
def marker? (members : List (Member Tree)) : Option Marker := do
  let first ← members.head?
  let name ← first.name.text?
  Marker.ofName? name

def soleText? : List (Member Tree) → Option String
  | [⟨_, _, .string raw⟩] => raw.text?
  | _ => none

/-- The value of a marked text, where `read` reads a text. -/
def Marker.value? (read : String → Option Value) : Marker → String → Option Value
  | .number, held => (Number.ofChars? held.toList).map .number
  | .text, held => read held

/-- The greatest number of arrays and objects inside one another in a value. -/
def maxDepth : Nat := 127

/-- The value of a tree whose arrays and objects are nested at most `depth` deep, where `read` reads
the texts that marked objects hold. -/
def Tree.valueWithin? (read : String → Option Value) : Nat → Tree → Option Value
  | _, .null => some .null
  | _, .bool b => some (.bool b)
  | _, .number n => some (.number n)
  | _, .string raw => raw.text?.map .string
  | 0, .array _ => none
  | depth + 1, .array items => (items.mapM (valueWithin? read depth)).map .array
  | 0, .object _ => none
  | depth + 1, .object members =>
    match marker? members with
    | some marker => (soleText? members).bind (marker.value? read)
    | none => do
      let pairs ← members.mapM fun member => do
        let name ← member.name.text?
        let value ← valueWithin? read depth member.value
        return (name, value)
      return .object (mergeMembers pairs)

/-- The value of a text in which at most `levels` texts are held inside one another. -/
def Value.ofTextWithin? : Nat → String → Option Value
  | 0, _ => none
  | levels + 1, text => do
    (← Tree.ofText? text).valueWithin? (ofTextWithin? levels) maxDepth

/-- The value of a text. A text that is held in it is shorter, so that no more levels are needed
than it has characters. -/
def Value.ofText? (text : String) : Option Value :=
  ofTextWithin? (text.length + 1) text

def Tree.value? (tree : Tree) : Option Value :=
  tree.valueWithin? Value.ofText? maxDepth

end AccessorGen.Json
