/- Templates.
   A template is text with placeholders: a dollar sign and a name in braces. Filling a template puts
   pieces in their place; what is put in is not searched again. -/

import AccessorGen.Snippet

set_option autoImplicit false
set_option relaxedAutoImplicit false

namespace AccessorGen

namespace Template

inductive Part where
  | text (cs : List Char)
  /-- A placeholder with the name between its braces. -/
  | hole (name : List Char)
  deriving DecidableEq, Repr

def opening : List Char := ['$', '\x7b']

/-- The parts of a template. `inHole` tells whether the reading stands inside a placeholder, and
`seen` holds what it has read there or of the current text, newest first. A placeholder without an
end is text. -/
def partsFrom (inHole : Bool) (seen : List Char) : List Char → List Part
  | [] => [.text (if inHole then opening ++ seen.reverse else seen.reverse)]
  | '$' :: '\x7b' :: rest =>
    if inHole then partsFrom true ('\x7b' :: '$' :: seen) rest
    else .text seen.reverse :: partsFrom true [] rest
  | c :: rest =>
    if inHole && c == '\x7d' then .hole seen.reverse :: partsFrom false [] rest
    else partsFrom inHole (c :: seen) rest

def parts (template : String) : List Part :=
  partsFrom false [] template.toList

/-- The name of the placeholder for the prefix of the document. -/
def sectionPrefixName : String := "prefix"

/-- What a part becomes: text stays, a known placeholder gives way to its piece, and an unknown one
stays as it is written. -/
def Part.fill (document : Nat) (args : List (String × Piece)) : Part → Piece
  | .text cs => .text (String.ofList cs)
  | .hole name =>
    if String.ofList name = sectionPrefixName then .tag (.sectionPrefix document)
    else
      match args.lookup (String.ofList name) with
      | some piece => piece
      | none => .text (String.ofList (opening ++ name ++ ['\x7d']))

end Template

def Snippet.expand (template : String) (document : Nat) (args : List (String × Piece)) : Snippet :=
  .ofPieces ((Template.parts template).map (Template.Part.fill document args))

end AccessorGen
