/- Snippets.
   Generated code is text with tags in it. A tag stands for something that is known only when the
   whole session has been seen; a resolution gives every tag its text. Text is never searched for
   tags, so text that a user supplies stays as it is. -/

set_option autoImplicit false
set_option relaxedAutoImplicit false

namespace AccessorGen

/-- What is known only at the end of a session. -/
inductive Tag where
  /-- What stands before every C name of the document with this index. -/
  | sectionPrefix (document : Nat)
  | headerGuard
  | headerFile
  /-- The C type of booleans. -/
  | boolType
  | boolTrue
  | boolFalse
  /-- The include line that the type of booleans needs, if any. -/
  | boolInclude
  deriving DecidableEq, Repr

inductive Piece where
  | text (s : String)
  | tag (t : Tag)
  deriving DecidableEq, Repr

/-- Code with tags. No stretch of text is empty, and no two of them are neighbours. -/
structure Snippet where
  pieces : List Piece
  deriving DecidableEq, Repr

namespace Snippet

def empty : Snippet := ⟨[]⟩

def isEmpty (s : Snippet) : Bool :=
  s.pieces.isEmpty

/-- Puts a piece in front. Text joins the text that it meets. -/
def cons : Piece → Snippet → Snippet
  | .tag t, s => ⟨.tag t :: s.pieces⟩
  | .text front, s =>
    if front = "" then s
    else
      match s.pieces with
      | .text next :: rest => ⟨.text (front ++ next) :: rest⟩
      | pieces => ⟨.text front :: pieces⟩

def ofPieces (pieces : List Piece) : Snippet :=
  pieces.foldr cons empty

def append (s t : Snippet) : Snippet :=
  s.pieces.foldr cons t

def push (s : Snippet) (piece : Piece) : Snippet :=
  s.append (ofPieces [piece])

def join (snippets : List Snippet) : Snippet :=
  snippets.foldr append empty

end Snippet

inductive BoolStorage where
  /-- As `bool`. -/
  | native
  /-- As `uint8_t`. -/
  | integer
  deriving DecidableEq, Repr

namespace BoolStorage

def typeName : BoolStorage → String
  | .native => "bool"
  | .integer => "uint8_t"

def literal : BoolStorage → Bool → String
  | .native, true => "true"
  | .native, false => "false"
  | .integer, true => "1"
  | .integer, false => "0"

def includeLine : BoolStorage → String
  | .native => "#include <stdbool.h>\n"
  | .integer => ""

end BoolStorage

structure Resolution where
  /-- What stands before the C names of each document; nothing for a document beyond the end. -/
  prefixes : Array String
  headerGuard : String
  headerFile : String
  bools : BoolStorage
  deriving DecidableEq, Repr

def Resolution.tag (r : Resolution) : Tag → String
  | .sectionPrefix document => r.prefixes[document]?.getD ""
  | .headerGuard => r.headerGuard
  | .headerFile => r.headerFile
  | .boolType => r.bools.typeName
  | .boolTrue => r.bools.literal true
  | .boolFalse => r.bools.literal false
  | .boolInclude => r.bools.includeLine

def Resolution.piece (r : Resolution) : Piece → String
  | .text s => s
  | .tag t => r.tag t

def Snippet.resolve (s : Snippet) (r : Resolution) : String :=
  s.pieces.foldl (fun out piece => out ++ r.piece piece) ""

end AccessorGen
