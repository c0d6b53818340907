/- Splitting a text at a character, joining it again, and searching in it. -/

set_option autoImplicit false
set_option relaxedAutoImplicit false

namespace AccessorGen.Text

/-- The parts of a text between the occurrences of `mark`; a text without it is one part. -/
def splitOn (mark : Char) (cs : List Char) : List (List Char) :=
  cs.foldr
    (fun c parts =>
      if c = mark then [] :: parts
      else
        match parts with
        | [] => [[c]]
        | part :: rest => (c :: part) :: rest)
    [[]]

def joinWith (mark : Char) : List (List Char) → List Char
  | [] => []
  | [part] => part
  | part :: rest => part ++ mark :: joinWith mark rest

def occursIn (needle : List Char) : List Char → Bool
  | [] => needle.isEmpty
  | c :: rest => if needle.isPrefixOf (c :: rest) then true else occursIn needle rest

example : splitOn ':' ['a', ':', ':', 'b'] = [['a'], [], ['b']] := by decide

end AccessorGen.Text
