/- Blank lines.
   A run of blank lines becomes a single one: of every run of line breaks, two are kept. -/

set_option autoImplicit false
set_option relaxedAutoImplicit false

namespace AccessorGen.Text

/-- The text kept so far, newest character first, and the line breaks that just preceded. -/
structure Collapse where
  kept : List Char
  breaks : Nat
  deriving DecidableEq, Repr

def Collapse.step (state : Collapse) (c : Char) : Collapse :=
  if c = '\n' then
    ⟨if state.breaks < 2 then c :: state.kept else state.kept, state.breaks + 1⟩
  else ⟨c :: state.kept, 0⟩

def collapseChars (cs : List Char) : List Char :=
  (cs.foldl Collapse.step ⟨[], 0⟩).kept.reverse

/-- A text in which no two blank lines follow each other. -/
def collapseBlankLines (code : String) : String :=
  String.ofList (collapseChars code.toList)

example : collapseChars ['a', '\n', '\n', '\n', 'b'] = ['a', '\n', '\n', 'b'] := by decide

end AccessorGen.Text
