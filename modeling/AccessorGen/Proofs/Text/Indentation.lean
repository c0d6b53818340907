/- Indented text.
   One walk along a text tells whether it is made of whole lines that are blank or start with a
   space. -/

import AccessorGen.Proofs.Text.BlankLines

set_option autoImplicit false
set_option relaxedAutoImplicit false

namespace AccessorGen

/-- Where a walk along indented text stands. -/
inductive LinePlace where
  | start
  | inside
  /-- Behind a line that starts with something else than a space. -/
  | broken
  deriving DecidableEq, Repr

namespace LinePlace

def step (place : LinePlace) (c : Char) : LinePlace :=
  match place with
  | .broken => .broken
  | .start => if c = '\n' then .start else if c = ' ' then .inside else .broken
  | .inside => if c = '\n' then .start else .inside

def after (place : LinePlace) (text : String) : LinePlace :=
  text.toList.foldl step place

@[simp] theorem after_append (place : LinePlace) (front back : String) :
    place.after (front ++ back) = (place.after front).after back := by
  rw [after, String.toList_append, List.foldl_append]
  rfl

theorem after_ofList (place : LinePlace) (cs : List Char) :
    place.after (String.ofList cs) = cs.foldl step place := by
  rw [after, String.toList_ofList]

private theorem foldl_broken (cs : List Char) : cs.foldl step .broken = .broken := by
  induction cs with
  | nil => rfl
  | cons c cs ih => exact ih

theorem inside_after {text : String} (oneLine : '\n' ∉ text.toList) :
    inside.after text = .inside := by
  have walk : ∀ cs : List Char, '\n' ∉ cs → cs.foldl step .inside = .inside := by
    intro cs
    induction cs with
    | nil => exact fun _ => rfl
    | cons c cs ih =>
      intro absent
      obtain ⟨other, later⟩ := not_or.mp (mt List.mem_cons.mpr absent)
      rw [List.foldl_cons, step, if_neg (Ne.symm other), ih later]
  exact walk text.toList oneLine

end LinePlace

/-- Text of whole lines that are blank or start with a space. -/
def Indented (text : String) : Prop :=
  LinePlace.start.after text = .start

theorem Indented.endsLine {text : String} (indented : Indented text) : EndsLine text := by
  rcases List.eq_nil_or_concat text.toList with vacant | ⟨front, last, shape⟩
  · exact .inl (String.toList_inj.mp vacant)
  · have ended := indented
    rw [List.concat_eq_append] at shape
    rw [Indented, LinePlace.after, shape, List.foldl_concat] at ended
    have newline : last = '\n' := by
      unfold LinePlace.step at ended
      split at ended
      · cases ended
      · split at ended
        · assumption
        · split at ended <;> cases ended
      · split at ended
        · assumption
        · cases ended
    refine .inr ⟨String.ofList front, String.toList_inj.mp ?_⟩
    rw [shape, newline]
    simp

/-- In a text whose walk does not break, all lines behind the first are indented, and so is the
first if the walk starts with it. -/
private theorem indented_splitOn {cs : List Char} :
    (cs.foldl LinePlace.step .start ≠ .broken →
      ∀ line ∈ Text.splitOn '\n' cs, line = [] ∨ line.head? = some ' ') ∧
    (cs.foldl LinePlace.step .inside ≠ .broken →
      ∀ line ∈ (Text.splitOn '\n' cs).tail, line = [] ∨ line.head? = some ' ') := by
  induction cs with
  | nil => simp [Text.splitOn]
  | cons c cs ih =>
    obtain ⟨fromStart, fromInside⟩ := ih
    obtain ⟨part, rest, parts⟩ := List.exists_cons_of_ne_nil (Text.splitOn_ne_nil '\n' cs)
    rw [parts] at fromStart fromInside
    rw [Text.splitOn_cons, parts, List.foldl_cons, List.foldl_cons]
    by_cases newline : c = '\n'
    · simp only [LinePlace.step, newline, if_true, List.tail_cons, List.mem_cons]
      constructor
      · rintro whole line (rfl | member)
        · exact .inl rfl
        · exact fromStart whole line (List.mem_cons.mpr member)
      · intro whole line member
        exact fromStart whole line (List.mem_cons.mpr member)
    · simp only [LinePlace.step, newline, if_false, List.tail_cons]
      constructor
      · intro whole line member
        by_cases space : c = ' '
        · rw [if_pos space] at whole
          rcases List.mem_cons.mp member with rfl | later
          · exact .inr (by rw [space]; rfl)
          · exact fromInside whole line later
        · rw [if_neg space, LinePlace.foldl_broken] at whole
          exact absurd rfl whole
      · exact fun whole line member => fromInside whole line member

theorem Indented.head?_filledLines {text : String} (indented : Indented text) :
    ∀ line ∈ Text.filledLines text.toList, line.head? = some ' ' := by
  intro line member
  obtain ⟨inside, filled⟩ := List.mem_filter.mp member
  have whole : text.toList.foldl LinePlace.step .start ≠ .broken := by
    rw [Indented, LinePlace.after] at indented
    rw [indented]
    decide
  rcases indented_splitOn.1 whole line inside with rfl | spaced
  · cases filled
  · exact spaced

end AccessorGen
