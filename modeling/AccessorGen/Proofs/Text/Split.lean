/- Splitting a text at a mark.
   The parts of a text hold everything but the marks, and what is put behind a text belongs to its
   last part. A text occurs in another exactly if it is a stretch of it. -/

import AccessorGen.Text.Split
import Mathlib.Data.List.Basic

set_option autoImplicit false
set_option relaxedAutoImplicit false

namespace AccessorGen.Text

theorem splitOn_ne_nil (mark : Char) (cs : List Char) : splitOn mark cs ≠ [] := by
  cases cs with
  | nil => simp [splitOn]
  | cons c cs =>
    rw [splitOn, List.foldr_cons]
    split
    · simp
    · split <;> simp

theorem splitOn_cons (mark c : Char) (cs : List Char) :
    splitOn mark (c :: cs) =
      if c = mark then [] :: splitOn mark cs
      else
        match splitOn mark cs with
        | [] => [[c]]
        | part :: rest => (c :: part) :: rest :=
  rfl

theorem splitOn_append_mark (mark : Char) (front back : List Char) :
    splitOn mark (front ++ mark :: back) = splitOn mark front ++ splitOn mark back := by
  induction front with
  | nil => simp [splitOn]
  | cons c front ih =>
    rw [List.cons_append, splitOn_cons, splitOn_cons, ih]
    split
    · rfl
    · obtain ⟨part, rest, parts⟩ := List.exists_cons_of_ne_nil (splitOn_ne_nil mark front)
      rw [parts]
      rfl

theorem splitOn_eq_singleton {mark : Char} {cs : List Char} (absent : mark ∉ cs) :
    splitOn mark cs = [cs] := by
  induction cs with
  | nil => rfl
  | cons c cs ih =>
    obtain ⟨other, later⟩ := not_or.mp (mt List.mem_cons.mpr absent)
    rw [splitOn_cons, ih later, if_neg (Ne.symm other)]

theorem splitOn_append_plain (mark : Char) (front : List Char) :
    ∃ before last, ∀ back : List Char, mark ∉ back →
      splitOn mark (front ++ back) = before ++ [last ++ back] := by
  induction front with
  | nil => exact ⟨[], [], fun back absent => splitOn_eq_singleton absent⟩
  | cons c front ih =>
    obtain ⟨before, last, parts⟩ := ih
    by_cases cut : c = mark
    · refine ⟨[] :: before, last, fun back absent => ?_⟩
      rw [List.cons_append, splitOn_cons, if_pos cut, parts back absent, List.cons_append]
    · cases before with
      | nil =>
        refine ⟨[], c :: last, fun back absent => ?_⟩
        rw [List.cons_append, splitOn_cons, if_neg cut, parts back absent]
        rfl
      | cons part rest =>
        refine ⟨(c :: part) :: rest, last, fun back absent => ?_⟩
        rw [List.cons_append, splitOn_cons, if_neg cut, parts back absent]
        rfl

theorem head?_splitOn (mark : Char) (cs : List Char) :
    (splitOn mark cs).head? = some (cs.takeWhile (· != mark)) := by
  induction cs with
  | nil => rfl
  | cons c cs ih =>
    obtain ⟨part, rest, parts⟩ := List.exists_cons_of_ne_nil (splitOn_ne_nil mark cs)
    rw [parts] at ih
    rw [splitOn_cons, parts]
    by_cases cut : c = mark
    · simp [cut]
    · have later := Option.some.inj ih
      simp [cut, later]

theorem joinWith_splitOn (mark : Char) (cs : List Char) :
    joinWith mark (splitOn mark cs) = cs := by
  induction cs with
  | nil => rfl
  | cons c cs ih =>
    obtain ⟨part, rest, parts⟩ := List.exists_cons_of_ne_nil (splitOn_ne_nil mark cs)
    rw [parts] at ih
    rw [splitOn_cons, parts]
    split
    · rename_i same
      rw [same, joinWith, ih, List.nil_append]
      exact List.cons_ne_nil part rest
    · cases rest with
      | nil => exact congrArg (c :: ·) ih
      | cons next more => exact congrArg (c :: ·) ih

theorem splitOn_joinWith {mark : Char} {part : List Char} {rest : List (List Char)}
    (plain : ∀ p ∈ part :: rest, mark ∉ p) :
    splitOn mark (joinWith mark (part :: rest)) = part :: rest := by
  induction rest generalizing part with
  | nil => exact splitOn_eq_singleton (plain part List.mem_cons_self)
  | cons next more ih =>
    have first := plain part List.mem_cons_self
    have later := ih fun p member => plain p (List.mem_cons_of_mem part member)
    rw [joinWith, splitOn_append_mark, splitOn_eq_singleton first, later, List.singleton_append]
    exact List.cons_ne_nil next more

theorem mem_of_mem_splitOn {mark c : Char} {cs part : List Char}
    (member : part ∈ splitOn mark cs) (inside : c ∈ part) : c ∈ cs := by
  rw [← joinWith_splitOn mark cs]
  generalize splitOn mark cs = parts at member
  induction parts with
  | nil => cases member
  | cons first rest ih =>
    cases rest with
    | nil =>
      obtain rfl := List.mem_singleton.mp member
      exact inside
    | cons next more =>
      rw [joinWith]
      · rcases List.mem_cons.mp member with rfl | later
        · exact List.mem_append_left _ inside
        · exact List.mem_append_right _ (List.mem_cons_of_mem mark (ih later))
      · exact List.cons_ne_nil next more

theorem not_mem_of_mem_splitOn {mark : Char} {cs part : List Char}
    (member : part ∈ splitOn mark cs) : mark ∉ part := by
  induction cs generalizing part with
  | nil =>
    obtain rfl := List.mem_singleton.mp member
    exact List.not_mem_nil
  | cons c cs ih =>
    obtain ⟨first, rest, parts⟩ := List.exists_cons_of_ne_nil (splitOn_ne_nil mark cs)
    rw [parts] at ih
    rw [splitOn_cons, parts] at member
    by_cases cut : c = mark
    · rw [if_pos cut] at member
      rcases List.mem_cons.mp member with rfl | later
      · exact List.not_mem_nil
      · exact ih later
    · rw [if_neg cut] at member
      rcases List.mem_cons.mp member with rfl | later
      · intro inside
        rcases List.mem_cons.mp inside with same | behind
        · exact cut same.symm
        · exact ih List.mem_cons_self behind
      · exact ih (List.mem_cons_of_mem first later)

theorem takeWhile_append_stop {p : Char → Bool} {stop : Char} (stops : p stop = false)
    (front back : List Char) : (front ++ stop :: back).takeWhile p = front.takeWhile p := by
  induction front with
  | nil => simp [stops]
  | cons c rest ih =>
    rw [List.cons_append, List.takeWhile_cons, List.takeWhile_cons, ih]

theorem occursIn_iff_infix (needle cs : List Char) :
    occursIn needle cs = true ↔ needle <:+: cs := by
  induction cs with
  | nil => simp [occursIn]
  | cons c rest ih =>
    rw [occursIn, List.infix_cons_iff, ← ih, ← List.isPrefixOf_iff_prefix]
    split
    · rename_i here
      simp [here]
    · rename_i elsewhere
      simp [elsewhere]

end AccessorGen.Text
