/- Runs of line breaks.
   Blank lines are taken out from the front. What is kept of a text depends on the text before it
   only through the line breaks that it ends with, and of these no three are kept in a row. -/

import AccessorGen.Text.BlankLines
import Mathlib.Data.List.Induction

set_option autoImplicit false
set_option relaxedAutoImplicit false

namespace AccessorGen.Text

/-- What is kept of a text that stands behind `breaks` line breaks. -/
def keptBehind : Nat → List Char → List Char
  | _, [] => []
  | breaks, c :: cs =>
    if c = '\n' then
      if breaks < 2 then c :: keptBehind (breaks + 1) cs else keptBehind (breaks + 1) cs
    else c :: keptBehind 0 cs

/-- The line breaks at the end of a text that stands behind `breaks` of them. -/
def breaksAfter : Nat → List Char → Nat
  | breaks, [] => breaks
  | breaks, c :: cs => if c = '\n' then breaksAfter (breaks + 1) cs else breaksAfter 0 cs

theorem foldl_step (cs : List Char) (state : Collapse) :
    cs.foldl Collapse.step state =
      ⟨(keptBehind state.breaks cs).reverse ++ state.kept, breaksAfter state.breaks cs⟩ := by
  induction cs generalizing state with
  | nil => rfl
  | cons c cs ih =>
    rw [List.foldl_cons, ih, Collapse.step, keptBehind, breaksAfter]
    by_cases newline : c = '\n'
    · by_cases few : state.breaks < 2 <;> simp [newline, few]
    · simp [newline]

theorem collapseChars_eq (cs : List Char) : collapseChars cs = keptBehind 0 cs := by
  simp [collapseChars, foldl_step]

theorem keptBehind_append (breaks : Nat) (front back : List Char) :
    keptBehind breaks (front ++ back) =
      keptBehind breaks front ++ keptBehind (breaksAfter breaks front) back := by
  induction front generalizing breaks with
  | nil => rfl
  | cons c front ih =>
    rw [List.cons_append, keptBehind, keptBehind, breaksAfter, ih, ih]
    by_cases newline : c = '\n'
    · by_cases few : breaks < 2 <;> simp [newline, few]
    · simp [newline]

theorem breaksAfter_append (breaks : Nat) (front back : List Char) :
    breaksAfter breaks (front ++ back) = breaksAfter (breaksAfter breaks front) back := by
  induction front generalizing breaks with
  | nil => rfl
  | cons c front ih =>
    rw [List.cons_append, breaksAfter, breaksAfter, ih, ih]
    split <;> rfl

/-- Two line breaks in front count as much as more of them. -/
theorem keptBehind_congr {a b : Nat} (alike : min a 2 = min b 2) (cs : List Char) :
    keptBehind a cs = keptBehind b cs := by
  induction cs generalizing a b with
  | nil => rfl
  | cons c cs ih =>
    have together : a < 2 ↔ b < 2 := by omega
    have next := ih (show min (a + 1) 2 = min (b + 1) 2 by omega)
    simp only [keptBehind, together, next]

theorem keptBehind_replicate (breaks n : Nat) (rest : List Char) :
    keptBehind breaks (List.replicate n '\n' ++ rest) =
      List.replicate (min n (2 - breaks)) '\n' ++ keptBehind (breaks + n) rest := by
  induction n generalizing breaks with
  | zero => simp
  | succ n ih =>
    rw [List.replicate_succ, List.cons_append, keptBehind, if_pos rfl, ih,
      Nat.add_right_comm, Nat.add_assoc]
    by_cases few : breaks < 2
    · have more : min (n + 1) (2 - breaks) = min n (2 - (breaks + 1)) + 1 := by omega
      rw [if_pos few, more, List.replicate_succ, List.cons_append]
    · have none : min n (2 - (breaks + 1)) = min (n + 1) (2 - breaks) := by omega
      rw [if_neg few, none]

theorem keptBehind_line (breaks : Nat) {line : List Char} (oneLine : '\n' ∉ line)
    (filled : line ≠ []) (rest : List Char) :
    keptBehind breaks (line ++ rest) = line ++ keptBehind 0 rest := by
  induction line generalizing breaks with
  | nil => exact absurd rfl filled
  | cons c line ih =>
    obtain ⟨other, later⟩ := not_or.mp (mt List.mem_cons.mpr oneLine)
    rw [List.cons_append, keptBehind, if_neg (Ne.symm other)]
    cases line with
    | nil => rfl
    | cons d line => rw [ih 0 later (List.cons_ne_nil d line), List.cons_append (a := c)]

theorem keptBehind_whole_line (breaks : Nat) {line : List Char} (oneLine : '\n' ∉ line)
    (filled : line ≠ []) (rest : List Char) :
    keptBehind breaks (line ++ '\n' :: rest) = line ++ '\n' :: keptBehind 1 rest := by
  rw [keptBehind_line breaks oneLine filled]
  rfl

theorem exists_keptBehind_newline (front : List Char) (broken : 0 < breaksAfter 0 front) :
    ∃ start, keptBehind 0 front = start ++ ['\n'] := by
  induction front using List.reverseRecOn with
  | nil => exact absurd broken (Nat.lt_irrefl 0)
  | append_singleton front c ih =>
    rw [keptBehind_append]
    rw [breaksAfter_append] at broken
    by_cases newline : c = '\n'
    · subst newline
      by_cases few : breaksAfter 0 front < 2
      · exact ⟨keptBehind 0 front, by simp [keptBehind, few]⟩
      · -- The break is left out, and one that was kept stands before it.
        obtain ⟨start, ended⟩ := ih (by omega)
        exact ⟨start, by simp [keptBehind, few, ended]⟩
    · simp [breaksAfter, newline] at broken

@[simp] theorem head?_collapseChars (cs : List Char) :
    (collapseChars cs).head? = cs.head? := by
  rw [collapseChars_eq]
  cases cs with
  | nil => rfl
  | cons c cs =>
    rw [keptBehind]
    split <;> rfl

@[simp] theorem getLast?_collapseChars (cs : List Char) :
    (collapseChars cs).getLast? = cs.getLast? := by
  rw [collapseChars_eq]
  induction cs using List.reverseRecOn with
  | nil => rfl
  | append_singleton front c _ =>
    rw [keptBehind_append, List.getLast?_append, List.getLast?_concat]
    by_cases left : c = '\n' ∧ ¬ breaksAfter 0 front < 2
    · obtain ⟨rfl, many⟩ := left
      obtain ⟨start, ended⟩ := exists_keptBehind_newline front (by omega)
      simp [keptBehind, many, ended]
    · have kept : keptBehind (breaksAfter 0 front) [c] = [c] := by
        rw [keptBehind]
        by_cases newline : c = '\n'
        · rw [if_pos newline, if_pos (not_not.mp fun many => left ⟨newline, many⟩), keptBehind]
        · rw [if_neg newline, keptBehind]
      rw [kept]
      rfl

theorem breaksAfter_of_getLast? (breaks : Nat) {cs : List Char} {c : Char}
    (last : cs.getLast? = some c) (other : c ≠ '\n') : breaksAfter breaks cs = 0 := by
  obtain ⟨front, rfl⟩ := List.getLast?_eq_some_iff.mp last
  rw [breaksAfter_append, breaksAfter, if_neg other, breaksAfter]

theorem collapseChars_append_line (front : List Char) {line : List Char} (oneLine : '\n' ∉ line)
    (filled : line ≠ []) (rest : List Char) :
    ∃ start, collapseChars (front ++ '\n' :: (line ++ rest)) =
      start ++ '\n' :: (line ++ keptBehind 0 rest) := by
  rw [collapseChars_eq, keptBehind_append, keptBehind, if_pos rfl,
    keptBehind_line _ oneLine filled]
  by_cases few : breaksAfter 0 front < 2
  · exact ⟨keptBehind 0 front, by rw [if_pos few]⟩
  · obtain ⟨start, ended⟩ := exists_keptBehind_newline front (by omega)
    exact ⟨start, by rw [if_neg few, ended, List.append_assoc]; rfl⟩

/-- Also together with the line breaks that precede, no three are kept in a row. -/
private theorem not_infix_behind (breaks : Nat) (cs : List Char) :
    ¬ ['\n', '\n', '\n'] <:+: List.replicate (min breaks 2) '\n' ++ keptBehind breaks cs := by
  induction cs generalizing breaks with
  | nil =>
    intro occurs
    have short := occurs.length_le
    rw [keptBehind, List.append_nil, List.length_replicate] at short
    have three : ['\n', '\n', '\n'].length = 3 := rfl
    omega
  | cons c cs ih =>
    rw [keptBehind]
    by_cases newline : c = '\n'
    · rw [if_pos newline]
      have next := ih (breaks + 1)
      by_cases few : breaks < 2
      · have more : min (breaks + 1) 2 = min breaks 2 + 1 := by omega
        rw [more, List.replicate_succ', List.append_assoc] at next
        rw [if_pos few, newline]
        exact next
      · have same : min (breaks + 1) 2 = min breaks 2 := by omega
        rw [if_neg few, ← same]
        exact next
    · have rest := ih 0
      have other : ¬ '\n' = c := Ne.symm newline
      rw [if_neg newline]
      have bound : min breaks 2 = 0 ∨ min breaks 2 = 1 ∨ min breaks 2 = 2 := by omega
      rcases bound with none | one | two
      · simpa [none, List.infix_cons_iff, List.cons_prefix_cons, other] using rest
      · simpa [one, List.infix_cons_iff, List.cons_prefix_cons, other] using rest
      · simpa [two, List.infix_cons_iff, List.cons_prefix_cons, other] using rest

theorem not_infix_collapseChars (cs : List Char) :
    ¬ ['\n', '\n', '\n'] <:+: collapseChars cs := by
  rw [collapseChars_eq]
  exact not_infix_behind 0 cs

end AccessorGen.Text
