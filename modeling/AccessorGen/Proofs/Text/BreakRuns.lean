/- Taking out blank lines, as a whole.
   Of every run of line breaks at most two are kept, and nothing else changes. So the texts without
   three line breaks in a row are those that stay as they are, and a text may be cut anywhere and
   its parts treated first: all that counts of a part is whether it ends with none, one or more line
   breaks. -/

import AccessorGen.Proofs.Text.BlankLines
import AccessorGen.Proofs.Text.LineBreaks
import Mathlib.Data.List.SplitBy

set_option autoImplicit false
set_option relaxedAutoImplicit false

namespace AccessorGen.Text

def threeBreaks : List Char := ['\n', '\n', '\n']

def sameKind (c d : Char) : Bool :=
  (c == '\n') == (d == '\n')

/-- The maximal runs of a text: runs of line breaks, and between them the rest. -/
def runs (cs : List Char) : List (List Char) :=
  cs.splitBy sameKind

/-- A run as it is kept: of line breaks at most two, and all of anything else. -/
def shortened (run : List Char) : List Char :=
  if '\n' ∈ run then List.replicate (min run.length 2) '\n' else run

theorem breaksAfter_congr {a b : Nat} (alike : min a 2 = min b 2) (cs : List Char) :
    min (breaksAfter a cs) 2 = min (breaksAfter b cs) 2 := by
  induction cs generalizing a b with
  | nil => exact alike
  | cons c cs ih =>
    rw [breaksAfter, breaksAfter]
    split
    · apply ih
      omega
    · rfl

/-- What has been taken out behind fewer line breaks would be taken out anyway. -/
theorem keptBehind_keptBehind {a b : Nat} (fewer : a ≤ b) (cs : List Char) :
    keptBehind b (keptBehind a cs) = keptBehind b cs := by
  induction cs generalizing a b with
  | nil => rfl
  | cons c cs ih =>
    by_cases newline : c = '\n'
    · have next := ih (show a + 1 ≤ b + 1 by omega)
      by_cases few : a < 2
      · simp only [keptBehind, newline, if_true, if_pos few, next]
      · -- The break is left out, and behind two or more it would not have counted.
        have many : ¬ b < 2 := by omega
        have same : min b 2 = min (b + 1) 2 := by omega
        simp only [keptBehind, newline, if_true, if_neg few, if_neg many]
        rw [keptBehind_congr same, next]
    · simp only [keptBehind, if_neg newline, ih (Nat.le_refl 0)]

theorem breaksAfter_keptBehind {a b : Nat} (fewer : a ≤ b) (cs : List Char) :
    min (breaksAfter b (keptBehind a cs)) 2 = min (breaksAfter b cs) 2 := by
  induction cs generalizing a b with
  | nil => rfl
  | cons c cs ih =>
    by_cases newline : c = '\n'
    · have next := ih (show a + 1 ≤ b + 1 by omega)
      by_cases few : a < 2
      · simp only [keptBehind, breaksAfter, newline, if_true, if_pos few, next]
      · have same : min b 2 = min (b + 1) 2 := by omega
        simp only [keptBehind, breaksAfter, newline, if_true, if_neg few]
        rw [breaksAfter_congr same, next]
    · simp only [keptBehind, breaksAfter, if_neg newline, ih (Nat.le_refl 0)]

theorem keptBehind_eq_self {breaks : Nat} {cs : List Char}
    (apart : ¬ threeBreaks <:+: List.replicate (min breaks 2) '\n' ++ cs) :
    keptBehind breaks cs = cs := by
  induction cs generalizing breaks with
  | nil => rfl
  | cons c cs ih =>
    by_cases newline : c = '\n'
    · subst newline
      have few : breaks < 2 := by
        by_contra many
        have two : min breaks 2 = 2 := by omega
        apply apart
        rw [two]
        exact ⟨[], cs, rfl⟩
      have more : min (breaks + 1) 2 = min breaks 2 + 1 := by omega
      have rest : keptBehind (breaks + 1) cs = cs := by
        apply ih
        rwa [more, List.replicate_succ', List.append_assoc]
      rw [keptBehind, if_pos rfl, if_pos few, rest]
    · have rest : keptBehind 0 cs = cs := by
        apply ih
        intro inside
        apply apart
        exact inside.trans ⟨List.replicate (min breaks 2) '\n' ++ [c], [], by simp⟩
      rw [keptBehind, if_neg newline, rest]

theorem keptBehind_of_head? (breaks : Nat) {cs : List Char} (inLine : cs.head? ≠ some '\n') :
    keptBehind breaks cs = keptBehind 0 cs := by
  cases cs with
  | nil => rfl
  | cons c cs =>
    have other : c ≠ '\n' := fun same => inLine (congrArg some same)
    rw [keptBehind, keptBehind, if_neg other, if_neg other]

theorem sameKind_iff (c d : Char) : sameKind c d = true ↔ (c = '\n' ↔ d = '\n') := by
  rw [sameKind, beq_iff_eq, Bool.eq_iff_iff, beq_iff_eq, beq_iff_eq]

theorem eq_newline_of_isChain {run : List Char} (uniform : run.IsChain (sameKind · ·))
    (broken : '\n' ∈ run) : ∀ c ∈ run, c = '\n' := by
  induction run with
  | nil => cases broken
  | cons c run ih =>
    cases run with
    | nil => simpa [eq_comm] using broken
    | cons d run =>
      obtain ⟨first, later⟩ := List.isChain_cons_cons.mp uniform
      have same := (sameKind_iff c d).mp first
      have inside : '\n' ∈ d :: run := by
        rcases List.mem_cons.mp broken with here | there
        · exact List.mem_cons.mpr (.inl (same.mp here.symm).symm)
        · exact there
      have rest := ih later inside
      intro x member
      rcases List.mem_cons.mp member with rfl | there
      · exact same.mpr (rest d List.mem_cons_self)
      · exact rest x there

theorem keptBehind_run {run rest : List Char} (uniform : run.IsChain (sameKind · ·))
    (filled : run ≠ []) (ends : '\n' ∈ run → rest.head? ≠ some '\n') :
    keptBehind 0 (run ++ rest) = shortened run ++ keptBehind 0 rest := by
  by_cases broken : '\n' ∈ run
  · rw [shortened, if_pos broken]
    have only : run = List.replicate run.length '\n' :=
      List.eq_replicate_of_mem (eq_newline_of_isChain uniform broken)
    conv_lhs => rw [only]
    rw [keptBehind_replicate, keptBehind_of_head? _ (ends broken)]
  · rw [shortened, if_neg broken, keptBehind_line 0 broken filled]

/-- Every run is shortened where it stands. -/
theorem keptBehind_flatten {parts : List (List Char)} (filled : [] ∉ parts)
    (uniform : ∀ run ∈ parts, run.IsChain (sameKind · ·))
    (maximal : parts.IsChain fun a b => ∃ ha hb, sameKind (a.getLast ha) (b.head hb) = false) :
    keptBehind 0 parts.flatten = parts.flatMap shortened := by
  induction parts with
  | nil => rfl
  | cons run parts ih =>
    have own : run ≠ [] := fun vacant => filled (vacant ▸ List.mem_cons_self)
    have rest := ih (fun member => filled (List.mem_cons_of_mem run member))
      (fun other member => uniform other (List.mem_cons_of_mem run member)) maximal.tail
    have chain := uniform run List.mem_cons_self
    rw [List.flatten_cons, List.flatMap_cons, ← rest]
    apply keptBehind_run chain own
    intro broken
    cases parts with
    | nil => simp
    | cons next parts =>
      obtain ⟨⟨_, filledNext, differs⟩, -⟩ := List.isChain_cons_cons.mp maximal
      have last : run.getLast own = '\n' :=
        eq_newline_of_isChain chain broken _ (List.getLast_mem own)
      obtain ⟨d, others, rfl⟩ := List.exists_cons_of_ne_nil filledNext
      intro first
      obtain rfl : d = '\n' := Option.some.inj first
      rw [last] at differs
      cases differs

theorem collapseChars_eq_runs (cs : List Char) :
    collapseChars cs = (runs cs).flatMap shortened := by
  have whole : cs = (runs cs).flatten := (List.flatten_splitBy sameKind cs).symm
  conv_lhs => rw [whole]
  rw [collapseChars_eq]
  apply keptBehind_flatten
  · exact List.nil_notMem_splitBy sameKind cs
  · intro run member
    exact List.isChain_of_mem_splitBy member
  · exact List.isChain_getLast_head_splitBy sameKind cs

theorem collapseChars_eq_self_iff (cs : List Char) :
    collapseChars cs = cs ↔ ¬ threeBreaks <:+: cs := by
  constructor
  · intro same
    rw [← same]
    exact not_infix_collapseChars cs
  · intro apart
    rw [collapseChars_eq]
    exact keptBehind_eq_self apart

theorem collapseChars_append (front back : List Char) :
    collapseChars (front ++ back) = collapseChars (collapseChars front ++ collapseChars back) := by
  have breaks : min (breaksAfter 0 (keptBehind 0 front)) 2 = min (breaksAfter 0 front) 2 :=
    breaksAfter_keptBehind (Nat.le_refl 0) front
  simp only [collapseChars_eq, keptBehind_append]
  rw [keptBehind_keptBehind (Nat.le_refl 0), keptBehind_keptBehind (Nat.zero_le _),
    keptBehind_congr breaks]

/-- Taking out blank lines shortens each maximal run of line breaks to at most two of them and
changes nothing else. No three line breaks in a row are left, the lines that are not blank stay in
order, a second time changes nothing, exactly the texts without three line breaks in a row stay as
they are, and a text may be cut anywhere and its parts treated first. -/
theorem collapseBlankLines_shortens_runs (text : String) :
    (collapseBlankLines text).toList = (runs text.toList).flatMap shortened ∧
    ¬ threeBreaks <:+: (collapseBlankLines text).toList ∧
    filledLines (collapseBlankLines text).toList = filledLines text.toList ∧
    collapseBlankLines (collapseBlankLines text) = collapseBlankLines text ∧
    (collapseBlankLines text = text ↔ ¬ threeBreaks <:+: text.toList) ∧
    ∀ more : String, collapseBlankLines (text ++ more) =
      collapseBlankLines (collapseBlankLines text ++ collapseBlankLines more) := by
  have chars : ∀ t : String, (collapseBlankLines t).toList = collapseChars t.toList := fun t => by
    rw [collapseBlankLines, String.toList_ofList]
  have apart : ¬ threeBreaks <:+: (collapseBlankLines text).toList := by
    rw [chars]
    exact not_infix_collapseChars text.toList
  have kept : ∀ t : String,
      collapseBlankLines t = t ↔ ¬ threeBreaks <:+: t.toList := by
    intro t
    rw [← String.toList_inj, chars, collapseChars_eq_self_iff]
  refine ⟨?_, apart, ?_, (kept _).mpr apart, kept text, ?_⟩
  · rw [chars, collapseChars_eq_runs]
  · rw [chars, filledLines_collapseChars]
  · intro more
    apply String.toList_injective
    simp only [chars, String.toList_append]
    exact collapseChars_append text.toList more.toList

example : (runs "a\n\n\n\nb\nc\n\n".toList).flatMap shortened = "a\n\nb\nc\n\n".toList := by
  decide

end AccessorGen.Text
