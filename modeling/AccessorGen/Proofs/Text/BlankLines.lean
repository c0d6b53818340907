/- Lines of a text without repeated blank lines.
   Taking out blank lines leaves every other line as it is, and behind a blank line one more line
   break makes no difference. -/

import AccessorGen.Proofs.Text.LineBreaks
import AccessorGen.Proofs.Text.Split
import AccessorGen.Text.BlankLines

set_option autoImplicit false
set_option relaxedAutoImplicit false

namespace AccessorGen

namespace Text

def filledLines (cs : List Char) : List (List Char) :=
  (splitOn '\n' cs).filter fun line => !line.isEmpty

@[simp] theorem filledLines_nil : filledLines [] = [] :=
  rfl

@[simp] theorem filledLines_append_newline (front back : List Char) :
    filledLines (front ++ '\n' :: back) = filledLines front ++ filledLines back := by
  rw [filledLines, splitOn_append_mark, List.filter_append]
  rfl

@[simp] theorem filledLines_newline_cons (cs : List Char) :
    filledLines ('\n' :: cs) = filledLines cs :=
  filledLines_append_newline [] cs

theorem filledLines_line {line : List Char} (oneLine : '\n' ∉ line) (filled : line ≠ []) :
    filledLines line = [line] := by
  rw [filledLines, splitOn_eq_singleton oneLine]
  simp [filled]

theorem head?_filledLines {cs : List Char} (filled : cs.takeWhile (· != '\n') ≠ []) :
    (filledLines cs).head? = some (cs.takeWhile (· != '\n')) := by
  obtain ⟨rest, lines⟩ := List.head?_eq_some_iff.mp (head?_splitOn '\n' cs)
  rw [filledLines, lines, List.filter_cons_of_pos (by simpa using filled)]
  rfl

theorem mem_of_mem_filledLines {cs line : List Char} {c : Char} (member : line ∈ filledLines cs)
    (inside : c ∈ line) : c ∈ cs :=
  mem_of_mem_splitOn (List.mem_of_mem_filter member) inside

theorem filledLines_keptBehind {breaks : Nat} {front : List Char}
    (ended : 0 < breaks → front.getLast? = some '\n') (cs : List Char) :
    filledLines (front ++ keptBehind breaks cs) = filledLines (front ++ cs) := by
  induction cs generalizing breaks front with
  | nil => rfl
  | cons c cs ih =>
    by_cases newline : c = '\n'
    · subst newline
      by_cases few : breaks < 2
      · have next := ih (show 0 < breaks + 1 → (front ++ ['\n']).getLast? = some '\n' by simp)
        rw [keptBehind, if_pos rfl, if_pos few]
        simpa using next
      · -- The break that is left out follows one that was kept.
        obtain ⟨start, rfl⟩ := List.getLast?_eq_some_iff.mp (ended (by omega))
        have next := ih (show 0 < breaks + 1 → (start ++ ['\n']).getLast? = some '\n' by simp)
        rw [keptBehind, if_pos rfl, if_neg few, next]
        simp
    · have next := ih (show 0 < 0 → (front ++ [c]).getLast? = some '\n' by simp)
      rw [keptBehind, if_neg newline]
      simpa using next

/-- Every line that is not blank stays, and no other comes in. -/
theorem filledLines_collapseChars (cs : List Char) :
    filledLines (collapseChars cs) = filledLines cs := by
  have start : 0 < 0 → ([] : List Char).getLast? = some '\n' := fun never =>
    absurd never (Nat.lt_irrefl 0)
  rw [collapseChars_eq]
  exact filledLines_keptBehind start cs

theorem mem_splitOn_collapseChars {line : List Char} (filled : line ≠ []) (oneLine : '\n' ∉ line)
    (front back : List Char) :
    line ∈ splitOn '\n' (collapseChars (front ++ '\n' :: line ++ '\n' :: back)) := by
  have stays : line ∈ filledLines (collapseChars (front ++ '\n' :: line ++ '\n' :: back)) := by
    rw [filledLines_collapseChars, filledLines_append_newline, filledLines_append_newline,
      filledLines_line oneLine filled]
    simp
  exact List.mem_of_mem_filter stays

theorem collapseChars_third_break (front back : List Char) :
    collapseChars (front ++ '\n' :: '\n' :: '\n' :: back) =
      collapseChars (front ++ '\n' :: '\n' :: back) := by
  have three : '\n' :: '\n' :: '\n' :: back = List.replicate 3 '\n' ++ back := rfl
  have two : '\n' :: '\n' :: back = List.replicate 2 '\n' ++ back := rfl
  have split : ∀ rest, collapseChars (front ++ rest) =
      keptBehind 0 front ++ keptBehind (breaksAfter 0 front) rest := by
    intro rest
    rw [collapseChars_eq, keptBehind_append]
  rw [split, split, three, two, keptBehind_replicate, keptBehind_replicate]
  generalize breaksAfter 0 front = breaks
  have kept : min 3 (2 - breaks) = min 2 (2 - breaks) := by omega
  have alike : min (breaks + 3) 2 = min (breaks + 2) 2 := by omega
  rw [kept, keptBehind_congr alike]

end Text

/-- Text that is empty or ends with the end of a line. -/
def EndsLine (text : String) : Prop :=
  text = "" ∨ ∃ front, text = front ++ "\n"

theorem endsLine_empty : EndsLine "" :=
  .inl rfl

theorem endsLine_of_append (front : String) {last : String}
    (ended : ∃ rest, last = rest ++ "\n") : EndsLine (front ++ last) := by
  obtain ⟨rest, rfl⟩ := ended
  exact .inr ⟨front ++ rest, by rw [String.append_assoc]⟩

theorem EndsLine.append {front back : String} (first : EndsLine front)
    (second : EndsLine back) : EndsLine (front ++ back) := by
  rcases second with rfl | ended
  · rwa [String.append_empty]
  · exact endsLine_of_append front ended

theorem EndsLine.join {texts : List String} (ended : ∀ text ∈ texts, EndsLine text) :
    EndsLine (String.join texts) := by
  induction texts with
  | nil => exact endsLine_empty
  | cons first rest ih =>
    have later : ∀ text ∈ rest, EndsLine text := fun text member =>
      ended text (List.mem_cons_of_mem first member)
    rw [String.join_cons]
    exact (ended first List.mem_cons_self).append (ih later)

theorem EndsLine.filledLines_append {front : String} (ended : EndsLine front) (back : String) :
    Text.filledLines (front ++ back).toList =
      Text.filledLines front.toList ++ Text.filledLines back.toList := by
  rcases ended with rfl | ⟨text, rfl⟩
  · simp
  · have last : (text ++ "\n").toList = text.toList ++ '\n' :: [] := by simp
    rw [String.toList_append, last, List.append_assoc, List.cons_append, List.nil_append,
      Text.filledLines_append_newline, Text.filledLines_append_newline, Text.filledLines_nil,
      List.append_nil]

/-- Text that ends with a blank line. -/
def EndsBlank (text : String) : Prop :=
  ∃ front, text = front ++ "\n\n"

theorem EndsLine.append_newline_endsBlank {front back : String} (before : EndsBlank front)
    (ended : EndsLine back) : EndsBlank (front ++ back ++ "\n") := by
  have pair : "\n" ++ "\n" = "\n\n" := by decide
  rcases ended with rfl | ⟨text, rfl⟩
  · obtain ⟨text, rfl⟩ := before
    refine ⟨text ++ "\n", ?_⟩
    simp only [String.append_assoc, String.empty_append, ← pair]
  · exact ⟨front ++ text, by simp only [String.append_assoc, ← pair]⟩

theorem EndsBlank.collapse_newline {front : String} (ended : EndsBlank front) (back : String) :
    Text.collapseBlankLines (front ++ ("\n" ++ back)) =
      Text.collapseBlankLines (front ++ back) := by
  obtain ⟨text, rfl⟩ := ended
  have three : (text ++ "\n\n" ++ ("\n" ++ back)).toList =
      text.toList ++ '\n' :: '\n' :: '\n' :: back.toList := by simp
  have two : (text ++ "\n\n" ++ back).toList = text.toList ++ '\n' :: '\n' :: back.toList := by
    simp
  rw [Text.collapseBlankLines, Text.collapseBlankLines, three, two,
    Text.collapseChars_third_break]

def spaced (texts : List String) : String :=
  String.join (texts.map (· ++ "\n"))

theorem spaced_cons (text : String) (rest : List String) :
    spaced (text :: rest) = text ++ "\n" ++ spaced rest := by
  rw [spaced, List.map_cons, String.join_cons]
  rfl

theorem EndsBlank.append_spaced {front : String} (before : EndsBlank front) {texts : List String}
    (ended : ∀ text ∈ texts, EndsLine text) : EndsBlank (front ++ spaced texts) := by
  induction texts generalizing front with
  | nil => simpa [spaced] using before
  | cons text rest ih =>
    have first := (ended text List.mem_cons_self).append_newline_endsBlank before
    have all := ih first fun later member => ended later (List.mem_cons_of_mem text member)
    rwa [spaced_cons, ← String.append_assoc, ← String.append_assoc]

/-- Behind a blank line, texts that are empty leave no trace. -/
theorem EndsBlank.collapse_spaced {front : String} (before : EndsBlank front)
    {texts : List String} (ended : ∀ text ∈ texts, EndsLine text) (back : String) :
    Text.collapseBlankLines (front ++ (spaced texts ++ back)) =
      Text.collapseBlankLines (front ++ (spaced (texts.filter (· ≠ "")) ++ back)) := by
  induction texts generalizing front with
  | nil => rfl
  | cons text rest ih =>
    have later : ∀ next ∈ rest, EndsLine next := fun next member =>
      ended next (List.mem_cons_of_mem text member)
    by_cases vacant : text = ""
    · rw [vacant, spaced_cons, String.empty_append, String.append_assoc,
        before.collapse_newline, ih before later, List.filter_cons_of_neg (by simp)]
    · have first := (ended text List.mem_cons_self).append_newline_endsBlank before
      have kept := ih first later
      rw [List.filter_cons_of_pos (by simpa using vacant), spaced_cons, spaced_cons]
      simpa only [String.append_assoc] using kept

end AccessorGen
