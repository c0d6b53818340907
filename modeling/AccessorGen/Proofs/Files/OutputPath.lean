/- The two output files.
   A path and an extension make a path to a place with a name of its own, so that header and source
   are never one file. -/

import AccessorGen.Files.OutputPath
import AccessorGen.Proofs.Files.FileTree
import AccessorGen.Proofs.Text.Split

set_option autoImplicit false
set_option relaxedAutoImplicit false

namespace AccessorGen.Files

/-- What stands in a path behind its last slash. -/
def OutputPath.lastPart (path : List Char) : List Char :=
  (Text.splitOn '/' path).getLastD []

namespace FileTree

theorem steps_append (path : List Char) :
    ∃ names, ∀ ending : List Char, '/' ∉ ending → ending ≠ [] →
      steps (String.ofList (path ++ ending)) =
        names ++ [String.ofList (OutputPath.lastPart path ++ ending)] := by
  obtain ⟨before, last, parts⟩ := Text.splitOn_append_plain '/' path
  have own : OutputPath.lastPart path = last := by
    have whole := parts [] List.not_mem_nil
    rw [List.append_nil, List.append_nil] at whole
    rw [OutputPath.lastPart, whole, List.getLastD_concat]
  refine ⟨(before.filter fun part => !part.isEmpty).map String.ofList,
    fun ending plain filled => ?_⟩
  have kept : (last ++ ending).isEmpty = false := by
    simp [filled]
  have behind : (before ++ [last ++ ending]).getLast? ≠ some [] := by
    simp [filled]
  rw [steps, String.toList_ofList, parts ending plain, own]
  rw [if_neg behind, List.filter_append, List.map_append]
  simp [kept]

/-- A path whose last step is a name leads to a place of that name. -/
theorem getLast?_of_walk {tree : FileTree} {start place : Place} {names : List String}
    {name : String} (own : name ≠ ".") (up : name ≠ "..")
    (led : tree.walk start (names ++ [name]) = .ok place) : place.getLast? = some name := by
  induction names generalizing start with
  | nil =>
    obtain ⟨-, next, stepped, led⟩ := walk_cons_eq_ok_iff.mp led
    obtain rfl : next = place := Except.ok.inj led
    rw [stepFrom, if_neg own, if_neg up] at stepped
    split at stepped
    · cases stepped
    · obtain rfl := Except.ok.inj stepped
      exact List.getLast?_concat
  | cons step rest ih =>
    obtain ⟨-, next, -, led⟩ := walk_cons_eq_ok_iff.mp led
    exact ih led

theorem locate_eq_ok {tree : FileTree} {path : String} {place : Place}
    (led : tree.locate path = .ok place) :
    tree.walk (tree.origin path) (steps path) = .ok place := by
  rw [locate] at led
  split at led
  · cases led
  · split at led
    · cases led
    · exact led

end FileTree

namespace OutputPath

theorem ofList_extension_ne (last : List Char) {letter : Char} (letters : letter ≠ '.') :
    String.ofList (last ++ ['.', letter]) ≠ "." ∧ String.ofList (last ++ ['.', letter]) ≠ ".." := by
  have ending : ∀ dots : List Char, (∀ c ∈ dots, c = '.') →
      String.ofList (last ++ ['.', letter]) ≠ String.ofList dots := by
    intro dots all same
    have texts := String.ofList_injective same
    exact letters (all letter (texts ▸ by simp))
  exact ⟨ending ['.'] (by simp), ending ['.', '.'] (by simp)⟩

theorem getLast?_of_locate {tree : FileTree} {base : List Char} {extension : Char}
    (letter : extension ≠ '/' ∧ extension ≠ '.') {place : Place}
    (led : tree.locate (String.ofList (withExtension base extension)) = .ok place) :
    place.getLast? = some (String.ofList (lastPart base ++ ['.', extension])) := by
  obtain ⟨names, steps⟩ := FileTree.steps_append base
  have walked := FileTree.locate_eq_ok led
  rw [withExtension, steps ['.', extension] (by simp [letter.1.symm]) (by simp)] at walked
  obtain ⟨own, up⟩ := ofList_extension_ne (lastPart base) letter.2
  exact FileTree.getLast?_of_walk own up walked

theorem not_sameFile_withExtension (tree : FileTree) (base : List Char) {first second : Char}
    (named : ∀ c ∈ [first, second], c ≠ '/' ∧ c ≠ '.') (apart : first ≠ second) :
    ¬ tree.SameFile (String.ofList (withExtension base first))
      (String.ofList (withExtension base second)) := by
  rintro ⟨place, one, other⟩
  have same := (getLast?_of_locate (named first (by simp)) one).symm.trans
    (getLast?_of_locate (named second (by simp)) other)
  have texts := String.ofList_injective (Option.some.inj same)
  exact apart (by simpa using texts)

theorem name_of_named? {path : List Char} {named : Named} (found : named? path = some named) :
    isIdle named.name = false ∧ (named.name = lastPart path ∨ isIdle (lastPart path) = true) := by
  obtain ⟨above, last, parts⟩ : ∃ above last, Text.splitOn '/' path = above ++ [last] := by
    rcases List.eq_nil_or_concat' (Text.splitOn '/' path) with none | split
    · exact absurd none (Text.splitOn_ne_nil '/' path)
    · exact split
  have own : lastPart path = last := by rw [lastPart, parts, List.getLastD_concat]
  have ends := List.head?_dropWhile_not isIdle (Text.splitOn '/' path).reverse
  rw [named?] at found
  cases busy : (Text.splitOn '/' path).reverse.dropWhile isIdle with
  | nil =>
    rw [busy] at found
    cases found
  | cons name rest =>
    rw [busy] at found ends
    dsimp only at found
    split at found
    · cases found
    · obtain rfl := Option.some.inj found
      refine ⟨by simpa using ends, ?_⟩
      by_cases idle : isIdle last = true
      · exact .inr (by rw [own, idle])
      · rw [parts, List.reverse_append, List.reverse_singleton, List.singleton_append,
          List.dropWhile_cons_of_neg idle] at busy
        exact .inl (by rw [own, (List.cons.inj busy).1])

end OutputPath

end AccessorGen.Files
