/- Directories on the way to a file.
   Making the directory of a file fills vacant places only, and each of them lies on the way that
   the path of the file takes. -/

import AccessorGen.Files.OutputPath
import AccessorGen.Proofs.Files.FileTree
import AccessorGen.Proofs.Text.Split
import Mathlib.Data.List.TakeWhile

set_option autoImplicit false
set_option relaxedAutoImplicit false

namespace AccessorGen.Files

namespace FileTree

/-- Directories have come in at vacant places that the first of some steps lead to, and nothing else
has changed. -/
structure Opens (start : Place) (names : List String) (tree after : FileTree) : Prop where
  home : after.home = tree.home
  places : ∀ place, after.node? place = tree.node? place ∨
    tree.node? place = none ∧ after.node? place = some .directory ∧
      ∃ front, front <+: names ∧ after.walk start front = .ok place

namespace Opens

variable {start : Place} {names : List String} {tree mid after : FileTree}

theorem refl (start : Place) (names : List String) (tree : FileTree) :
    Opens start names tree tree :=
  ⟨rfl, fun _ => .inl rfl⟩

theorem keeps (opens : Opens start names tree after) : tree.Keeps after := by
  refine ⟨opens.home, fun place node there => ?_⟩
  rcases opens.places place with same | ⟨vacant, -, -⟩
  · rw [same, there]
  · rw [vacant] at there
    cases there

theorem trans (first : Opens start names tree mid) (second : Opens start names mid after) :
    Opens start names tree after := by
  refine ⟨second.home.trans first.home, fun place => ?_⟩
  rcases second.places place with same | ⟨vacant, made, reached⟩
  · rcases first.places place with old | ⟨vacant, made, front, inside, led⟩
    · exact .inl (same.trans old)
    · exact .inr ⟨vacant, same.trans made, front, inside, second.keeps.grows.walk led⟩
  · rcases first.places place with old | ⟨-, made', -⟩
    · exact .inr ⟨old.symm.trans vacant, made, reached⟩
    · rw [vacant] at made'
      cases made'

theorem mono {more : List String} (opens : Opens start names tree after) (inside : names <+: more) :
    Opens start more tree after := by
  refine ⟨opens.home, fun place => ?_⟩
  rcases opens.places place with same | ⟨vacant, made, front, shorter, led⟩
  · exact .inl same
  · exact .inr ⟨vacant, made, front, shorter.trans inside, led⟩

end Opens

theorem opens_of_makeDirectory {tree made : FileTree} {start : Place} {names : List String}
    (done : tree.makeDirectory start names = .ok made) : Opens start names tree made := by
  have grows := (keeps_of_makeDirectory done).grows
  obtain ⟨place, led, done⟩ := bind_eq_ok_iff.mp done
  cases vacant : tree.node? place with
  | some node =>
    rw [vacant] at done
    cases done
  | none =>
    rw [vacant] at done
    obtain rfl := Except.ok.inj done
    have free : tree.node? place ≠ some .directory := by
      rw [vacant]
      simp
    refine ⟨rfl, fun other => ?_⟩
    by_cases same : other = place
    · subst same
      exact .inr ⟨vacant, node?_put_self (not_isPrefixOf_home free) .directory, names,
        List.prefix_rfl, grows.walk led⟩
    · exact .inl (node?_put_other same .directory)

theorem opens_ensureDirectory (tree : FileTree) (start : Place) (names : List String) :
    Opens start names tree (tree.ensureDirectory start names).1 := by
  unfold ensureDirectory
  split
  · rename_i made done
    exact opens_of_makeDirectory done
  · split <;> exact Opens.refl start names tree

theorem opens_ensureDirectories (tree : FileTree) (start : Place) (names : List String) :
    Opens start names.reverse tree (tree.ensureDirectories start names).1 := by
  induction names with
  | nil => exact Opens.refl start [] tree
  | cons last above ih =>
    have shorter : above.reverse <+: (last :: above).reverse := by
      rw [List.reverse_cons]
      exact List.prefix_append _ _
    rw [ensureDirectories]
    split
    · split
      · rename_i made run
        rw [run] at ih
        exact (ih.mono shorter).trans (opens_ensureDirectory made start _)
      · exact ih.mono shorter
    · exact opens_ensureDirectory tree start _

theorem opens_makeDirectories (tree : FileTree) (path : String) :
    Opens (tree.origin path) ((steps path).filter (· != ".")) tree
      (tree.makeDirectories path).1 := by
  unfold makeDirectories
  split
  · exact Opens.refl _ _ tree
  · have opens := opens_ensureDirectories tree (tree.origin path)
      ((steps path).filter (· != ".")).reverse
    rwa [List.reverse_reverse] at opens

/-- Steps into the directory itself may be put in again without leading elsewhere. -/
theorem exists_prefix_of_walk_filter {tree : FileTree} {place : Place} (names : List String)
    {start : Place} {front : List String} (inside : front <+: names.filter (· != "."))
    (led : tree.walk start front = .ok place) :
    ∃ longer, longer <+: names ∧ tree.walk start longer = .ok place := by
  induction names generalizing start front with
  | nil =>
    obtain rfl : front = [] := by simpa using inside
    exact ⟨[], List.prefix_rfl, led⟩
  | cons step rest ih =>
    cases front with
    | nil => exact ⟨[], List.nil_prefix, led⟩
    | cons first others =>
      obtain ⟨directory, next, stepped, leads⟩ := walk_cons_eq_ok_iff.mp led
      by_cases idle : step = "."
      · -- A single dot stays in the directory that the first step leaves.
        have stays : stepFrom start step = .ok start := if_pos idle
        rw [List.filter_cons_of_neg (by simp [idle])] at inside
        obtain ⟨longer, shorter, arrives⟩ := ih inside led
        exact ⟨step :: longer, List.cons_prefix_cons.mpr ⟨rfl, shorter⟩,
          walk_cons_eq_ok_iff.mpr ⟨directory, start, stays, arrives⟩⟩
      · rw [List.filter_cons_of_pos (by simpa using idle)] at inside
        obtain ⟨rfl, later⟩ := List.cons_prefix_cons.mp inside
        obtain ⟨longer, shorter, arrives⟩ := ih later leads
        exact ⟨first :: longer, List.cons_prefix_cons.mpr ⟨rfl, shorter⟩,
          walk_cons_eq_ok_iff.mpr ⟨directory, next, stepped, arrives⟩⟩

/-- A place on the way that a path takes: where a walk stands before one of the steps. -/
def LeadsOver (tree : FileTree) (path : String) (place : Place) : Prop :=
  ∃ front back, steps path = front ++ back ∧ back ≠ [] ∧
    tree.walk (tree.origin path) front = .ok place

theorem LeadsOver.of_grows {tree after : FileTree} {path : String} {place : Place}
    (above : tree.LeadsOver path place) (grows : tree.Grows after) :
    after.LeadsOver path place := by
  obtain ⟨front, back, split, more, led⟩ := above
  refine ⟨front, back, split, more, ?_⟩
  rw [origin, grows.home]
  exact grows.walk led

/-- Directories have come in at vacant places on the way that a path takes, and nothing else has
changed. -/
structure MakesWay (path : String) (tree after : FileTree) : Prop where
  home : after.home = tree.home
  places : ∀ place, after.node? place = tree.node? place ∨
    tree.node? place = none ∧ after.node? place = some .directory ∧ after.LeadsOver path place

theorem MakesWay.refl (path : String) (tree : FileTree) : MakesWay path tree tree :=
  ⟨rfl, fun _ => .inl rfl⟩

theorem MakesWay.keeps {path : String} {tree after : FileTree} (way : MakesWay path tree after) :
    tree.Keeps after := by
  refine ⟨way.home, fun place node there => ?_⟩
  rcases way.places place with same | ⟨vacant, -, -⟩
  · rw [same, there]
  · rw [vacant] at there
    cases there

end FileTree

namespace OutputPath

open FileTree (steps)

/-- The steps that the parts of a path make, without those into the directory itself. -/
def names (parts : List (List Char)) : List String :=
  ((parts.filter fun part => !part.isEmpty).map String.ofList).filter (· != ".")

theorem names_append (front back : List (List Char)) :
    names (front ++ back) = names front ++ names back := by
  simp only [names, List.filter_append, List.map_append]

theorem names_eq_nil_of_idle {parts : List (List Char)}
    (idle : ∀ part ∈ parts, isIdle part = true) : names parts = [] := by
  induction parts with
  | nil => rfl
  | cons part rest ih =>
    have first : names [part] = [] := by
      have known := idle part List.mem_cons_self
      rw [isIdle, Bool.or_eq_true, beq_iff_eq, beq_iff_eq] at known
      rcases known with rfl | rfl <;> decide
    rw [← List.singleton_append, names_append, first,
      ih fun later member => idle later (List.mem_cons_of_mem part member), List.nil_append]

theorem filter_steps (path : List Char) :
    (steps (String.ofList path)).filter (· != ".") = names (Text.splitOn '/' path) := by
  rw [steps, String.toList_ofList, names]
  split
  · simp
  · rfl

theorem named?_of_splitOn {path last : List Char} {above : List (List Char)}
    (parts : Text.splitOn '/' path = above ++ [last]) (busy : isIdle last = false)
    (down : last ≠ ['.', '.']) : named? path = some ⟨above, last⟩ := by
  rw [named?, parts, List.reverse_append, List.reverse_singleton, List.singleton_append,
    List.dropWhile_cons_of_neg (by simp [busy])]
  dsimp only
  rw [if_neg down, List.reverse_reverse]

private theorem head?_joinWith (first next : List Char) (rest : List (List Char)) :
    (Text.joinWith '/' (first :: next :: rest)).head? = some (first.head?.getD '/') := by
  rw [Text.joinWith]
  · cases first <;> rfl
  · exact List.cons_ne_nil next rest

private theorem exists_idle_end (rest : List (List Char)) :
    ∃ idle, rest = (rest.reverse.dropWhile isIdle).reverse ++ idle ∧
      ∀ part ∈ idle, isIdle part = true := by
  refine ⟨(rest.reverse.takeWhile isIdle).reverse, ?_, fun part member => ?_⟩
  · rw [← List.reverse_append, List.takeWhile_append_dropWhile, List.reverse_reverse]
  · exact List.mem_takeWhile_imp (List.mem_reverse.mp member)

/-- The directory of a file lies on the way that the path of the file takes. -/
theorem directory_on_the_way {path last first : List Char} {rest : List (List Char)}
    (parts : Text.splitOn '/' path = first :: rest ++ [last]) (busy : isIdle last = false)
    (down : last ≠ ['.', '.']) :
    names (Text.splitOn '/' (directory path)) = names (first :: rest) ∧
      ((directory path).head? = some '/' ↔ path.head? = some '/') := by
  have plain : ∀ part ∈ first :: rest, '/' ∉ part := by
    intro part member
    have among : part ∈ Text.splitOn '/' path := by
      rw [parts]
      exact List.mem_append_left _ member
    exact Text.not_mem_of_mem_splitOn among
  have whole : path.head? = some (first.head?.getD '/') := by
    have joined := Text.joinWith_splitOn '/' path
    rw [parts] at joined
    rw [← joined]
    cases rest with
    | nil => exact head?_joinWith first last []
    | cons next more => exact head?_joinWith first next (more ++ [last])
  obtain ⟨idle, shape, useless⟩ := exists_idle_end rest
  rw [directory, named?_of_splitOn parts busy down]
  dsimp only
  generalize (rest.reverse.dropWhile isIdle).reverse = inner at shape
  have shortened : names (first :: rest) = names (first :: inner) := by
    rw [shape, ← List.cons_append, names_append, names_eq_nil_of_idle useless, List.append_nil]
  by_cases top : first.isEmpty ∧ inner.isEmpty
  · rw [if_pos top, shortened, whole]
    obtain ⟨vacant, none⟩ := top
    rw [List.isEmpty_iff] at vacant none
    subst vacant none
    exact ⟨by decide, by simp⟩
  · rw [if_neg top, shortened, whole]
    have inside : ∀ part ∈ first :: inner, '/' ∉ part := by
      intro part member
      apply plain part
      rw [shape, ← List.cons_append]
      exact List.mem_append_left _ member
    refine ⟨by rw [Text.splitOn_joinWith inside], ?_⟩
    cases inner with
    | cons next more => rw [head?_joinWith]
    | nil =>
      obtain ⟨c, cs, rfl⟩ : ∃ c cs, first = c :: cs := by
        cases first with
        | nil => exact absurd ⟨rfl, rfl⟩ top
        | cons c cs => exact ⟨c, cs, rfl⟩
      exact Iff.rfl

theorem exists_parts_withExtension (base : List Char) {extension : Char}
    (letter : extension ≠ '/' ∧ extension ≠ '.') :
    ∃ above last, Text.splitOn '/' (withExtension base extension) = above ++ [last] ∧
      isIdle last = false ∧ last ≠ ['.', '.'] ∧
      steps (String.ofList (withExtension base extension)) =
        ((above.filter fun part => !part.isEmpty).map String.ofList) ++ [String.ofList last] := by
  obtain ⟨above, stem, parts⟩ := Text.splitOn_append_plain '/' base
  have cut := parts ['.', extension] (by simp [letter.1.symm])
  have filled : stem ++ ['.', extension] ≠ [] := by simp
  have ending : (stem ++ ['.', extension]).getLast? = some extension := by simp
  have other : ∀ dots : List Char, dots.getLast? = some '.' → stem ++ ['.', extension] ≠ dots := by
    intro dots last same
    rw [same, last] at ending
    exact letter.2 (Option.some.inj ending).symm
  refine ⟨above, stem ++ ['.', extension], cut, ?_, other ['.', '.'] rfl, ?_⟩
  · rw [isIdle, Bool.or_eq_false_iff, beq_eq_false_iff_ne, beq_eq_false_iff_ne]
    exact ⟨filled, other ['.'] rfl⟩
  · have kept : (stem ++ ['.', extension]).isEmpty = false := by simp
    have behind : (above ++ [stem ++ ['.', extension]]).getLast? ≠ some [] := by simp
    rw [steps, String.toList_ofList, withExtension, cut]
    rw [if_neg behind, List.filter_append, List.map_append]
    simp [kept]

theorem makesWay_makeDirectories (tree : FileTree) (base : List Char) {extension : Char}
    (letter : extension ≠ '/' ∧ extension ≠ '.')
    (apart : directory (withExtension base extension) ≠ []) :
    FileTree.MakesWay (String.ofList (withExtension base extension)) tree
      (tree.makeDirectories (String.ofList (directory (withExtension base extension)))).1 := by
  obtain ⟨above, last, parts, busy, down, walked⟩ := exists_parts_withExtension base letter
  cases above with
  | nil =>
    rw [directory, named?_of_splitOn parts busy down] at apart
    exact absurd rfl apart
  | cons first rest =>
    obtain ⟨same, heads⟩ := directory_on_the_way parts busy down
    have opens := tree.opens_makeDirectories
      (String.ofList (directory (withExtension base extension)))
    have start : tree.origin (String.ofList (directory (withExtension base extension))) =
        tree.origin (String.ofList (withExtension base extension)) := by
      rw [FileTree.origin, FileTree.origin, String.toList_ofList, String.toList_ofList]
      simp only [heads]
    rw [filter_steps, same, start] at opens
    refine ⟨opens.home, fun place => ?_⟩
    rcases opens.places place with old | ⟨vacant, made, front, inside, led⟩
    · exact .inl old
    · obtain ⟨longer, shorter, leads⟩ := FileTree.exists_prefix_of_walk_filter _ inside led
      obtain ⟨others, split⟩ := shorter
      refine .inr ⟨vacant, made, longer, others ++ [String.ofList last], ?_, by simp, ?_⟩
      · rw [walked, ← split, List.append_assoc]
      · rw [FileTree.origin, opens.home]
        exact leads

end OutputPath

end AccessorGen.Files
