/- What file operations keep.
   No operation takes a directory away, so that a path goes on leading to the same place. Making
   directories fills vacant places only, and writing a file changes one place. -/

import AccessorGen.Files.FileTree
import AccessorGen.Proofs.Readings

set_option autoImplicit false
set_option relaxedAutoImplicit false

namespace AccessorGen.Files.FileTree

theorem lookup_putNode (place other : Place) (node : Node) (nodes : List (Place × Node)) :
    (putNode place node nodes).lookup other =
      if other = place then some node else nodes.lookup other := by
  induction nodes with
  | nil =>
    by_cases same : other = place
    · simp [putNode, same]
    · simp [putNode, same, List.lookup_cons, beq_eq_false_iff_ne.mpr same]
  | cons first rest ih =>
    obtain ⟨key, old⟩ := first
    rw [putNode]
    by_cases replaced : key = place
    · rw [if_pos replaced]
      by_cases same : other = place
      · simp [same]
      · simp [same, List.lookup_cons, replaced, beq_eq_false_iff_ne.mpr same]
    · rw [if_neg replaced]
      by_cases found : other = key
      · simp [found, replaced]
      · simp only [List.lookup_cons, beq_eq_false_iff_ne.mpr found, ih]

section Put

variable {tree : FileTree} {place : Place}

/-- Only the working directory and those above it are there without being among the nodes. -/
theorem node?_put_self (free : ¬ place.isPrefixOf tree.home = true) (node : Node) :
    (tree.put place node).node? place = some node := by
  rw [node?, put]
  dsimp only
  rw [if_neg free, lookup_putNode, if_pos rfl]

theorem node?_put_other {other : Place} (apart : other ≠ place) (node : Node) :
    (tree.put place node).node? other = tree.node? other := by
  rw [node?, node?, put]
  dsimp only
  rw [lookup_putNode, if_neg apart]

end Put

theorem not_isPrefixOf_home {tree : FileTree} {place : Place}
    (other : tree.node? place ≠ some .directory) : ¬ place.isPrefixOf tree.home = true := by
  intro above
  exact other (if_pos above)

def stepFrom (place : Place) (step : String) : Except FileError Place :=
  if step = "." then .ok place
  else if step = ".." then .ok place.dropLast
  else if maxNameBytes < step.utf8ByteSize then .error .nameTooLong
  else .ok (place ++ [step])

theorem walk_of_directory {tree : FileTree} {start : Place}
    (directory : tree.node? start = some .directory) (step : String) (rest : List String) :
    tree.walk start (step :: rest) =
      (stepFrom start step).bind fun next => tree.walk next rest := by
  rw [walk, directory, stepFrom]
  dsimp only
  split
  · rfl
  · split
    · rfl
    · split <;> rfl

theorem walk_cons_eq_ok_iff {tree : FileTree} {start place : Place} {step : String}
    {rest : List String} :
    tree.walk start (step :: rest) = .ok place ↔
      tree.node? start = some .directory ∧
        ∃ next, stepFrom start step = .ok next ∧ tree.walk next rest = .ok place := by
  cases there : tree.node? start with
  | none => simp [walk, there]
  | some node =>
    cases node with
    | file bytes => simp [walk, there]
    | directory =>
      rw [walk_of_directory there]
      cases stepFrom start step <;> simp [Except.bind]

/-- The working directory stays, and so does every directory. -/
structure Grows (tree after : FileTree) : Prop where
  home : after.home = tree.home
  directories : ∀ place, tree.node? place = some .directory →
    after.node? place = some .directory

namespace Grows

theorem trans {tree mid after : FileTree} (first : tree.Grows mid) (second : mid.Grows after) :
    tree.Grows after :=
  ⟨second.home.trans first.home, fun place there =>
    second.directories place (first.directories place there)⟩

theorem walk {tree after : FileTree} (grows : tree.Grows after) {names : List String}
    {start place : Place} (led : tree.walk start names = .ok place) :
    after.walk start names = .ok place := by
  induction names generalizing start with
  | nil => exact led
  | cons step rest ih =>
    obtain ⟨directory, next, stepped, led⟩ := walk_cons_eq_ok_iff.mp led
    exact walk_cons_eq_ok_iff.mpr ⟨grows.directories start directory, next, stepped, ih led⟩

theorem locate {tree after : FileTree} (grows : tree.Grows after) {path : String} {place : Place}
    (led : tree.locate path = .ok place) : after.locate path = .ok place := by
  have start : after.origin path = tree.origin path := by rw [origin, origin, grows.home]
  rw [FileTree.locate] at led ⊢
  split at led
  · cases led
  · rename_i filled
    rw [if_neg filled]
    split at led
    · cases led
    · rename_i short
      rw [if_neg short, start]
      exact grows.walk led

end Grows

/-- Besides, a file stays a file, whatever its bytes. -/
structure KeepsKinds (tree after : FileTree) : Prop extends tree.Grows after where
  files : ∀ place bytes, tree.node? place = some (.file bytes) →
    ∃ more, after.node? place = some (.file more)

namespace KeepsKinds

variable {tree after : FileTree} (kinds : tree.KeepsKinds after)
include kinds

/-- Steps that have failed fail again, unless a directory was missing. -/
theorem walk_error {cause : FileError} (other : cause ≠ .notFound) {names : List String}
    {start : Place} (failed : tree.walk start names = .error cause) :
    after.walk start names = .error cause := by
  induction names generalizing start with
  | nil => cases failed
  | cons step rest ih =>
    cases there : tree.node? start with
    | none =>
      rw [FileTree.walk, there] at failed
      exact absurd (Except.error.inj failed).symm other
    | some node =>
      cases node with
      | file bytes =>
        obtain ⟨more, still⟩ := kinds.files start bytes there
        rw [FileTree.walk, there] at failed
        rw [FileTree.walk, still]
        exact failed
      | directory =>
        rw [walk_of_directory there] at failed
        rw [walk_of_directory (kinds.directories start there)]
        cases stepped : stepFrom start step with
        | error cause =>
          rw [stepped] at failed
          exact failed
        | ok next =>
          rw [stepped] at failed
          exact ih failed

theorem locate_error {cause : FileError} (other : cause ≠ .notFound) {path : String}
    (failed : tree.locate path = .error cause) : after.locate path = .error cause := by
  have start : after.origin path = tree.origin path := by rw [origin, origin, kinds.home]
  rw [FileTree.locate] at failed ⊢
  split at failed
  · exact absurd (Except.error.inj failed).symm other
  · rename_i filled
    rw [if_neg filled]
    split at failed
    · rename_i long
      rw [if_pos long]
      exact failed
    · rename_i short
      rw [if_neg short, start]
      exact kinds.walk_error other failed

end KeepsKinds

/-- Nothing that was there is gone or changed. -/
structure Keeps (tree after : FileTree) : Prop where
  home : after.home = tree.home
  nodes : ∀ place node, tree.node? place = some node → after.node? place = some node

namespace Keeps

theorem refl (tree : FileTree) : tree.Keeps tree :=
  ⟨rfl, fun _ _ there => there⟩

theorem trans {tree mid after : FileTree} (first : tree.Keeps mid) (second : mid.Keeps after) :
    tree.Keeps after :=
  ⟨second.home.trans first.home, fun place node there =>
    second.nodes place node (first.nodes place node there)⟩

theorem grows {tree after : FileTree} (keeps : tree.Keeps after) : tree.Grows after :=
  ⟨keeps.home, fun place there => keeps.nodes place .directory there⟩

end Keeps

theorem keeps_of_makeDirectory {tree made : FileTree} {start : Place} {names : List String}
    (done : tree.makeDirectory start names = .ok made) : tree.Keeps made := by
  obtain ⟨place, -, done⟩ := bind_eq_ok_iff.mp done
  cases vacant : tree.node? place with
  | some node =>
    rw [vacant] at done
    cases done
  | none =>
    rw [vacant] at done
    obtain rfl := Except.ok.inj done
    refine ⟨rfl, fun other node there => ?_⟩
    have apart : other ≠ place := by
      rintro rfl
      rw [vacant] at there
      cases there
    rw [node?_put_other apart, there]

theorem keeps_ensureDirectory (tree : FileTree) (start : Place) (names : List String) :
    tree.Keeps (tree.ensureDirectory start names).1 := by
  unfold ensureDirectory
  split
  · rename_i made done
    exact keeps_of_makeDirectory done
  · split <;> exact Keeps.refl tree

theorem keeps_ensureDirectories (tree : FileTree) (start : Place) (names : List String) :
    tree.Keeps (tree.ensureDirectories start names).1 := by
  induction names with
  | nil => exact Keeps.refl tree
  | cons last above ih =>
    rw [ensureDirectories]
    split
    · split
      · rename_i made run
        rw [run] at ih
        exact ih.trans (keeps_ensureDirectory made start _)
      · exact ih
    · exact keeps_ensureDirectory tree start _

theorem keeps_makeDirectories (tree : FileTree) (path : String) :
    tree.Keeps (tree.makeDirectories path).1 := by
  unfold makeDirectories
  split
  · exact Keeps.refl tree
  · exact keeps_ensureDirectories tree _ _

theorem read_eq_ok_iff {tree : FileTree} {path : String} {bytes : ByteArray} :
    tree.read path = .ok bytes ↔
      ∃ place, tree.locate path = .ok place ∧ tree.node? place = some (.file bytes) := by
  rw [read, bind_eq_ok_iff]
  refine exists_congr fun place => and_congr_right fun _ => ?_
  cases tree.node? place with
  | none => simp
  | some node => cases node <;> simp

theorem read_of_vacant {tree : FileTree} {path : String} {place : Place}
    (led : tree.locate path = .ok place) (vacant : tree.node? place = none) :
    tree.read path = .error .notFound := by
  rw [read, led]
  dsimp only [bind, Except.bind]
  rw [vacant]

theorem read_congr {tree other : FileTree} {path : String} {place : Place}
    (led : tree.locate path = .ok place) (leads : other.locate path = .ok place)
    (same : tree.node? place = other.node? place) : tree.read path = other.read path := by
  rw [read, read, led, leads]
  dsimp only [bind, Except.bind]
  rw [same]

theorem write_eq_ok {tree after : FileTree} {path : String} {bytes : ByteArray}
    (done : tree.write path bytes = .ok after) :
    ∃ place, tree.locate path = .ok place ∧ tree.node? place ≠ some .directory ∧
      after = tree.put place (.file bytes) := by
  obtain ⟨place, led, done⟩ := bind_eq_ok_iff.mp done
  split at done
  · cases done
  · rename_i other
    exact ⟨place, led, other, (Except.ok.inj done).symm⟩

/-- Nothing but the file at a path has changed, and new directories may have come in. -/
structure Rewrites (path : String) (tree after : FileTree) : Prop extends tree.Grows after where
  others : ∀ place node, tree.node? place = some node →
    after.node? place = some node ∨ after.locate path = .ok place

theorem Keeps.rewrites {tree after : FileTree} (keeps : tree.Keeps after) (path : String) :
    Rewrites path tree after :=
  ⟨keeps.grows, fun place node there => .inl (keeps.nodes place node there)⟩

theorem rewrites_of_write {tree after : FileTree} {path : String} {bytes : ByteArray}
    (done : tree.write path bytes = .ok after) :
    Rewrites path tree after ∧ after.read path = .ok bytes := by
  obtain ⟨place, led, other, rfl⟩ := write_eq_ok done
  have grows : tree.Grows (tree.put place (.file bytes)) := by
    refine ⟨rfl, fun directory there => ?_⟩
    have apart : directory ≠ place := by
      rintro rfl
      exact other there
    rw [node?_put_other apart, there]
  have leads := grows.locate led
  refine ⟨⟨grows, fun there node held => ?_⟩, ?_⟩
  · by_cases same : there = place
    · exact .inr (by rw [same, leads])
    · exact .inl (by rw [node?_put_other same, held])
  · exact read_eq_ok_iff.mpr ⟨place, leads, node?_put_self (not_isPrefixOf_home other) _⟩

theorem Rewrites.after_keeps {path : String} {tree mid after : FileTree} (keeps : tree.Keeps mid)
    (rewrites : Rewrites path mid after) : Rewrites path tree after :=
  ⟨keeps.grows.trans rewrites.toGrows, fun place node there =>
    rewrites.others place node (keeps.nodes place node there)⟩

def SameFile (tree : FileTree) (path other : String) : Prop :=
  ∃ place, tree.locate path = .ok place ∧ tree.locate other = .ok place

theorem SameFile.of_grows {tree after : FileTree} (grows : tree.Grows after)
    {path other : String} (same : tree.SameFile path other) : after.SameFile path other := by
  obtain ⟨place, first, second⟩ := same
  exact ⟨place, grows.locate first, grows.locate second⟩

theorem Rewrites.read {path other : String} {tree after : FileTree}
    (rewrites : Rewrites path tree after) (apart : ¬ after.SameFile other path)
    {bytes : ByteArray} (held : tree.read other = .ok bytes) : after.read other = .ok bytes := by
  obtain ⟨place, led, there⟩ := read_eq_ok_iff.mp held
  have leads := rewrites.toGrows.locate led
  rcases rewrites.others place _ there with kept | hit
  · exact read_eq_ok_iff.mpr ⟨place, leads, kept⟩
  · exact absurd ⟨place, leads, hit⟩ apart

end AccessorGen.Files.FileTree
