/- Readings in a row.
   When one reading uses the result of another, or when every member of a list is read, all of it
   succeeds exactly if each step does. -/

import Mathlib.Data.List.Forall2

set_option autoImplicit false
set_option relaxedAutoImplicit false

namespace AccessorGen

theorem bind_eq_ok_iff {α β ε : Type} {result : Except ε α} {next : α → Except ε β} {b : β} :
    result >>= next = .ok b ↔ ∃ a, result = .ok a ∧ next a = .ok b := by
  cases result with
  | error fault => simp [bind, Except.bind]
  | ok a => simp [bind, Except.bind]

theorem bind_eq_error_iff {α β ε : Type} {result : Except ε α} {next : α → Except ε β} {e : ε} :
    result >>= next = .error e ↔
      result = .error e ∨ ∃ a, result = .ok a ∧ next a = .error e := by
  cases result with
  | error fault => simp [bind, Except.bind]
  | ok a => simp [bind, Except.bind]

theorem mapM_cons_eq_ok_iff {α β ε : Type} {read : α → Except ε β} {first : α} {rest : List α}
    {results : List β} :
    (first :: rest).mapM read = .ok results ↔
      ∃ result others, read first = .ok result ∧ rest.mapM read = .ok others ∧
        result :: others = results := by
  rw [List.mapM_cons]
  simp only [bind_eq_ok_iff]
  constructor
  · rintro ⟨result, head, others, tail, made⟩
    exact ⟨result, others, head, tail, Except.ok.inj made⟩
  · rintro ⟨result, others, head, tail, rfl⟩
    exact ⟨result, head, others, tail, rfl⟩

theorem mapM_eq_ok_iff {α β ε : Type} {read : α → Except ε β} {list : List α}
    {results : List β} :
    list.mapM read = .ok results ↔ List.Forall₂ (fun a b => read a = .ok b) list results := by
  induction list generalizing results with
  | nil =>
    rw [List.forall₂_nil_left_iff]
    constructor
    · intro done
      exact (Except.ok.inj done).symm
    · rintro rfl
      rfl
  | cons first rest ih =>
    rw [mapM_cons_eq_ok_iff, List.forall₂_cons_left_iff]
    simp only [ih]
    constructor
    · rintro ⟨result, others, head, tail, rfl⟩
      exact ⟨result, others, head, tail, rfl⟩
    · rintro ⟨result, others, head, tail, rfl⟩
      exact ⟨result, others, head, tail, rfl⟩

theorem mapM_eq_some_iff {α β : Type} {read : α → Option β} {xs : List α} {ys : List β} :
    xs.mapM read = some ys ↔ List.Forall₂ (fun x y => read x = some y) xs ys := by
  induction xs generalizing ys with
  | nil =>
    rw [List.forall₂_nil_left_iff]
    simp [eq_comm]
  | cons x xs ih =>
    simp only [List.mapM_cons, Option.bind_eq_bind, Option.bind_eq_some_iff, Option.pure_def,
      Option.some.injEq, ih, List.forall₂_cons_left_iff]
    constructor
    · rintro ⟨y, first, others, rest, rfl⟩
      exact ⟨y, others, first, rest, rfl⟩
    · rintro ⟨y, others, first, rest, rfl⟩
      exact ⟨y, first, others, rest, rfl⟩

theorem exists_mem_of_forall₂ {α β : Type} {r : α → β → Prop} {xs : List α} {ys : List β}
    (related : List.Forall₂ r xs ys) {y : β} (member : y ∈ ys) : ∃ x ∈ xs, r x y := by
  induction related with
  | nil => cases member
  | cons head tail ih =>
    rcases List.mem_cons.mp member with rfl | later
    · exact ⟨_, List.mem_cons_self, head⟩
    · obtain ⟨x, inside, found⟩ := ih later
      exact ⟨x, List.mem_cons_of_mem _ inside, found⟩

theorem getElem?_of_forall₂ {α β : Type} {r : α → β → Prop} {xs : List α} {ys : List β}
    (related : List.Forall₂ r xs ys) {index : Nat} {y : β} (found : ys[index]? = some y) :
    ∃ x, xs[index]? = some x ∧ r x y := by
  induction related generalizing index with
  | nil => cases found
  | @cons a b xs ys head tail ih =>
    cases index with
    | zero =>
      obtain rfl := Option.some.inj found
      exact ⟨a, rfl, head⟩
    | succ index => exact ih found

theorem forall₂_of_mem {α β : Type} {r q : α → β → Prop} {xs : List α} {ys : List β}
    (related : List.Forall₂ r xs ys) (more : ∀ x ∈ xs, ∀ y ∈ ys, r x y → q x y) :
    List.Forall₂ q xs ys := by
  rw [List.forall₂_iff_zip]
  refine ⟨related.length_eq, fun {x y} paired => ?_⟩
  obtain ⟨left, right⟩ := List.of_mem_zip paired
  exact more x left y right (List.forall₂_zip related paired)

theorem exists_of_mem_mapM {α β ε : Type} {read : α → Except ε β} {list : List α}
    {results : List β} (done : list.mapM read = .ok results) {result : β}
    (member : result ∈ results) : ∃ a ∈ list, read a = .ok result :=
  exists_mem_of_forall₂ (mapM_eq_ok_iff.mp done) member

end AccessorGen
