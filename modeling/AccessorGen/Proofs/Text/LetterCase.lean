/- Lower case.
   The lower case of a text is at least as long as the text, and every character in it that comes
   before the small letters stands in the text itself. -/

import AccessorGen.Text.LetterCase

set_option autoImplicit false
set_option relaxedAutoImplicit false

namespace AccessorGen.Text

theorem CaseRun.exists_of_target {runs : List CaseRun} {n m : Nat}
    (mapped : CaseRun.target runs n = some m) :
    ∃ run ∈ runs, run.first ≤ n ∧ m = ((n : Int) + run.shift).toNat := by
  induction runs with
  | nil => cases mapped
  | cons run rest ih =>
    rw [target] at mapped
    split at mapped
    · cases mapped
    · split at mapped
      · exact ⟨run, List.mem_cons_self, by omega, (Option.some.inj mapped).symm⟩
      · obtain ⟨later, member, image⟩ := ih mapped
        exact ⟨later, List.mem_cons_of_mem run member, image⟩

/-- A character that comes before the small letters, which start at 97. -/
def BeforeLetters (c : Char) : Prop :=
  0 < c.toNat ∧ c.toNat < 97

instance (c : Char) : Decidable (BeforeLetters c) :=
  inferInstanceAs (Decidable (_ ∧ _))

private theorem not_beforeLetters_ofNat {n : Nat} (letter : 97 ≤ n) :
    ¬ BeforeLetters (Char.ofNat n) := by
  rintro ⟨positive, small⟩
  by_cases valid : n.isValidChar
  · have code : (Char.ofNat n).toNat = n := by
      rw [Char.ofNat, dif_pos valid]
      rfl
    omega
  · have code : (Char.ofNat n).toNat = 0 := by
      rw [Char.ofNat, dif_neg valid]
      rfl
    omega

theorem eq_of_mem_lowerChar {c x : Char} (member : x ∈ lowerChar c) (low : BeforeLetters x) :
    x = c := by
  have letters : ∀ run ∈ lowerRuns, (97 : Int) ≤ run.first + run.shift := by decide +kernel
  have expansions : ∀ pair ∈ lowerExpansions, ∀ n ∈ pair.2, 97 ≤ n := by decide
  unfold lowerChar mapCase at member
  split at member
  · rename_i n mapped
    obtain ⟨run, listed, first, rfl⟩ := CaseRun.exists_of_target mapped
    obtain rfl := List.mem_singleton.mp member
    have start := letters run listed
    exact absurd low (not_beforeLetters_ofNat (by omega))
  · split at member
    · rename_i codes found
      obtain ⟨front, back, listed, -⟩ := List.lookup_eq_some_iff.mp found
      obtain ⟨n, among, rfl⟩ := List.mem_map.mp member
      have inside : (c.toNat, codes) ∈ lowerExpansions := by simp [listed]
      exact absurd low (not_beforeLetters_ofNat (expansions _ inside n among))
    · exact List.mem_singleton.mp member

theorem lowerChar_ne_nil (c : Char) : lowerChar c ≠ [] := by
  have expansions : ∀ pair ∈ lowerExpansions, pair.2 ≠ [] := by decide
  unfold lowerChar mapCase
  split
  · simp
  · split
    · rename_i codes found
      obtain ⟨front, back, listed, -⟩ := List.lookup_eq_some_iff.mp found
      have inside : (c.toNat, codes) ∈ lowerExpansions := by simp [listed]
      simpa using expansions _ inside
    · simp

theorem mem_of_mem_lower {cs : List Char} {x : Char} (member : x ∈ lower cs)
    (low : BeforeLetters x) : x ∈ cs := by
  have walk : ∀ (cs before : List Char), x ∈ lowerAfter before cs → x ∈ cs := by
    intro cs
    induction cs with
    | nil => exact fun _ member => member
    | cons c rest ih =>
      intro before member
      rw [lowerAfter] at member
      rcases List.mem_append.mp member with first | later
      · split at first
        · obtain rfl := List.mem_singleton.mp first
          have letter : ¬ BeforeLetters (lowerSigma before rest) := by
            unfold lowerSigma
            split <;> decide
          exact absurd low letter
        · exact List.mem_cons.mpr (.inl (eq_of_mem_lowerChar first low))
      · exact List.mem_cons_of_mem c (ih _ later)
  exact walk cs [] member

theorem length_le_lower (cs : List Char) : cs.length ≤ (lower cs).length := by
  have walk : ∀ cs before : List Char, cs.length ≤ (lowerAfter before cs).length := by
    intro cs
    induction cs with
    | nil => exact fun _ => Nat.le_refl 0
    | cons c rest ih =>
      intro before
      have own : 1 ≤ (if c = 'Σ' then [lowerSigma before rest] else lowerChar c).length := by
        split
        · exact Nat.le_refl 1
        · exact List.length_pos_iff.mpr (lowerChar_ne_nil c)
      have later := ih (c :: before)
      rw [lowerAfter, List.length_append, List.length_cons]
      omega
  exact walk cs []

end AccessorGen.Text
