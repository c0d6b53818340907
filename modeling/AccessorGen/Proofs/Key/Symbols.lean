/- The symbols of one field.
   A field defines a variable and functions for it, and in either naming style all of these have
   different names: the functions differ in their verbs, and the variable differs from each of them
   in its underscores. -/

import AccessorGen.Fragment
import Mathlib.Data.List.Nodup

set_option autoImplicit false
set_option relaxedAutoImplicit false

namespace AccessorGen

/-- Only a capital sigma takes its lower case from what stands around it. -/
theorem Text.lowerAfter_append {front : List Char} (plain : 'Σ' ∉ front)
    (before back : List Char) :
    lowerAfter before (front ++ back) =
      front.flatMap lowerChar ++ lowerAfter (front.reverse ++ before) back := by
  induction front generalizing before with
  | nil => rfl
  | cons c rest ih =>
    have other : c ≠ 'Σ' := fun same => plain (by rw [same]; exact List.mem_cons_self)
    have later : 'Σ' ∉ rest := fun member => plain (List.mem_cons_of_mem c member)
    rw [List.cons_append, lowerAfter, if_neg other, ih later, List.flatMap_cons, List.reverse_cons]
    simp only [List.append_assoc, List.singleton_append]

/-- What functions can do to a field. -/
def fieldVerbs : List String := ["Len", "Ptr", "Get", "Set"]

theorem Descriptor.verbs_subset (d : Descriptor) : d.verbs ⊆ fieldVerbs := by
  unfold verbs
  split <;> decide

theorem Descriptor.nodup_verbs (d : Descriptor) : d.verbs.Nodup := by
  unfold verbs
  split <;> decide

namespace NamingStyle

/-- What the name of a function starts with. -/
def accessorStart : NamingStyle → String → List Char
  | .pascal, verb => verb.toList
  | .snake, verb => (verb.toList ++ ['_']).flatMap Text.lowerChar

private theorem length_accessorStart (naming : NamingStyle) :
    ∀ verb ∈ fieldVerbs, ∀ other ∈ fieldVerbs,
      (naming.accessorStart verb).length = (naming.accessorStart other).length := by
  cases naming <;> decide +kernel

private theorem accessorStart_inj (naming : NamingStyle) :
    ∀ verb ∈ fieldVerbs, ∀ other ∈ fieldVerbs,
      naming.accessorStart verb = naming.accessorStart other → verb = other := by
  cases naming <;> decide +kernel

theorem accessor_pascal {verb : String} (known : verb ∈ fieldVerbs) (name : String) :
    (accessor .pascal verb name).toList =
      accessorStart .pascal verb ++ name.toList.filter (· != '_') := by
  have kept : ∀ verb ∈ fieldVerbs, (verb.toList ++ ['_']).filter (· != '_') = verb.toList := by
    decide
  have start := kept verb known
  simp only [accessor, function, joinedName, accessorStart, String.toList_append,
    String.toList_ofList]
  rw [← start]
  simp

theorem accessor_snake {verb : String} (known : verb ∈ fieldVerbs) (name : String) :
    ∃ rest, (accessor .snake verb name).toList = accessorStart .snake verb ++ rest := by
  have plain : ∀ verb ∈ fieldVerbs, 'Σ' ∉ verb.toList ++ ['_'] := by decide
  refine ⟨Text.lowerAfter ((verb.toList ++ ['_']).reverse ++ []) name.toList, ?_⟩
  rw [accessor, function, lowerName, String.toList_ofList, String.toList_append,
    String.toList_append]
  exact Text.lowerAfter_append (plain verb known) [] name.toList

theorem accessor_inj (naming : NamingStyle) {verb other : String} (known : verb ∈ fieldVerbs)
    (alsoKnown : other ∈ fieldVerbs) {name : String}
    (same : naming.accessor verb name = naming.accessor other name) : verb = other := by
  have start : ∀ verb ∈ fieldVerbs,
      ∃ rest, (naming.accessor verb name).toList = naming.accessorStart verb ++ rest := by
    intro verb known
    cases naming with
    | pascal => exact ⟨_, accessor_pascal known name⟩
    | snake => exact accessor_snake known name
  obtain ⟨rest, first⟩ := start verb known
  obtain ⟨more, second⟩ := start other alsoKnown
  rw [same, second] at first
  have starts := List.append_inj_left first
    (naming.length_accessorStart other alsoKnown verb known)
  exact naming.accessorStart_inj verb known other alsoKnown starts.symm

theorem accessor_ne_globalVariable (naming : NamingStyle) {verb : String}
    (known : verb ∈ fieldVerbs) (name : String) :
    naming.accessor verb name ≠ naming.globalVariable name := by
  intro same
  have texts := congrArg String.toList same
  cases naming with
  | pascal =>
    -- A variable that was named so would have no underscore, and still be longer than itself.
    have filled : ∀ verb ∈ fieldVerbs, '_' ∉ verb.toList ∧ 0 < verb.toList.length := by decide
    obtain ⟨plain, positive⟩ := filled verb known
    rw [accessor_pascal known, accessorStart, globalVariable] at texts
    have joined : name.toList.filter (· != '_') = name.toList := by
      rw [List.filter_eq_self]
      intro c member
      rw [← texts] at member
      rcases List.mem_append.mp member with inVerb | inName
      · exact bne_iff_ne.mpr fun underscore => plain (underscore ▸ inVerb)
      · exact (List.mem_filter.mp inName).2
    have lengths := congrArg List.length texts
    rw [joined, List.length_append] at lengths
    omega
  | snake =>
    have marked : ∀ verb ∈ fieldVerbs, '_' ∈ accessorStart .snake verb := by decide +kernel
    obtain ⟨rest, start⟩ := accessor_snake known name
    have member : '_' ∈ (joinedName name).toList := by
      rw [globalVariable, start] at texts
      rw [← texts]
      exact List.mem_append_left rest (marked verb known)
    rw [joinedName, String.toList_ofList] at member
    simp at member

theorem nodup_symbols (naming : NamingStyle) (d : Descriptor) : (naming.symbols d).Nodup := by
  unfold symbols
  split
  · exact List.nodup_singleton _
  · refine List.nodup_cons.mpr ⟨?_, ?_⟩
    · intro member
      obtain ⟨verb, listed, same⟩ := List.mem_map.mp member
      exact naming.accessor_ne_globalVariable (d.verbs_subset listed) d.name same
    · refine d.nodup_verbs.map_on ?_
      intro verb listed other alsoListed same
      exact naming.accessor_inj (d.verbs_subset listed) (d.verbs_subset alsoListed) same

end NamingStyle

end AccessorGen
