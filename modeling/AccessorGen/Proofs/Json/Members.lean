/- Members of objects.
   Reading the members of an object first and merging repeated names afterwards gives the same as
   merging first and reading only what is left, provided that all of them can be read. So a text
   is read as the documents of the objects of its value, unless an object stands for a text that it
   holds. In any case what stands for a number in a document is a piece of the text. -/

import AccessorGen.Document
import AccessorGen.Proofs.Json.Source
import AccessorGen.Proofs.Readings

set_option autoImplicit false
set_option relaxedAutoImplicit false

namespace AccessorGen.Json

section Merging

variable {α β : Type} {r : α → β → Prop}

def SameName (r : α → β → Prop) (a : String × α) (b : String × β) : Prop :=
  a.1 = b.1 ∧ r a.2 b.2

private theorem putMember_forall₂ {name : String} {a : α} {b : β} (related : r a b)
    {xs : List (String × α)} {ys : List (String × β)}
    (others : List.Forall₂ (SameName r) xs ys) :
    List.Forall₂ (SameName r) (putMember name a xs) (putMember name b ys) := by
  induction others with
  | nil => exact .cons ⟨rfl, related⟩ .nil
  | @cons x y xs ys head tail ih =>
    obtain ⟨other, a'⟩ := x
    obtain ⟨_, b'⟩ := y
    obtain ⟨rfl, old⟩ := head
    simp only [putMember]
    split
    · exact .cons ⟨rfl, related⟩ tail
    · exact .cons ⟨rfl, old⟩ ih

theorem mergeMembers_forall₂ {xs : List (String × α)} {ys : List (String × β)}
    (related : List.Forall₂ (SameName r) xs ys) :
    List.Forall₂ (SameName r) (mergeMembers xs) (mergeMembers ys) := by
  have merged : ∀ (before : List (String × α)) (before' : List (String × β)),
      List.Forall₂ (SameName r) before before' →
      List.Forall₂ (SameName r)
        (xs.foldl (fun merged member => putMember member.1 member.2 merged) before)
        (ys.foldl (fun merged member => putMember member.1 member.2 merged) before') := by
    induction related with
    | nil => exact fun _ _ start => start
    | @cons x y xs ys head tail ih =>
      intro before before' start
      obtain ⟨name, a⟩ := x
      obtain ⟨_, b⟩ := y
      obtain ⟨rfl, values⟩ := head
      exact ih _ _ (putMember_forall₂ values start)
  exact merged [] [] .nil

end Merging

theorem RawString.length_text?_le {raw : RawString} {text : String}
    (read : raw.text? = some text) : text.length ≤ raw.length := by
  have longest : ∀ (rest : RawString) (seen chars : List Char), rest.charsFrom seen = some chars →
      chars.length ≤ seen.length + rest.length := by
    intro rest seen
    fun_induction RawString.charsFrom seen rest with
    | case1 seen =>
      intro chars read
      obtain rfl := Option.some.inj read
      exact Nat.le_refl _
    | case2 seen c rest ih => exact fun chars read => (ih chars read).trans (by simp; omega)
    | case3 seen high low rest _ _ ih =>
      exact fun chars read => (ih chars read).trans (by simp; omega)
    | case6 seen high low rest _ _ ih =>
      exact fun chars read => (ih chars read).trans (by simp; omega)
    | case8 seen code rest _ _ ih =>
      exact fun chars read => (ih chars read).trans (by simp; omega)
    | _ => exact fun chars read => by cases read
  obtain ⟨chars, found, rfl⟩ := Option.map_eq_some_iff.mp read
  have shorter := longest raw [] chars found
  simpa using shorter

/-- A text that a member somewhere in a tree is. -/
def Tree.HoldsText (tree : Tree) (text : String) : Prop :=
  ∃ held raw, tree.Holds held ∧ held.value = .string raw ∧ raw.text? = some text

theorem Tree.length_lt_of_holdsText {text held : String} {tree : Tree}
    (read : ofText? text = some tree) (holds : tree.HoldsText held) :
    held.length < text.length := by
  obtain ⟨member, raw, inside, string, read'⟩ := holds
  obtain ⟨piece, told⟩ := standsIn_of_ofText? read member inside
  rw [string] at told
  have short := RawString.length_text?_le read'
  have long := piece.length_le
  rw [String.length_toList] at long
  have quoted : raw.length < member.source.length := told
  omega

private theorem soleText?_eq_some {members : List (Member Tree)} {text : String}
    (sole : soleText? members = some text) :
    ∃ name source raw, members = [⟨name, source, .string raw⟩] ∧ raw.text? = some text := by
  unfold soleText? at sole
  split at sole
  · exact ⟨_, _, _, rfl, sole⟩
  · cases sole

/-- A tree that has a value has the same value where more depth is allowed and more of the texts
that it holds can be read. -/
theorem Tree.valueWithin?_mono {read further : String → Option Value} {depth more : Nat}
    (deeper : depth ≤ more) {tree : Tree}
    (enough : ∀ text value, tree.HoldsText text → read text = some value →
      further text = some value)
    {value : Value} (given : tree.valueWithin? read depth = some value) :
    tree.valueWithin? further more = some value := by
  induction depth generalizing more tree value with
  | zero =>
    cases tree with
    | array items => simp [valueWithin?] at given
    | object members => simp [valueWithin?] at given
    | _ => simpa [valueWithin?] using given
  | succ depth ih =>
    obtain ⟨more, rfl⟩ : ∃ rest, more = rest + 1 := ⟨more - 1, by omega⟩
    have inner : depth ≤ more := by omega
    cases tree with
    | array items =>
      simp only [valueWithin?, Option.map_eq_some_iff, mapM_eq_some_iff] at given ⊢
      obtain ⟨values, related, rfl⟩ := given
      refine ⟨values, forall₂_of_mem related ?_, rfl⟩
      intro item member value _ valued
      refine ih inner (fun text value ⟨held, raw, inside, quoted, known⟩ => ?_) valued
      exact enough text value ⟨held, raw, .item member inside, quoted, known⟩
    | object members =>
      rw [valueWithin?] at given ⊢
      split at given
      · rename_i marker marked
        obtain ⟨text, sole, valued⟩ := Option.bind_eq_some_iff.mp given
        obtain ⟨name, source, raw, rfl, known⟩ := soleText?_eq_some sole
        refine Option.bind_eq_some_iff.mpr ⟨text, sole, ?_⟩
        cases marker with
        | number => exact valued
        | text => exact enough text value ⟨_, raw, .own List.mem_cons_self, rfl, known⟩ valued
      · -- All members are read before they are merged, so that merging takes no part here.
        simp only [Option.bind_eq_bind, Option.bind_eq_some_iff, Option.pure_def,
          mapM_eq_some_iff] at given ⊢
        obtain ⟨pairs, related, made⟩ := given
        refine ⟨pairs, forall₂_of_mem related ?_, made⟩
        rintro member among pair - ⟨name, named, value, valued, same⟩
        refine ⟨name, named, value, ?_, same⟩
        refine ih inner (fun text value ⟨held, raw, inside, quoted, known⟩ => ?_) valued
        exact enough text value ⟨held, raw, .nested among inside, quoted, known⟩
    | _ => simpa [valueWithin?] using given

theorem Tree.valueWithin?_congr {read other : String → Option Value} {tree : Tree}
    (same : ∀ text, tree.HoldsText text → read text = other text) (depth : Nat) :
    tree.valueWithin? read depth = tree.valueWithin? other depth := by
  refine Option.ext fun value => ⟨?_, ?_⟩
  · refine valueWithin?_mono (Nat.le_refl depth) fun text value holds known => ?_
    rw [← same text holds, known]
  · refine valueWithin?_mono (Nat.le_refl depth) fun text value holds known => ?_
    rw [same text holds, known]

/-- No text needs more levels than it has characters, and one. -/
private theorem Value.ofTextWithin?_eq (size : Nat) :
    ∀ (text : String) (levels : Nat), text.length = size → size < levels →
      ofTextWithin? levels text = ofText? text := by
  induction size using Nat.strongRecOn with
  | ind size ih =>
    intro text levels length enough
    obtain ⟨levels, rfl⟩ : ∃ rest, levels = rest + 1 := ⟨levels - 1, by omega⟩
    rw [ofText?, ofTextWithin?, ofTextWithin?]
    cases read : Tree.ofText? text with
    | none => rfl
    | some tree =>
      refine Tree.valueWithin?_congr (fun held holds => ?_) maxDepth
      have shorter := Tree.length_lt_of_holdsText read holds
      rw [ih held.length (by omega) held levels rfl (by omega),
        ih held.length (by omega) held text.length rfl shorter]

theorem Value.ofText?_eq (text : String) :
    ofText? text = (Tree.ofText? text).bind Tree.value? := by
  rw [ofText?, ofTextWithin?]
  cases read : Tree.ofText? text with
  | none => rfl
  | some tree =>
    refine Tree.valueWithin?_congr (fun held holds => ?_) maxDepth
    have shorter := Tree.length_lt_of_holdsText read holds
    exact ofTextWithin?_eq held.length held text.length rfl shorter

namespace Tree

/-- The members that an object is read as, before repeated names are merged. -/
def Reads (depth : Nat) : List (Member Tree) → List (String × Value) → Prop :=
  List.Forall₂ fun member pair =>
    member.name.text? = some pair.1 ∧
      member.value.valueWithin? Value.ofText? depth = some pair.2

private theorem object_of_valueWithin? {depth : Nat} {members : List (Member Tree)} {value : Value}
    (given : (object members).valueWithin? Value.ofText? depth = some value) :
    (∃ inner pairs, depth = inner + 1 ∧ Reads inner members pairs ∧
      value = .object (mergeMembers pairs)) ∨
    (marker? members = some .number ∧ ∃ n, value = .number n) ∨
      marker? members = some .text := by
  cases depth with
  | zero => simp [valueWithin?] at given
  | succ inner =>
    rw [valueWithin?] at given
    split at given
    · rename_i marker marked
      right
      cases marker with
      | number =>
        obtain ⟨text, -, valued⟩ := Option.bind_eq_some_iff.mp given
        obtain ⟨n, -, rfl⟩ := Option.map_eq_some_iff.mp valued
        exact .inl ⟨marked, n, rfl⟩
      | text => exact .inr marked
    · left
      simp only [Option.bind_eq_bind, Option.bind_eq_some_iff, Option.pure_def,
        mapM_eq_some_iff, Option.some.injEq] at given
      obtain ⟨pairs, related, rfl⟩ := given
      refine ⟨inner, pairs, rfl, related.imp ?_, rfl⟩
      rintro member pair ⟨name, named, value, valued, rfl⟩
      exact ⟨named, valued⟩

private theorem array_of_valueWithin? {depth : Nat} {items : List Tree} {value : Value}
    (given : (array items).valueWithin? Value.ofText? depth = some value) :
    ∃ inner values, depth = inner + 1 ∧
      List.Forall₂ (fun (item : Tree) value =>
        item.valueWithin? Value.ofText? inner = some value) items values ∧
      value = .array values := by
  cases depth with
  | zero => simp [valueWithin?] at given
  | succ inner =>
    simp only [valueWithin?, Option.map_eq_some_iff, mapM_eq_some_iff] at given
    obtain ⟨values, related, rfl⟩ := given
    exact ⟨inner, values, rfl, related, rfl⟩

theorem eq_object_of_valueWithin? {depth : Nat} {tree : Tree} {values : List (String × Value)}
    (given : tree.valueWithin? Value.ofText? depth = some (.object values)) :
    ∃ members, tree = .object members ∧ (marker? members ≠ some .text →
      ∃ inner pairs, depth = inner + 1 ∧ Reads inner members pairs ∧
        mergeMembers pairs = values) := by
  cases tree with
  | object members =>
    refine ⟨members, rfl, fun unmarked => ?_⟩
    rcases object_of_valueWithin? given with
      ⟨inner, pairs, rfl, related, same⟩ | ⟨-, n, same⟩ | marked
    · exact ⟨inner, pairs, rfl, related, (Value.object.inj same).symm⟩
    · cases same
    · exact absurd marked unmarked
  | array items =>
    obtain ⟨_, _, _, _, same⟩ := array_of_valueWithin? given
    cases same
  | _ => simp [valueWithin?] at given

/-- Only an array is read as an array, apart from an object that stands for a text. -/
theorem eq_array_of_valueWithin? {depth : Nat} {tree : Tree} {values : List Value}
    (given : tree.valueWithin? Value.ofText? depth = some (.array values)) :
    (∃ inner items, depth = inner + 1 ∧ tree = .array items ∧
      List.Forall₂ (fun (item : Tree) value =>
        item.valueWithin? Value.ofText? inner = some value) items values) ∨
    ∃ members, tree = .object members ∧ marker? members = some .text := by
  cases tree with
  | array items =>
    obtain ⟨inner, others, rfl, related, same⟩ := array_of_valueWithin? given
    obtain rfl := Value.array.inj same
    exact .inl ⟨inner, items, rfl, rfl, related⟩
  | object members =>
    rcases object_of_valueWithin? given with ⟨_, _, _, _, same⟩ | ⟨-, n, same⟩ | marked
    · cases same
    · cases same
    · exact .inr ⟨members, rfl, marked⟩
  | _ => simp [valueWithin?] at given

theorem eq_number_of_value? {tree : Tree} {n : Number} (given : tree.value? = some (.number n)) :
    tree = .number n ∨ ∃ members, tree = .object members := by
  unfold value? at given
  cases tree with
  | number m =>
    left
    simpa [valueWithin?] using given
  | object members => exact .inr ⟨members, rfl⟩
  | array items =>
    obtain ⟨_, _, _, _, same⟩ := array_of_valueWithin? given
    cases same
  | _ => simp [valueWithin?] at given

def objects : Tree → List (List (Member Tree))
  | .object members => [members]
  | .array items => items.filterMap fun item =>
    match item with
    | .object members => some members
    | _ => none
  | _ => []

end Tree

private theorem mem_of_mem_putMember {α : Type} {name : String} {value : α}
    {members : List (String × α)} {member : String × α}
    (put : member ∈ putMember name value members) : member = (name, value) ∨ member ∈ members := by
  induction members with
  | nil => exact .inl (List.mem_singleton.mp put)
  | cons first rest ih =>
    obtain ⟨other, old⟩ := first
    rw [putMember] at put
    split at put
    · rcases List.mem_cons.mp put with new | kept
      · exact .inl new
      · exact .inr (List.mem_cons_of_mem _ kept)
    · rcases List.mem_cons.mp put with rfl | later
      · exact .inr List.mem_cons_self
      · exact (ih later).imp_right (List.mem_cons_of_mem _)

theorem mem_of_mem_mergeMembers {α : Type} {members : List (String × α)} {member : String × α}
    (merged : member ∈ mergeMembers members) : member ∈ members := by
  have sources : ∀ before : List (String × α),
      member ∈ members.foldl (fun merged next => putMember next.1 next.2 merged) before →
      member ∈ before ∨ member ∈ members := by
    clear merged
    induction members with
    | nil => exact fun _ kept => .inl kept
    | cons first rest ih =>
      intro before inside
      rcases ih _ inside with put | later
      · rcases mem_of_mem_putMember put with rfl | old
        · exact .inr List.mem_cons_self
        · exact .inl old
      · exact .inr (List.mem_cons_of_mem _ later)
  rcases sources [] merged with none | member
  · cases none
  · exact member

def Value.members? : Value → Option (List (String × Value))
  | .object members => some members
  | _ => none

/-- The members of each object, in a value that is an object or an array of objects. -/
def Value.objects? : Value → Option (List (List (String × Value)))
  | .object members => some [members]
  | .array items => items.mapM Value.members?
  | _ => none

theorem mapM_members?_eq_some {items : List Value} {objects : List (List (String × Value))}
    (read : items.mapM Value.members? = some objects) : items = objects.map .object := by
  rw [mapM_eq_some_iff] at read
  induction read with
  | nil => rfl
  | @cons item members items objects head tail ih =>
    cases item with
    | object own =>
      obtain rfl := Option.some.inj head
      rw [List.map_cons, ← ih]
    | _ => cases head

end AccessorGen.Json

namespace AccessorGen

/-- An entry whose number stands in an object. -/
def Entry.Bracketed (entry : Entry) : Prop :=
  ∃ literal ∈ entry.literal, ['\x7b'] <+: literal.toList

instance (entry : Entry) : Decidable entry.Bracketed :=
  inferInstanceAs (Decidable (∃ literal ∈ entry.literal, _))

/-- What stands for the number of an entry in a text: the number as it is written, or an object.
Other values come without it. -/
structure Entry.Sourced (text : List Char) (entry : Entry) : Prop where
  number : ∀ n, entry.value = .number n → ∃ literal, entry.literal = some literal ∧
    literal.toList <:+: text ∧ (literal = n.spelling ∨ entry.Bracketed)
  other : (∀ n, entry.value ≠ .number n) → entry.literal = none

/-- What stands for the number of an entry, if anything does: the number as it is written, or an
object. -/
structure Entry.Spelled (entry : Entry) : Prop where
  number : ∀ n, entry.value = .number n →
    entry.literal = none ∨ entry.literal = some n.spelling ∨ entry.Bracketed
  other : (∀ n, entry.value ≠ .number n) → entry.literal = none

theorem Entry.Sourced.spelled {text : List Char} {entry : Entry} (sourced : entry.Sourced text) :
    entry.Spelled := by
  refine ⟨fun n number => .inr ?_, sourced.other⟩
  obtain ⟨literal, given, -, rfl | bracketed⟩ := sourced.number n number
  · exact .inl given
  · exact .inr bracketed

theorem Entry.spelled_of_literal {entry : Entry} (none : entry.literal = none) : entry.Spelled :=
  ⟨fun _ _ => .inl none, fun _ => none⟩

theorem Entry.not_bracketed_of_literal {entry : Entry} (none : entry.literal = none) :
    ¬ entry.Bracketed := by
  rintro ⟨literal, given, -⟩
  rw [none] at given
  cases given

namespace Document

open Json

def members (document : Document) : List (String × Json.Value) :=
  document.map fun entry => (entry.key, entry.value)

/-- No object that is a document of a text stands for a text that it holds. -/
def Unmarked (text : String) : Prop :=
  ∀ tree ∈ Tree.ofText? text, ∀ members ∈ tree.objects, marker? members ≠ some .text

instance (text : String) : Decidable (Unmarked text) :=
  inferInstanceAs (Decidable (∀ tree ∈ Tree.ofText? text, ∀ members ∈ tree.objects, _))

private theorem sourced_of_value? {text : List Char} {key : String} {member : Member Tree}
    (stands : member.StandsIn text) {value : Value} (valued : member.value.value? = some value) :
    Entry.Sourced text ⟨key, value, literal? member.source value⟩ := by
  constructor
  · rintro n rfl
    refine ⟨_, rfl, ?_, ?_⟩
    · rw [String.toList_ofList]
      exact (List.dropWhile_suffix _).isInfix.trans stands.piece
    · have told := stands.told
      rcases Tree.eq_number_of_value? valued with number | ⟨members, object⟩
      · rw [number] at told
        exact .inl (congrArg String.ofList told)
      · rw [object] at told
        refine .inr ⟨_, rfl, ?_⟩
        rw [String.toList_ofList]
        exact told
  · intro other
    cases value with
    | number n => exact absurd rfl (other n)
    | _ => rfl

theorem sourced_of_ofTree? {text : List Char} {members : List (Member Tree)} {document : Document}
    (stand : ∀ member ∈ members, member.StandsIn text) (read : ofTree? members = some document) :
    ∀ entry ∈ document, entry.Sourced text := by
  intro entry member
  obtain ⟨named, names, values⟩ := Option.bind_eq_some_iff.mp read
  obtain ⟨⟨key, source, tree⟩, merged, made⟩ :=
    exists_mem_of_forall₂ (mapM_eq_some_iff.mp values) member
  obtain ⟨value, valued, own⟩ := Option.bind_eq_some_iff.mp made
  obtain rfl := Option.some.inj own
  obtain ⟨held, inside, paired⟩ :=
    exists_mem_of_forall₂ (mapM_eq_some_iff.mp names) (mem_of_mem_mergeMembers merged)
  obtain ⟨name, -, same⟩ := Option.bind_eq_some_iff.mp paired
  obtain ⟨-, same⟩ := Prod.mk.inj (Option.some.inj same)
  obtain ⟨rfl, rfl⟩ := Prod.mk.inj same
  exact sourced_of_value? (stand held inside) valued

private theorem exists_object_of_ofItems {index : Nat} {items : List Tree}
    {documents : List Document} (read : ofItems index items = .ok documents)
    {document : Document} (member : document ∈ documents) :
    ∃ members, .object members ∈ items ∧ ofTree? members = some document := by
  induction items generalizing index documents with
  | nil =>
    obtain rfl : [] = documents := Except.ok.inj read
    cases member
  | cons item rest ih =>
    obtain ⟨first, head, read⟩ := bind_eq_ok_iff.mp read
    obtain ⟨others, tail, read⟩ := bind_eq_ok_iff.mp read
    obtain rfl := Except.ok.inj read
    rcases List.mem_cons.mp member with rfl | later
    · unfold ofItem at head
      split at head
      · rename_i members
        split at head
        · rename_i found
          obtain rfl := Except.ok.inj head
          exact ⟨members, List.mem_cons_self, found⟩
        · cases head
      · split at head
        · cases head
        · cases head
    · obtain ⟨members, inside, found⟩ := ih tail later
      exact ⟨members, List.mem_cons_of_mem item inside, found⟩

/-- What stands for a number in a document of a text is a piece of the text. -/
theorem sourced_of_readAll {text : String} {documents : List Document}
    (read : readAll text = .ok documents) :
    ∀ document ∈ documents, ∀ entry ∈ document, entry.Sourced text.toList := by
  intro document member
  unfold readAll at read
  split at read
  · cases read
  · rename_i members grammar
    have stands := Tree.standsIn_of_ofText? grammar
    split at read
    · rename_i own found
      obtain rfl := Except.ok.inj read
      obtain rfl := List.mem_singleton.mp member
      exact sourced_of_ofTree? (fun held among => stands held (.own among)) found
    · cases read
  · rename_i items grammar
    have stands := Tree.standsIn_of_ofText? grammar
    obtain ⟨members, inside, found⟩ := exists_object_of_ofItems read member
    exact sourced_of_ofTree? (fun held among => stands held (.item inside (.own among))) found
  · split at read
    · cases read
    · cases read

private theorem mapM_names {depth : Nat} {members : List (Member Tree)}
    {pairs : List (String × Value)} (shallow : depth ≤ maxDepth)
    (read : Tree.Reads depth members pairs) :
    ∃ named, (members.mapM fun member => do
        let name ← member.name.text?
        return (name, member.source, member.value)) = some named ∧
      List.Forall₂ (SameName fun (held : List Char × Tree) value => held.2.value? = some value)
        named pairs := by
  induction read with
  | nil => exact ⟨[], rfl, .nil⟩
  | @cons member pair members pairs head tail ih =>
    obtain ⟨named, others, related⟩ := ih
    have value : member.value.value? = some pair.2 :=
      Tree.valueWithin?_mono shallow (fun _ _ _ known => known) head.2
    refine ⟨(pair.1, member.source, member.value) :: named, ?_, .cons ⟨rfl, value⟩ related⟩
    simp only [List.mapM_cons, head.1, others]
    rfl

theorem ofTree?_eq {depth : Nat} {held : List (Member Tree)} {pairs : List (String × Value)}
    (shallow : depth ≤ maxDepth) (read : Tree.Reads depth held pairs) :
    ∃ document, ofTree? held = some document ∧ members document = mergeMembers pairs := by
  obtain ⟨named, names, related⟩ := mapM_names shallow read
  have merged := mergeMembers_forall₂ related
  rw [ofTree?, names, Option.bind_eq_bind, Option.bind_some]
  generalize mergeMembers named = kept at merged
  generalize mergeMembers pairs = values at merged
  induction merged with
  | nil => exact ⟨[], rfl, rfl⟩
  | @cons first pair kept values head tail ih =>
    obtain ⟨name, source, tree⟩ := first
    obtain ⟨_, value⟩ := pair
    obtain ⟨rfl, valued⟩ := head
    obtain ⟨document, entries, same⟩ := ih
    refine ⟨⟨name, value, literal? source value⟩ :: document, ?_, congrArg (_ :: ·) same⟩
    simp only [List.mapM_cons, entries, valued]
    rfl

private theorem ofItems_eq {depth : Nat} (shallow : depth ≤ maxDepth) {items : List Tree}
    {objects : List (List (String × Value))}
    (read : List.Forall₂ (fun (item : Tree) members =>
      item.valueWithin? Value.ofText? depth = some (.object members)) items objects)
    (unmarked : ∀ held, .object held ∈ items → marker? held ≠ some .text) (index : Nat) :
    ∃ documents, ofItems index items = .ok documents ∧ documents.map members = objects := by
  induction read generalizing index with
  | nil => exact ⟨[], rfl, rfl⟩
  | @cons item own items objects head tail ih =>
    obtain ⟨held, rfl, reads⟩ := Tree.eq_object_of_valueWithin? head
    obtain ⟨inner, pairs, rfl, related, rfl⟩ := reads (unmarked held List.mem_cons_self)
    obtain ⟨document, found, same⟩ := ofTree?_eq (by omega) related
    obtain ⟨documents, others, rest⟩ :=
      ih (fun held inside => unmarked held (List.mem_cons_of_mem _ inside)) (index + 1)
    refine ⟨document :: documents, ?_, ?_⟩
    · have first : ofItem index (.object held) = .ok document := by
        rw [ofItem, found]
      rw [ofItems, first, others]
      rfl
    · rw [List.map_cons, same, rest]

/-- The text of a value that is an object or an array of objects is read as the documents of these
objects, unless one of them stands for a text that it holds. -/
theorem readAll_eq {text : String} {value : Value} {objects : List (List (String × Value))}
    (read : Value.ofText? text = some value) (proper : value.objects? = some objects)
    (unmarked : Unmarked text) :
    ∃ documents, readAll text = .ok documents ∧ documents.map members = objects := by
  rw [Value.ofText?_eq] at read
  obtain ⟨tree, grammar, valued⟩ := Option.bind_eq_some_iff.mp read
  have plain := unmarked tree grammar
  cases value with
  | object own =>
    obtain rfl := Option.some.inj proper
    obtain ⟨held, rfl, reads⟩ := Tree.eq_object_of_valueWithin? valued
    obtain ⟨inner, pairs, depth, related, rfl⟩ := reads (plain held List.mem_cons_self)
    obtain ⟨document, found, same⟩ := ofTree?_eq (by omega) related
    refine ⟨[document], ?_, by rw [List.map_cons, same, List.map_nil]⟩
    rw [readAll, grammar]
    simp only [found]
  | array values =>
    obtain rfl := mapM_members?_eq_some proper
    rcases Tree.eq_array_of_valueWithin? valued with
      ⟨inner, items, depth, rfl, related⟩ | ⟨held, rfl, marked⟩
    · rw [List.forall₂_map_right_iff] at related
      rw [readAll, grammar]
      refine ofItems_eq (by omega) related (fun held inside => plain held ?_) 0
      exact List.mem_filterMap.mpr ⟨_, inside, rfl⟩
    · exact absurd marked (plain held List.mem_cons_self)
  | _ => cases proper

end Document

end AccessorGen
