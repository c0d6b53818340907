/- The grammar of keys as derivations.
   A key is derived from its tokens by putting white space around them. The scanner accepts exactly
   the keys that have a derivation, and the tokens that it returns are those of every derivation. -/

import AccessorGen.Key.Descriptor
import AccessorGen.Proofs.Readings
import AccessorGen.Proofs.Text.Split
import Mathlib.Data.List.TakeWhile

set_option autoImplicit false
set_option relaxedAutoImplicit false

namespace AccessorGen

namespace Text

theorem CodeRange.exists_mem_of_covers {table : List CodeRange} {n : Nat}
    (covered : covers table n = true) : ∃ range ∈ table, range.first ≤ n ∧ n ≤ range.last := by
  induction table with
  | nil => cases covered
  | cons range rest ih =>
    rw [covers] at covered
    split at covered
    · cases covered
    · split at covered
      · exact ⟨range, List.mem_cons_self, by omega⟩
      · obtain ⟨later, member, bounds⟩ := ih covered
        exact ⟨later, List.mem_cons_of_mem range member, bounds⟩

theorem isWordChar_eq_false_of_isBlank {c : Char} (blank : isBlank c = true) :
    isWordChar c = false := by
  have apart : ∀ range ∈ blankRanges, ∀ k < range.last + 1 - range.first,
      CodeRange.covers alphanumericRanges (range.first + k) = false := by decide +kernel
  obtain ⟨range, member, low, high⟩ := CodeRange.exists_mem_of_covers blank
  have inside := apart range member (c.toNat - range.first) (by omega)
  rw [Nat.add_sub_cancel' low] at inside
  have other : c ≠ '_' := by
    rintro rfl
    revert blank
    decide
  rw [isWordChar, isAlphanumeric, inside, Bool.false_or]
  exact beq_eq_false_iff_ne.mpr other

end Text

namespace Key

open Text (isBlank isWordChar splitOn)

def Blanks (cs : List Char) : Prop :=
  ∀ c ∈ cs, isBlank c = true

def IsWord (cs : List Char) : Prop :=
  ∀ c ∈ cs, isWordChar c = true

def IsParams (cs : List Char) : Prop :=
  ∀ c ∈ cs, isWordChar c = true ∨ isBlank c = true ∨ c = ','

inductive TypeSection : List Char → List Char → Option (List Char) → Prop
  | plain {a type b : List Char} :
      Blanks a → IsWord type → Blanks b → TypeSection (a ++ type ++ b) type none
  | sized {a type b c size d e : List Char} :
      Blanks a → IsWord type → Blanks b → Blanks c → IsWord size → Blanks d → Blanks e →
      TypeSection (a ++ type ++ b ++ '[' :: (c ++ size ++ d ++ ']' :: e)) type (some size)

inductive QualifierSection : List Char → List Char → Prop
  | plain {a qualifier b : List Char} :
      Blanks a → IsWord qualifier → Blanks b → QualifierSection (a ++ qualifier ++ b) qualifier

inductive NameSection : List Char → List Char → Option (List Char) → Prop
  | plain {a name b : List Char} :
      Blanks a → IsWord name → name ≠ [] → Blanks b → NameSection (a ++ name ++ b) name none
  | withParams {a name b params c : List Char} :
      Blanks a → IsWord name → name ≠ [] → Blanks b → IsParams params → Blanks c →
      NameSection (a ++ name ++ b ++ '(' :: (params ++ ')' :: c)) name
        (some ('(' :: params ++ [')']))

/-- The keys with given tokens. A qualifier stands only behind a type section. -/
inductive Derives : List Char → Tokens → Prop
  | named {n name : List Char} {params : Option (List Char)} :
      NameSection n name params → Derives n ⟨[], none, [], name, params⟩
  | typed {t type n name : List Char} {size params : Option (List Char)} :
      TypeSection t type size → NameSection n name params →
      Derives (t ++ ':' :: n) ⟨type, size, [], name, params⟩
  | qualified {t type q qualifier n name : List Char} {size params : Option (List Char)} :
      TypeSection t type size → QualifierSection q qualifier → NameSection n name params →
      Derives (t ++ ':' :: (q ++ ':' :: n)) ⟨type, size, qualifier, name, params⟩

/-- A text that neither a word nor white space can go on with. -/
def Ends (rest : List Char) : Prop :=
  ∀ c ∈ rest.head?, isBlank c = false ∧ isWordChar c = false

private theorem ends_nil : Ends [] := by
  intro c member
  cases member

private theorem ends_cons {c : Char} (blank : isBlank c = false) (word : isWordChar c = false)
    (rest : List Char) : Ends (c :: rest) := by
  intro first member
  obtain rfl : c = first := Option.some.inj member
  exact ⟨blank, word⟩

section Runs

variable {p : Char → Bool} {front rest : List Char}

private theorem dropWhile_eq_self (stop : ∀ c ∈ rest.head?, p c = false) :
    rest.dropWhile p = rest := by
  cases rest with
  | nil => rfl
  | cons c rest => simp [stop c rfl]

private theorem takeWhile_eq_nil (stop : ∀ c ∈ rest.head?, p c = false) :
    rest.takeWhile p = [] := by
  cases rest with
  | nil => rfl
  | cons c rest => simp [stop c rfl]

private theorem dropWhile_append_eq (run : ∀ c ∈ front, p c = true)
    (stop : ∀ c ∈ rest.head?, p c = false) : (front ++ rest).dropWhile p = rest := by
  rw [List.dropWhile_append_of_pos run, dropWhile_eq_self stop]

private theorem takeWhile_append_eq (run : ∀ c ∈ front, p c = true)
    (stop : ∀ c ∈ rest.head?, p c = false) : (front ++ rest).takeWhile p = front := by
  rw [List.takeWhile_append_of_pos run, takeWhile_eq_nil stop, List.append_nil]

end Runs

private theorem skipBlanks_append {a : List Char} (blanks : Blanks a) (cs : List Char) :
    skipBlanks (a ++ cs) = skipBlanks cs :=
  List.dropWhile_append_of_pos blanks

private theorem skipBlanks_isEmpty_iff (cs : List Char) :
    (skipBlanks cs).isEmpty = true ↔ Blanks cs := by
  rw [List.isEmpty_iff, skipBlanks, List.dropWhile_eq_nil_iff]
  rfl

/-- Every text is white space, a word, white space, and a rest that the scanner goes on with. -/
private theorem exists_split (cs : List Char) :
    ∃ a w b rest, Blanks a ∧ IsWord w ∧ Blanks b ∧ cs = a ++ w ++ b ++ rest ∧
      word (skipBlanks cs) = w ∧ afterWord (skipBlanks cs) = rest := by
  have front := List.takeWhile_append_dropWhile (p := isBlank) (l := cs)
  have inner := List.takeWhile_append_dropWhile (p := isWordChar) (l := skipBlanks cs)
  have behind := List.takeWhile_append_dropWhile (p := isBlank)
    (l := (skipBlanks cs).dropWhile isWordChar)
  refine ⟨cs.takeWhile isBlank, _, ((skipBlanks cs).dropWhile isWordChar).takeWhile isBlank, _,
    fun _ member => List.mem_takeWhile_imp member, fun _ member => List.mem_takeWhile_imp member,
    fun _ member => List.mem_takeWhile_imp member, ?_, rfl, rfl⟩
  calc cs = cs.takeWhile isBlank ++ skipBlanks cs := front.symm
    _ = cs.takeWhile isBlank ++ (word (skipBlanks cs) ++
          (skipBlanks cs).dropWhile isWordChar) := congrArg (cs.takeWhile isBlank ++ ·) inner.symm
    _ = _ := by
      rw [← List.append_assoc, List.append_assoc _ _ (afterWord _)]
      exact congrArg (cs.takeWhile isBlank ++ word (skipBlanks cs) ++ ·) behind.symm

private theorem word_of_split {a w b rest : List Char} (front : Blanks a) (run : IsWord w)
    (back : Blanks b) (ended : Ends rest) :
    word (skipBlanks (a ++ w ++ b ++ rest)) = w ∧
      afterWord (skipBlanks (a ++ w ++ b ++ rest)) = rest := by
  have behind : skipBlanks (b ++ rest) = rest :=
    dropWhile_append_eq back fun c first => (ended c first).1
  -- Behind the word stands white space or the rest, and neither goes on with it.
  have stop : ∀ c ∈ (b ++ rest).head?, isWordChar c = false := by
    intro c first
    cases b with
    | nil => exact (ended c first).2
    | cons blank b =>
      obtain rfl : blank = c := Option.some.inj first
      exact Text.isWordChar_eq_false_of_isBlank (back blank List.mem_cons_self)
  rw [List.append_assoc, List.append_assoc, skipBlanks_append front]
  by_cases empty : w = []
  · subst empty
    have still : ∀ c ∈ rest.head?, isWordChar c = false := fun c first => (ended c first).2
    rw [List.nil_append, behind, word, afterWord, dropWhile_eq_self still, takeWhile_eq_nil still]
    exact ⟨rfl, dropWhile_eq_self fun c first => (ended c first).1⟩
  · have kept : skipBlanks (w ++ (b ++ rest)) = w ++ (b ++ rest) := by
      apply dropWhile_eq_self
      intro c first
      obtain ⟨head, tail, rfl⟩ := List.exists_cons_of_ne_nil empty
      obtain rfl : head = c := Option.some.inj first
      by_contra blank
      have other := Text.isWordChar_eq_false_of_isBlank (Bool.not_eq_false _ ▸ blank)
      rw [run head List.mem_cons_self] at other
      cases other
    rw [kept, word, afterWord, takeWhile_append_eq run stop, dropWhile_append_eq run stop, behind]
    exact ⟨rfl, rfl⟩

theorem sizeSection?_eq_some_iff {cs size : List Char} :
    sizeSection? cs = some size ↔
      ∃ c d e, Blanks c ∧ IsWord size ∧ Blanks d ∧ Blanks e ∧
        cs = c ++ size ++ d ++ ']' :: e := by
  constructor
  · intro read
    obtain ⟨c, own, d, rest, front, run, back, shape, same, behind⟩ := exists_split cs
    unfold sizeSection? at read
    simp only [same, behind] at read
    split at read
    · rename_i e
      split at read
      · rename_i tail
        obtain rfl := Option.some.inj read
        exact ⟨c, d, e, front, run, back, (skipBlanks_isEmpty_iff e).mp tail, shape⟩
      · cases read
    · cases read
  · rintro ⟨c, d, e, front, run, back, tail, rfl⟩
    obtain ⟨same, behind⟩ := word_of_split front run back
      (ends_cons (c := ']') (by decide) (by decide) e)
    simp only [sizeSection?, same, behind, (skipBlanks_isEmpty_iff e).mpr tail, if_true]

theorem typeSection?_eq_some_iff {cs type : List Char} {size : Option (List Char)} :
    typeSection? cs = some (type, size) ↔ TypeSection cs type size := by
  constructor
  · intro read
    obtain ⟨a, own, b, rest, front, run, back, shape, same, behind⟩ := exists_split cs
    unfold typeSection? at read
    simp only [same, behind] at read
    split at read
    · obtain ⟨rfl, rfl⟩ := Prod.mk.inj (Option.some.inj read)
      rw [shape, List.append_nil]
      exact .plain front run back
    · rename_i inside
      obtain ⟨word, inner, made⟩ := Option.map_eq_some_iff.mp read
      obtain ⟨rfl, rfl⟩ := Prod.mk.inj made
      obtain ⟨c, d, e, frontInner, runInner, backInner, tail, rfl⟩ :=
        sizeSection?_eq_some_iff.mp inner
      rw [shape]
      exact .sized front run back frontInner runInner backInner tail
    · cases read
  · intro derived
    cases derived with
    | plain front run back =>
      obtain ⟨same, behind⟩ := word_of_split front run back ends_nil
      rw [List.append_nil] at same behind
      simp only [typeSection?, same, behind]
    | sized front run back frontInner runInner backInner tail =>
      rename_i a b c size d e
      obtain ⟨same, behind⟩ := word_of_split front run back
        (ends_cons (c := '[') (by decide) (by decide) (c ++ size ++ d ++ ']' :: e))
      have inner := sizeSection?_eq_some_iff.mpr
        ⟨c, d, e, frontInner, runInner, backInner, tail, rfl⟩
      simp only [typeSection?, same, behind, inner, Option.map_some]

theorem qualifierSection?_eq_some_iff {cs qualifier : List Char} :
    qualifierSection? cs = some qualifier ↔ QualifierSection cs qualifier := by
  constructor
  · intro read
    obtain ⟨a, own, b, rest, front, run, back, shape, same, behind⟩ := exists_split cs
    unfold qualifierSection? at read
    simp only [same, behind] at read
    split at read
    · rename_i done
      obtain rfl := Option.some.inj read
      rw [shape, List.isEmpty_iff.mp done, List.append_nil]
      exact .plain front run back
    · cases read
  · intro derived
    cases derived with
    | plain front run back =>
      obtain ⟨same, behind⟩ := word_of_split front run back ends_nil
      rw [List.append_nil] at same behind
      simp only [qualifierSection?, same, behind, List.isEmpty_nil, if_true]

private theorem isParamChar_iff (c : Char) :
    isParamChar c = true ↔ isWordChar c = true ∨ isBlank c = true ∨ c = ',' := by
  simp [isParamChar, or_assoc]

theorem paramsSection?_eq_some_iff {cs params : List Char} :
    paramsSection? cs = some params ↔
      ∃ inner c, IsParams inner ∧ Blanks c ∧ cs = inner ++ ')' :: c ∧
        params = '(' :: inner ++ [')'] := by
  constructor
  · intro read
    have split := List.takeWhile_append_dropWhile (p := isParamChar) (l := cs)
    have run : IsParams (cs.takeWhile isParamChar) := fun c member =>
      (isParamChar_iff c).mp (List.mem_takeWhile_imp member)
    unfold paramsSection? at read
    split at read
    · rename_i rest closing
      split at read
      · rename_i tail
        rw [closing] at split
        exact ⟨_, rest, run, (skipBlanks_isEmpty_iff rest).mp tail, split.symm,
          (Option.some.inj read).symm⟩
      · cases read
    · cases read
  · rintro ⟨inner, c, run, tail, rfl, rfl⟩
    have all : ∀ d ∈ inner, isParamChar d = true := fun d member =>
      (isParamChar_iff d).mpr (run d member)
    have stop : ∀ d ∈ (')' :: c).head?, isParamChar d = false := by
      intro d first
      obtain rfl : ')' = d := Option.some.inj first
      decide
    rw [paramsSection?, dropWhile_append_eq all stop, takeWhile_append_eq all stop]
    simp only [(skipBlanks_isEmpty_iff c).mpr tail, if_true]

theorem nameSection?_eq_some_iff {cs name : List Char} {params : Option (List Char)} :
    nameSection? cs = some (name, params) ↔ NameSection cs name params := by
  constructor
  · intro read
    obtain ⟨a, own, b, rest, front, run, back, shape, same, behind⟩ := exists_split cs
    unfold nameSection? at read
    simp only [same, behind] at read
    split at read
    · cases read
    · rename_i filled
      have filled : own ≠ [] := mt List.isEmpty_iff.mpr filled
      split at read
      · obtain ⟨rfl, rfl⟩ := Prod.mk.inj (Option.some.inj read)
        rw [shape, List.append_nil]
        exact .plain front run filled back
      · rename_i inside
        obtain ⟨list, inner, made⟩ := Option.map_eq_some_iff.mp read
        obtain ⟨rfl, rfl⟩ := Prod.mk.inj made
        obtain ⟨words, c, runInner, tail, rfl, rfl⟩ := paramsSection?_eq_some_iff.mp inner
        rw [shape]
        exact .withParams front run filled back runInner tail
      · cases read
  · intro derived
    cases derived with
    | plain front run filled back =>
      obtain ⟨same, behind⟩ := word_of_split front run back ends_nil
      rw [List.append_nil] at same behind
      simp only [nameSection?, same, behind, mt List.isEmpty_iff.mp filled]
      rfl
    | withParams front run filled back runInner tail =>
      rename_i a b words c
      obtain ⟨same, behind⟩ := word_of_split front run back
        (ends_cons (c := '(') (by decide) (by decide) (words ++ ')' :: c))
      have inner := paramsSection?_eq_some_iff.mpr ⟨words, c, runInner, tail, rfl, rfl⟩
      simp only [nameSection?, same, behind, mt List.isEmpty_iff.mp filled, inner,
        Option.map_some]
      rfl

/-! The colons of a key stand between its sections and nowhere else. -/

private theorem Blanks.colon_not_mem {cs : List Char} (blanks : Blanks cs) : ':' ∉ cs := by
  intro member
  have blank := blanks ':' member
  revert blank
  decide

private theorem IsWord.colon_not_mem {cs : List Char} (run : IsWord cs) : ':' ∉ cs := by
  intro member
  have word := run ':' member
  revert word
  decide

private theorem IsParams.colon_not_mem {cs : List Char} (run : IsParams cs) : ':' ∉ cs := by
  intro member
  have allowed := (isParamChar_iff ':').mpr (run ':' member)
  revert allowed
  decide

private theorem TypeSection.colon_not_mem {cs type : List Char} {size : Option (List Char)}
    (derived : TypeSection cs type size) : ':' ∉ cs := by
  cases derived with
  | plain front run back =>
    simp [front.colon_not_mem, run.colon_not_mem, back.colon_not_mem]
  | sized front run back frontInner runInner backInner tail =>
    simp [front.colon_not_mem, run.colon_not_mem, back.colon_not_mem, frontInner.colon_not_mem,
      runInner.colon_not_mem, backInner.colon_not_mem, tail.colon_not_mem]

private theorem QualifierSection.colon_not_mem {cs qualifier : List Char}
    (derived : QualifierSection cs qualifier) : ':' ∉ cs := by
  cases derived with
  | plain front run back =>
    simp [front.colon_not_mem, run.colon_not_mem, back.colon_not_mem]

private theorem NameSection.colon_not_mem {cs name : List Char} {params : Option (List Char)}
    (derived : NameSection cs name params) : ':' ∉ cs := by
  cases derived with
  | plain front run filled back =>
    simp [front.colon_not_mem, run.colon_not_mem, back.colon_not_mem]
  | withParams front run filled back runInner tail =>
    simp [front.colon_not_mem, run.colon_not_mem, back.colon_not_mem, runInner.colon_not_mem,
      tail.colon_not_mem]

theorem derives_of_scan? {key : List Char} {tokens : Tokens} (read : scan? key = some tokens) :
    Derives key tokens := by
  have whole := Text.joinWith_splitOn ':' key
  unfold scan? at read
  split at read
  · rename_i n sections
    rw [sections] at whole
    simp only [Option.bind_eq_bind, Option.bind_eq_some_iff] at read
    obtain ⟨⟨name, params⟩, named, made⟩ := read
    obtain rfl := Option.some.inj made
    rw [← whole]
    exact .named (nameSection?_eq_some_iff.mp named)
  · rename_i t n sections
    rw [sections] at whole
    simp only [Option.bind_eq_bind, Option.bind_eq_some_iff] at read
    obtain ⟨⟨type, size⟩, typed, ⟨name, params⟩, named, made⟩ := read
    obtain rfl := Option.some.inj made
    rw [← whole]
    exact .typed (typeSection?_eq_some_iff.mp typed) (nameSection?_eq_some_iff.mp named)
  · rename_i t q n sections
    rw [sections] at whole
    simp only [Option.bind_eq_bind, Option.bind_eq_some_iff] at read
    obtain ⟨⟨type, size⟩, typed, qualifier, qualified, ⟨name, params⟩, named, made⟩ := read
    obtain rfl := Option.some.inj made
    rw [← whole]
    exact .qualified (typeSection?_eq_some_iff.mp typed)
      (qualifierSection?_eq_some_iff.mp qualified) (nameSection?_eq_some_iff.mp named)
  · cases read

theorem scan?_of_derives {key : List Char} {tokens : Tokens} (derived : Derives key tokens) :
    scan? key = some tokens := by
  cases derived with
  | named name =>
    rw [scan?, Text.splitOn_eq_singleton name.colon_not_mem]
    simp only [nameSection?_eq_some_iff.mpr name]
    rfl
  | typed type name =>
    rw [scan?, Text.splitOn_append_mark, Text.splitOn_eq_singleton type.colon_not_mem,
      Text.splitOn_eq_singleton name.colon_not_mem]
    simp only [List.singleton_append, typeSection?_eq_some_iff.mpr type,
      nameSection?_eq_some_iff.mpr name]
    rfl
  | qualified type qualifier name =>
    rw [scan?, Text.splitOn_append_mark, Text.splitOn_append_mark,
      Text.splitOn_eq_singleton type.colon_not_mem,
      Text.splitOn_eq_singleton qualifier.colon_not_mem,
      Text.splitOn_eq_singleton name.colon_not_mem]
    simp only [List.singleton_append, typeSection?_eq_some_iff.mpr type,
      qualifierSection?_eq_some_iff.mpr qualifier, nameSection?_eq_some_iff.mpr name]
    rfl

end Key

namespace Descriptor

private theorem ofTokens_ne_malformedKey (key : String) (tokens : Key.Tokens) :
    ofTokens key tokens ≠ .error (.malformedKey key) := by
  have type : readType key tokens.typeWord ≠ .error (.malformedKey key) := by
    rw [readType]
    split
    · simp
    · split <;> simp
  have size : readSize key tokens.size ≠ .error (.malformedKey key) := by
    cases tokens.size with
    | none => simp [readSize]
    | some word =>
      rw [readSize]
      split
      · simp
      · split
        · simp
        · split <;> simp
  have access : readAccess key tokens.qualifier ≠ .error (.malformedKey key) := by
    rw [readAccess]
    split <;> simp
  have annotations : ∀ d, checkAnnotations key d ≠ .error (.malformedKey key) := by
    intro d
    rw [checkAnnotations]
    split
    · simp
    · split <;> simp
  simp only [ofTokens, ne_eq, bind_eq_error_iff, type, size, access, annotations, false_or,
    not_exists, not_and]
  intro _ _ _ _ _ _ _ _ made
  cases made

theorem parse_eq_malformedKey_iff (key : String) :
    parse key = .error (.malformedKey key) ↔ Key.scan? key.toList = none := by
  unfold parse
  split
  · rename_i unread
    simp [unread]
  · rename_i tokens read
    simp [read, ofTokens_ne_malformedKey]

end Descriptor

namespace Key

/-- The scanner accepts exactly the keys that have a derivation and returns its tokens. All
derivations of a key have the same tokens, and a key without a derivation is a syntax error. -/
theorem scan?_accepts_grammar (key : String) :
    (∀ tokens, scan? key.toList = some tokens ↔ Derives key.toList tokens) ∧
    (∀ tokens others, Derives key.toList tokens → Derives key.toList others → tokens = others) ∧
    ((¬ ∃ tokens, Derives key.toList tokens) ↔
      Descriptor.parse key = .error (.malformedKey key)) ∧
    (Fault.malformedKey key).kind = .syntactic := by
  have accepts : ∀ tokens, scan? key.toList = some tokens ↔ Derives key.toList tokens :=
    fun tokens => ⟨derives_of_scan?, scan?_of_derives⟩
  refine ⟨accepts, ?_, ?_, rfl⟩
  · intro tokens others first second
    have same := (scan?_of_derives first).symm.trans (scan?_of_derives second)
    exact Option.some.inj same
  · rw [Descriptor.parse_eq_malformedKey_iff, Option.eq_none_iff_forall_ne_some, not_exists]
    exact forall_congr' fun tokens => not_congr (accepts tokens).symm

example : scan? ['t', ' ', '[', ']', ':', ':', 'n', '(', ',', ')'] =
    some ⟨['t'], some [], [], ['n'], some ['(', ',', ')']⟩ := by decide +kernel

end Key

end AccessorGen
