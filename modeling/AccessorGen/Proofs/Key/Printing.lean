/- Keys as they are written.
   A descriptor can be written as a key in many ways, with white space around every token and zeros
   in front of its size. Each of them is read as the descriptor again, and every descriptor that is
   read can be written. -/

import AccessorGen.Proofs.Key.Flaws
import AccessorGen.Proofs.Key.Grammar

set_option autoImplicit false
set_option relaxedAutoImplicit false

namespace AccessorGen

/-- What every descriptor of a key satisfies. -/
structure Descriptor.Proper (d : Descriptor) : Prop where
  filled : d.name ≠ ""
  word : Key.IsWord d.name.toList
  /-- Only a macro has parameters, and they stand in parentheses. -/
  params : ∀ list, d.params = some list →
    d.type = .cMacro ∧ ∃ inner, Key.IsParams inner ∧ list.toList = '(' :: inner ++ [')']
  /-- Only a string has a size. -/
  size : d.size.isSome → d.type = .string
  capacity : ∀ bytes, d.size = some (.fixed bytes) → bytes < Nat.pow 2 64

namespace Key

instance (cs : List Char) : Decidable (Blanks cs) :=
  List.decidableBAll (Text.isBlank · = true) cs

instance (cs : List Char) : Decidable (IsWord cs) :=
  List.decidableBAll (Text.isWordChar · = true) cs

abbrev Gap : Type :=
  { cs : List Char // Blanks cs }

structure Layout where
  /-- Whether to leave out the qualifier of what is read-only, and then also the type of a
  directive. -/
  brief : Bool
  /-- How many zeros stand in front of a size. -/
  zeros : Nat
  beforeType : Gap
  afterType : Gap
  beforeSize : Gap
  afterSize : Gap
  afterBracket : Gap
  beforeQualifier : Gap
  afterQualifier : Gap
  beforeName : Gap
  afterName : Gap
  afterParams : Gap

namespace Layout

variable (layout : Layout)

def sizeWord : Size → List Char
  | .fitted => []
  | .fixed bytes => List.replicate layout.zeros '0' ++ (toString bytes).toList

def typeText (type : FieldType) : Option Size → List Char
  | none => layout.beforeType.val ++ type.name.toList ++ layout.afterType.val
  | some size =>
    layout.beforeType.val ++ type.name.toList ++ layout.afterType.val ++
      '[' :: (layout.beforeSize.val ++ layout.sizeWord size ++ layout.afterSize.val ++
        ']' :: layout.afterBracket.val)

def qualifierWord : Access → List Char
  | .readOnly => ['r']
  | .writable => ['w']

def qualifierText (access : Access) : List Char :=
  layout.beforeQualifier.val ++ qualifierWord access ++ layout.afterQualifier.val

def nameText (name : String) : Option String → List Char
  | none => layout.beforeName.val ++ name.toList ++ layout.afterName.val
  | some params =>
    layout.beforeName.val ++ name.toList ++ layout.afterName.val ++
      (params.toList ++ layout.afterParams.val)

end Layout

end Key

def Descriptor.print (layout : Key.Layout) (d : Descriptor) : String :=
  let type := layout.typeText d.type d.size
  let name := layout.nameText d.name d.params
  String.ofList
    (if layout.brief ∧ d.access = .readOnly then
      if d.type = .config then name else type ++ ':' :: name
    else type ++ ':' :: (layout.qualifierText d.access ++ ':' :: name))

namespace Key

theorem NameSection.shape {cs name : List Char} {params : Option (List Char)}
    (derived : NameSection cs name params) :
    name ≠ [] ∧ IsWord name ∧
      ∀ list, params = some list → ∃ inner, IsParams inner ∧ list = '(' :: inner ++ [')'] := by
  cases derived with
  | plain front run filled back => exact ⟨filled, run, fun list none => by cases none⟩
  | withParams front run filled back runInner tail =>
    exact ⟨filled, run, fun list same => ⟨_, runInner, (Option.some.inj same).symm⟩⟩

theorem Derives.shape {key : List Char} {tokens : Tokens} (derived : Derives key tokens) :
    tokens.name ≠ [] ∧ IsWord tokens.name ∧
      ∀ list, tokens.params = some list →
        ∃ inner, IsParams inner ∧ list = '(' :: inner ++ [')'] := by
  cases derived with
  | named name => exact name.shape
  | typed type name => exact name.shape
  | qualified type qualifier name => exact name.shape

end Key

namespace Descriptor

open Key

theorem proper_descriptor {key : List Char} {tokens : Tokens} (scanned : scan? key = some tokens)
    (sound : ∀ flaw, Flaw.isIn tokens flaw = false) : tokens.descriptor.Proper := by
  obtain ⟨filled, word, params⟩ := (derives_of_scan? scanned).shape
  have name : tokens.descriptor.name.toList = tokens.name := String.toList_ofList
  refine ⟨?filled, ?word, ?params, ?size, ?capacity⟩
  case filled =>
    intro empty
    rw [empty] at name
    exact filled name.symm
  case word => rwa [name]
  case params =>
    intro list given
    obtain ⟨own, present, rfl⟩ := Option.map_eq_some_iff.mp given
    have misplaced := sound .misplacedParams
    rw [Flaw.isIn, present] at misplaced
    obtain ⟨inner, allowed, rfl⟩ := params own present
    exact ⟨(type_eq_iff tokens (by decide)).mpr (by simpa using misplaced), inner, allowed,
      String.toList_ofList⟩
  case size =>
    intro given
    have misplaced := sound .misplacedSize
    have present : tokens.size.isSome = true := by
      simpa [Tokens.descriptor, Tokens.capacity?] using given
    rw [Flaw.isIn, present] at misplaced
    exact (type_eq_iff tokens (by decide)).mpr (by simpa using misplaced)
  case capacity =>
    intro bytes given
    obtain ⟨digits, present, made⟩ := Option.map_eq_some_iff.mp given
    have other := sound .sizeNotNumber
    have large := sound .sizeTooLarge
    rw [Flaw.isIn, present] at other
    rw [Flaw.isIn, present] at large
    split at made
    · cases made
    · obtain rfl := Size.fixed.inj made
      have every : digits.all Char.isDigit = true := by simpa using other
      rw [Option.any_some, every, Bool.true_and, decide_eq_false_iff_not] at large
      exact Nat.lt_of_not_le large

theorem proper_of_parse {key : String} {d : Descriptor} (read : parse key = .ok d) :
    d.Proper := by
  cases scanned : scan? key.toList with
  | none =>
    rw [parse, scanned] at read
    cases read
  | some tokens =>
    rw [parse_eq scanned] at read
    cases first : Flaw.first? tokens with
    | some flaw =>
      rw [first] at read
      cases read
    | none =>
      rw [first] at read
      obtain rfl := Except.ok.inj read
      exact proper_descriptor scanned (Flaw.first?_eq_none_iff.mp first)

section Printed

variable (layout : Layout)

private theorem sizeWord_fixed (bytes : Nat) :
    layout.sizeWord (.fixed bytes) =
      Text.Digits.chars (List.replicate layout.zeros 0 ++ Text.Digits.ofNat bytes) := by
  have zero : Nat.digitChar (0 : Fin 10).val = '0' := by decide
  rw [Layout.sizeWord, ← Text.Digits.chars_ofNat, Text.Digits.chars, Text.Digits.chars,
    List.map_append, List.map_replicate, zero]

private theorem isDigit_sizeWord {size : Size} {c : Char} (member : c ∈ layout.sizeWord size) :
    c.isDigit = true := by
  cases size with
  | fitted => cases member
  | fixed bytes =>
    rw [sizeWord_fixed] at member
    exact Text.Digits.isDigit_of_mem_chars member

private theorem isWord_sizeWord (size : Size) : IsWord (layout.sizeWord size) := by
  have digits : ∀ n < 58, 48 ≤ n → Text.isWordChar (Char.ofNat n) = true := by decide +kernel
  intro c member
  have bounds := Char.isDigit_iff_toNat.mp (isDigit_sizeWord layout member)
  have low : 48 ≤ c.toNat := bounds.1
  have high : c.toNat ≤ 57 := bounds.2
  rw [← Char.ofNat_toNat c]
  exact digits c.toNat (by omega) low

private theorem isWord_typeName (type : FieldType) : IsWord type.name.toList := by
  have every : ∀ other ∈ FieldType.all, IsWord other.name.toList := by decide +kernel
  exact every type (List.mem_of_find?_eq_some (FieldType.find?_name type))

private theorem isWord_qualifierWord (access : Access) :
    IsWord (Layout.qualifierWord access) := by
  cases access <;> decide +kernel

theorem typeSection_typeText (type : FieldType) (size : Option Size) :
    TypeSection (layout.typeText type size) type.name.toList (size.map layout.sizeWord) := by
  cases size with
  | none => exact .plain layout.beforeType.2 (isWord_typeName type) layout.afterType.2
  | some size =>
    exact .sized layout.beforeType.2 (isWord_typeName type) layout.afterType.2
      layout.beforeSize.2 (isWord_sizeWord layout size) layout.afterSize.2 layout.afterBracket.2

theorem qualifierSection_qualifierText (access : Access) :
    QualifierSection (layout.qualifierText access) (Layout.qualifierWord access) :=
  .plain layout.beforeQualifier.2 (isWord_qualifierWord access) layout.afterQualifier.2

theorem nameSection_nameText {d : Descriptor} (proper : d.Proper) :
    NameSection (layout.nameText d.name d.params) d.name.toList (d.params.map String.toList) := by
  have filled : d.name.toList ≠ [] := by simpa using proper.filled
  cases params : d.params with
  | none => exact .plain layout.beforeName.2 proper.word filled layout.afterName.2
  | some list =>
    obtain ⟨-, inner, allowed, shape⟩ := proper.params list params
    have brackets : '(' :: inner ++ [')'] ++ layout.afterParams.val =
        '(' :: (inner ++ ')' :: layout.afterParams.val) := by
      simp
    rw [Layout.nameText, Option.map_some, shape, brackets]
    exact .withParams layout.beforeName.2 proper.word filled layout.afterName.2 allowed
      layout.afterParams.2

private theorem ofDigitChars_sizeWord (bytes : Nat) :
    Nat.ofDigitChars 10 (layout.sizeWord (.fixed bytes)) 0 = bytes := by
  rw [sizeWord_fixed, Text.Digits.ofDigitChars_chars, Text.Digits.value_replicate_append,
    Text.Digits.value_ofNat]

private theorem capacity?_sizeWord {tokens : Tokens} {size : Option Size}
    (written : tokens.size = size.map layout.sizeWord) : tokens.capacity? = size := by
  rw [Tokens.capacity?, written]
  cases size with
  | none => rfl
  | some size =>
    cases size with
    | fitted => rfl
    | fixed bytes =>
      have filled : layout.sizeWord (.fixed bytes) ≠ [] := by
        rw [sizeWord_fixed]
        exact Text.Digits.chars_ne_nil
          (List.append_ne_nil_of_right_ne_nil _ (Text.Digits.canonical_ofNat bytes).filled)
      rw [Option.map_some, Option.map_some, if_neg filled, ofDigitChars_sizeWord]

private theorem no_size_flaw {d : Descriptor} (proper : d.Proper) {tokens : Tokens}
    (written : tokens.size = d.size.map layout.sizeWord) :
    Flaw.sizeNotNumber.isIn tokens = false ∧ Flaw.sizeTooLarge.isIn tokens = false := by
  rw [Flaw.isIn, Flaw.isIn, written]
  cases given : d.size with
  | none => exact ⟨rfl, rfl⟩
  | some size =>
    have digits : ∀ c ∈ layout.sizeWord size, c.isDigit = true := fun c member =>
      isDigit_sizeWord layout member
    refine ⟨by simpa using digits, ?_⟩
    cases size with
    | fitted => rfl
    | fixed bytes =>
      have small := proper.capacity bytes given
      rw [Option.map_some, Option.any_some, ofDigitChars_sizeWord,
        decide_eq_false (Nat.not_le.mpr small), Bool.and_false]

/-- Tokens that stand for a descriptor. The type of a directive may be missing, and so may the
qualifier of what is read-only. -/
structure WrittenWith (d : Descriptor) (tokens : Tokens) : Prop where
  type : tokens.typeWord = d.type.name.toList ∨ tokens.typeWord = [] ∧ d.type = .config
  size : tokens.size = d.size.map layout.sizeWord
  qualifier : tokens.qualifier = Layout.qualifierWord d.access ∨
    tokens.qualifier = [] ∧ d.access = .readOnly
  name : tokens.name = d.name.toList
  params : tokens.params = d.params.map String.toList

namespace WrittenWith

variable {layout : Layout} {d : Descriptor} {tokens : Tokens}

private theorem type_eq (written : d.WrittenWith layout tokens) : tokens.type = d.type := by
  rcases written.type with named | ⟨missing, directive⟩
  · rw [Tokens.type, Tokens.find?_names_of_name named, Option.getD_some]
  · rw [Tokens.type, Tokens.find?_names_of_missing missing, directive, Option.getD_none]

theorem descriptor_eq (written : d.WrittenWith layout tokens) : tokens.descriptor = d := by
  have size := capacity?_sizeWord layout written.size
  have access : tokens.access = d.access := by
    rw [Tokens.access]
    rcases written.qualifier with letter | ⟨missing, readOnly⟩
    · rw [letter]
      cases d.access <;> rfl
    · rw [missing, readOnly]
      rfl
  have params : tokens.params.map String.ofList = d.params := by
    rw [written.params, Option.map_map]
    simp [Function.comp_def]
  rw [Tokens.descriptor, written.type_eq, size, access, written.name, String.ofList_toList, params]

theorem no_flaw (written : d.WrittenWith layout tokens) (proper : d.Proper) :
    Flaw.first? tokens = none := by
  obtain ⟨number, small⟩ := no_size_flaw layout proper written.size
  rw [Flaw.first?_eq_none_iff]
  intro flaw
  cases flaw with
  | unknownType =>
    rw [Flaw.isIn]
    rcases written.type with named | ⟨missing, -⟩
    · have found := Tokens.find?_names_of_name named
      have known : FieldType.all.any tokens.names = true :=
        List.any_eq_true.mpr ⟨d.type, List.mem_of_find?_eq_some found, List.find?_some found⟩
      simp [known]
    · simp [missing]
  | sizeNotNumber => exact number
  | sizeTooLarge => exact small
  | badQualifier =>
    rw [Flaw.isIn]
    rcases written.qualifier with letter | ⟨missing, -⟩
    · rw [letter]
      cases d.access <;> decide
    · rw [missing]
      decide
  | misplacedParams =>
    rw [Flaw.isIn, written.params]
    cases params : d.params with
    | none => rfl
    | some list =>
      have definition := (proper.params list params).1
      rw [← written.type_eq, type_eq_iff tokens (by decide)] at definition
      simp [definition]
  | misplacedSize =>
    rw [Flaw.isIn, written.size]
    cases size : d.size with
    | none => rfl
    | some capacity =>
      have text := proper.size (by simp [size])
      rw [← written.type_eq, type_eq_iff tokens (by decide)] at text
      simp [text]

end WrittenWith

theorem exists_scan?_print {d : Descriptor} (proper : d.Proper) :
    ∃ tokens, scan? (d.print layout).toList = some tokens ∧ d.WrittenWith layout tokens := by
  have type := typeSection_typeText layout d.type d.size
  have qualifier := qualifierSection_qualifierText layout d.access
  have name := nameSection_nameText layout proper
  rw [print, String.toList_ofList]
  split
  · rename_i brief
    split
    · rename_i directive
      have unsized : d.size = none := by
        by_contra sized
        have text := proper.size (Option.isSome_iff_ne_none.mpr sized)
        rw [directive] at text
        cases text
      refine ⟨_, scan?_of_derives (.named name), ?_⟩
      exact ⟨.inr ⟨rfl, directive⟩, by rw [unsized]; rfl, .inr ⟨rfl, brief.2⟩, rfl, rfl⟩
    · refine ⟨_, scan?_of_derives (.typed type name), ?_⟩
      exact ⟨.inl rfl, rfl, .inr ⟨rfl, brief.2⟩, rfl, rfl⟩
  · refine ⟨_, scan?_of_derives (.qualified type qualifier name), ?_⟩
    exact ⟨.inl rfl, rfl, .inl rfl, rfl, rfl⟩

/-- A proper descriptor is read back from every key that it is printed as. -/
theorem parse_print {d : Descriptor} (proper : d.Proper) : parse (d.print layout) = .ok d := by
  obtain ⟨tokens, scanned, written⟩ := exists_scan?_print layout proper
  rw [parse_eq scanned, written.no_flaw proper, written.descriptor_eq]

end Printed

/-- Reading keys and writing them are inverse to each other. Every descriptor that is read is
proper, and a proper descriptor is read back from its key, whatever white space stands around the
tokens and however many zeros in front of the size. A key in the right form is refused for the first
flaw of its tokens, in the order in which all flaws are listed, and read if they have none. -/
theorem parse_inverts_print :
    (∀ (key : String) (d : Descriptor), parse key = .ok d → d.Proper) ∧
    (∀ (d : Descriptor) (layout : Layout), d.Proper → parse (d.print layout) = .ok d) ∧
    ∀ (key : String) (tokens : Tokens), scan? key.toList = some tokens →
      (∀ flaw, Flaw.first? tokens = some flaw →
        parse key = .error (flaw.fault key tokens) ∧
          (flaw.fault key tokens).kind = flaw.kind) ∧
      (Flaw.first? tokens = none → ∃ d, parse key = .ok d) := by
  refine ⟨fun key d => proper_of_parse, fun d layout => parse_print layout, ?_⟩
  intro key tokens scanned
  rw [parse_eq scanned]
  refine ⟨fun flaw first => ?_, fun none => ?_⟩
  · rw [first]
    exact ⟨rfl, Flaw.kind_fault key tokens flaw⟩
  · rw [none]
    exact ⟨tokens.descriptor, rfl⟩

private def wide : Descriptor :=
  ⟨.string, some (.fixed 12), .writable, "Gr\u00f6\u00dfe", none⟩

private def spaced : Layout :=
  let gap : Gap := ⟨['\u3000', '\t'], by decide⟩
  ⟨false, 2, gap, gap, gap, gap, gap, gap, gap, gap, gap, gap⟩

/-- A key with all kinds of space is read back, and one with four flaws is refused for the first of
them. -/
theorem parse_inverts_print_spaced :
    wide.print spaced =
        "\u3000\tstring\u3000\t[\u3000\t0012\u3000\t]\u3000\t:\u3000\tw\u3000\t:" ++
          "\u3000\tGr\u00f6\u00dfe\u3000\t" ∧
      parse (wide.print spaced) = .ok wide ∧ wide.Proper ∧
      ∃ fault, parse "int8[x]:q:Name(a)" = .error fault ∧ fault.kind = .syntactic := by
  obtain ⟨proper, printed, refused⟩ := parse_inverts_print
  have own : wide.Proper := by
    refine ⟨by decide, by decide +kernel, ?_, fun _ => rfl, ?_⟩
    · intro list given
      cases given
    · rintro bytes ⟨⟩
      decide
  have read := printed wide spaced own
  have scanned : scan? "int8[x]:q:Name(a)".toList =
      some ⟨"int8".toList, some ['x'], ['q'], "Name".toList, some "(a)".toList⟩ := by
    decide +kernel
  obtain ⟨failed, kind⟩ := (refused _ _ scanned).1 .sizeNotNumber (by decide +kernel)
  exact ⟨by decide +kernel, read, proper _ _ read, _, failed, kind⟩

end Descriptor

end AccessorGen
