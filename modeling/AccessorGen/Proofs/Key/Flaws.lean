/- What is wrong with a key.
   The tokens of a key can have several flaws at once. They are looked for in a fixed order, and the
   first one decides how the key is refused; tokens without a flaw have a descriptor. -/

import AccessorGen.Key.Descriptor
import AccessorGen.Proofs.Readings
import AccessorGen.Proofs.Text.Digits

set_option autoImplicit false
set_option relaxedAutoImplicit false

namespace AccessorGen

theorem FieldType.find?_name (type : FieldType) :
    all.find? (fun other => type.name.toList == other.name.toList) = some type := by
  cases type with
  | signed width => cases width <;> decide
  | unsigned width => cases width <;> decide
  | _ => decide

namespace Key

namespace Tokens

def names (tokens : Tokens) (type : FieldType) : Bool :=
  tokens.typeWord == type.name.toList

def type (tokens : Tokens) : FieldType :=
  (FieldType.all.find? tokens.names).getD .config

def capacity? (tokens : Tokens) : Option Size :=
  tokens.size.map fun word =>
    if word = [] then .fitted else .fixed (Nat.ofDigitChars 10 word 0)

def access (tokens : Tokens) : Access :=
  if 'w' ∈ tokens.qualifier then .writable else .readOnly

theorem find?_names_of_missing {tokens : Tokens} (missing : tokens.typeWord = []) :
    FieldType.all.find? tokens.names = none := by
  have named : ∀ type ∈ FieldType.all, ¬ ([] == type.name.toList) = true := by decide
  rw [List.find?_eq_none]
  intro type member
  rw [names, missing]
  exact named type member

theorem find?_names_of_name {tokens : Tokens} {type : FieldType}
    (named : tokens.typeWord = type.name.toList) :
    FieldType.all.find? tokens.names = some type := by
  have search : tokens.names = fun other => type.name.toList == other.name.toList := by
    funext other
    rw [names, named]
  rw [search, FieldType.find?_name]

def descriptor (tokens : Tokens) : Descriptor where
  type := tokens.type
  size := tokens.capacity?
  access := tokens.access
  name := String.ofList tokens.name
  params := tokens.params.map String.ofList

end Tokens

inductive Flaw where
  | unknownType
  | sizeNotNumber
  | sizeTooLarge
  | badQualifier
  | misplacedParams
  | misplacedSize
  deriving DecidableEq, Repr

namespace Flaw

/-- All flaws, in the order in which they count. -/
def all : List Flaw :=
  [.unknownType, .sizeNotNumber, .sizeTooLarge, .badQualifier, .misplacedParams, .misplacedSize]

def kind : Flaw → FaultKind
  | .unknownType => .type
  | .sizeNotNumber => .syntactic
  | .sizeTooLarge => .range
  | .badQualifier | .misplacedParams | .misplacedSize => .config

/-- Whether tokens have a flaw, whatever other flaws they have. -/
def isIn (tokens : Tokens) : Flaw → Bool
  | .unknownType => !tokens.typeWord.isEmpty && !FieldType.all.any tokens.names
  | .sizeNotNumber => tokens.size.any fun word => word.any fun c => !c.isDigit
  | .sizeTooLarge => tokens.size.any fun word =>
      word.all Char.isDigit && decide (Nat.pow 2 64 ≤ Nat.ofDigitChars 10 word 0)
  | .badQualifier => !(["", "r", "w", "rw"].map String.toList).contains tokens.qualifier
  | .misplacedParams => tokens.params.isSome && !tokens.names .cMacro
  | .misplacedSize => tokens.size.isSome && !tokens.names .string

/-- The flaw that decides how a key with these tokens is refused. -/
def first? (tokens : Tokens) : Option Flaw :=
  all.find? (isIn tokens)

theorem first?_eq_none_iff {tokens : Tokens} :
    first? tokens = none ↔ ∀ flaw, isIn tokens flaw = false := by
  rw [first?, List.find?_eq_none]
  constructor
  · intro absent flaw
    have member : flaw ∈ all := by cases flaw <;> decide
    simpa using absent flaw member
  · intro absent flaw _
    simp [absent flaw]

def fault (key : String) (tokens : Tokens) : Flaw → Fault
  | .unknownType => .unknownType key (String.ofList tokens.typeWord)
  | .sizeNotNumber => .sizeNotNumber key (String.ofList (tokens.size.getD []))
  | .sizeTooLarge => .sizeTooLarge key (String.ofList (tokens.size.getD []))
  | .badQualifier => .badQualifier key (String.ofList tokens.qualifier)
  | .misplacedParams => .misplacedParams key
  | .misplacedSize => .misplacedSize key tokens.type

@[simp] theorem kind_fault (key : String) (tokens : Tokens) (flaw : Flaw) :
    (flaw.fault key tokens).kind = flaw.kind := by
  cases flaw <;> rfl

end Flaw

end Key

namespace Descriptor

open Key (Tokens Flaw)

variable (key : String) (tokens : Tokens)

private theorem ofName?_eq_find? :
    FieldType.ofName? (String.ofList tokens.typeWord) = FieldType.all.find? tokens.names := by
  rw [FieldType.ofName?]
  congr 1
  funext type
  rw [Tokens.names, Bool.eq_iff_iff, beq_iff_eq, beq_iff_eq, ← String.toList_inj,
    String.toList_ofList, eq_comm]

theorem readType_eq :
    readType key tokens.typeWord =
      if Flaw.unknownType.isIn tokens then .error (Flaw.unknownType.fault key tokens)
      else .ok tokens.type := by
  rw [readType, ofName?_eq_find?, Flaw.isIn, Tokens.type]
  by_cases missing : tokens.typeWord = []
  · simp [missing, Tokens.find?_names_of_missing missing]
  · cases found : FieldType.all.find? tokens.names with
    | none =>
      have known : FieldType.all.any tokens.names = false := by
        rwa [List.any_eq_false, ← List.find?_eq_none]
      simp [missing, known, Flaw.fault]
    | some type =>
      have known : FieldType.all.any tokens.names = true :=
        List.any_eq_true.mpr ⟨type, List.mem_of_find?_eq_some found, List.find?_some found⟩
      simp [missing, known]

theorem readSize_eq :
    readSize key tokens.size =
      if Flaw.sizeNotNumber.isIn tokens then .error (Flaw.sizeNotNumber.fault key tokens)
      else if Flaw.sizeTooLarge.isIn tokens then .error (Flaw.sizeTooLarge.fault key tokens)
      else .ok tokens.capacity? := by
  rw [Flaw.isIn, Flaw.isIn, Tokens.capacity?]
  cases size : tokens.size with
  | none => rfl
  | some word =>
    rw [readSize, Flaw.fault, Flaw.fault, size]
    by_cases empty : word = []
    · simp [empty]
    · rw [if_neg (mt List.isEmpty_iff.mp empty)]
      have unread := Text.Digits.ofChars?_eq_none_iff empty
      cases read : Text.Digits.ofChars? word with
      | none =>
        have other : (word.any fun c => !c.isDigit) = true := by
          simpa using unread.mp read
        simp [other]
      | some digits =>
        have every : ∀ c ∈ word, c.isDigit = true := by
          simpa [read] using unread
        have plain : (word.any fun c => !c.isDigit) = false := by
          simpa using every
        have digit : word.all Char.isDigit = true := by
          simpa using every
        have value := Text.Digits.value_of_ofChars? read
        have largest : Size.maxBytes + 1 = Nat.pow 2 64 := rfl
        rw [Option.any_some, Option.any_some, plain, digit, Bool.true_and, Option.map_some,
          if_neg Bool.false_ne_true, if_neg empty, ← value]
        by_cases small : digits.value ≤ Size.maxBytes
        · have inside : ¬ Nat.pow 2 64 ≤ digits.value := by omega
          rw [decide_eq_false inside, if_neg Bool.false_ne_true]
          exact if_pos small
        · have outside : Nat.pow 2 64 ≤ digits.value := by omega
          rw [decide_eq_true outside, if_pos rfl]
          exact if_neg small

theorem readAccess_eq :
    readAccess key tokens.qualifier =
      if Flaw.badQualifier.isIn tokens then .error (Flaw.badQualifier.fault key tokens)
      else .ok tokens.access := by
  have spelled : ∀ word : String, String.ofList tokens.qualifier = word ↔
      tokens.qualifier = word.toList := by
    intro word
    rw [← String.toList_inj, String.toList_ofList]
  simp only [readAccess, Access.ofQualifier?, spelled]
  by_cases known : tokens.qualifier ∈ ["", "r", "w", "rw"].map String.toList
  · have four : tokens.qualifier = [] ∨ tokens.qualifier = ['r'] ∨ tokens.qualifier = ['w'] ∨
        tokens.qualifier = ['r', 'w'] := by
      simpa using known
    rcases four with same | same | same | same <;> simp [Flaw.isIn, Tokens.access, same]
  · have bad : Flaw.badQualifier.isIn tokens = true := by
      simpa [Flaw.isIn] using known
    have others : tokens.qualifier ≠ [] ∧ tokens.qualifier ≠ ['r'] ∧ tokens.qualifier ≠ ['w'] ∧
        tokens.qualifier ≠ ['r', 'w'] := by
      simpa using known
    simp [bad, others, Flaw.fault]

theorem type_eq_iff {type : FieldType} (field : type ≠ .config) :
    tokens.type = type ↔ tokens.names type = true := by
  constructor
  · intro same
    rw [Tokens.type] at same
    cases found : FieldType.all.find? tokens.names with
    | none =>
      rw [found] at same
      exact absurd same.symm field
    | some other =>
      rw [found, Option.getD_some] at same
      rw [← same]
      exact List.find?_some found
  · intro named
    have word : tokens.typeWord = type.name.toList := by simpa [Tokens.names] using named
    rw [Tokens.type, Tokens.find?_names_of_name word, Option.getD_some]

theorem checkAnnotations_eq :
    checkAnnotations key tokens.descriptor =
      if Flaw.misplacedParams.isIn tokens then .error (Flaw.misplacedParams.fault key tokens)
      else if Flaw.misplacedSize.isIn tokens then .error (Flaw.misplacedSize.fault key tokens)
      else .ok () := by
  have definition : tokens.type = .cMacro ↔ _ := type_eq_iff tokens (by decide)
  have text : tokens.type = .string ↔ _ := type_eq_iff tokens (by decide)
  simp [checkAnnotations, Tokens.descriptor, Tokens.capacity?, Flaw.isIn, Flaw.fault, definition,
    text]

private theorem guarded_bind {α β : Type} (flaw : Bool) (fault : Fault) (result : Except Fault α)
    (next : α → Except Fault β) :
    ((if flaw then .error fault else result) >>= next) =
      if flaw then .error fault else result >>= next := by
  cases flaw <;> rfl

theorem ofTokens_eq :
    ofTokens key tokens =
      match Flaw.first? tokens with
      | none => .ok tokens.descriptor
      | some flaw => .error (flaw.fault key tokens) := by
  have order : Flaw.first? tokens =
      if Flaw.unknownType.isIn tokens then some .unknownType
      else if Flaw.sizeNotNumber.isIn tokens then some .sizeNotNumber
      else if Flaw.sizeTooLarge.isIn tokens then some .sizeTooLarge
      else if Flaw.badQualifier.isIn tokens then some .badQualifier
      else if Flaw.misplacedParams.isIn tokens then some .misplacedParams
      else if Flaw.misplacedSize.isIn tokens then some .misplacedSize
      else none := by
    simp only [Flaw.first?, Flaw.all, List.find?_cons, List.find?_nil]
    split_ifs <;> simp_all
  -- The readers look for the flaws in the same order.
  simp only [ofTokens, readType_eq, readSize_eq, readAccess_eq, guarded_bind, order]
  change (if _ then _ else if _ then _ else if _ then _ else if _ then _
    else checkAnnotations key tokens.descriptor >>= fun _ => .ok tokens.descriptor) = _
  rw [checkAnnotations_eq, guarded_bind, guarded_bind]
  split_ifs <;> rfl

theorem parse_eq {key : String} {tokens : Tokens}
    (scanned : Key.scan? key.toList = some tokens) :
    parse key =
      match Flaw.first? tokens with
      | none => .ok tokens.descriptor
      | some flaw => .error (flaw.fault key tokens) := by
  rw [← ofTokens_eq, parse, scanned]

end Descriptor

end AccessorGen
