/- Names of fields.
   The name that a key gives to a field is a word, and so nothing that is made from it breaks a
   line. -/

import AccessorGen.NamingStyle
import AccessorGen.Proofs.Key.Grammar
import AccessorGen.Proofs.Text.LetterCase

set_option autoImplicit false
set_option relaxedAutoImplicit false

namespace AccessorGen

open Text (isWordChar)

private theorem Key.isWord_name {key : List Char} {tokens : Tokens}
    (read : scan? key = some tokens) : IsWord tokens.name := by
  have name : ∀ {cs own : List Char} {params : Option (List Char)},
      NameSection cs own params → IsWord own := by
    intro cs own params derived
    cases derived with
    | plain front run filled back => exact run
    | withParams front run filled back runInner tail => exact run
  cases derives_of_scan? read with
  | named own => exact name own
  | typed type own => exact name own
  | qualified type qualifier own => exact name own

private theorem Descriptor.name_of_ofTokens {key : String} {tokens : Key.Tokens} {d : Descriptor}
    (read : ofTokens key tokens = .ok d) : d.name = String.ofList tokens.name := by
  simp only [ofTokens, bind_eq_ok_iff] at read
  obtain ⟨type, -, size, -, access, -, _, -, made⟩ := read
  obtain rfl := Except.ok.inj made
  rfl

theorem Descriptor.isWordChar_of_parse {key : String} {d : Descriptor}
    (read : parse key = .ok d) : ∀ c ∈ d.name.toList, isWordChar c := by
  unfold parse at read
  split at read
  · cases read
  · rename_i tokens scanned
    rw [name_of_ofTokens read, String.toList_ofList]
    exact Key.isWord_name scanned

def delimiters : List Char :=
  ['\n', ' ', '*', '(']

/-- Text that stays one name in C code. -/
def Unbroken (text : String) : Prop :=
  ∀ c ∈ text.toList, c ∉ delimiters

instance (text : String) : Decidable (Unbroken text) :=
  List.decidableBAll (· ∉ delimiters) text.toList

theorem forall_mem_delimiters {P : Char → Prop} (newline : P '\n') (blank : P ' ') (star : P '*')
    (bracket : P '(') : ∀ c ∈ delimiters, P c := by
  simp [delimiters, newline, blank, star, bracket]

theorem Unbroken.newline_not_mem {text : String} (unbroken : Unbroken text) :
    '\n' ∉ text.toList := by
  intro member
  have outside := unbroken '\n' member
  revert outside
  decide

theorem Unbroken.append {front back : String} (first : Unbroken front)
    (second : Unbroken back) : Unbroken (front ++ back) := by
  intro c member
  rw [String.toList_append] at member
  rcases List.mem_append.mp member with inFront | inBack
  · exact first c inFront
  · exact second c inBack

theorem Unbroken.joinedName {name : String} (unbroken : Unbroken name) :
    Unbroken (joinedName name) := by
  intro c member
  rw [AccessorGen.joinedName, String.toList_ofList] at member
  exact unbroken c (List.mem_of_mem_filter member)

theorem Unbroken.lowerName {name : String} (unbroken : Unbroken name) :
    Unbroken (lowerName name) := by
  have low : ∀ c ∈ delimiters, Text.BeforeLetters c := by
    apply forall_mem_delimiters <;> decide
  intro c member delimiter
  rw [AccessorGen.lowerName, String.toList_ofList] at member
  exact unbroken c (Text.mem_of_mem_lower member (low c delimiter)) delimiter

theorem Descriptor.unbroken_name {key : String} {d : Descriptor} (read : parse key = .ok d) :
    Unbroken d.name := by
  have outside : ∀ c ∈ delimiters, isWordChar c = false := by
    apply forall_mem_delimiters <;> decide
  intro c member delimiter
  have word := isWordChar_of_parse read c member
  rw [outside c delimiter] at word
  cases word

theorem NamingStyle.unbroken_globalVariable (naming : NamingStyle) {name : String}
    (unbroken : Unbroken name) : Unbroken (naming.globalVariable name) := by
  cases naming with
  | pascal => exact unbroken
  | snake => exact unbroken.joinedName

theorem NamingStyle.unbroken_accessor (naming : NamingStyle) {verb name : String}
    (plain : Unbroken verb) (unbroken : Unbroken name) :
    Unbroken (naming.accessor verb name) := by
  have link : Unbroken "_" := by decide
  have whole : Unbroken (verb ++ "_" ++ name) := (plain.append link).append unbroken
  cases naming with
  | pascal => exact whole.joinedName
  | snake => exact whole.lowerName

theorem NamingStyle.newline_not_mem_globalVariable (naming : NamingStyle) {key : String}
    {d : Descriptor} (read : Descriptor.parse key = .ok d) :
    '\n' ∉ (naming.globalVariable d.name).toList :=
  (naming.unbroken_globalVariable (Descriptor.unbroken_name read)).newline_not_mem

private theorem identifierChar_not_mem_delimiters (c : Char) :
    identifierChar c ∉ delimiters := by
  unfold identifierChar
  split
  · rename_i letter
    unfold Char.toUpper
    split
    · rename_i lower
      have small : ∀ d ∈ delimiters, d.val.toNat < 'A'.val.toNat := by
        apply forall_mem_delimiters <;> decide
      intro member
      have bound := small _ member
      simp only [UInt32.le_iff_toNat_le] at lower
      simp at bound lower
      omega
    · intro member
      have outside : ∀ d ∈ delimiters, d.isAlphanum = false := by
        apply forall_mem_delimiters <;> decide
      rw [outside c member] at letter
      cases letter
  · decide

theorem unbroken_upperIdentifier (name : String) : Unbroken (upperIdentifier name) := by
  intro c member
  rw [upperIdentifier, String.toList_ofList] at member
  obtain ⟨d, -, rfl⟩ := List.mem_map.mp member
  exact identifierChar_not_mem_delimiters d

theorem NamingStyle.unbroken_sectionPrefix (naming : NamingStyle) (label : String) :
    Unbroken (naming.sectionPrefix label) := by
  have link : Unbroken "_" := by decide
  exact (unbroken_upperIdentifier label).append link

end AccessorGen
