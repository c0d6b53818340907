/- The sizes that the length functions of strings return.
   The storage of a string is an array whose size C takes from its declaration. The first function
   of the string returns this size in an unsigned type of 16 bits, so that the upper part of a size
   that has more bits is lost. -/

import AccessorGen.Proofs.Key.Printing
import AccessorGen.Proofs.Module.Deferral
import AccessorGen.Proofs.Module.IntegerStorage
import AccessorGen.Proofs.Text.CLiteral

set_option autoImplicit false
set_option relaxedAutoImplicit false

namespace AccessorGen

structure CharArray where
  name : String
  /-- What stands between the brackets. -/
  bound : String
  /-- What stands between the quotes. -/
  body : String
  deriving DecidableEq, Repr

namespace CharArray

def line (array : CharArray) : String :=
  "static char " ++ array.name ++ "[" ++ array.bound ++ "] = \"" ++ array.body ++ "\";\n"

/-- The number of bytes that C gives an array: the one between its brackets, or, where there is
none, the bytes of the literal and one for the terminator. -/
def size? (array : CharArray) : Option Int :=
  if array.bound = "" then
    (Text.CLiteral.decode array.body.toList).map fun bytes => bytes.length + 1
  else (Text.CInteger.read? array.bound.toList).map Text.CInteger.value

end CharArray

/-- A function that returns the size of an array. -/
structure SizeFunction where
  /-- The type of the result. -/
  result : String
  name : String
  /-- The name of the array. -/
  array : String
  deriving DecidableEq, Repr

namespace SizeFunction

def definition (f : SizeFunction) : String :=
  "\n" ++ f.result ++ " " ++ f.name ++ "(void) \x7b\n    return sizeof(" ++ f.array ++ ");\n\x7d\n"

/-- What the function returns for an array of this size. C takes the remainder by the number of
values of the type, which has to be unsigned. -/
def returned? (f : SizeFunction) (size : Int) : Option Int :=
  (integerTypes.find? fun row => row.cName = f.result ∧ row.least = 0).map fun row =>
    size % (row.greatest + 1)

end SizeFunction

/-- The bytes of storage that a string takes: as many as are declared for it, or just enough for the
value and its terminator. -/
def Descriptor.storageSize (d : Descriptor) (value : String) : Nat :=
  match d.size with
  | some (.fixed bytes) => bytes
  | _ => value.utf8ByteSize + 1

theorem Descriptor.size_le_of_parse {key : String} {d : Descriptor} (parsed : parse key = .ok d)
    {bytes : Nat} (fixed : d.size = some (.fixed bytes)) : bytes ≤ Size.maxBytes := by
  have small := (proper_of_parse parsed).capacity bytes fixed
  exact Nat.le_sub_one_of_lt small

namespace Scope

variable (r : Resolution) (scope : Scope) (d : Descriptor)

def charArray (value : String) : CharArray :=
  ⟨r.tag (.sectionPrefix scope.document) ++ scope.naming.globalVariable d.name, sizeText d.size,
    Text.CLiteral.encode value⟩

def lenFunction : SizeFunction :=
  ⟨"uint16_t", r.tag (.sectionPrefix scope.document) ++ scope.naming.accessor "Len" d.name,
    r.tag (.sectionPrefix scope.document) ++ scope.naming.globalVariable d.name⟩

theorem resolve_string_array (value : String) :
    (scope.string d value).storage.resolve r = (scope.charArray r d value).line := by
  rw [resolve_string_storage]
  rfl

theorem size?_charArray (value : String) :
    (scope.charArray r d value).size? = some (d.storageSize value : Int) := by
  unfold charArray CharArray.size? Descriptor.storageSize sizeText
  have fitted : (Text.CLiteral.decode (Text.CLiteral.encode value).toList).map
      (fun bytes => (bytes.length + 1 : Int)) = some ((value.utf8ByteSize + 1 : Nat) : Int) := by
    rw [Text.CLiteral.decode_encode]
    rfl
  cases size : d.size with
  | none => exact fitted
  | some kind =>
    cases kind with
    | fitted => exact fitted
    | fixed bytes =>
      have filled : toString bytes ≠ "" := by
        intro vacant
        have none := Text.Digits.chars_ofNat bytes
        rw [vacant] at none
        exact (Text.Digits.canonical_ofNat bytes).filled (List.map_eq_nil_iff.mp none)
      obtain ⟨constant, read, same, -⟩ := Text.CInteger.spells_toString bytes
      dsimp only
      rw [if_neg filled, read, Option.map_some, same]

theorem returned?_lenFunction (size : Nat) :
    (scope.lenFunction r d).returned? size = some ((size % 65536 : Nat) : Int) := by
  have row : (integerTypes.find? fun row => row.cName = "uint16_t" ∧ row.least = 0) =
      some ⟨.unsigned .w16, "uint16_t", 0, 65535⟩ := by decide
  rw [lenFunction, SizeFunction.returned?, row, Option.map_some]
  rfl

theorem exists_functions_string (value : String) :
    ∃ others, (scope.string d value).functions =
      .ofPieces ((scope.stringLen d).definition ++ others) := by
  rw [string]
  cases d.access <;> exact ⟨_, rfl⟩

/-- The length function comes first. -/
theorem exists_resolve_string_functions (value : String) :
    ∃ others, (scope.string d value).functions.resolve r =
      (scope.lenFunction r d).definition ++ others := by
  obtain ⟨others, functions⟩ := scope.exists_functions_string d value
  refine ⟨r.text others, ?_⟩
  have own : r.text (scope.stringLen d).definition = (scope.lenFunction r d).definition := by
    have opening : "(void) \x7b\n    return sizeof(" =
        "(void)" ++ " \x7b\n" ++ "    return sizeof(" := by decide
    have typed : "uint16_t " = "uint16_t" ++ " " := by decide
    have closing : ");\n\x7d\n" = ");\n" ++ "\x7d\n" := by decide
    delta lenFunction SizeFunction.definition stringLen
    simp only [opening, closing, typed, Accessor.definition, List.cons_append,
      Resolution.text, Resolution.text_append, text_storage, text_function, Resolution.piece,
      Pen.storage, Pen.function, Pen.ofScope, String.append_assoc, String.append_empty]
  rw [functions, Snippet.resolve_ofPieces, Resolution.text_append, own]

end Scope

/-- The code of an accepted string stores it in an array that has room for it, and the first of its
functions returns the size of this array modulo 65536. It is the true size exactly if that has at
most 16 bits, which nothing asks for: a size may be declared up to the largest one, and without a
size the array is as long as the value. -/
theorem Scope.len_returns_size_iff (naming : NamingStyle) (document : Nat) (key : String)
    (d : Descriptor) (value : Json.Value) (literal : Option String) (checked : FieldValue)
    (parsed : Descriptor.parse key = .ok d) (type : d.type = .string)
    (accepted : FieldValue.validate key d value literal = .ok checked) :
    (∀ bytes, d.size = some (.fixed bytes) → bytes ≤ Size.maxBytes) ∧
    ∃ s code, value = .string s ∧ emit ⟨naming, document⟩ key d checked = .ok code ∧
      s.utf8ByteSize + 1 ≤ d.storageSize s ∧
      ∀ r : Resolution, ∃ (array : CharArray) (len : SizeFunction) (others : String),
        code.storage.resolve r = array.line ∧
        code.functions.resolve r = len.definition ++ others ∧
        array.name = r.tag (.sectionPrefix document) ++ naming.globalVariable d.name ∧
        len.name = r.tag (.sectionPrefix document) ++ naming.accessor "Len" d.name ∧
        len.array = array.name ∧
        array.size? = some (d.storageSize s : Int) ∧
        len.returned? (d.storageSize s) = some ((d.storageSize s % 65536 : Nat) : Int) ∧
        (len.returned? (d.storageSize s) = array.size? ↔ d.storageSize s ≤ 65535) := by
  refine ⟨fun bytes => Descriptor.size_le_of_parse parsed, ?_⟩
  rw [FieldValue.validate, type] at accepted
  obtain ⟨s, rfl, rfl, fits⟩ := FieldValue.checkString_eq_ok accepted
  refine ⟨s, string ⟨naming, document⟩ d s, rfl, ?_, ?_, fun r => ?_⟩
  · rw [emit, if_pos type]
  · unfold Descriptor.storageSize
    split
    · rename_i bytes fixed
      exact fits bytes fixed
    · exact Nat.le_refl _
  · obtain ⟨others, functions⟩ := exists_resolve_string_functions r ⟨naming, document⟩ d s
    refine ⟨_, _, others, resolve_string_array r ⟨naming, document⟩ d s, functions, rfl, rfl, rfl,
      size?_charArray r ⟨naming, document⟩ d s, returned?_lenFunction r ⟨naming, document⟩ d _, ?_⟩
    rw [returned?_lenFunction, size?_charArray, Option.some.injEq, Int.natCast_inj]
    omega

/-- The largest size whose length function tells the truth, for a value of two bytes. -/
theorem Scope.len_returns_size_iff_largest :
    ∃ code, emit ⟨.pascal, 0⟩ "string[65535]:w:Text"
        ⟨.string, some (.fixed 65535), .writable, "Text", none⟩ (.text "\u00e9") = .ok code ∧
      ∀ r : Resolution, ∃ (array : CharArray) (len : SizeFunction) (others : String),
        code.storage.resolve r = array.line ∧
        code.functions.resolve r = len.definition ++ others ∧ len.array = array.name ∧
        array.size? = some 65535 ∧ len.returned? 65535 = some 65535 := by
  have parsed : Descriptor.parse "string[65535]:w:Text" =
      .ok ⟨.string, some (.fixed 65535), .writable, "Text", none⟩ := rfl
  have accepted : FieldValue.validate "string[65535]:w:Text"
      ⟨.string, some (.fixed 65535), .writable, "Text", none⟩ (.string "\u00e9") none =
      .ok (.text "\u00e9") := rfl
  obtain ⟨-, s, code, -, made, -, lines⟩ :=
    len_returns_size_iff .pascal 0 _ _ _ none _ parsed rfl accepted
  refine ⟨code, made, fun r => ?_⟩
  obtain ⟨array, len, others, storage, functions, -, -, own, size, returned, -⟩ := lines r
  exact ⟨array, len, others, storage, functions, own, size, returned⟩

/-- One byte more is accepted as well, and the length function returns zero. -/
theorem Scope.len_returns_zero :
    let d : Descriptor := ⟨.string, some (.fixed 65536), .readOnly, "S", none⟩
    Descriptor.parse "string[65536]:S" = .ok d ∧
    FieldValue.validate "string[65536]:S" d (.string "") none = .ok (.text "") ∧
    ∃ code, emit ⟨.pascal, 0⟩ "string[65536]:S" d (.text "") = .ok code ∧
      ∀ r : Resolution, ∃ (array : CharArray) (len : SizeFunction) (others : String),
        code.storage.resolve r = array.line ∧
        code.functions.resolve r = len.definition ++ others ∧ len.array = array.name ∧
        array.size? = some 65536 ∧ len.returned? 65536 = some 0 := by
  refine ⟨rfl, rfl, string ⟨.pascal, 0⟩ _ "", rfl, fun r => ?_⟩
  obtain ⟨others, functions⟩ := exists_resolve_string_functions r ⟨.pascal, 0⟩ _ ""
  exact ⟨_, _, others, resolve_string_array r ⟨.pascal, 0⟩ _ "", functions, rfl,
    size?_charArray r ⟨.pascal, 0⟩ _ "", returned?_lenFunction r ⟨.pascal, 0⟩ _ 65536⟩

end AccessorGen
