/- Which versions are read, and what their number is.
   The first of the three components that is no byte decides on the fault, and the kind of the fault
   is told from the text of that component alone. -/

import AccessorGen.Proofs.FieldDomains
import AccessorGen.Proofs.Text.CInteger

set_option autoImplicit false
set_option relaxedAutoImplicit false

namespace AccessorGen

/-- The integer that a value is written as, with any number of digits but without a fraction and
without an exponent. -/
def Json.Value.whole? : Json.Value → Option Int
  | .number n =>
    let text := n.normal.spelling.toList
    if Text.MarksReal text then none else some (Text.decimalValue text)
  | _ => none

theorem Json.Value.whole?_number (n : Json.Number) : (Json.Value.number n).whole? = n.int? :=
  n.int?_eq.symm

namespace Version

def IsByte (part : Json.Value) : Prop :=
  ∃ i, part.whole? = some i ∧ 0 ≤ i ∧ i < 256

/-- The kind of the fault for a component that is no byte: an integer is out of range as long as it
has at most 128 bits, and a larger one counts as no integer. -/
def refusal (part : Json.Value) : FaultKind :=
  match part.whole? with
  | some i => if -(Nat.pow 2 127 : Int) ≤ i ∧ i < Nat.pow 2 127 then .range else .config
  | none => .config

theorem byte?_eq_some_iff (i : Int) (byte : Fin 256) :
    byte? i = some byte ↔ i = (byte.val : Int) := by
  cases i with
  | ofNat n =>
    rw [byte?]
    constructor
    · intro found
      obtain ⟨small, same⟩ := Option.dite_none_right_eq_some.mp found
      rw [← Option.some.inj same]
      rfl
    · intro same
      obtain rfl : n = byte.val := Int.ofNat.inj same
      rw [dif_pos byte.isLt]
  | negSucc n =>
    have positive := byte.isLt
    constructor
    · intro found
      cases found
    · intro same
      omega

theorem byte?_eq_none_iff (i : Int) : byte? i = none ↔ ¬ (0 ≤ i ∧ i < 256) := by
  constructor
  · rintro missing ⟨low, high⟩
    have found := (byte?_eq_some_iff i ⟨i.toNat, by omega⟩).mpr (by simp only; omega)
    rw [missing] at found
    cases found
  · intro outside
    by_contra present
    obtain ⟨byte, found⟩ := Option.ne_none_iff_exists'.mp present
    have same := (byte?_eq_some_iff i byte).mp found
    have small := byte.isLt
    omega

theorem component_of_isByte {part : Json.Value} (whole : Json.Value) (label : String)
    (byte : IsByte part) :
    ∃ b : Fin 256, component whole label part = .ok b ∧ part.whole? = some (b.val : Int) := by
  obtain ⟨i, found, low, high⟩ := byte
  cases part with
  | number n =>
    rw [Json.Value.whole?_number] at found
    obtain ⟨b, same⟩ : ∃ b, byte? i = some b := by
      rw [← Option.ne_none_iff_exists', ne_eq, byte?_eq_none_iff, not_not]
      exact ⟨low, high⟩
    have wide : IntDomain.wide.holds i = true := by
      have power : (256 : Int) ≤ Nat.pow 2 127 := by decide
      rw [IntDomain.holds_iff, IntDomain.wide]
      constructor <;> dsimp only <;> omega
    refine ⟨b, ?_, ?_⟩
    · simp only [component, found, wide, same, if_true]
    · rw [Json.Value.whole?_number, found, (byte?_eq_some_iff i b).mp same]
  | _ => cases found

theorem component_of_not_isByte {part : Json.Value} (whole : Json.Value) (label : String)
    (other : ¬ IsByte part) :
    ∃ fault, component whole label part = .error fault ∧ fault.kind = refusal part := by
  cases part with
  | number n =>
    unfold IsByte at other
    rw [Json.Value.whole?_number] at other
    unfold refusal
    rw [Json.Value.whole?_number]
    cases found : n.int? with
    | none => exact ⟨.versionShape whole, by simp only [component, found], rfl⟩
    | some i =>
      have outside : byte? i = none := by
        rw [byte?_eq_none_iff]
        rintro ⟨low, high⟩
        exact other ⟨i, found, low, high⟩
      have bounds : IntDomain.wide.holds i = true ↔
          -(Nat.pow 2 127 : Int) ≤ i ∧ i < Nat.pow 2 127 := IntDomain.wide.holds_iff i
      dsimp only
      by_cases wide : IntDomain.wide.holds i = true
      · refine ⟨.versionRange label n.normal.spelling, ?_, ?_⟩
        · simp only [component, found, wide, outside, if_true]
        · rw [if_pos (bounds.mp wide)]
          rfl
      · refine ⟨.versionShape whole, ?_, ?_⟩
        · simp only [component, found, wide]
          rfl
        · rw [if_neg (mt bounds.mpr wide)]
          rfl
  | _ => exact ⟨.versionShape whole, rfl, rfl⟩

def listing (major minor patch : Json.Value) (preRelease buildMetadata : String) : Json.Value :=
  .array [major, minor, patch, .string preRelease, .string buildMetadata]

theorem ofValue_of_ne_listing {value : Json.Value}
    (other : ∀ major minor patch preRelease buildMetadata,
      value ≠ listing major minor patch preRelease buildMetadata) :
    ofValue value = .error (.versionShape value) := by
  unfold ofValue
  split
  · rename_i major minor patch preRelease buildMetadata
    exact absurd rfl (other major minor patch preRelease buildMetadata)
  · rfl

section Listing

variable {major minor patch : Json.Value} {preRelease buildMetadata : String}

/-- The components are read from the left up to the first that is no byte. -/
theorem ofValue_of_first {bad : Json.Value} {front back : List Json.Value}
    (cut : [major, minor, patch] = front ++ bad :: back)
    (bytes : ∀ part ∈ front, IsByte part) (other : ¬ IsByte bad) :
    ∃ fault, ofValue (listing major minor patch preRelease buildMetadata) = .error fault ∧
      fault.kind = refusal bad := by
  have first (byte : IsByte major) :=
    component_of_isByte (listing major minor patch preRelease buildMetadata) "major" byte
  have second (byte : IsByte minor) :=
    component_of_isByte (listing major minor patch preRelease buildMetadata) "minor" byte
  have refused (label : String) :=
    component_of_not_isByte (listing major minor patch preRelease buildMetadata) label other
  rcases front with _ | ⟨one, _ | ⟨two, _ | ⟨three, more⟩⟩⟩
  · obtain ⟨rfl, -⟩ : major = bad ∧ [minor, patch] = back := by simpa using cut
    obtain ⟨fault, stopped, kind⟩ := refused "major"
    exact ⟨fault, bind_eq_error_iff.mpr (.inl stopped), kind⟩
  · obtain ⟨rfl, rfl, -⟩ : major = one ∧ minor = bad ∧ [patch] = back := by simpa using cut
    obtain ⟨a, acceptedMajor, -⟩ := first (bytes major (by simp))
    obtain ⟨fault, stopped, kind⟩ := refused "minor"
    refine ⟨fault, bind_eq_error_iff.mpr (.inr ⟨a, acceptedMajor, ?_⟩), kind⟩
    exact bind_eq_error_iff.mpr (.inl stopped)
  · obtain ⟨rfl, rfl, rfl, -⟩ : major = one ∧ minor = two ∧ patch = bad ∧ [] = back := by
      simpa using cut
    obtain ⟨a, acceptedMajor, -⟩ := first (bytes major (by simp))
    obtain ⟨b, acceptedMinor, -⟩ := second (bytes minor (by simp))
    obtain ⟨fault, stopped, kind⟩ := refused "patch"
    refine ⟨fault, bind_eq_error_iff.mpr (.inr ⟨a, acceptedMajor, ?_⟩), kind⟩
    refine bind_eq_error_iff.mpr (.inr ⟨b, acceptedMinor, ?_⟩)
    exact bind_eq_error_iff.mpr (.inl stopped)
  · have length := congrArg List.length cut
    simp only [List.cons_append, List.length_cons, List.length_append, List.length_nil] at length
    omega

theorem ofValue_of_bytes (bytes : ∀ part ∈ [major, minor, patch], IsByte part) :
    ∃ version, ofValue (listing major minor patch preRelease buildMetadata) = .ok version ∧
      [major, minor, patch].map Json.Value.whole? =
        [version.major, version.minor, version.patch].map (fun byte => some (byte.val : Int)) ∧
      version.preRelease = preRelease ∧ version.buildMetadata = buildMetadata := by
  obtain ⟨a, acceptedMajor, sameMajor⟩ :=
    component_of_isByte (listing major minor patch preRelease buildMetadata) "major"
      (bytes major (by simp))
  obtain ⟨b, acceptedMinor, sameMinor⟩ :=
    component_of_isByte (listing major minor patch preRelease buildMetadata) "minor"
      (bytes minor (by simp))
  obtain ⟨c, acceptedPatch, samePatch⟩ :=
    component_of_isByte (listing major minor patch preRelease buildMetadata) "patch"
      (bytes patch (by simp))
  refine ⟨⟨a, b, c, preRelease, buildMetadata⟩, ?_, ?_, rfl, rfl⟩
  · refine bind_eq_ok_iff.mpr ⟨a, acceptedMajor, ?_⟩
    refine bind_eq_ok_iff.mpr ⟨b, acceptedMinor, ?_⟩
    exact bind_eq_ok_iff.mpr ⟨c, acceptedPatch, rfl⟩
  · simp only [List.map_cons, List.map_nil, sameMajor, sameMinor, samePatch]

end Listing

theorem packed_eq_shifts (version : Version) :
    version.packed =
      (version.major.val <<< 16) ||| (version.minor.val <<< 8) ||| version.patch.val := by
  have low : version.minor.val <<< 8 ||| version.patch.val =
      version.minor.val * 256 + version.patch.val := by
    rw [← Nat.shiftLeft_add_eq_or_of_lt version.patch.isLt, Nat.shiftLeft_eq]
  have small : version.minor.val * 256 + version.patch.val < 2 ^ 16 := by
    have minor := version.minor.isLt
    have patch := version.patch.isLt
    omega
  rw [Nat.or_assoc, low, ← Nat.shiftLeft_add_eq_or_of_lt small, Nat.shiftLeft_eq, packed]
  omega

theorem packedLiteral_digits (version : Version) :
    ∃ digits, version.packedLiteral.toList =
        '0' :: 'x' :: digits.map (fun digit => (Nat.digitChar digit).toUpper) ∧
      digits.length = 6 ∧ (∀ digit ∈ digits, digit < 16) ∧
      Text.CInteger.ofDigits 16 digits = version.packed := by
  obtain ⟨digits, shape, length, bounded, value⟩ :=
    Text.CInteger.fixedDigits_eq (by decide : 0 < 16) 6 version.packed
  refine ⟨digits, ?_, length, bounded, ?_⟩
  · rw [version.toList_packedLiteral, shape, List.map_map]
    rfl
  · rw [value, Nat.mod_eq_of_lt version.packed_lt]

/-- How every value is classified. One that is no list of five with texts in its last two places has
the wrong shape. Of the three components, the first that is no byte decides on the kind of the
fault; if there is none, the version is made of them, and its number holds one of them in each
byte. -/
theorem ofValue_classifies (value : Json.Value) :
    ((∀ major minor patch preRelease buildMetadata,
        value ≠ listing major minor patch preRelease buildMetadata) →
      ∃ fault, ofValue value = .error fault ∧ fault.kind = .config) ∧
    (∀ major minor patch preRelease buildMetadata,
      value = listing major minor patch preRelease buildMetadata →
      (∀ front bad back, [major, minor, patch] = front ++ bad :: back →
        (∀ part ∈ front, IsByte part) → ¬ IsByte bad →
        ∃ fault, ofValue value = .error fault ∧ fault.kind = refusal bad) ∧
      ((∀ part ∈ [major, minor, patch], IsByte part) →
        ∃ version, ofValue value = .ok version ∧
          [major, minor, patch].map Json.Value.whole? =
            [version.major, version.minor, version.patch].map
              (fun byte => some (byte.val : Int)) ∧
          version.preRelease = preRelease ∧ version.buildMetadata = buildMetadata)) ∧
    (∀ version, ofValue value = .ok version →
      version.packed = version.major * 65536 + version.minor * 256 + version.patch ∧
      version.packed =
        (version.major.val <<< 16) ||| (version.minor.val <<< 8) ||| version.patch.val ∧
      ∃ digits, version.packedLiteral.toList =
          '0' :: 'x' :: digits.map (fun digit => (Nat.digitChar digit).toUpper) ∧
        digits.length = 6 ∧ (∀ digit ∈ digits, digit < 16) ∧
        Text.CInteger.ofDigits 16 digits = version.packed) := by
  refine ⟨?shape, ?components, ?number⟩
  case shape =>
    intro other
    exact ⟨.versionShape value, ofValue_of_ne_listing other, rfl⟩
  case components =>
    rintro major minor patch preRelease buildMetadata rfl
    refine ⟨?_, ofValue_of_bytes⟩
    intro front bad back cut bytes other
    exact ofValue_of_first cut bytes other
  case number =>
    intro version _
    exact ⟨rfl, version.packed_eq_shifts, version.packedLiteral_digits⟩

/-- The second component is out of range, so that it does not matter that the third is no
integer. -/
theorem ofValue_classifies_second_component :
    let half := Json.Value.number ⟨false, [0], some [5], none, by decide⟩
    let value := listing (.number (.ofInt 255)) (.number (.ofInt 256)) half "rc1" ""
    IsByte (.number (.ofInt 255)) ∧ ¬ IsByte (.number (.ofInt 256)) ∧
      ∃ fault, ofValue value = .error fault ∧ fault.kind = .range := by
  intro half value
  have first : IsByte (.number (.ofInt 255)) := ⟨255, by decide, by decide, by decide⟩
  have second : ¬ IsByte (.number (.ofInt 256)) := by
    rintro ⟨i, found, -, high⟩
    rw [Json.Value.whole?_number, Json.Number.int?_ofInt] at found
    obtain rfl := Option.some.inj found
    exact absurd high (by decide)
  refine ⟨first, second, ?_⟩
  exact ((ofValue_classifies value).2.1 _ _ _ _ _ rfl).1 [_] _ [half] rfl (by simpa using first)
    second

/-- An integer of more than 128 bits is no byte, and yet the fault is about the shape. -/
theorem ofValue_wide_component :
    let wide := Json.Value.number (.ofInt (Nat.pow 2 127))
    wide.whole? = some (170141183460469231731687303715884105728 : Int) ∧
      (ofValue (listing wide (.number (.ofInt 0)) (.number (.ofInt 0)) "" "")).mapError
        Fault.kind = .error .config := by
  decide +kernel

end Version

end AccessorGen
