/- Checked values.
   What the check of each type accepts, and that whatever it accepts can be written down as code. -/

import AccessorGen.Proofs.Session.Meaning

set_option autoImplicit false
set_option relaxedAutoImplicit false

namespace AccessorGen

theorem Json.Number.normal_of_int? {n : Json.Number} {i : Int} (whole : n.int? = some i) :
    n.normal = n := by
  obtain ⟨negative, digits, fraction, exponent⟩ := n
  cases exponent with
  | none => rfl
  | some e => simp [int?, isIntegral] at whole

namespace FieldValue

theorem validate_integer {key : String} {d : Descriptor} {value : Json.Value}
    {literal : Option String} {domain : IntDomain} (integer : d.type.intDomain? = some domain) :
    validate key d value literal = checkInteger key d.type domain value literal := by
  unfold validate
  cases type : d.type with
  | signed width =>
    rw [type] at integer
    obtain rfl := Option.some.inj integer
    rfl
  | unsigned width =>
    rw [type] at integer
    obtain rfl := Option.some.inj integer
    rfl
  | _ =>
    rw [type] at integer
    cases integer

theorem checkInteger_eq_ok {key : String} {type : FieldType} {domain : IntDomain}
    {value : Json.Value} {literal : Option String} {checked : FieldValue}
    (accepted : checkInteger key type domain value literal = .ok checked) :
    ∃ n i, value = .number n ∧ n.int? = some i ∧ domain.holds i = true ∧
      checked = .integer (literal.getD n.spelling) := by
  unfold checkInteger at accepted
  split at accepted
  · rename_i n
    split at accepted
    · cases accepted
    · rename_i i whole
      dsimp only at accepted
      rw [Json.Number.normal_of_int? whole] at accepted
      split at accepted
      · rename_i inside
        exact ⟨n, i, rfl, whole, (Bool.and_eq_true_iff.mp inside).2,
          (Except.ok.inj accepted).symm⟩
      · cases accepted
  · cases accepted

theorem checkReal_eq_ok {key : String} {type : FieldType} {format : RealFormat}
    {value : Json.Value} {literal : Option String} {checked : FieldValue}
    (accepted : checkReal key type format value literal = .ok checked) :
    ∃ n, value = .number n ∧ format.admits (.ofNumber n) = true ∧
      checked = .real (literal.getD n.normal.spelling) := by
  unfold checkReal at accepted
  split at accepted
  · rename_i n
    dsimp only at accepted
    split at accepted
    · rename_i admitted
      exact ⟨n, rfl, admitted, (Except.ok.inj accepted).symm⟩
    · cases accepted
  · cases accepted

theorem checkString_eq_ok {key : String} {size : Option Size} {value : Json.Value}
    {checked : FieldValue} (accepted : checkString key size value = .ok checked) :
    ∃ s, value = .string s ∧ checked = .text s ∧
      ∀ capacity, size = some (.fixed capacity) → s.utf8ByteSize + 1 ≤ capacity := by
  unfold checkString at accepted
  split at accepted
  · rename_i s
    split at accepted
    · rename_i bytes
      split at accepted
      · rename_i fits
        refine ⟨s, rfl, (Except.ok.inj accepted).symm, ?_⟩
        rintro capacity same
        obtain rfl : bytes = capacity := by simpa using same
        exact fits
      · cases accepted
    · rename_i unbounded
      exact ⟨s, rfl, (Except.ok.inj accepted).symm, fun capacity same =>
        absurd same (unbounded capacity)⟩
  · cases accepted

end FieldValue

theorem Json.Number.newline_not_mem_spelling (n : Json.Number) : '\n' ∉ n.spelling.toList := by
  have digits : ∀ ds : Text.Digits, '\n' ∉ ds.chars := by
    intro ds member
    have other : ∀ digit : Fin 10, Nat.digitChar digit.val ≠ '\n' := by decide
    obtain ⟨digit, -, same⟩ := List.mem_map.mp member
    exact other digit same
  have signs : ∀ sign : Option Sign, '\n' ∉ (sign.map Sign.char).toList := by
    rintro (_ | _ | _) <;> decide
  have scaled : ∀ e : Exponent, '\n' ∉ e.chars := by
    rintro ⟨capital, sign, ds⟩
    cases capital <;> simp [Exponent.chars, digits, signs]
  obtain ⟨negative, whole, fraction, exponent⟩ := n
  rw [spelling, String.toList_ofList]
  cases negative <;> cases fraction <;> cases exponent <;> simp [chars, digits, scaled]

def Content.InLine : Content → Prop
  | .number _ text => '\n' ∉ text.toList
  | _ => True

namespace FieldValue

/-- What a field of a type is checked for is what its code needs. It stays on one line if the
spelling of a number does. -/
theorem exists_ofValue? {key : String} {d : Descriptor} {value : Json.Value}
    {literal : Option String} {checked : FieldValue}
    (accepted : validate key d value literal = .ok checked) :
    ∃ content, Content.ofValue? d.type checked = some content ∧
      ((∀ text ∈ literal, '\n' ∉ text.toList) → content.InLine) := by
  have spelled : ∀ n : Json.Number, (∀ text ∈ literal, '\n' ∉ text.toList) →
      '\n' ∉ (literal.getD n.spelling).toList := by
    intro n plain
    cases given : literal with
    | none => exact n.newline_not_mem_spelling
    | some text => exact plain text given
  cases type : d.type with
  | config =>
    rw [validate, type] at accepted
    cases accepted
  | signed width =>
    rw [validate_integer (d := d) (by rw [type]; rfl)] at accepted
    obtain ⟨n, i, -, -, -, rfl⟩ := checkInteger_eq_ok accepted
    cases width <;> exact ⟨_, rfl, spelled n⟩
  | unsigned width =>
    rw [validate_integer (d := d) (by rw [type]; rfl)] at accepted
    obtain ⟨n, i, -, -, -, rfl⟩ := checkInteger_eq_ok accepted
    cases width <;> exact ⟨_, rfl, spelled n⟩
  | float =>
    rw [validate, type] at accepted
    obtain ⟨n, -, -, rfl⟩ := checkReal_eq_ok accepted
    exact ⟨_, rfl, spelled n.normal⟩
  | double =>
    rw [validate, type] at accepted
    obtain ⟨n, -, -, rfl⟩ := checkReal_eq_ok accepted
    exact ⟨_, rfl, spelled n.normal⟩
  | boolean =>
    rw [validate, type] at accepted
    cases value with
    | bool b =>
      obtain rfl := Except.ok.inj accepted
      exact ⟨_, rfl, fun _ => trivial⟩
    | _ => cases accepted
  | string =>
    rw [validate, type] at accepted
    obtain ⟨s, -, rfl, -⟩ := checkString_eq_ok accepted
    exact ⟨_, rfl, fun _ => trivial⟩
  | cMacro =>
    rw [validate, type] at accepted
    cases value with
    | string s =>
      obtain rfl := Except.ok.inj accepted
      exact ⟨_, rfl, fun _ => trivial⟩
    | _ => cases accepted

theorem exists_content {key : String} {d : Descriptor} {value : Json.Value}
    {literal : Option String} {checked : FieldValue}
    (accepted : validate key d value literal = .ok checked)
    (plain : ∀ text ∈ literal, '\n' ∉ text.toList) :
    ∃ content, Content.ofValue? d.type checked = some content ∧ content.InLine := by
  obtain ⟨content, held, inLine⟩ := exists_ofValue? accepted
  exact ⟨content, held, inLine plain⟩

end FieldValue

end AccessorGen
