/- Filling templates.
   Template filling reads its template once, character by character. It comes to the same as looking
   for the first opening mark, then for the first closing mark behind it, putting in what the name
   between them stands for, and going on behind the closing mark: what is put in is not looked at
   again. -/

import AccessorGen.Proofs.Snippet.Resolve
import AccessorGen.Snippet.Template
import Mathlib.Data.List.Basic

set_option autoImplicit false
set_option relaxedAutoImplicit false

namespace AccessorGen

namespace Text

private theorem dropInfix?_go (mark cs seen : List Char) :
    List.dropInfix?.go mark cs seen =
      (cs.dropInfix? mark).map fun parts => (seen.reverse ++ parts.1, parts.2) := by
  induction cs generalizing seen with
  | nil =>
    simp only [List.dropInfix?, List.dropInfix?.go]
    split <;> simp
  | cons c rest ih =>
    simp only [List.dropInfix?, List.dropInfix?.go]
    split
    · rw [ih, ih [c]]
      simp [Option.map_map, Function.comp_def]
    · simp

theorem dropInfix?_cons_of_none {mark rest : List Char} {c : Char}
    (elsewhere : (c :: rest).dropPrefix? mark = none) :
    (c :: rest).dropInfix? mark =
      (rest.dropInfix? mark).map fun parts => (c :: parts.1, parts.2) := by
  simp only [List.dropInfix?, List.dropInfix?.go]
  rw [elsewhere, dropInfix?_go]
  rfl

theorem dropInfix?_append_front {mark : List Char} (filled : mark ≠ []) (rest : List Char) :
    (mark ++ rest).dropInfix? mark = some ([], rest) := by
  obtain ⟨c, others, rfl⟩ := List.exists_cons_of_ne_nil filled
  have found : ((c :: others) ++ rest).dropPrefix? (c :: others) = some rest :=
    List.dropPrefix?_eq_some_iff.mpr ⟨c :: others, rfl, by simp⟩
  simp only [List.dropInfix?, List.cons_append, List.dropInfix?.go]
  rw [← List.cons_append, found]
  rfl

theorem eq_of_dropInfix? {mark cs front back : List Char}
    (found : cs.dropInfix? mark = some (front, back)) : cs = front ++ mark ++ back := by
  obtain ⟨⟨same, shape, equal⟩, -⟩ := List.dropInfix?_eq_some_iff.mp found
  rw [shape, beq_iff_eq.mp equal]

end Text

namespace Template

def closing : List Char := ['\x7d']

/-- The text of a template in which `value` tells what a placeholder stands for. Up to the first
opening mark it is text. If no closing mark follows, so is the rest; otherwise the name reaches up
to the first closing mark, and the template goes on behind it. -/
def substitute (value : List Char → List Char) (template : List Char) : List Char :=
  match _opened : template.dropInfix? opening with
  | none => template
  | some (text, after) =>
    match _closed : after.dropInfix? closing with
    | none => template
    | some (name, rest) => text ++ value name ++ substitute value rest
termination_by template.length
decreasing_by
  rw [Text.eq_of_dropInfix? _opened, Text.eq_of_dropInfix? _closed]
  simp only [opening, closing, List.length_append, List.length_cons, List.length_nil]
  omega

/-- What a placeholder stands for: the prefix of the document, if it has that name; else what the
first argument with its name holds; else its own text. -/
def holeText (r : Resolution) (document : Nat) (args : List (String × Piece)) (name : List Char) :
    List Char :=
  if name = "prefix".toList then (r.prefixes[document]?.getD "").toList
  else
    match args.find? fun arg => arg.1.toList == name with
    | some (_, .text s) => s.toList
    | some (_, .tag t) => (r.tag t).toList
    | none => opening ++ name ++ closing

theorem substitute_eq (value : List Char → List Char) (template : List Char) :
    substitute value template =
      match template.dropInfix? opening with
      | none => template
      | some (text, after) =>
        match after.dropInfix? closing with
        | none => template
        | some (name, rest) => text ++ value name ++ substitute value rest := by
  rw [substitute]
  split
  · rename_i opened
    rw [opened]
  · rename_i text after opened
    rw [opened]
    split
    · rename_i closed
      simp only [closed]
    · rename_i name rest closed
      simp only [closed]

theorem substitute_nil (value : List Char → List Char) : substitute value [] = [] := by
  rw [substitute_eq]
  rfl

theorem substitute_cons {value : List Char → List Char} {c : Char} {rest : List Char}
    (plain : (c :: rest).dropPrefix? opening = none) :
    substitute value (c :: rest) = c :: substitute value rest := by
  rw [substitute_eq, substitute_eq value rest, Text.dropInfix?_cons_of_none plain]
  cases rest.dropInfix? opening with
  | none => rfl
  | some parts =>
    simp only [Option.map_some]
    cases parts.2.dropInfix? closing <;> rfl

/-- A template is text and placeholders, found without asking what they stand for. What they stand
for is put in as it is. -/
theorem exists_holes (template : List Char) :
    ∃ (holes : List (List Char × List Char)) (rest : List Char),
      template = holes.flatMap (fun hole => hole.1 ++ opening ++ hole.2 ++ closing) ++ rest ∧
      ∀ value : List Char → List Char,
        substitute value template =
          holes.flatMap (fun hole => hole.1 ++ value hole.2) ++ rest := by
  cases opened : template.dropInfix? opening with
  | none =>
    refine ⟨[], template, rfl, ?_⟩
    intro value
    rw [substitute_eq, opened]
    rfl
  | some cut =>
    obtain ⟨text, after⟩ := cut
    have front := Text.eq_of_dropInfix? opened
    cases closed : after.dropInfix? closing with
    | none =>
      refine ⟨[], template, rfl, ?_⟩
      intro value
      rw [substitute_eq, opened]
      simp only [closed, List.flatMap_nil, List.nil_append]
    | some cut =>
      obtain ⟨name, remainder⟩ := cut
      have back := Text.eq_of_dropInfix? closed
      have shorter : remainder.length < template.length := by
        rw [front, back]
        simp only [opening, closing, List.length_append, List.length_cons, List.length_nil]
        omega
      obtain ⟨holes, rest, shape, filled⟩ := exists_holes remainder
      refine ⟨(text, name) :: holes, rest, ?_, ?_⟩
      · rw [List.flatMap_cons, front, back, shape]
        simp only [List.append_assoc]
      · intro value
        rw [substitute_eq, opened]
        simp only [closed]
        rw [filled value, List.flatMap_cons]
        simp only [List.append_assoc]
termination_by template.length

/-- The text behind an opening mark. `seen` is what the name has so far, newest first. -/
def closeHole (value : List Char → List Char) (seen cs : List Char) : List Char :=
  match cs.dropInfix? closing with
  | none => opening ++ seen.reverse ++ cs
  | some (name, rest) => value (seen.reverse ++ name) ++ substitute value rest

private theorem substitute_opening (value : List Char → List Char) (after : List Char) :
    substitute value (opening ++ after) = closeHole value [] after := by
  rw [substitute_eq, Text.dropInfix?_append_front (by decide), closeHole]
  rfl

private theorem closeHole_closing (value : List Char → List Char) (seen rest : List Char) :
    closeHole value seen ('\x7d' :: rest) = value seen.reverse ++ substitute value rest := by
  have found : ('\x7d' :: rest).dropInfix? closing = some ([], rest) :=
    Text.dropInfix?_append_front (by decide : closing ≠ []) rest
  rw [closeHole, found]
  simp only [List.append_nil]

private theorem closeHole_cons {value : List Char → List Char} {seen rest : List Char} {c : Char}
    (inner : c ≠ '\x7d') : closeHole value seen (c :: rest) = closeHole value (c :: seen) rest := by
  have elsewhere : (c :: rest).dropPrefix? closing = none := by
    simp [closing, List.dropPrefix?, inner]
  rw [closeHole, closeHole, Text.dropInfix?_cons_of_none elsewhere]
  cases rest.dropInfix? closing with
  | none => simp
  | some cut => simp

/-- The text that a part of a template becomes. -/
def Part.written (value : List Char → List Char) : Part → List Char
  | .text cs => cs
  | .hole name => value name

/-- Inside a placeholder the reading collects the name up to the closing mark, and outside it
collects text up to the next opening mark. -/
private theorem flatMap_partsFrom (value : List Char → List Char) (inHole : Bool)
    (seen cs : List Char) :
    (partsFrom inHole seen cs).flatMap (Part.written value) =
      if inHole then closeHole value seen cs else seen.reverse ++ substitute value cs := by
  fun_induction partsFrom inHole seen cs with
  | case1 inHole seen =>
    cases inHole with
    | false => simp [Part.written, substitute_nil]
    | true => simp [Part.written, closeHole, closing, List.dropInfix?, List.dropInfix?.go]
  | case2 seen rest ih =>
    -- An opening mark inside a placeholder is part of its name.
    rw [ih, if_pos rfl, if_pos rfl, closeHole_cons (by decide), closeHole_cons (by decide)]
  | case3 inHole seen rest outside ih =>
    have opens := substitute_opening value rest
    rw [if_neg outside, List.flatMap_cons, ih, if_pos rfl]
    exact congrArg (seen.reverse ++ ·) opens.symm
  | case4 inHole seen c rest plain ends ih =>
    obtain ⟨rfl, rfl⟩ : inHole = true ∧ c = '\x7d' := by simpa using ends
    rw [if_pos rfl, List.flatMap_cons, ih, closeHole_closing]
    rfl
  | case5 inHole seen c rest plain goesOn ih =>
    rw [ih]
    cases inHole with
    | true =>
      have inner : c ≠ '\x7d' := by simpa using goesOn
      rw [if_pos rfl, if_pos rfl, closeHole_cons inner]
    | false =>
      have noMark : (c :: rest).dropPrefix? opening = none := by
        refine Option.eq_none_iff_forall_ne_some.mpr ?_
        intro back found
        obtain ⟨mark, shape, same⟩ := List.dropPrefix?_eq_some_iff.mp found
        rw [beq_iff_eq.mp same] at shape
        injection shape with first others
        exact plain back first others
      rw [if_neg Bool.false_ne_true, if_neg Bool.false_ne_true, substitute_cons noMark]
      simp

private theorem toList_text_map {α : Type} (r : Resolution) (piece : α → Piece) (parts : List α) :
    (r.text (parts.map piece)).toList =
      parts.flatMap fun part => (r.piece (piece part)).toList := by
  induction parts with
  | nil => rfl
  | cons part rest ih =>
    rw [List.map_cons, Resolution.text, String.toList_append, ih, List.flatMap_cons]

private theorem lookup_ofList (args : List (String × Piece)) (name : List Char) :
    args.lookup (String.ofList name) =
      (args.find? fun arg => arg.1.toList == name).map Prod.snd := by
  induction args with
  | nil => rfl
  | cons arg rest ih =>
    have same : (String.ofList name == arg.1) = (arg.1.toList == name) := by
      rw [Bool.eq_iff_iff, beq_iff_eq, beq_iff_eq, eq_comm, ← String.toList_inj,
        String.toList_ofList]
    rw [List.lookup_cons, List.find?_cons, same]
    cases arg.1.toList == name with
    | true => rfl
    | false => exact ih

private theorem toList_piece_fill (r : Resolution) (document : Nat) (args : List (String × Piece))
    (part : Part) :
    (r.piece (part.fill document args)).toList = part.written (holeText r document args) := by
  cases part with
  | text cs => exact String.toList_ofList
  | hole name =>
    have named : String.ofList name = sectionPrefixName ↔ name = "prefix".toList := by
      rw [← String.toList_inj, String.toList_ofList]
      rfl
    rw [Part.fill, Part.written, holeText, lookup_ofList]
    by_cases isPrefix : name = "prefix".toList
    · rw [if_pos (named.mpr isPrefix), if_pos isPrefix]
      rfl
    · rw [if_neg (mt named.mp isPrefix), if_neg isPrefix]
      cases args.find? fun arg => arg.1.toList == name with
      | none => exact String.toList_ofList
      | some arg =>
        obtain ⟨key, piece⟩ := arg
        cases piece <;> rfl

theorem toList_resolve_expand (template : String) (document : Nat) (args : List (String × Piece))
    (r : Resolution) :
    ((Snippet.expand template document args).resolve r).toList =
      substitute (holeText r document args) template.toList := by
  have filled := flatMap_partsFrom (holeText r document args) false [] template.toList
  rw [if_neg Bool.false_ne_true, List.reverse_nil, List.nil_append] at filled
  rw [Snippet.expand, Snippet.resolve_ofPieces, toList_text_map, parts, ← filled]
  exact congrArg (List.flatMap · _) (funext (toList_piece_fill r document args))

end Template

/-- Filling a template is substitution, and what is put in is never read as a template: where the
placeholders stand is settled by the template alone, before any argument is known. -/
theorem Snippet.expand_substitutes (template : String) :
    (∀ (document : Nat) (args : List (String × Piece)) (r : Resolution),
      ((expand template document args).resolve r).toList =
        Template.substitute (Template.holeText r document args) template.toList) ∧
    ∃ (holes : List (List Char × List Char)) (rest : List Char),
      template.toList = holes.flatMap
        (fun hole => hole.1 ++ Template.opening ++ hole.2 ++ Template.closing) ++ rest ∧
      ∀ (document : Nat) (args : List (String × Piece)) (r : Resolution),
        ((expand template document args).resolve r).toList =
          holes.flatMap
            (fun hole => hole.1 ++ Template.holeText r document args hole.2) ++ rest := by
  obtain ⟨holes, rest, shape, filled⟩ := Template.exists_holes template.toList
  refine ⟨Template.toList_resolve_expand template, holes, rest, shape, ?_⟩
  intro document args r
  rw [Template.toList_resolve_expand, filled]

end AccessorGen
