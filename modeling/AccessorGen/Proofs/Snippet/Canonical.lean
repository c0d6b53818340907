/- The pieces of a snippet.
   Whatever operations have built a snippet, no stretch of its text is empty and no two stretches
   are neighbours. Such a snippet is determined by its characters and tags alone, so that operations
   which add the same characters and tags in the same order build the same snippet. -/

import AccessorGen.Proofs.Snippet.Resolve
import AccessorGen.Snippet.Template
import Mathlib.Data.List.Infix

set_option autoImplicit false
set_option relaxedAutoImplicit false

namespace AccessorGen

/-- What is left of code when its text is cut into characters. -/
inductive Atom where
  | char (c : Char)
  | tag (t : Tag)
  deriving DecidableEq, Repr

def Piece.atoms : Piece → List Atom
  | .text s => s.toList.map .char
  | .tag t => [.tag t]

def Atom.piece : Atom → Piece
  | .char c => .text (String.ofList [c])
  | .tag t => .tag t

namespace Snippet

def atoms (s : Snippet) : List Atom :=
  s.pieces.flatMap Piece.atoms

def ofAtoms (atoms : List Atom) : Snippet :=
  .ofPieces (atoms.map Atom.piece)

/-- No stretch of text is empty, and no two of them are neighbours. -/
structure Canonical (s : Snippet) : Prop where
  filled : .text "" ∉ s.pieces
  apart : ∀ front back : String, ¬ [.text front, .text back] <:+: s.pieces

theorem canonical_empty : Canonical empty :=
  ⟨List.not_mem_nil, by simp [empty]⟩

theorem canonical_mk_cons {piece : Piece} {rest : List Piece} :
    Canonical ⟨piece :: rest⟩ ↔
      piece ≠ .text "" ∧
        (∀ front back : String, piece = .text front → rest.head? ≠ some (.text back)) ∧
        Canonical ⟨rest⟩ := by
  have start : ∀ front back : String, [.text front, .text back] <+: piece :: rest ↔
      piece = .text front ∧ rest.head? = some (.text back) := by
    intro front back
    rw [List.cons_prefix_cons, eq_comm]
    cases rest <;> simp [eq_comm]
  constructor
  · rintro ⟨filled, apart⟩
    refine ⟨fun vacant => filled (vacant ▸ List.mem_cons_self), ?_, ?_, ?_⟩
    · intro front back text next
      exact apart front back ((start front back).mpr ⟨text, next⟩).isInfix
    · exact fun member => filled (List.mem_cons_of_mem piece member)
    · exact fun front back inside => apart front back (List.infix_cons inside)
  · rintro ⟨own, next, filled, apart⟩
    refine ⟨?_, ?_⟩
    · intro member
      rcases List.mem_cons.mp member with here | there
      · exact own here.symm
      · exact filled there
    · intro front back inside
      rcases List.infix_cons_iff.mp inside with here | there
      · obtain ⟨text, head⟩ := (start front back).mp here
        exact next front back text head
      · exact apart front back there

theorem Canonical.cons {s : Snippet} (canonical : s.Canonical) (piece : Piece) :
    (cons piece s).Canonical := by
  cases piece with
  | tag t => exact canonical_mk_cons.mpr ⟨nofun, nofun, canonical⟩
  | text front =>
    rw [Snippet.cons]
    split
    · exact canonical
    · rename_i filled
      obtain ⟨pieces⟩ := s
      split
      · rename_i next rest shape
        obtain rfl : pieces = .text next :: rest := shape
        obtain ⟨-, apart, later⟩ := canonical_mk_cons.mp canonical
        refine canonical_mk_cons.mpr ⟨?_, fun _ back _ => apart next back rfl, later⟩
        intro vacant
        exact filled (String.append_eq_empty_iff.mp (Piece.text.inj vacant)).1
      · rename_i plain
        refine canonical_mk_cons.mpr ⟨fun vacant => filled (Piece.text.inj vacant), ?_, canonical⟩
        intro _ back _ head
        obtain ⟨rest, shape⟩ := List.head?_eq_some_iff.mp head
        exact plain back rest shape

private theorem canonical_foldr_cons (pieces : List Piece) {s : Snippet}
    (canonical : s.Canonical) : (pieces.foldr Snippet.cons s).Canonical := by
  induction pieces with
  | nil => exact canonical
  | cons piece rest ih => exact ih.cons piece

theorem canonical_ofPieces (pieces : List Piece) : (ofPieces pieces).Canonical :=
  canonical_foldr_cons pieces canonical_empty

theorem Canonical.append {t : Snippet} (canonical : t.Canonical) (s : Snippet) :
    (s.append t).Canonical :=
  canonical_foldr_cons s.pieces canonical

@[simp] theorem atoms_cons (piece : Piece) (s : Snippet) :
    (cons piece s).atoms = piece.atoms ++ s.atoms := by
  cases piece with
  | tag t => rfl
  | text front =>
    rw [cons]
    split
    · rename_i vacant
      rw [vacant]
      rfl
    · split
      · rename_i next rest shape
        simp [atoms, shape, Piece.atoms]
      · rfl

private theorem atoms_foldr_cons (pieces : List Piece) (s : Snippet) :
    (pieces.foldr cons s).atoms = pieces.flatMap Piece.atoms ++ s.atoms := by
  induction pieces with
  | nil => rfl
  | cons piece rest ih => rw [List.foldr_cons, atoms_cons, ih, List.flatMap_cons, List.append_assoc]

@[simp] theorem atoms_ofPieces (pieces : List Piece) :
    (ofPieces pieces).atoms = pieces.flatMap Piece.atoms := by
  rw [ofPieces, atoms_foldr_cons]
  exact List.append_nil _

@[simp] theorem atoms_append (s t : Snippet) : (s.append t).atoms = s.atoms ++ t.atoms :=
  atoms_foldr_cons s.pieces t

theorem cons_text_cons_text (front back : String) (s : Snippet) :
    cons (.text front) (cons (.text back) s) = cons (.text (front ++ back)) s := by
  by_cases noFront : front = ""
  · rw [noFront, String.empty_append, cons, if_pos rfl]
  by_cases noBack : back = ""
  · have skipped : cons (.text back) s = s := if_pos noBack
    rw [skipped, noBack, String.append_empty]
  have filled : front ++ back ≠ "" := fun vacant =>
    noFront (String.append_eq_empty_iff.mp vacant).1
  simp only [cons, if_neg noFront, if_neg noBack, if_neg filled]
  cases s.pieces with
  | nil => rfl
  | cons piece rest =>
    cases piece with
    | tag t => rfl
    | text next => simp only [String.append_assoc]

private theorem ofAtoms_chars (cs : List Char) (rest : List Atom) :
    ofAtoms (cs.map .char ++ rest) = cons (.text (String.ofList cs)) (ofAtoms rest) := by
  induction cs with
  | nil => rfl
  | cons c cs ih =>
    have step : ofAtoms ((c :: cs).map .char ++ rest) =
        cons (.text (String.ofList [c])) (ofAtoms (cs.map .char ++ rest)) := rfl
    rw [step, ih, cons_text_cons_text, ← String.ofList_append, List.singleton_append]

private theorem ofAtoms_append (piece : Piece) (rest : List Atom) :
    ofAtoms (piece.atoms ++ rest) = cons piece (ofAtoms rest) := by
  cases piece with
  | tag t => rfl
  | text s => rw [Piece.atoms, ofAtoms_chars, String.ofList_toList]

theorem Canonical.ofAtoms_atoms {s : Snippet} (canonical : s.Canonical) : ofAtoms s.atoms = s := by
  obtain ⟨pieces⟩ := s
  induction pieces with
  | nil => rfl
  | cons piece rest ih =>
    obtain ⟨filled, apart, later⟩ := canonical_mk_cons.mp canonical
    have joined : Snippet.atoms ⟨piece :: rest⟩ = piece.atoms ++ Snippet.atoms ⟨rest⟩ := rfl
    rw [joined, ofAtoms_append, ih later]
    cases piece with
    | tag t => rfl
    | text front =>
      rw [Snippet.cons, if_neg fun vacant => filled (congrArg Piece.text vacant)]
      split
      · rename_i next others shape
        exact absurd (congrArg List.head? shape) (apart front next rfl)
      · rfl

/-- Snippets without empty and neighbouring texts that have the same characters and tags are the
same. -/
theorem Canonical.ext {s t : Snippet} (first : s.Canonical) (second : t.Canonical)
    (same : s.atoms = t.atoms) : s = t := by
  rw [← first.ofAtoms_atoms, ← second.ofAtoms_atoms, same]

inductive Building where
  | empty
  /-- Adds text, a tag, or an argument, which is one of both. -/
  | push (before : Building) (piece : Piece)
  /-- Adds all of another snippet. -/
  | append (before other : Building)
  | expand (template : String) (document : Nat) (args : List (String × Piece))

namespace Building

def snippet : Building → Snippet
  | .empty => .empty
  | .push before piece => before.snippet.push piece
  | .append before other => before.snippet.append other.snippet
  | .expand template document args => .expand template document args

def added : Building → List Piece
  | .empty => []
  | .push before piece => before.added ++ [piece]
  | .append before other => before.added ++ other.added
  | .expand template document args =>
    (Template.parts template).map (Template.Part.fill document args)

def flattened (b : Building) : List Atom :=
  b.added.flatMap Piece.atoms

theorem canonical_snippet (b : Building) : b.snippet.Canonical := by
  induction b with
  | empty => exact canonical_empty
  | push before piece _ => exact (canonical_ofPieces [piece]).append before.snippet
  | append before other _ second => exact second.append before.snippet
  | expand template document args => exact canonical_ofPieces _

/-- Building keeps every character and tag, and adds none of its own. -/
theorem atoms_snippet (b : Building) : b.snippet.atoms = b.flattened := by
  induction b with
  | empty => rfl
  | push before piece ih =>
    rw [snippet, Snippet.push, atoms_append, ih, atoms_ofPieces, flattened, flattened, added,
      List.flatMap_append]
  | append before other first second =>
    rw [snippet, atoms_append, first, second, flattened, flattened, flattened, added,
      List.flatMap_append]
  | expand template document args => rw [snippet, Snippet.expand, atoms_ofPieces]; rfl

theorem snippet_eq_iff (b c : Building) : b.snippet = c.snippet ↔ b.flattened = c.flattened := by
  rw [← atoms_snippet, ← atoms_snippet]
  constructor
  · intro same
    rw [same]
  · intro same
    exact b.canonical_snippet.ext c.canonical_snippet same

theorem flattened_eq_nil_iff (b : Building) :
    b.flattened = [] ↔ ∀ piece ∈ b.added, piece = .text "" := by
  rw [flattened, List.flatMap_eq_nil_iff]
  refine forall₂_congr fun piece _ => ?_
  cases piece with
  | tag t => simp [Piece.atoms]
  | text s => simp [Piece.atoms]

theorem isEmpty_snippet_iff (b : Building) :
    b.snippet.isEmpty = true ↔ ∀ piece ∈ b.added, piece = .text "" := by
  have vacant : b.snippet.isEmpty = true ↔ b.snippet = .empty := by
    obtain ⟨pieces⟩ := b.snippet
    simp [isEmpty, Snippet.empty]
  rw [vacant, ← flattened_eq_nil_iff]
  exact b.snippet_eq_iff .empty

end Building

/-- Whatever operations have built a snippet, none of its texts is empty and no two of them are
neighbours. So it is empty exactly if nothing but empty text was ever added, two snippets are the
same exactly if the same characters and tags were added in the same order, appending is associative
with the empty snippet as its unit, and the text of a snippet behind another one is the text of both
in order. -/
theorem built_snippets_canonical :
    (∀ b : Building, b.snippet.Canonical) ∧
    (∀ b : Building, b.snippet.isEmpty = true ↔ ∀ piece ∈ b.added, piece = .text "") ∧
    (∀ b c : Building, b.snippet = c.snippet ↔ b.flattened = c.flattened) ∧
    (∀ b c d : Building, (b.snippet.append c.snippet).append d.snippet =
      b.snippet.append (c.snippet.append d.snippet)) ∧
    (∀ b : Building, empty.append b.snippet = b.snippet ∧ b.snippet.append empty = b.snippet) ∧
    ∀ (b c : Building) (r : Resolution), (b.snippet.append c.snippet).resolve r =
      b.snippet.resolve r ++ c.snippet.resolve r := by
  refine ⟨Building.canonical_snippet, Building.isEmpty_snippet_iff, Building.snippet_eq_iff,
    ?_, ?_, ?_⟩
  · intro b c d
    apply (((b.append c).append d).snippet_eq_iff (b.append (c.append d))).mpr
    simp only [Building.flattened, Building.added, List.append_assoc]
  · intro b
    refine ⟨rfl, ?_⟩
    apply ((b.append .empty).snippet_eq_iff b).mpr
    simp only [Building.flattened, Building.added, List.append_nil]
  · intro b c r
    exact resolve_append b.snippet c.snippet r

end Snippet

end AccessorGen
