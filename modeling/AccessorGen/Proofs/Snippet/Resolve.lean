/- Resolving snippets.
   The text of a snippet is the text of its pieces in order, whatever joins and cuts the pieces have
   gone through. -/

import AccessorGen.Snippet

set_option autoImplicit false
set_option relaxedAutoImplicit false

namespace AccessorGen

@[simp] def Resolution.text (r : Resolution) : List Piece → String
  | [] => ""
  | piece :: rest => r.piece piece ++ r.text rest

theorem Resolution.text_append (r : Resolution) (front back : List Piece) :
    r.text (front ++ back) = r.text front ++ r.text back := by
  induction front with
  | nil => simp
  | cons piece front ih =>
    rw [List.cons_append, Resolution.text, Resolution.text, ih, String.append_assoc]

namespace Snippet

private theorem foldl_append_text (r : Resolution) (pieces : List Piece) (out : String) :
    pieces.foldl (fun out piece => out ++ r.piece piece) out = out ++ r.text pieces := by
  induction pieces generalizing out with
  | nil => simp
  | cons piece rest ih => rw [List.foldl_cons, ih, Resolution.text, String.append_assoc]

theorem resolve_eq_text (s : Snippet) (r : Resolution) : s.resolve r = r.text s.pieces := by
  rw [resolve, foldl_append_text, String.empty_append]

@[simp] theorem resolve_empty (r : Resolution) : empty.resolve r = "" :=
  rfl

@[simp] theorem resolve_cons (piece : Piece) (s : Snippet) (r : Resolution) :
    (cons piece s).resolve r = r.piece piece ++ s.resolve r := by
  simp only [resolve_eq_text]
  cases piece with
  | tag t => rfl
  | text front =>
    rw [cons]
    split
    · rename_i vacant
      rw [Resolution.piece, vacant, String.empty_append]
    · split
      · rename_i next rest joined
        rw [joined]
        simp only [Resolution.text, Resolution.piece, String.append_assoc]
      · rfl

private theorem resolve_foldr_cons (pieces : List Piece) (s : Snippet) (r : Resolution) :
    (pieces.foldr cons s).resolve r = r.text pieces ++ s.resolve r := by
  induction pieces with
  | nil => simp
  | cons piece rest ih =>
    rw [List.foldr_cons, resolve_cons, ih, Resolution.text, String.append_assoc]

@[simp] theorem resolve_ofPieces (pieces : List Piece) (r : Resolution) :
    (ofPieces pieces).resolve r = r.text pieces := by
  rw [ofPieces, resolve_foldr_cons, resolve_empty, String.append_empty]

@[simp] theorem resolve_append (s t : Snippet) (r : Resolution) :
    (s.append t).resolve r = s.resolve r ++ t.resolve r := by
  rw [append, resolve_foldr_cons, ← resolve_eq_text]

@[simp] theorem resolve_join_nil (r : Resolution) : (join []).resolve r = "" :=
  rfl

@[simp] theorem resolve_join_cons (s : Snippet) (rest : List Snippet) (r : Resolution) :
    (join (s :: rest)).resolve r = s.resolve r ++ (join rest).resolve r :=
  resolve_append s (join rest) r

theorem resolve_join_append (front back : List Snippet) (r : Resolution) :
    (join (front ++ back)).resolve r = (join front).resolve r ++ (join back).resolve r := by
  induction front with
  | nil => simp
  | cons first rest ih =>
    rw [List.cons_append, resolve_join_cons, resolve_join_cons, ih, String.append_assoc]

theorem resolve_join_congr {snippets : List Snippet} {r r' : Resolution}
    (same : ∀ s ∈ snippets, s.resolve r = s.resolve r') :
    (join snippets).resolve r = (join snippets).resolve r' := by
  induction snippets with
  | nil => rfl
  | cons first rest ih =>
    have tail := ih fun s member => same s (List.mem_cons_of_mem first member)
    rw [resolve_join_cons, resolve_join_cons, tail, same first List.mem_cons_self]

theorem resolve_congr {s : Snippet} {r r' : Resolution}
    (same : ∀ t, .tag t ∈ s.pieces → r.tag t = r'.tag t) : s.resolve r = s.resolve r' := by
  obtain ⟨pieces⟩ := s
  rw [resolve_eq_text, resolve_eq_text]
  induction pieces with
  | nil => rfl
  | cons piece rest ih =>
    have later := ih fun t member => same t (List.mem_cons_of_mem piece member)
    rw [Resolution.text, Resolution.text, later]
    cases piece with
    | text front => rfl
    | tag t => exact congrArg (· ++ r'.text rest) (same t List.mem_cons_self)

theorem tag_mem_cons {t : Tag} {piece : Piece} {s : Snippet} :
    .tag t ∈ (cons piece s).pieces ↔ .tag t = piece ∨ .tag t ∈ s.pieces := by
  cases piece with
  | tag u => exact List.mem_cons
  | text front =>
    rw [cons]
    split
    · simp
    · split
      · rename_i next rest shape
        simp [shape]
      · simp

@[simp] theorem tag_mem_ofPieces {t : Tag} {pieces : List Piece} :
    .tag t ∈ (ofPieces pieces).pieces ↔ .tag t ∈ pieces := by
  induction pieces with
  | nil => rfl
  | cons piece rest ih =>
    have step : ofPieces (piece :: rest) = cons piece (ofPieces rest) := rfl
    rw [step, tag_mem_cons, ih, List.mem_cons]

end Snippet

end AccessorGen
