/- Files that are up to date.
   A file is left alone exactly if the digest of the new body occurs in it. In a file that was
   stamped before, that digest can only occur at the place of the old one, where it is the same, or
   inside the old body: no other stretch of the banner has room for it, and no occurrence crosses
   from the banner into the body. -/

import AccessorGen.Proofs.Command.Update
import AccessorGen.Proofs.Text.CInteger

set_option autoImplicit false
set_option relaxedAutoImplicit false

namespace AccessorGen

namespace Text

theorem occurrence_beside {needle front back head tail : List Char} {c : Char}
    (absent : c ∉ needle) (same : front ++ needle ++ back = head ++ c :: tail) :
    (∃ rest, head = front ++ needle ++ rest) ∨
      ∃ rest, front = head ++ c :: rest ∧ tail = rest ++ needle ++ back := by
  rw [List.append_assoc] at same
  rcases List.append_eq_append_iff.mp same with ⟨between, rfl, after⟩ | ⟨between, rfl, after⟩
  · -- The occurrence starts before the character, so that it ends there as well.
    rcases List.append_eq_append_iff.mp after with ⟨rest, rfl, -⟩ | ⟨rest, rfl, crossing⟩
    · exact .inl ⟨rest, by rw [List.append_assoc]⟩
    · cases rest with
      | nil => exact .inl ⟨[], by simp⟩
      | cons d rest =>
        obtain ⟨rfl, -⟩ := List.cons.inj crossing
        exact absurd (by simp) absent
  · cases between with
    | nil =>
      cases needle with
      | nil => exact .inl ⟨[], by simp⟩
      | cons d needle =>
        obtain ⟨rfl, -⟩ := List.cons.inj after
        exact absurd List.mem_cons_self absent
    | cons d rest =>
      rw [List.cons_append] at after
      obtain ⟨rfl, behind⟩ := List.cons.inj after
      exact .inr ⟨rest, rfl, by rw [behind, List.append_assoc]⟩

end Text

namespace Digest

def isHexDigit (c : Char) : Bool :=
  c.isDigit || ('a' ≤ c && c ≤ 'f')

/-- What a digest looks like: sixty-four hexadecimal digits. -/
structure IsDigest (cs : List Char) : Prop where
  length : cs.length = 64
  digits : ∀ c ∈ cs, isHexDigit c = true

theorem IsDigest.not_mem {cs : List Char} (digest : IsDigest cs) {c : Char}
    (foreign : isHexDigit c = false) : c ∉ cs := by
  intro member
  rw [digest.digits c member] at foreign
  cases foreign

theorem IsDigest.not_infix {cs text : List Char} (digest : IsDigest cs)
    (few : text.countP isHexDigit < 64) : ¬ cs <:+: text := by
  intro occurs
  have room : cs.countP isHexDigit ≤ text.countP isHexDigit := occurs.sublist.countP_le
  rw [List.countP_eq_length.mpr digest.digits, digest.length] at room
  omega

theorem IsDigest.eq_of_append {cs other front back : List Char} (digest : IsDigest cs)
    (long : IsDigest other) (occurs : other = front ++ cs ++ back) : front = [] ∧ other = cs := by
  have lengths := congrArg List.length occurs
  rw [List.length_append, List.length_append, long.length, digest.length] at lengths
  obtain rfl : front = [] := List.eq_nil_of_length_eq_zero (by omega)
  obtain rfl : back = [] := List.eq_nil_of_length_eq_zero (by omega)
  rw [List.nil_append, List.append_nil] at occurs
  exact ⟨rfl, occurs⟩

theorem Sha256.isDigest_hexDigest (text : String) : IsDigest (Sha256.hexDigest text).toList := by
  have digitChar : ∀ digit : Fin 16, isHexDigit (Nat.digitChar digit.val) = true := by decide
  have word : ∀ n, (Text.fixedDigits 16 8 n).length = 8 ∧
      ∀ c ∈ Text.fixedDigits 16 8 n, isHexDigit c = true := by
    intro n
    obtain ⟨digits, shape, length, small, -⟩ :=
      Text.CInteger.fixedDigits_eq (by decide : 0 < 16) 8 n
    rw [shape, List.length_map]
    refine ⟨length, fun c member => ?_⟩
    obtain ⟨digit, inside, rfl⟩ := List.mem_map.mp member
    exact digitChar ⟨digit, small digit inside⟩
  rw [Sha256.hexDigest, String.toList_ofList]
  constructor
  · simp [Sha256.State.toHex, word]
  · intro c member
    obtain ⟨w, -, inside⟩ := List.mem_flatMap.mp member
    exact (word w.toNat).2 c inside

/-- Between a blank and a line break, a digest can only be met by the same digest. All other
occurrences are behind, if the text has too few hexadecimal digits elsewhere. -/
theorem IsDigest.occurrence {cs digest start ending body front back : List Char}
    (own : IsDigest cs) (old : IsDigest digest) (start_few : start.countP isHexDigit < 64)
    (ending_few : ending.countP isHexDigit < 64)
    (occurs : front ++ cs ++ back =
      start ++ ' ' :: (digest ++ '\n' :: (ending ++ '\n' :: body))) :
    front = start ++ [' '] ∧ digest = cs ∨
      ∃ before, front = start ++ ' ' :: (digest ++ '\n' :: (ending ++ '\n' :: before)) ∧
        body = before ++ cs ++ back := by
  have blank : ' ' ∉ cs := own.not_mem (by decide)
  have lineBreak : '\n' ∉ cs := own.not_mem (by decide)
  rcases Text.occurrence_beside blank occurs with ⟨rest, early⟩ | ⟨second, rfl, behindStart⟩
  · exact absurd ⟨front, rest, early.symm⟩ (own.not_infix start_few)
  rcases Text.occurrence_beside lineBreak behindStart.symm with
    ⟨rest, inDigest⟩ | ⟨third, rfl, behindDigest⟩
  · obtain ⟨rfl, same⟩ := own.eq_of_append old inDigest
    exact .inl ⟨rfl, same⟩
  rcases Text.occurrence_beside lineBreak behindDigest.symm with
    ⟨rest, early⟩ | ⟨before, rfl, inBody⟩
  · exact absurd ⟨third, rest, early.symm⟩ (own.not_infix ending_few)
  · exact .inr ⟨before, rfl, inBody⟩

end Digest

namespace Artifact

open Digest (IsDigest isHexDigit)
open Digest.Sha256 (hexDigest isDigest_hexDigest)

/-- The banner up to the blank before its digest. -/
def bannerStart : String :=
  "/*" ++ rule ++ "\n" ++
    " * Generated by buildinfo. Do not edit.\n" ++
    " * The digest below is compared on regeneration to skip unchanged files.\n" ++
    " * SHA-256:"

def bannerEnd : String :=
  " " ++ rule ++ "*/\n"

theorem banner_eq (digest : String) :
    banner digest = bannerStart ++ " " ++ digest ++ "\n" ++ bannerEnd ++ "\n" := by
  have mark : " * SHA-256: " = " * SHA-256:" ++ " " := by decide
  have ending : "*/\n\n" = "*/\n" ++ "\n" := by decide
  unfold banner bannerStart bannerEnd
  rw [mark, ending]
  simp only [String.append_assoc]

private theorem countP_rule : rule.toList.countP isHexDigit = 0 := by
  have stars : rule.toList = List.replicate 77 '*' := String.toList_ofList
  rw [stars, List.countP_eq_zero]
  intro c member
  rw [List.eq_of_mem_replicate member]
  decide

private theorem countP_bannerStart : bannerStart.toList.countP isHexDigit < 64 := by
  have frame : "/*".toList.countP isHexDigit + "\n".toList.countP isHexDigit = 0 := by decide
  have first : " * Generated by buildinfo. Do not edit.\n".toList.countP isHexDigit < 20 := by
    decide +kernel
  have second :
      " * The digest below is compared on regeneration to skip unchanged files.\n".toList.countP
        isHexDigit < 35 := by
    decide +kernel
  have third : " * SHA-256:".toList.countP isHexDigit < 5 := by decide +kernel
  simp only [bannerStart, String.toList_append, List.countP_append, countP_rule]
  omega

private theorem countP_bannerEnd : bannerEnd.toList.countP isHexDigit < 64 := by
  have frame : " ".toList.countP isHexDigit + "*/\n".toList.countP isHexDigit = 0 := by decide
  simp only [bannerEnd, String.toList_append, List.countP_append, countP_rule]
  omega

theorem toList_text_stamp (body : String) :
    (stamp body).text.toList = (banner (hexDigest body)).toList ++ body.toList :=
  String.toList_append

/-- Where the digest of a body occurs in a stamped text, it is the digest of the banner at its
place, or it stands behind the banner. -/
theorem occurrence_in_stamp {body old : String} {front back : List Char}
    (occurs : (stamp old).text.toList = front ++ (hexDigest body).toList ++ back) :
    front = (bannerStart ++ " ").toList ∧ hexDigest body = hexDigest old ∨
      ∃ before, front = (banner (hexDigest old)).toList ++ before ∧
        old.toList = before ++ (hexDigest body).toList ++ back := by
  have start_few := countP_bannerStart
  have ending_few := countP_bannerEnd
  rw [toList_text_stamp] at occurs
  rw [banner_eq] at occurs ⊢
  generalize bannerStart = start, bannerEnd = ending at *
  have cut : front ++ (hexDigest body).toList ++ back = start.toList ++ ' ' ::
      ((hexDigest old).toList ++ '\n' :: (ending.toList ++ '\n' :: old.toList)) := by
    rw [← occurs]
    simp
  rcases (isDigest_hexDigest body).occurrence (isDigest_hexDigest old) start_few ending_few cut with
    ⟨place, same⟩ | ⟨before, place, inside⟩
  · exact .inl ⟨by simpa using place, (String.toList_inj.mp same).symm⟩
  · exact .inr ⟨before, by simpa using place, inside⟩

/-- The skip decision is exact. Over a text that was stamped before, an artifact is left alone
exactly if both bodies have the same digest or the digest of the new one occurs in the old body
itself: every occurrence in the text is the digest of the banner at its place, or lies behind the
banner. Its own text an artifact never replaces, whatever is put before or behind it. -/
theorem skip_decision_exact (body old : String) :
    ((stamp body).needsWrite (some (stamp old).text) = false ↔
      hexDigest body = hexDigest old ∨ (hexDigest body).toList <:+: old.toList) ∧
    (∀ front back : String,
      (stamp body).needsWrite (some (front ++ (stamp body).text ++ back)) = false) ∧
    ∀ front back : List Char,
      (stamp old).text.toList = front ++ (hexDigest body).toList ++ back →
        front = (bannerStart ++ " ").toList ∧ hexDigest body = hexDigest old ∨
          ∃ before, front = (banner (hexDigest old)).toList ++ before ∧
            old.toList = before ++ (hexDigest body).toList ++ back := by
  refine ⟨⟨?_, ?_⟩, ?_, fun front back => occurrence_in_stamp⟩
  · intro skipped
    obtain ⟨_, same, front, back, occurs⟩ := Command.needsWrite_eq_false_iff.mp skipped
    obtain rfl := Option.some.inj same
    rcases occurrence_in_stamp occurs.symm with ⟨-, equal⟩ | ⟨before, -, inside⟩
    · exact .inl equal
    · exact .inr ⟨before, back, inside.symm⟩
  · intro known
    refine Command.needsWrite_eq_false_iff.mpr ⟨_, rfl, ?_⟩
    rcases known with equal | inside
    · have digest : (stamp body).digest = (stamp old).digest := equal
      rw [digest]
      exact Command.digest_infix_stamp old
    · rw [toList_text_stamp]
      exact List.infix_append_of_infix_right inside
  · intro front back
    refine Command.needsWrite_eq_false_iff.mpr ⟨_, rfl, ?_⟩
    simp only [String.toList_append]
    exact List.infix_append_of_infix_left
      (List.infix_append_of_infix_right (Command.digest_infix_stamp body))

end Artifact

end AccessorGen
