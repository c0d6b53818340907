/- The lines that store fields.
   Code is taken up in whole lines, so that a field that is stored in one line has this line in the
   source, whatever stands around it. -/

import AccessorGen.Proofs.Module.WholeLines
import AccessorGen.Proofs.Session.Reachable

set_option autoImplicit false
set_option relaxedAutoImplicit false

namespace AccessorGen

private theorem mem_splitOn_collapseBlankLines (head : String) {before : String}
    (ended : EndsLine before) {line : String} (filled : line.toList ≠ [])
    (oneLine : '\n' ∉ line.toList) (after rest : String) :
    line.toList ∈ Text.splitOn '\n' (Text.collapseBlankLines
      (head ++ "\n" ++ (before ++ (line ++ "\n" ++ after)) ++ rest)).toList := by
  rw [Text.collapseBlankLines, String.toList_ofList]
  obtain ⟨front, shape⟩ :
      ∃ front : List Char, (head ++ "\n" ++ before).toList = front ++ ['\n'] := by
    rcases ended with rfl | ⟨text, rfl⟩
    · exact ⟨head.toList, by simp⟩
    · exact ⟨(head ++ "\n" ++ text).toList, by simp⟩
  have text : (head ++ "\n" ++ (before ++ (line ++ "\n" ++ after)) ++ rest).toList =
      front ++ '\n' :: line.toList ++ '\n' :: (after ++ rest).toList := by
    have split : head ++ "\n" ++ (before ++ (line ++ "\n" ++ after)) ++ rest =
        head ++ "\n" ++ before ++ (line ++ "\n" ++ (after ++ rest)) := by
      simp only [String.append_assoc]
    rw [split, String.toList_append, shape]
    simp
  rw [text]
  exact Text.mem_splitOn_collapseChars filled oneLine front _

theorem Scope.newline_not_mem_sizeText (size : Option Size) :
    '\n' ∉ (sizeText size).toList := by
  unfold sizeText
  split
  · rename_i bytes
    intro member
    rw [Nat.toString_eq_repr, Nat.toList_repr] at member
    have digit := Nat.isDigit_of_mem_toDigits (by decide) (by decide) member
    revert digit
    decide
  · simp

namespace Session

/-- All code of a session is taken up in whole lines. -/
def FillsLines (s : Session) : Prop :=
  ∀ (r : Resolution), ∀ code ∈ s.fragments, (Pages.ofFragments r [code]).FillLines

theorem Reachable.fillsLines {settings : Settings} {s : Session} (reached : Reachable settings s) :
    s.FillsLines := by
  refine reached.invariant ?_ fun s services document holds => ?_
  · intro r code member
    cases member
  · obtain ⟨meanings, added⟩ :=
      fragments_processDocument (settings.serving services) s document
    intro r code member
    rw [added] at member
    rcases List.mem_append.mp member with old | new
    · exact holds r code old
    · exact Meaning.fillLines_fragments r _ meanings code new

private theorem exists_storage_eq {s : Session} (filled : s.FillsLines) {code : Fragment}
    (member : code ∈ s.fragments) (r : Resolution) :
    ∃ before after, EndsLine before ∧
      (Pages.ofFragments r s.fragments).storage = before ++ (code.storage.resolve r ++ after) := by
  obtain ⟨before, after, split⟩ := List.append_of_mem member
  refine ⟨(Pages.ofFragments r before).storage, (Pages.ofFragments r after).storage, ?_, ?_⟩
  · refine (Pages.fillLines_ofFragments _ fun code inside => filled r code ?_).storage
    rw [split]
    exact List.mem_append_left _ inside
  · rw [split, Pages.ofFragments_append, Pages.ofFragments]
    rfl

theorem FillsLines.storageLine_mem {settings : Settings} {s : Session} (filled : s.FillsLines)
    {code : Fragment} (member : code ∈ s.fragments) {line : String}
    (written : code.storage.resolve (s.resolution settings) = line ++ "\n")
    (nonempty : line.toList ≠ []) (oneLine : '\n' ∉ line.toList) :
    line.toList ∈ Text.splitOn '\n' (s.sourceBody settings).toList := by
  obtain ⟨before, after, ended, storage⟩ :=
    exists_storage_eq filled member (s.resolution settings)
  rw [sourceBody, finish, resolve_sourceCode, storage, written]
  exact mem_splitOn_collapseBlankLines _ ended nonempty oneLine _ _

variable {settings : Settings} {meanings : List (List Meaning)} {index : Nat}
  {own : List Meaning} {field : ModuleField}

theorem code_mem_fragments (found : meanings[index]? = some own)
    (member : field ∈ Meaning.allFields own) :
    field.code ⟨settings.naming, index⟩ ∈ (ofMeanings settings meanings).fragments := by
  rw [fragments_ofMeanings, List.mem_flatten]
  refine ⟨Meaning.fragments ⟨settings.naming, index⟩ own, ?_, ?_⟩
  · apply List.mem_of_getElem?
    rw [List.getElem?_mapIdx, found, Option.map_some]
  · obtain ⟨meaning, inside, mine⟩ := List.mem_flatMap.mp member
    refine List.mem_flatMap.mpr ⟨meaning, inside, List.mem_append_left _ ?_⟩
    exact List.mem_map_of_mem mine

private theorem fillsLines_ofMeanings : (ofMeanings settings meanings).FillsLines := by
  intro r code member
  rw [fragments_ofMeanings, List.mem_flatten] at member
  obtain ⟨list, inside, among⟩ := member
  obtain ⟨i, bound, rfl⟩ := List.mem_mapIdx.mp inside
  exact Meaning.fillLines_fragments r _ _ code among

theorem storageLine_mem_sourceBody (found : meanings[index]? = some own)
    (member : field ∈ Meaning.allFields own) {line : String}
    (written : (field.code ⟨settings.naming, index⟩).storage.resolve
      ((ofMeanings settings meanings).resolution settings) = line ++ "\n")
    (filled : line.toList ≠ []) (oneLine : '\n' ∉ line.toList) :
    line.toList ∈
      Text.splitOn '\n' ((ofMeanings settings meanings).sourceBody settings).toList :=
  fillsLines_ofMeanings.storageLine_mem (code_mem_fragments found member) written filled oneLine

end Session

end AccessorGen
