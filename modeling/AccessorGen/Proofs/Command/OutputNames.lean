/- Output paths that name their own files.
   A file that a run writes can be given as the output path of the next run: its extension is cut
   off again, so that the two runs have the same files and the same base name. -/

import AccessorGen.Command.Run
import AccessorGen.Proofs.Files.Directories
import AccessorGen.Proofs.Files.OutputPath

set_option autoImplicit false
set_option relaxedAutoImplicit false

namespace AccessorGen

namespace Files.OutputPath

theorem splitOn_append (path : List Char) :
    ∃ above, path = above.flatMap (· ++ ['/']) ++ lastPart path ∧
      ∀ ending : List Char, '/' ∉ ending →
        Text.splitOn '/' (path ++ ending) = above ++ [lastPart path ++ ending] := by
  obtain ⟨above, last, parts⟩ := Text.splitOn_append_plain '/' path
  have whole : Text.splitOn '/' path = above ++ [last] := by
    simpa using parts [] List.not_mem_nil
  have own : lastPart path = last := by
    rw [lastPart, whole, List.getLastD_concat]
  have joined : ∀ front : List (List Char),
      Text.joinWith '/' (front ++ [last]) = front.flatMap (· ++ ['/']) ++ last := by
    intro front
    induction front with
    | nil => rfl
    | cons part rest ih =>
      rw [List.cons_append, Text.joinWith, ih, List.flatMap_cons]
      · simp
      · simp
  rw [own]
  refine ⟨above, ?_, parts⟩
  rw [← joined, ← whole, Text.joinWith_splitOn]

theorem splitName_append {stem extension : List Char} (filled : stem ≠ [])
    (plain : '.' ∉ extension) :
    splitName (stem ++ '.' :: extension) = (stem, some extension) := by
  have backwards : (stem ++ '.' :: extension).reverse =
      extension.reverse ++ '.' :: stem.reverse := by
    simp
  have run : ∀ c ∈ extension.reverse, (c != '.') = true := by
    intro c member
    rw [bne_iff_ne]
    rintro rfl
    exact plain (List.mem_reverse.mp member)
  have behind : (extension.reverse ++ '.' :: stem.reverse).dropWhile (· != '.') =
      '.' :: stem.reverse := by
    rw [List.dropWhile_append_of_pos run]
    rfl
  have front : (extension.reverse ++ '.' :: stem.reverse).takeWhile (· != '.') =
      extension.reverse := by
    rw [List.takeWhile_append_of_pos run]
    simp
  rw [splitName, backwards, behind, front]
  simp [filled]

theorem upToStem_append_dot {path : List Char} (filled : lastPart path ≠ [])
    (single : lastPart path ≠ ['.']) : upToStem (path ++ ['.']) = path := by
  obtain ⟨above, whole, parts⟩ := splitOn_append path
  have busy : isIdle (lastPart path ++ ['.']) = false := by
    simp [isIdle, filled]
  have down : lastPart path ++ ['.'] ≠ ['.', '.'] := by
    intro same
    exact single ((List.append_left_inj ['.']).mp same)
  rw [upToStem, named?_of_splitOn (parts ['.'] (by decide)) busy down]
  dsimp only
  rw [splitName_append filled List.not_mem_nil, ← whole]

theorem exists_named?_withExtension (path : List Char) :
    ∃ above, ∀ extension : Char, extension ≠ '/' → extension ≠ '.' →
      named? (withExtension path extension) =
        some ⟨above, lastPart path ++ ['.', extension]⟩ := by
  obtain ⟨above, -, parts⟩ := splitOn_append path
  refine ⟨above, fun extension slash dot => ?_⟩
  have ending : ∀ dots : List Char, (∀ c ∈ dots, c = '.') →
      lastPart path ++ ['.', extension] ≠ dots := by
    intro dots all same
    exact dot (all extension (same ▸ by simp))
  apply named?_of_splitOn (parts ['.', extension] (by simp [slash.symm]))
  · simp [isIdle, ending ['.'] (by simp)]
  · exact ending ['.', '.'] (by simp)

theorem base_withExtension {path : List Char} (filled : lastPart path ≠ [])
    (single : lastPart path ≠ ['.']) {extension : Char}
    (listed : extension ∈ ['h', 'c', 'H', 'C']) :
    base (withExtension path extension) = path := by
  have letters : ∀ letter ∈ ['h', 'c', 'H', 'C'],
      letter ≠ '/' ∧ letter ≠ '.' ∧ isCExtension [letter] = true := by
    simp [isCExtension]
  obtain ⟨slash, dot, known⟩ := letters extension listed
  obtain ⟨above, named⟩ := exists_named?_withExtension path
  have found : extension? (withExtension path extension) = some [extension] := by
    have last : lastPart path ++ ['.', extension] = lastPart path ++ '.' :: [extension] := rfl
    rw [extension?, named extension slash dot, Option.bind_eq_bind, Option.bind_some, last,
      splitName_append filled (by simp [dot.symm])]
  have shortened : (withExtension path extension).take
      ((withExtension path extension).length - [extension].length) = path ++ ['.'] := by
    have split : withExtension path extension = (path ++ ['.']) ++ [extension] := by
      simp [withExtension]
    rw [split, List.length_append, Nat.add_sub_cancel, List.take_left]
  rw [base, found]
  dsimp only
  rw [if_pos known, shortened, upToStem_append_dot filled single]

end Files.OutputPath

namespace Command

open Files

theorem outputBase_of_lastPart {output : String} {base : List Char}
    (own : OutputPath.base output.toList = base) (filled : OutputPath.lastPart base ≠ [])
    (single : OutputPath.lastPart base ≠ ['.']) (double : OutputPath.lastPart base ≠ ['.', '.']) :
    outputBase output = .ok (base, String.ofList (OutputPath.lastPart base)) := by
  obtain ⟨above, -, parts⟩ := OutputPath.splitOn_append base
  have whole := parts [] List.not_mem_nil
  rw [List.append_nil, List.append_nil] at whole
  have busy : OutputPath.isIdle (OutputPath.lastPart base) = false := by
    simp [OutputPath.isIdle, filled, single]
  rw [outputBase, own, OutputPath.named?_of_splitOn whole busy double]

/-- A run depends on its output path through the base that the path selects. -/
theorem run_congr_output {m : Type → Type} [Monad m] [MonadFiles m] (services : Services)
    (args : Arguments) {output : String} {selected : List Char × String}
    (one : outputBase args.output = .ok selected) (other : outputBase output = .ok selected) :
    (run services { args with output := output } : m Ending) = run services args := by
  rw [run, run, one, other]
  rfl

/-- Output paths round-trip. Let `base` be what an output path selects. If it ends with a name, then
the path of the header or of the source, with its extension in either case, selects the same base
and the same base name, and a run for it does the same as a run for the first path. Whatever `base`
is, header and source have different names in one directory, and never are one file. -/
theorem output_paths_round_trip (output : String) :
    let base := OutputPath.base output.toList
    (OutputPath.lastPart base ∉ [[], ['.'], ['.', '.']] →
      outputBase output = .ok (base, String.ofList (OutputPath.lastPart base)) ∧
      ∀ extension ∈ ['h', 'c', 'H', 'C'],
        OutputPath.base (OutputPath.withExtension base extension) = base ∧
        outputBase (outputPath base extension) = outputBase output ∧
        ∀ (m : Type → Type) [Monad m] [MonadFiles m] (services : Services) (args : Arguments),
          args.output = output →
          (run services { args with output := outputPath base extension } : m Ending) =
            run services args) ∧
    outputPath base 'h' ≠ outputPath base 'c' ∧
    (∃ above, ∀ extension ∈ ['h', 'c'],
      OutputPath.named? (OutputPath.withExtension base extension) =
        some ⟨above, OutputPath.lastPart base ++ ['.', extension]⟩) ∧
    OutputPath.directory (OutputPath.withExtension base 'h') =
      OutputPath.directory (OutputPath.withExtension base 'c') ∧
    ∀ tree : FileTree, ¬ tree.SameFile (outputPath base 'h') (outputPath base 'c') := by
  intro base
  obtain ⟨above, named⟩ := OutputPath.exists_named?_withExtension base
  have header := named 'h' (by decide) (by decide)
  have source := named 'c' (by decide) (by decide)
  refine ⟨?selects, ?different, ⟨above, ?names⟩, ?directory, ?files⟩
  case selects =>
    intro last
    simp only [List.mem_cons, List.not_mem_nil, or_false, not_or] at last
    obtain ⟨filled, single, double⟩ := last
    have first := outputBase_of_lastPart rfl filled single double
    refine ⟨first, fun extension listed => ?_⟩
    have again := OutputPath.base_withExtension filled single listed
    have second : outputBase (outputPath base extension) =
        .ok (base, String.ofList (OutputPath.lastPart base)) := by
      apply outputBase_of_lastPart _ filled single double
      rw [outputPath, String.toList_ofList, again]
    refine ⟨again, second.trans first.symm, ?_⟩
    rintro m _ _ services args rfl
    exact run_congr_output services args first second
  case different =>
    intro same
    have texts := String.ofList_injective same
    simp [OutputPath.withExtension] at texts
  case names =>
    simpa using ⟨header, source⟩
  case directory =>
    rw [OutputPath.directory, OutputPath.directory, header, source]
    cases above <;> rfl
  case files =>
    intro tree
    exact OutputPath.not_sameFile_withExtension tree base (by simp) (by decide)

private def hiddenRun (output : String) : Arguments :=
  ⟨"in.json", output, .snake, false, false, true⟩

/-- A hidden file with two dots, in a directory that is named like a header. -/
theorem output_paths_round_trip_hidden :
    OutputPath.base "gen.h/.my.info.C".toList = "gen.h/.my.info".toList ∧
    OutputPath.lastPart "gen.h/.my.info".toList ∉ [[], ['.'], ['.', '.']] ∧
    outputBase "gen.h/.my.info.C" = .ok ("gen.h/.my.info".toList, ".my.info") ∧
    outputBase "gen.h/.my.info.h" = .ok ("gen.h/.my.info".toList, ".my.info") ∧
    ∀ (services : Services) (tree : FileTree),
      (run services (hiddenRun "gen.h/.my.info.h") : StateM FileTree Ending).run tree =
        (run services (hiddenRun "gen.h/.my.info.C") : StateM FileTree Ending).run tree := by
  have stripped : OutputPath.base "gen.h/.my.info.C".toList = "gen.h/.my.info".toList := by
    decide
  have named : OutputPath.lastPart "gen.h/.my.info".toList ∉ [[], ['.'], ['.', '.']] := by
    decide
  obtain ⟨selects, -⟩ := output_paths_round_trip "gen.h/.my.info.C"
  rw [stripped] at selects
  obtain ⟨first, again⟩ := selects named
  obtain ⟨-, second, same⟩ := again 'h' (by decide)
  have header : outputPath "gen.h/.my.info".toList 'h' = "gen.h/.my.info.h" := by
    decide
  rw [header] at second same
  have base : String.ofList (OutputPath.lastPart "gen.h/.my.info".toList) = ".my.info" := by
    decide
  rw [base] at first
  refine ⟨stripped, named, first, second.trans first, fun services tree => ?_⟩
  exact congrArg (·.run tree) (same (StateM FileTree) services (hiddenRun "gen.h/.my.info.C") rfl)

end Command

end AccessorGen
