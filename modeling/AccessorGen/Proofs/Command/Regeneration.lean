/- Repeated runs.
   A run that succeeds leaves both output files up to date, and its input as it was. The next run
   finds that nothing has to be written, and a check finds nothing out of date. -/

import AccessorGen.Proofs.Command.Update
import AccessorGen.Proofs.Files.OutputPath
import AccessorGen.Proofs.Session.Calls

set_option autoImplicit false
set_option relaxedAutoImplicit false

namespace AccessorGen.Command

open Files

/-- What a run ends with on a tree of files, and the tree that it leaves. -/
def runOn (services : Services) (args : Arguments) (tree : FileTree) : Ending × FileTree :=
  (run (m := StateM FileTree) services args).run tree

def UpToDate (tree : FileTree) (base : List Char) (files : ModuleFiles) : Prop :=
  Shows tree (outputPath base 'h') files.header.digest ∧
    Shows tree (outputPath base 'c') files.source.digest

/-- The input file is neither of the output files. Before a run an output path may lead over a
directory that is still to be made; the tree after the run decides. -/
def InputApart (tree : FileTree) (args : Arguments) : Prop :=
  ∀ base name, outputBase args.output = .ok (base, name) →
    ¬ tree.SameFile args.input (outputPath base 'h') ∧
      ¬ tree.SameFile args.input (outputPath base 'c')

section Pair

variable {tree : FileTree} {args : Arguments} {base : List Char} {files : ModuleFiles}

theorem updateBoth_of_upToDate (current : UpToDate tree base files) (args : Arguments) :
    (updateBoth args base files : StateM FileTree _).run tree =
      (.ok (⟨outputPath base 'h', files.header, false⟩, ⟨outputPath base 'c', files.source, false⟩),
        tree) := by
  rw [updateBoth, run_bind_eq (update_of_shows current.1 args.check)]
  dsimp only
  rw [run_bind_eq (update_of_shows current.2 args.check)]
  rfl

theorem updateBoth_of_not_upToDate (check : args.check = true)
    (outdated : ¬ UpToDate tree base files) :
    ∃ failure, (updateBoth args base files : StateM FileTree _).run tree =
      (.error failure, tree) := by
  rw [updateBoth, check]
  by_cases header : Shows tree (outputPath base 'h') files.header.digest
  · have source : ¬ Shows tree (outputPath base 'c') files.source.digest :=
      fun source => outdated ⟨header, source⟩
    obtain ⟨failure, refused⟩ := update_check_of_not_shows source
    rw [run_bind_eq (update_of_shows header true)]
    dsimp only
    rw [run_bind_eq refused]
    exact ⟨failure, rfl⟩
  · obtain ⟨failure, refused⟩ := update_check_of_not_shows header
    rw [run_bind_eq refused]
    exact ⟨failure, rfl⟩

/-- What brings both files up to date changes the one and then the other, and the second change
does not touch the first file. -/
theorem updateBoth_done (writes : args.check = false)
    (header : files.header.digest.toList <:+: files.header.text.toList)
    (source : files.source.digest.toList <:+: files.source.text.toList)
    {written : Written × Written} {after : FileTree}
    (done : (updateBoth args base files : StateM FileTree _).run tree = (.ok written, after)) :
    UpToDate after base files ∧
      ∃ mid, FileTree.Rewrites (outputPath base 'h') tree mid ∧
        FileTree.Rewrites (outputPath base 'c') mid after := by
  rw [updateBoth, writes] at done
  rcases first : (update false (outputPath base 'h') files.header : StateM FileTree _).run tree
    with ⟨result, mid⟩
  rw [run_bind_eq first] at done
  cases result with
  | error failure => cases congrArg Prod.fst done
  | ok one =>
    dsimp only at done
    rcases second : (update false (outputPath base 'c') files.source : StateM FileTree _).run mid
      with ⟨result, later⟩
    rw [run_bind_eq second] at done
    cases result with
    | error failure => cases congrArg Prod.fst done
    | ok other =>
      obtain rfl : later = after := congrArg Prod.snd done
      obtain ⟨changed, shown⟩ := update_done header first
      obtain ⟨changedAgain, shownToo⟩ := update_done source second
      have apart : ¬ later.SameFile (outputPath base 'h') (outputPath base 'c') :=
        OutputPath.not_sameFile_withExtension later base (by simp) (by decide)
      exact ⟨⟨shown.of_rewrites changedAgain apart, shownToo⟩, mid, changed, changedAgain⟩

end Pair

section Conversion

variable {services : Services} {args : Arguments} {tree after : FileTree} {text name : String}
  {base : List Char} {files : ModuleFiles}

theorem convert_eq_ok_iff :
    convert services args name text = .ok files ↔
      ∃ s, (Session.fresh ⟨args.naming, some name, services⟩).processText
          ⟨args.naming, some name, services⟩ text = .done s ∧
        files = s.render ⟨args.naming, some name, services⟩ := by
  rw [convert]
  rcases (Session.fresh ⟨args.naming, some name, services⟩).processText
    ⟨args.naming, some name, services⟩ text with ⟨s, _ | fault⟩
  · simp [Outcome.done, eq_comm]
  · simp [Outcome.done]

theorem render_stamped (s : Session) (settings : Settings) :
    (s.render settings).header.digest.toList <:+: (s.render settings).header.text.toList ∧
      (s.render settings).source.digest.toList <:+: (s.render settings).source.text.toList := by
  rw [Session.render]
  exact ⟨digest_infix_stamp _, digest_infix_stamp _⟩

theorem runOn_of_converted (toFiles : args.stdout = false)
    (read : textAt tree args.input = .ok text) (named : outputBase args.output = .ok (base, name))
    (converted : convert services args name text = .ok files)
    {result : Except Failure (Written × Written)}
    (updated : (updateBoth args base files : StateM FileTree _).run tree = (result, after)) :
    runOn services args tree =
      (match result with
        | .error failure => failed "" failure
        | .ok (header, source) => ⟨0, if args.reportJson then report header source else "", ""⟩,
        after) := by
  rw [runOn, run, run_bind_eq (readText_run args.input tree), read]
  dsimp only
  rw [named]
  dsimp only
  rw [converted]
  dsimp only
  rw [if_neg (Bool.eq_false_iff.mp toFiles), run_bind_eq updated]
  cases result <;> rfl

theorem runOn_done (toFiles : args.stdout = false)
    (success : (runOn services args tree).1.code = 0) :
    ∃ text base name files written, textAt tree args.input = .ok text ∧
      outputBase args.output = .ok (base, name) ∧
      convert services args name text = .ok files ∧
      (updateBoth args base files : StateM FileTree _).run tree =
        (.ok written, (runOn services args tree).2) := by
  have ends := success
  rw [runOn, run, run_bind_eq (readText_run args.input tree)] at ends
  cases read : textAt tree args.input with
  | error cause =>
    rw [read] at ends
    cases ends
  | ok text =>
    rw [read] at ends
    dsimp only at ends
    cases named : outputBase args.output with
    | error failure =>
      rw [named] at ends
      cases ends
    | ok place =>
      obtain ⟨base, name⟩ := place
      rw [named] at ends
      dsimp only at ends
      cases converted : convert services args name text with
      | error fault =>
        rw [converted] at ends
        cases ends
      | ok files =>
        rcases updated : (updateBoth args base files : StateM FileTree _).run tree with
          ⟨result, later⟩
        rw [runOn_of_converted toFiles read named converted updated] at success ⊢
        cases result with
        | error failure => cases success
        | ok written => exact ⟨text, base, name, files, written, rfl, rfl, converted, updated⟩

theorem runOn_of_upToDate (toFiles : args.stdout = false)
    (read : textAt tree args.input = .ok text) (named : outputBase args.output = .ok (base, name))
    (converted : convert services args name text = .ok files)
    (current : UpToDate tree base files) :
    runOn services args tree =
      (⟨0, if args.reportJson then
          report ⟨outputPath base 'h', files.header, false⟩
            ⟨outputPath base 'c', files.source, false⟩
        else "", ""⟩, tree) :=
  runOn_of_converted toFiles read named converted (updateBoth_of_upToDate current args)

theorem check_succeeds_iff (toFiles : args.stdout = false) (check : args.check = true)
    (read : textAt tree args.input = .ok text) (named : outputBase args.output = .ok (base, name))
    (converted : convert services args name text = .ok files) :
    (runOn services args tree).1.code = 0 ↔ UpToDate tree base files := by
  by_cases current : UpToDate tree base files
  · rw [runOn_of_upToDate toFiles read named converted current]
    exact ⟨fun _ => current, fun _ => rfl⟩
  · obtain ⟨failure, refused⟩ := updateBoth_of_not_upToDate check current
    rw [runOn_of_converted toFiles read named converted refused]
    refine ⟨fun success => ?_, fun shown => absurd shown current⟩
    cases success

/-- What a run that succeeds leaves behind: both files up to date and the input unchanged. -/
theorem upToDate_of_runOn (toFiles : args.stdout = false) (writes : args.check = false)
    (success : (runOn services args tree).1.code = 0)
    (apart : InputApart (runOn services args tree).2 args) :
    ∃ text base name files, textAt (runOn services args tree).2 args.input = .ok text ∧
      outputBase args.output = .ok (base, name) ∧
      convert services args name text = .ok files ∧
      UpToDate (runOn services args tree).2 base files := by
  obtain ⟨text, base, name, files, written, read, named, converted, updated⟩ :=
    runOn_done toFiles success
  obtain ⟨s, -, rfl⟩ := convert_eq_ok_iff.mp converted
  obtain ⟨current, mid, first, second⟩ :=
    updateBoth_done writes (render_stamped s _).1 (render_stamped s _).2 updated
  obtain ⟨fromHeader, fromSource⟩ := apart base name named
  have between : ¬ mid.SameFile args.input (outputPath base 'h') :=
    fun same => fromHeader (same.of_grows second.toGrows)
  obtain ⟨bytes, held, decoded⟩ := textAt_eq_ok_iff.mp read
  have kept : (runOn services args tree).2.read args.input = .ok bytes :=
    second.read fromSource (first.read between held)
  have readAgain := textAt_eq_ok_iff.mpr ⟨bytes, kept, decoded⟩
  exact ⟨text, base, name, _, readAgain, named, converted, current⟩

end Conversion

/-- Regeneration is idempotent: after a run that succeeds, and whose input is none of its output
files, the same run and a check of it succeed, write nothing and report so. A check succeeds exactly
if both output files are there as texts with the digests of what would be written. -/
theorem regeneration_idempotent (services : Services) (args : Arguments)
    (toFiles : args.stdout = false) :
    (∀ tree ending after, args.check = false →
      runOn services args tree = (ending, after) → ending.code = 0 → InputApart after args →
      ∃ base name header source, outputBase args.output = .ok (base, name) ∧
        ∀ check told, runOn services { args with check := check, reportJson := told } after =
          (⟨0, if told then
              report ⟨outputPath base 'h', header, false⟩ ⟨outputPath base 'c', source, false⟩
            else "", ""⟩, after)) ∧
    (∀ tree text base name s, textAt tree args.input = .ok text →
      outputBase args.output = .ok (base, name) →
      (Session.fresh ⟨args.naming, some name, services⟩).processText
        ⟨args.naming, some name, services⟩ text = .done s →
      ((runOn services { args with check := true } tree).1.code = 0 ↔
        Shows tree (outputPath base 'h')
            (Digest.Sha256.hexDigest (s.headerBody ⟨args.naming, some name, services⟩)) ∧
          Shows tree (outputPath base 'c')
            (Digest.Sha256.hexDigest (s.sourceBody ⟨args.naming, some name, services⟩)))) := by
  constructor
  · intro tree ending after writes ran success apart
    obtain ⟨rfl, rfl⟩ := Prod.mk.inj ran
    obtain ⟨text, base, name, files, read, named, converted, current⟩ :=
      upToDate_of_runOn toFiles writes success apart
    refine ⟨base, name, files.header, files.source, named, fun check told => ?_⟩
    exact runOn_of_upToDate toFiles read named converted current
  · intro tree text base name s read named done
    have converted := convert_eq_ok_iff.mpr ⟨s, done, rfl⟩
    have ends : (runOn services { args with check := true } tree).1.code = 0 ↔ _ :=
      check_succeeds_iff toFiles rfl read named converted
    rw [ends]
    exact Iff.rfl

/-- A schema, the header of another one, and no source. -/
def outdatedHeader : FileTree where
  home := ["home"]
  nodes :=
    [(["home", "in.json"], .file "\x7b\"Git_Repository\": \".\"\x7d".toUTF8),
      (["home", "out"], .directory),
      (["home", "out", "info.h"], .file "#define A 1\n".toUTF8)]

def regenerate : Arguments := ⟨"in.json", "out/info.H", .snake, false, false, false⟩

def infoSettings : Settings := ⟨.snake, some "info", .steady "v1" 1700000000⟩

theorem regeneration_idempotent_over_outdated_header :
    ∃ ending after s, runOn infoSettings.services regenerate outdatedHeader = (ending, after) ∧
      ending.code = 0 ∧ InputApart after regenerate ∧
      (∃ base name header source, outputBase regenerate.output = .ok (base, name) ∧
        ∀ check told, runOn infoSettings.services
            { regenerate with check := check, reportJson := told } after =
          (⟨0, if told then
              report ⟨outputPath base 'h', header, false⟩ ⟨outputPath base 'c', source, false⟩
            else "", ""⟩, after)) ∧
      (Session.fresh infoSettings).processText infoSettings "\x7b\"Git_Repository\": \".\"\x7d" =
        .done s ∧
      ((runOn infoSettings.services { regenerate with check := true } outdatedHeader).1.code = 0 ↔
        Shows outdatedHeader (outputPath "out/info".toList 'h')
            (Digest.Sha256.hexDigest (s.headerBody infoSettings)) ∧
          Shows outdatedHeader (outputPath "out/info".toList 'c')
            (Digest.Sha256.hexDigest (s.sourceBody infoSettings))) := by
  have ends : (runOn infoSettings.services regenerate outdatedHeader).1.code = 0 ∧
      ∀ output ∈ ["out/info.h", "out/info.c"],
        (runOn infoSettings.services regenerate outdatedHeader).2.locate "in.json" ≠
          (runOn infoSettings.services regenerate outdatedHeader).2.locate output := by
    decide +kernel
  have accepted : ((Session.fresh infoSettings).processText infoSettings
      "\x7b\"Git_Repository\": \".\"\x7d").fault = none := by
    decide +kernel
  rcases ran : runOn infoSettings.services regenerate outdatedHeader with ⟨ending, after⟩
  rcases done : (Session.fresh infoSettings).processText infoSettings
    "\x7b\"Git_Repository\": \".\"\x7d" with ⟨s, fault⟩
  rw [ran] at ends
  rw [done] at accepted
  obtain rfl : fault = none := accepted
  obtain ⟨success, places⟩ := ends
  have named : outputBase regenerate.output = .ok ("out/info".toList, "info") := rfl
  have read : textAt outdatedHeader regenerate.input = .ok "\x7b\"Git_Repository\": \".\"\x7d" :=
    textAt_eq_ok_iff.mpr ⟨_, rfl, fromUTF8?_toUTF8 _⟩
  have apart : InputApart after regenerate := by
    intro base name found
    obtain ⟨rfl, rfl⟩ := Prod.mk.inj (Except.ok.inj (named.symm.trans found))
    constructor
    · rintro ⟨place, input, header⟩
      exact places "out/info.h" (by simp) (input.trans header.symm)
    · rintro ⟨place, input, source⟩
      exact places "out/info.c" (by simp) (input.trans source.symm)
  obtain ⟨again, check⟩ := regeneration_idempotent infoSettings.services regenerate rfl
  refine ⟨ending, after, s, rfl, success, apart, again _ _ _ rfl ran success apart, rfl, ?_⟩
  dsimp only
  exact check _ _ _ _ _ read named done

end AccessorGen.Command
