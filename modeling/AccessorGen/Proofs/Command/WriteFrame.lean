/- What a command line may change.
   A run that only looks or prints, and a run that fails before it has both texts, leaves the tree
   of files alone. Any other brings the header and then the source up to date, and changes nothing
   but these two files and the directories on the way to them. -/

import AccessorGen.Proofs.Command.Regeneration
import AccessorGen.Proofs.Files.Directories

set_option autoImplicit false
set_option relaxedAutoImplicit false

namespace AccessorGen.Command

open Files

/-- A change at one place that comes from replacing the file at a path. -/
inductive Change (path : String) (artifact : Artifact) (tree after : FileTree) (place : Place) :
    Prop where
  /-- A missing directory on the way to the file was made. -/
  | directory (vacant : tree.node? place = none) (made : after.node? place = some .directory)
      (above : after.LeadsOver path place)
  /-- The file was out of date and holds the text of the artifact. -/
  | file (outdated : Outdated tree path artifact.digest)
      (replaced : tree.node? place ≠ some .directory) (led : after.locate path = .ok place)
      (held : after.node? place = some (.file artifact.text.toUTF8))

/-- What the update of one file does to a tree, by the way it ends: whether it has written the file,
or the failure. -/
inductive Updates (path : String) (artifact : Artifact) (tree : FileTree) :
    Except Failure Bool → FileTree → Prop where
  | fresh (current : Shows tree path artifact.digest) : Updates path artifact tree (.ok false) tree
  | written {after : FileTree} (outdated : Outdated tree path artifact.digest)
      (home : after.home = tree.home)
      (places : ∀ place, after.node? place = tree.node? place ∨
        Change path artifact tree after place)
      (told : textAt after path = .ok artifact.text) : Updates path artifact tree (.ok true) after
  | failed {failure : Failure} {after : FileTree} (outdated : ¬ Shows tree path artifact.digest)
      (way : FileTree.MakesWay path tree after) : Updates path artifact tree (.error failure) after

/-- What a run does with its two files and how it ends. The source is not looked at before the
header is fresh or written. -/
inductive Writes (base : List Char) (files : ModuleFiles) (told : Bool) (tree : FileTree) :
    Ending → FileTree → Prop where
  | headerFailed {failure : Failure} {after : FileTree}
      (header : Updates (outputPath base 'h') files.header tree (.error failure) after) :
      Writes base files told tree (failed "" failure) after
  | sourceFailed {one : Bool} {mid after : FileTree} {failure : Failure}
      (header : Updates (outputPath base 'h') files.header tree (.ok one) mid)
      (source : Updates (outputPath base 'c') files.source mid (.error failure) after) :
      Writes base files told tree (failed "" failure) after
  | done {one other : Bool} {mid after : FileTree}
      (header : Updates (outputPath base 'h') files.header tree (.ok one) mid)
      (source : Updates (outputPath base 'c') files.source mid (.ok other) after) :
      Writes base files told tree
        ⟨0, if told then
            report ⟨outputPath base 'h', files.header, one⟩
              ⟨outputPath base 'c', files.source, other⟩
          else "", ""⟩ after

section Update

variable {tree mid after : FileTree} {base : List Char} {extension : Char} {artifact : Artifact}
  {path : String}

theorem makesWay_of_prepareDirectory (letter : extension ≠ '/' ∧ extension ≠ '.')
    {result : Except Failure Unit}
    (prepared : (prepareDirectory (outputPath base extension) : StateM FileTree _).run tree =
      (result, after)) :
    FileTree.MakesWay (outputPath base extension) tree after := by
  rw [prepareDirectory, outputPath, String.toList_ofList] at prepared
  split at prepared
  · obtain rfl : tree = after := congrArg Prod.snd prepared
    exact .refl _ tree
  · rename_i other
    have apart : OutputPath.directory (OutputPath.withExtension base extension) ≠ [] := by
      intro none
      rw [none] at other
      exact other rfl
    have made := OutputPath.makesWay_makeDirectories tree base letter apart
    have start : ∀ directory, (MonadFiles.makeDirectories directory : StateM FileTree _).run tree =
        ((tree.makeDirectories directory).2, (tree.makeDirectories directory).1) := fun _ => rfl
    rw [run_bind_eq (start _)] at prepared
    generalize tree.makeDirectories (String.ofList _) = step at made prepared
    obtain ⟨later, result⟩ := step
    obtain rfl : later = after := by
      cases result <;> exact congrArg Prod.snd prepared
    exact made

theorem store_places (letter : extension ≠ '/' ∧ extension ≠ '.') {result : Except Failure Unit}
    (stored : (store (outputPath base extension) artifact : StateM FileTree _).run tree =
      (result, after)) :
    ∃ made, FileTree.MakesWay (outputPath base extension) tree made ∧
      match result with
      | .ok _ => made.write (outputPath base extension) artifact.text.toUTF8 = .ok after
      | .error _ => after = made := by
  obtain ⟨prior, made, prepared, -⟩ := prepareDirectory_run tree (outputPath base extension)
  refine ⟨made, makesWay_of_prepareDirectory letter prepared, ?_⟩
  rw [store, run_bind_eq prepared] at stored
  cases prior with
  | error failure =>
    obtain ⟨rfl, rfl⟩ := Prod.mk.inj stored
    rfl
  | ok _ =>
    dsimp only at stored
    have start := write_run (outputPath base extension) artifact.text.toUTF8 made
    cases put : made.write (outputPath base extension) artifact.text.toUTF8 with
    | error cause =>
      rw [put] at start
      rw [run_bind_eq start] at stored
      obtain ⟨rfl, rfl⟩ := Prod.mk.inj stored
      rfl
    | ok later =>
      rw [put] at start
      rw [run_bind_eq start] at stored
      obtain ⟨rfl, rfl⟩ := Prod.mk.inj stored
      rfl

theorem updates_of_write (outdated : Outdated tree path artifact.digest)
    (way : FileTree.MakesWay path tree mid)
    (put : mid.write path artifact.text.toUTF8 = .ok after) :
    Updates path artifact tree (.ok true) after := by
  obtain ⟨rewrites, read⟩ := FileTree.rewrites_of_write put
  obtain ⟨place, led, other, rfl⟩ := FileTree.write_eq_ok put
  have free := FileTree.not_isPrefixOf_home other
  have leads := rewrites.toGrows.locate led
  refine .written outdated way.home (fun spot => ?_)
    (textAt_eq_ok_iff.mpr ⟨_, read, fromUTF8?_toUTF8 artifact.text⟩)
  by_cases same : spot = place
  · subst same
    refine .inr (.file outdated ?_ leads (FileTree.node?_put_self free _))
    intro there
    exact other (way.keeps.nodes spot _ there)
  · rw [FileTree.node?_put_other same]
    rcases way.places spot with old | ⟨vacant, made, above⟩
    · exact .inl old
    · refine .inr (.directory vacant ?_ (above.of_grows rewrites.toGrows))
      rw [FileTree.node?_put_other same, made]

/-- Every update ends in one of the three ways. -/
theorem update_updates (letter : extension ≠ '/' ∧ extension ≠ '.') (tree : FileTree)
    (base : List Char) (artifact : Artifact) :
    ∃ result after, Updates (outputPath base extension) artifact tree result after ∧
      (update false (outputPath base extension) artifact : StateM FileTree _).run tree =
        (result.map (⟨outputPath base extension, artifact, ·⟩), after) := by
  by_cases current : Shows tree (outputPath base extension) artifact.digest
  · exact ⟨.ok false, tree, .fresh current, update_of_shows current false⟩
  · rcases update_of_not_shows current false with ⟨failure, unread⟩ | ⟨outdated, replaced⟩
    · exact ⟨.error failure, tree, .failed current (.refl _ tree), unread⟩
    · rw [replaced, if_neg Bool.false_ne_true]
      rcases stored : (store (outputPath base extension) artifact : StateM FileTree _).run tree
        with ⟨result, after⟩
      rw [run_bind_eq stored]
      obtain ⟨made, way, ends⟩ := store_places letter stored
      cases result with
      | ok _ => exact ⟨.ok true, after, updates_of_write outdated way ends, rfl⟩
      | error failure =>
        obtain rfl := ends
        exact ⟨.error failure, after, .failed current way, rfl⟩

end Update

section Pair

variable {base : List Char} {files : ModuleFiles} {told : Bool} {tree mid after : FileTree}
  {path : String} {artifact : Artifact} {ending : Ending}

theorem Updates.places {result : Except Failure Bool}
    (updates : Updates path artifact tree result after) (place : Place) :
    after.node? place = tree.node? place ∨ Change path artifact tree after place := by
  cases updates with
  | fresh _ => exact .inl rfl
  | written _ _ places _ => exact places place
  | failed _ way =>
    rcases way.places place with old | ⟨vacant, made, above⟩
    · exact .inl old
    · exact .inr (.directory vacant made above)

theorem Updates.keepsKinds {result : Except Failure Bool}
    (updates : Updates path artifact tree result after) : tree.KeepsKinds after := by
  have home : after.home = tree.home := by
    cases updates with
    | fresh _ => rfl
    | written _ home _ _ => exact home
    | failed _ way => exact way.home
  refine ⟨⟨home, fun place there => ?_⟩, fun place bytes there => ?_⟩
  · rcases updates.places place with old | change
    · rw [old, there]
    · cases change with
      | directory _ made _ => exact made
      | file _ replaced _ _ => exact absurd there replaced
  · rcases updates.places place with old | change
    · exact ⟨bytes, old.trans there⟩
    · cases change with
      | directory vacant _ _ =>
        rw [vacant] at there
        cases there
      | file _ _ _ held => exact ⟨_, held⟩

theorem Outdated.before {other digest : String} {result : Except Failure Bool}
    (outdated : Outdated after other digest) (updates : Updates path artifact tree result after)
    (apart : ¬ after.SameFile other path) : Outdated tree other digest := by
  have kinds := updates.keepsKinds
  cases found : tree.locate other with
  | error cause =>
    have unread : ∀ tree' : FileTree, tree'.locate other = .error cause →
        textAt tree' other = .error (.file cause) := by
      intro tree' lost
      rw [textAt, FileTree.read, lost]
      rfl
    by_cases missing : cause = .notFound
    · exact .inl (by rw [unread tree found, missing])
    · -- What stood in the way before stands there still, so the file could not be read at all.
      have still := unread after (kinds.locate_error missing found)
      rcases outdated with none | ⟨text, read, -⟩
      · rw [still] at none
        exact absurd (TextError.file.inj (Except.error.inj none)) missing
      · rw [still] at read
        cases read
  | ok place =>
    have leads := kinds.toGrows.locate found
    rcases updates.places place with old | change
    · have same : textAt after other = textAt tree other := by
        rw [textAt, textAt, FileTree.read_congr leads found old]
      rw [Outdated, same] at outdated
      exact outdated
    · cases change with
      | directory vacant _ _ => exact .inl (by rw [textAt, FileTree.read_of_vacant found vacant])
      | file _ _ led _ => exact absurd ⟨place, leads, led⟩ apart

theorem Change.of_grows {place : Place} (change : Change path artifact tree mid place)
    (grows : mid.Grows after) (same : after.node? place = mid.node? place) :
    Change path artifact tree after place := by
  cases change with
  | directory vacant made above =>
    exact .directory vacant (same.trans made) (above.of_grows grows)
  | file outdated replaced led held =>
    exact .file outdated replaced (grows.locate led) (same.trans held)

theorem changes_of_updates {first second : Except Failure Bool}
    (header : Updates (outputPath base 'h') files.header tree first mid)
    (source : Updates (outputPath base 'c') files.source mid second after) (place : Place) :
    after.node? place = tree.node? place ∨
      Change (outputPath base 'h') files.header tree after place ∨
      Change (outputPath base 'c') files.source tree after place := by
  have grows := source.keepsKinds.toGrows
  rcases source.places place with later | change
  · rcases header.places place with old | change
    · exact .inl (later.trans old)
    · exact .inr (.inl (change.of_grows grows later))
  · refine .inr (.inr ?_)
    cases change with
    | directory vacant made above =>
      refine .directory ?_ made above
      rcases header.places place with old | change
      · exact old.symm.trans vacant
      · cases change with
        | directory _ made _ => rw [vacant] at made; cases made
        | file _ _ _ held => rw [vacant] at held; cases held
    | file outdated replaced led held =>
      have apart : ¬ mid.SameFile (outputPath base 'c') (outputPath base 'h') :=
        OutputPath.not_sameFile_withExtension mid base (by simp) (by decide)
      refine .file (outdated.before header apart) ?_ led held
      intro there
      exact replaced (header.keepsKinds.directories place there)

/-- Whatever way the two updates end, every place is as it was, a new directory on the way to one of
the files, or the place of one that was out of date and is replaced. -/
theorem Writes.places (writes : Writes base files told tree ending after) (place : Place) :
    after.node? place = tree.node? place ∨
      Change (outputPath base 'h') files.header tree after place ∨
      Change (outputPath base 'c') files.source tree after place := by
  cases writes with
  | headerFailed header =>
    rcases header.places place with old | change
    · exact .inl old
    · exact .inr (.inl change)
  | sourceFailed header source => exact changes_of_updates header source place
  | done header source => exact changes_of_updates header source place

theorem Writes.home (writes : Writes base files told tree ending after) :
    after.home = tree.home := by
  cases writes with
  | headerFailed header => exact header.keepsKinds.home
  | sourceFailed header source =>
    exact (header.keepsKinds.toGrows.trans source.keepsKinds.toGrows).home
  | done header source =>
    exact (header.keepsKinds.toGrows.trans source.keepsKinds.toGrows).home

end Pair

section Run

variable {services : Services} {args : Arguments} {tree : FileTree}

theorem runOn_writes (toFiles : args.stdout = false) (writing : args.check = false)
    {text name : String} {base : List Char} {files : ModuleFiles}
    (read : textAt tree args.input = .ok text) (named : outputBase args.output = .ok (base, name))
    (converted : convert services args name text = .ok files) :
    Writes base files args.reportJson tree (runOn services args tree).1
      (runOn services args tree).2 := by
  obtain ⟨first, mid, header, headerRun⟩ :=
    update_updates (show 'h' ≠ '/' ∧ 'h' ≠ '.' by decide) tree base files.header
  obtain ⟨second, after, source, sourceRun⟩ :=
    update_updates (show 'c' ≠ '/' ∧ 'c' ≠ '.' by decide) mid base files.source
  cases first with
  | error failure =>
    have ran : (updateBoth args base files : StateM FileTree _).run tree =
        (.error failure, mid) := by
      rw [updateBoth, writing, run_bind_eq headerRun]
      rfl
    rw [runOn_of_converted toFiles read named converted ran]
    exact .headerFailed header
  | ok one =>
    have ran : (updateBoth args base files : StateM FileTree _).run tree =
        (second.map fun other => (⟨outputPath base 'h', files.header, one⟩,
          ⟨outputPath base 'c', files.source, other⟩), after) := by
      rw [updateBoth, writing, run_bind_eq headerRun]
      dsimp only [Except.map]
      rw [run_bind_eq sourceRun]
      cases second <;> rfl
    rw [runOn_of_converted toFiles read named converted ran]
    cases second with
    | error failure => exact .sourceFailed header source
    | ok other => exact .done header source

theorem runOn_of_no_files
    (none : ∀ text base name, textAt tree args.input = .ok text →
      outputBase args.output = .ok (base, name) →
      ∃ fault, convert services args name text = .error fault) :
    (runOn services args tree).1.code = 1 ∧ (runOn services args tree).2 = tree := by
  rw [runOn, run, run_bind_eq (readText_run args.input tree)]
  cases read : textAt tree args.input with
  | error cause => exact ⟨rfl, rfl⟩
  | ok text =>
    dsimp only
    cases named : outputBase args.output with
    | error failure => exact ⟨rfl, rfl⟩
    | ok place =>
      obtain ⟨base, name⟩ := place
      obtain ⟨fault, refused⟩ := none text base name read named
      dsimp only
      rw [refused]
      exact ⟨rfl, rfl⟩

theorem runOn_of_looking (looking : args.check = true ∨ args.stdout = true) :
    (runOn services args tree).2 = tree := by
  by_cases converts : ∃ text base name files, textAt tree args.input = .ok text ∧
      outputBase args.output = .ok (base, name) ∧ convert services args name text = .ok files
  · obtain ⟨text, base, name, files, read, named, converted⟩ := converts
    by_cases toFiles : args.stdout = false
    · have check : args.check = true := by simpa [toFiles] using looking
      by_cases current : UpToDate tree base files
      · rw [runOn_of_upToDate toFiles read named converted current]
      · obtain ⟨failure, refused⟩ := updateBoth_of_not_upToDate check current
        rw [runOn_of_converted toFiles read named converted refused]
    · rw [runOn, run, run_bind_eq (readText_run args.input tree), read]
      dsimp only
      rw [named]
      dsimp only
      rw [converted]
      dsimp only
      rw [if_pos (by simpa using toFiles)]
      rfl
  · refine (runOn_of_no_files fun text base name read named => ?_).2
    cases converted : convert services args name text with
    | error fault => exact ⟨fault, rfl⟩
    | ok files => exact absurd ⟨text, base, name, files, read, named, converted⟩ converts

end Run

/-- What a command line ends with on a tree of files, and the tree that it leaves. -/
def runLineOn (services : Services) (line : List String) (tree : FileTree) : Ending × FileTree :=
  (runLine (m := StateM FileTree) services line).run tree

/-- The write frame of a command line that asks for a run. A check, a run that prints the files, and
one that cannot read its input, has no name for its output or cannot convert the input, leaves the
tree as it is. Any other updates the header and then the source, and every place in the tree is as
it was, a new directory on the way to one of them, or the place of one of them that was out of date
and now holds its text. -/
theorem command_line_write_frame (services : Services) (line : List String) (args : Arguments)
    (accepted : Request.ofArguments line = .run args) (tree : FileTree) {ending : Ending}
    {after : FileTree} (ran : runLineOn services line tree = (ending, after)) :
    (args.check = true ∨ args.stdout = true → after = tree) ∧
    ((∃ cause, textAt tree args.input = .error cause) ∨
        (∃ failure, outputBase args.output = .error failure) →
      ending.code = 1 ∧ after = tree) ∧
    ∀ text base name, textAt tree args.input = .ok text →
      outputBase args.output = .ok (base, name) →
      let settings : Settings := ⟨args.naming, some name, services⟩
      (∀ s fault, (Session.fresh settings).processText settings text = ⟨s, some fault⟩ →
        ending.code = 1 ∧ after = tree) ∧
      ∀ s, (Session.fresh settings).processText settings text = .done s →
        args.check = false → args.stdout = false →
        Writes base (s.render settings) args.reportJson tree ending after ∧
        after.home = tree.home ∧
        ∀ place, after.node? place = tree.node? place ∨
          Change (outputPath base 'h') (s.render settings).header tree after place ∨
          Change (outputPath base 'c') (s.render settings).source tree after place := by
  have run : runOn services args tree = (ending, after) := by
    rw [runLineOn, runLine, accepted] at ran
    exact ran
  obtain ⟨rfl, rfl⟩ := Prod.mk.inj run
  refine ⟨runOn_of_looking, fun early => ?_, fun text base name read named => ⟨?_, ?_⟩⟩
  · apply runOn_of_no_files
    intro text base name read named
    rcases early with ⟨cause, unread⟩ | ⟨failure, unnamed⟩
    · rw [read] at unread
      cases unread
    · rw [named] at unnamed
      cases unnamed
  · intro s fault refused
    apply runOn_of_no_files
    intro text' base' name' read' named'
    obtain rfl := Except.ok.inj (read.symm.trans read')
    obtain ⟨rfl, rfl⟩ := Prod.mk.inj (Except.ok.inj (named.symm.trans named'))
    exact ⟨fault, by rw [convert, refused]⟩
  · intro s done writing toFiles
    have writes := runOn_writes toFiles writing read named (convert_eq_ok_iff.mpr ⟨s, done, rfl⟩)
    exact ⟨writes, writes.home, writes.places⟩

private def levelSchema : String := "\x7b\"int8:Level\": 1\x7d"

/-- A schema beside nothing: the directory of the output is still to be made. -/
private def bareTree : FileTree := ⟨["home"], [(["home", "in.json"], .file levelSchema.toUTF8)]⟩

private def freshLine : List String := ["--report-json", "in.json", "gen/Info.c"]

private def freshArgs : Arguments := ⟨"in.json", "gen/Info.c", .pascal, false, false, true⟩

private def freshSettings : Settings := ⟨.pascal, some "Info", .steady "v1" 1700000000⟩

theorem command_line_write_frame_missing_directory :
    ∃ ending after s, Request.ofArguments freshLine = .run freshArgs ∧
      runLineOn freshSettings.services freshLine bareTree = (ending, after) ∧
      (Session.fresh freshSettings).processText freshSettings levelSchema = .done s ∧
      Writes "gen/Info".toList (s.render freshSettings) true bareTree ending after ∧
      ∀ place, after.node? place = bareTree.node? place ∨
        Change "gen/Info.h" (s.render freshSettings).header bareTree after place ∨
        Change "gen/Info.c" (s.render freshSettings).source bareTree after place := by
  have accepted : Request.ofArguments freshLine = .run freshArgs := by decide +kernel
  have converted :
      ((Session.fresh freshSettings).processText freshSettings levelSchema).fault = none := by
    decide +kernel
  rcases ran : runLineOn freshSettings.services freshLine bareTree with ⟨ending, after⟩
  rcases done : (Session.fresh freshSettings).processText freshSettings levelSchema with ⟨s, fault⟩
  rw [done] at converted
  obtain rfl : fault = none := converted
  have read : textAt bareTree freshArgs.input = .ok levelSchema :=
    textAt_eq_ok_iff.mpr ⟨_, rfl, fromUTF8?_toUTF8 levelSchema⟩
  have named : outputBase freshArgs.output = .ok ("gen/Info".toList, "Info") := rfl
  obtain ⟨-, -, frame⟩ := command_line_write_frame freshSettings.services freshLine freshArgs
    accepted bareTree ran
  obtain ⟨writes, -, places⟩ := (frame levelSchema _ _ read named).2 s done rfl rfl
  exact ⟨ending, after, s, accepted, rfl, rfl, writes, places⟩

end AccessorGen.Command
