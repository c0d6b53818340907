/- The header that a source includes.
   The source quotes the base name in lower case, and the header is written under the output path as
   it is given. The two names agree for a path that ends with its name, in lower case, and for no
   other. -/

import AccessorGen.Proofs.Command.WriteFrame
import AccessorGen.Proofs.Module.DirectivePosition
import AccessorGen.Proofs.Text.LetterCase

set_option autoImplicit false
set_option relaxedAutoImplicit false

namespace AccessorGen

def quotedIn (line : List Char) : List Char :=
  (line.dropWhile (· != '"')).tail.takeWhile (· != '"')

/-- The name between the quotes of the first line that includes a file. -/
def firstInclude? (cs : List Char) : Option (List Char) :=
  ((Text.splitOn '\n' cs).find? fun line => "#include".toList.isPrefixOf line).map quotedIn

/-- A name as far as it can stand between quotes in a line. -/
def quotable (file : String) : List Char :=
  file.toList.takeWhile fun c => c != '"' && c != '\n'

theorem quotable_eq_self {file : String} (marks : '"' ∉ file.toList) (lines : '\n' ∉ file.toList) :
    quotable file = file.toList := by
  rw [quotable, List.takeWhile_eq_self_iff]
  intro c member
  have mark : c ≠ '"' := by
    rintro rfl
    exact marks member
  have line : c ≠ '\n' := by
    rintro rfl
    exact lines member
  simp [mark, line]

theorem firstInclude?_eq (cs : List Char) :
    firstInclude? cs = ((Text.filledLines cs).find?
      fun line => "#include".toList.isPrefixOf line).map quotedIn := by
  have filled : ∀ line : List Char, "#include".toList.isPrefixOf line =
      decide ((!line.isEmpty) = true ∧ "#include".toList.isPrefixOf line = true) := by
    intro line
    cases line with
    | nil => rfl
    | cons c cs => simp only [List.isEmpty_cons, Bool.not_false, true_and, Bool.decide_eq_true]
  rw [firstInclude?, Text.filledLines, List.find?_filter]
  simp only [← filled]

theorem mark_not_mem_hexDigest (text : String) :
    '#' ∉ (Digest.Sha256.hexDigest text).toList := by
  have digits : ∀ base width n, '#' ∉ Text.fixedDigits base width n := by
    intro base width
    induction width with
    | zero => exact fun _ => List.not_mem_nil
    | succ width ih =>
      intro n member
      rw [Text.fixedDigits] at member
      rcases List.mem_append.mp member with early | last
      · exact ih _ early
      · exact Nat.digitChar_ne '#' (by decide) (List.mem_singleton.mp last).symm
  rw [Digest.Sha256.hexDigest, String.toList_ofList, Digest.Sha256.State.toHex]
  intro member
  obtain ⟨word, -, inside⟩ := List.mem_flatMap.mp member
  exact digits 16 8 _ inside

theorem Artifact.find?_banner {digest : String} (unmarked : '#' ∉ digest.toList) :
    EndsLine (banner digest) ∧
      (Text.filledLines (banner digest).toList).find?
        (fun line => "#include".toList.isPrefixOf line) = none := by
  have frame : '#' ∉ rule.toList := by
    have stars : rule.toList = List.replicate 77 '*' := String.toList_ofList
    rw [stars]
    intro member
    cases List.eq_of_mem_replicate member
  have plain : '#' ∉ (banner digest).toList := by
    unfold banner
    simp [frame, unmarked]
  have ended : EndsLine (banner digest) := by
    unfold banner
    exact endsLine_of_append _ ⟨"*/\n", by decide⟩
  refine ⟨ended, ?_⟩
  rw [List.find?_eq_none]
  intro line member includes
  obtain ⟨rest, shape⟩ := List.isPrefixOf_iff_prefix.mp includes
  have inside : '#' ∈ line := by
    rw [← shape]
    exact List.mem_append_left rest (List.mem_of_elem_eq_true rfl)
  exact plain (Text.mem_of_mem_filledLines member inside)

namespace Session

theorem filledLines_source (s : Session) (settings : Settings) :
    ∃ others, Text.filledLines (s.sourceBody settings).toList =
      ("#include \"".toList ++
        ((s.headerFile settings).toList ++ ['"']).takeWhile (· != '\n')) :: others := by
  obtain ⟨rest, code⟩ : ∃ rest, s.sourceCode.resolve (s.resolution settings) =
      "#include \"" ++ (s.headerFile settings ++ ("\"\n" ++ rest)) := by
    refine ⟨String.join (s.sourceIncludes.map includeLine) ++ "\n" ++
      (Pages.ofFragments (s.resolution settings) s.fragments).storage ++
      (Pages.ofFragments (s.resolution settings) s.fragments).functions, ?_⟩
    rw [resolve_sourceCode]
    simp only [String.append_assoc]
    rfl
  have start : (s.sourceCode.resolve (s.resolution settings)).toList.takeWhile (· != '\n') =
      "#include \"".toList ++
        ((s.headerFile settings).toList ++ ['"']).takeWhile (· != '\n') := by
    have opening : ∀ c ∈ "#include \"".toList, (c != '\n') = true := List.all_eq_true.mp rfl
    have ending : ("\"\n" ++ rest).toList = ['"'] ++ '\n' :: rest.toList := by simp
    rw [code, String.toList_append, String.toList_append, ending,
      List.takeWhile_append_of_pos opening, ← List.append_assoc,
      Text.takeWhile_append_stop (by decide)]
  have first := @Text.head?_filledLines (s.sourceCode.resolve (s.resolution settings)).toList
    (by simp [start])
  obtain ⟨others, lines⟩ := List.head?_eq_some_iff.mp first
  refine ⟨others, ?_⟩
  rw [sourceBody, finish, Text.collapseBlankLines, String.toList_ofList,
    Text.filledLines_collapseChars, lines, start]

/-- A source includes the header file that its session names, before any other file. -/
theorem firstInclude?_source (s : Session) (settings : Settings) :
    firstInclude? (s.render settings).source.text.toList =
      some (quotable (s.headerFile settings)) := by
  obtain ⟨ended, nowhere⟩ := Artifact.find?_banner (mark_not_mem_hexDigest (s.sourceBody settings))
  obtain ⟨others, body⟩ := s.filledLines_source settings
  have text : (s.render settings).source.text =
      Artifact.banner (Digest.Sha256.hexDigest (s.sourceBody settings)) ++ s.sourceBody settings :=
    rfl
  have quoted : quotedIn ("#include \"".toList ++
      ((s.headerFile settings).toList ++ ['"']).takeWhile (· != '\n')) =
        quotable (s.headerFile settings) := by
    have inner : ∀ cs, quotedIn ("#include \"".toList ++ cs) = cs.takeWhile (· != '"') :=
      fun _ => rfl
    rw [inner, List.takeWhile_takeWhile, quotable, Text.takeWhile_append_stop (by decide)]
    simp only [Bool.decide_and, Bool.decide_eq_true]
  rw [firstInclude?_eq, text, ended.filledLines_append, List.find?_append, nowhere, body,
    Option.none_or, List.find?_cons_of_pos (by rfl), Option.map_some, quoted]

theorem fileBase_of_processText {settings : Settings} {text name : String}
    {documents : List Document} {s : Session} (given : settings.baseName = some name)
    (parsed : Document.readAll text = .ok documents)
    (unnamed : ∀ document ∈ documents, ∀ entry ∈ document, entry.directive? ≠ some .moduleName)
    (done : (fresh settings).processText settings text = .done s) : s.fileBase = name := by
  have completed : performAll settings [⟨settings.services, .text text⟩] (fresh settings) =
      .done s := by
    rw [performAll, Outcome.andThen_eq_done_iff]
    exact ⟨s, done, rfl⟩
  obtain ⟨served, meanings, handed, read, rfl, -⟩ := performAll_fresh_eq_done completed
  obtain rfl : documents.map (ServedDocument.mk settings.services) = served := by
    simpa [ServedCall.documentsAfter?, Call.documents?, parsed, Except.toOption] using handed
  have none : Meaning.last? Meaning.baseName? meanings.flatten = none := by
    rw [Meaning.last?, List.getLast?_eq_none_iff, List.filterMap_eq_nil_iff]
    intro meaning member
    obtain ⟨own, listed, inside⟩ := List.mem_flatten.mp member
    obtain ⟨one, among, meant⟩ := exists_of_mem_mapM read listed
    obtain ⟨document, held, rfl⟩ := List.mem_map.mp among
    obtain ⟨entry, written, asks⟩ := exists_of_mem_mapM meant inside
    have set := Entry.setBy?_of_meaning asks
    cases meaning with
    | baseName other =>
      have directive := (Option.filter_eq_some_iff.mp set.symm).1
      exact absurd directive (unnamed document held entry written)
    | _ => rfl
  rw [fileBase, ofMeanings]
  simp only [none, given, Option.none_or]

end Session

namespace Command

open Files

/-- A base name and the last part of its path spell one header file exactly if the path ends with
the name and the name is in lower case. -/
theorem quotable_headerFile_iff {base : List Char} {named : OutputPath.Named}
    (found : OutputPath.named? base = some named) (marks : '"' ∉ named.name)
    (lines : '\n' ∉ named.name) :
    quotable (lowerName (String.ofList named.name) ++ ".h") =
        OutputPath.lastPart base ++ ['.', 'h'] ↔
      OutputPath.lastPart base = named.name ∧ Text.lower named.name = named.name := by
  have plain : ∀ c, Text.BeforeLetters c → c ∉ named.name →
      c ∉ (lowerName (String.ofList named.name)).toList := by
    intro c low outside member
    rw [lowerName, String.toList_ofList, String.toList_ofList] at member
    exact outside (Text.mem_of_mem_lower member low)
  have spelled : quotable (lowerName (String.ofList named.name) ++ ".h") =
      Text.lower named.name ++ ['.', 'h'] := by
    rw [quotable_eq_self]
    · simp [lowerName]
    · simp [plain '"' (by decide) marks]
    · simp [plain '\n' (by decide) lines]
  rw [spelled, List.append_left_inj]
  obtain ⟨busy, own | idle⟩ := OutputPath.name_of_named? found
  · rw [← own]
    simp
  · -- A part that leads nowhere is no name in lower case, and no name at all.
    have other : OutputPath.lastPart base ≠ named.name := by
      intro same
      rw [same, busy] at idle
      cases idle
    have longer := Text.length_le_lower named.name
    refine ⟨fun same => absurd same ?_, fun both => absurd both.1 other⟩
    rw [OutputPath.isIdle, Bool.or_eq_true, beq_iff_eq, beq_iff_eq] at idle
    intro same
    rw [same] at longer
    rcases idle with vacant | dot
    · rw [vacant] at longer other
      exact other (List.length_eq_zero_iff.mp (Nat.le_zero.mp longer)).symm
    · have inside : '.' ∈ Text.lower named.name := by
        rw [same, dot]
        exact List.mem_singleton_self '.'
      have member := Text.mem_of_mem_lower inside (by decide)
      rw [dot] at longer other
      cases name : named.name with
      | nil =>
        rw [name] at member
        cases member
      | cons c rest =>
        rw [name] at member longer other
        obtain rfl : rest = [] := by simpa using longer
        exact other (List.mem_singleton.mp member ▸ rfl)

theorem Updates.exists_place {path : String} {artifact : Artifact} {tree after : FileTree}
    {written : Bool} (updates : Updates path artifact tree (.ok written) after) :
    ∃ place, after.locate path = .ok place := by
  have found : ∃ text, textAt after path = .ok text := by
    cases updates with
    | fresh current =>
      obtain ⟨text, read, -⟩ := shows_iff_textAt.mp current
      exact ⟨text, read⟩
    | written _ _ _ told => exact ⟨artifact.text, told⟩
  obtain ⟨text, read⟩ := found
  obtain ⟨bytes, held, -⟩ := textAt_eq_ok_iff.mp read
  obtain ⟨place, led, -⟩ := FileTree.read_eq_ok_iff.mp held
  exact ⟨place, led⟩

/-- What the source of a successful run includes, when the input names no module. The header lies at
a place that is named by the last part of the output path. A source that is written quotes the base
name in lower case, whatever the path; the two are the same name exactly if the path ends with its
name and the name is in lower case. -/
theorem source_includes_lowered_name (services : Services) (args : Arguments)
    (toFiles : args.stdout = false) (writing : args.check = false) (tree : FileTree)
    {text : String} {documents : List Document} (read : textAt tree args.input = .ok text)
    (parsed : Document.readAll text = .ok documents)
    (unnamed : ∀ document ∈ documents, ∀ entry ∈ document, entry.directive? ≠ some .moduleName)
    {ending : Ending} {after : FileTree} (ran : runOn services args tree = (ending, after))
    (success : ending.code = 0) :
    ∃ (base : List Char) (name : String) (files : ModuleFiles) (one other : Bool) (mid : FileTree)
        (place : Place),
      outputBase args.output = .ok (base, name) ∧
      Updates (outputPath base 'h') files.header tree (.ok one) mid ∧
      Updates (outputPath base 'c') files.source mid (.ok other) after ∧
      after.locate (outputPath base 'h') = .ok place ∧
      place.getLast? = some (String.ofList (OutputPath.lastPart base ++ ['.', 'h'])) ∧
      (other = true → ∃ written, textAt after (outputPath base 'c') = .ok written ∧
        firstInclude? written.toList = some (quotable (lowerName name ++ ".h"))) ∧
      ('"' ∉ name.toList → '\n' ∉ name.toList →
        (quotable (lowerName name ++ ".h") = OutputPath.lastPart base ++ ['.', 'h'] ↔
          OutputPath.lastPart base = name.toList ∧ lowerName name = name)) := by
  obtain ⟨again, base, name, files, -, reread, named, converted, -⟩ :=
    runOn_done toFiles (by rw [ran]; exact success)
  obtain rfl := Except.ok.inj (read.symm.trans reread)
  have writes := runOn_writes toFiles writing read named converted
  rw [ran] at writes
  obtain ⟨s, done, rfl⟩ := convert_eq_ok_iff.mp converted
  have spelled : s.headerFile ⟨args.naming, some name, services⟩ = lowerName name ++ ".h" := by
    rw [Session.headerFile, Session.fileBase_of_processText rfl parsed unnamed done]
    rfl
  cases writes with
  | headerFailed _ => cases success
  | sourceFailed _ _ => cases success
  | done header source =>
    rename_i one other mid
    obtain ⟨place, led⟩ := header.exists_place
    have leads := source.keepsKinds.toGrows.locate led
    refine ⟨base, name, _, one, other, mid, place, named, header, source, leads,
      OutputPath.getLast?_of_locate (by decide) leads, fun new => ?_, fun marks lines => ?_⟩
    · subst new
      cases source with
      | written _ _ _ told =>
        refine ⟨_, told, ?_⟩
        rw [s.firstInclude?_source, spelled]
    · rw [outputBase] at named
      cases found : OutputPath.named? (OutputPath.base args.output.toList) with
      | none =>
        rw [found] at named
        cases named
      | some part =>
        rw [found] at named
        obtain ⟨rfl, rfl⟩ := Prod.mk.inj (Except.ok.inj named)
        rw [String.toList_ofList] at marks lines
        rw [quotable_headerFile_iff found marks lines, String.toList_ofList, lowerName,
          String.toList_ofList, String.ofList_inj]

private def plainSchema : String := "\x7b\"int8:Var\": 0\x7d"

private def plainTree : FileTree := ⟨["home"], [(["home", "in.json"], .file plainSchema.toUTF8)]⟩

private def capitalRun : Arguments := ⟨"in.json", "Info", .pascal, false, false, false⟩

private def stillServices : Services := .steady "v1" 1700000000

private theorem plainSchema_unnamed :
    ∃ documents, Document.readAll plainSchema = .ok documents ∧
      ∀ document ∈ documents, ∀ entry ∈ document, entry.directive? ≠ some .moduleName := by
  have checked : (Document.readAll plainSchema).toOption.map (fun documents =>
      documents.all fun document => document.all fun entry =>
        entry.directive? != some .moduleName) = some true := by
    decide +kernel
  cases parsed : Document.readAll plainSchema with
  | error fault =>
    rw [parsed] at checked
    cases checked
  | ok documents =>
    rw [parsed] at checked
    refine ⟨documents, rfl, fun document member entry inside => ?_⟩
    have all := Option.some.inj checked
    exact bne_iff_ne.mp (List.all_eq_true.mp (List.all_eq_true.mp all document member) entry inside)

private def capitalTree (files : ModuleFiles) : FileTree :=
  ⟨["home"], [(["home", "in.json"], .file plainSchema.toUTF8),
    (["home", "Info.h"], .file files.header.text.toUTF8),
    (["home", "Info.c"], .file files.source.text.toUTF8)]⟩

-- Whatever the two texts are, they are written where nothing was.
private theorem updateBoth_capitalRun (files : ModuleFiles) :
    (updateBoth capitalRun "Info".toList files : StateM FileTree _).run plainTree =
      (.ok (⟨"Info.h", files.header, true⟩, ⟨"Info.c", files.source, true⟩),
        capitalTree files) := by
  rfl

private theorem runOn_capitalRun :
    ∃ s, (Session.fresh ⟨.pascal, some "Info", stillServices⟩).processText
        ⟨.pascal, some "Info", stillServices⟩ plainSchema = .done s ∧
      runOn stillServices capitalRun plainTree =
        (⟨0, "", ""⟩, capitalTree (s.render ⟨.pascal, some "Info", stillServices⟩)) := by
  have accepted : ((Session.fresh ⟨.pascal, some "Info", stillServices⟩).processText
      ⟨.pascal, some "Info", stillServices⟩ plainSchema).fault.isNone = true := by
    decide +kernel
  have done := Outcome.eq_done accepted
  have converted : convert stillServices capitalRun "Info" plainSchema = .ok _ :=
    convert_eq_ok_iff.mpr ⟨_, done, rfl⟩
  have read : textAt plainTree capitalRun.input = .ok plainSchema :=
    textAt_eq_ok_iff.mpr ⟨_, rfl, fromUTF8?_toUTF8 plainSchema⟩
  have named : outputBase capitalRun.output = .ok ("Info".toList, "Info") := rfl
  exact ⟨_, done, runOn_of_converted rfl read named converted (updateBoth_capitalRun _)⟩

/-- With the output path `Info` both files are written, the input names no module, and the source
includes a file that is not there. -/
theorem source_includes_missing_header :
    ∃ documents after source, Document.readAll plainSchema = .ok documents ∧
      (∀ document ∈ documents, ∀ entry ∈ document, entry.directive? ≠ some .moduleName) ∧
      textAt plainTree "Info.h" = .error (.file .notFound) ∧
      textAt plainTree "Info.c" = .error (.file .notFound) ∧
      runOn stillServices capitalRun plainTree = (⟨0, "", ""⟩, after) ∧
      after.locate "Info.h" = .ok ["home", "Info.h"] ∧
      (after.node? ["home", "Info.h"]).isSome = true ∧
      textAt after "Info.c" = .ok source ∧
      firstInclude? source.toList = some "info.h".toList ∧ "info.h" ≠ "Info.h" ∧
      textAt after "info.h" = .error (.file .notFound) := by
  obtain ⟨documents, parsed, unnamed⟩ := plainSchema_unnamed
  obtain ⟨s, done, ran⟩ := runOn_capitalRun
  have base := Session.fileBase_of_processText rfl parsed unnamed done
  have spelled : quotable (lowerName "Info" ++ ".h") = "info.h".toList := by decide +kernel
  refine ⟨documents, _, _, parsed, unnamed, rfl, rfl, ran, rfl, rfl,
    textAt_eq_ok_iff.mpr ⟨_, rfl, fromUTF8?_toUTF8 _⟩, ?_, by decide, rfl⟩
  rw [s.firstInclude?_source, Session.headerFile, base]
  exact congrArg some spelled

theorem source_includes_lowered_name_capital :
    ∃ documents ending after, Document.readAll plainSchema = .ok documents ∧
      runOn stillServices capitalRun plainTree = (ending, after) ∧ ending.code = 0 ∧
      ∃ (base : List Char) (name : String) (files : ModuleFiles) (one other : Bool)
          (mid : FileTree) (place : Place),
        outputBase capitalRun.output = .ok (base, name) ∧
        Updates (outputPath base 'h') files.header plainTree (.ok one) mid ∧
        Updates (outputPath base 'c') files.source mid (.ok other) after ∧
        after.locate (outputPath base 'h') = .ok place ∧
        place.getLast? = some (String.ofList (OutputPath.lastPart base ++ ['.', 'h'])) ∧
        (other = true → ∃ written, textAt after (outputPath base 'c') = .ok written ∧
          firstInclude? written.toList = some (quotable (lowerName name ++ ".h"))) := by
  obtain ⟨documents, parsed, unnamed⟩ := plainSchema_unnamed
  obtain ⟨s, -, ran⟩ := runOn_capitalRun
  have read : textAt plainTree capitalRun.input = .ok plainSchema :=
    textAt_eq_ok_iff.mpr ⟨_, rfl, fromUTF8?_toUTF8 plainSchema⟩
  obtain ⟨base, name, files, one, other, mid, place, named, header, source, led, last, quoted, -⟩ :=
    source_includes_lowered_name stillServices capitalRun rfl rfl plainTree read parsed unnamed ran
      rfl
  exact ⟨documents, _, _, parsed, ran, rfl, base, name, files, one, other, mid, place, named,
    header, source, led, last, quoted⟩

end Command

end AccessorGen
