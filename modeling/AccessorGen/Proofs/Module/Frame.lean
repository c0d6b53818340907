/- The frame of both files.
   Whatever a client has put into a session, and wherever a call has stopped, the header stands in
   its guard, and the source starts with the header and the files that the client asked for. Only
   blank lines that follow each other are taken out, also inside of the names of these files. -/

import AccessorGen.Proofs.Session.Accepted
import AccessorGen.Proofs.Text.LineBreaks

set_option autoImplicit false
set_option relaxedAutoImplicit false

namespace AccessorGen

open Text (collapseBlankLines collapseChars keptBehind)

/-- A header in its guard, without two blank lines in a row. -/
structure HeaderFrame (guard body : String) : Prop where
  opening : ∃ rest, body =
    "#ifndef " ++ guard ++ "\n#define " ++ guard ++ "\n\n#include <stdint.h>\n" ++ rest
  /-- The guard is closed on a line of its own, the last one. -/
  closing : ∃ front, body = front ++ "\n" ++ "#endif /* " ++ guard ++ " */\n"
  compact : ¬ ['\n', '\n', '\n'] <:+: body.toList

/-- Whatever code is put between, a guard without line breaks stays around it. -/
theorem headerFrame_collapse {guard : String} (unbroken : '\n' ∉ guard.toList) (code : String) :
    HeaderFrame guard (collapseBlankLines
      ("#ifndef " ++ guard ++ "\n#define " ++ guard ++ "\n\n#include <stdint.h>\n" ++ code ++
        "\n#endif /* " ++ guard ++ " */\n")) where
  opening := by
    have first : '\n' ∉ ("#ifndef " ++ guard).toList := by simpa using unbroken
    have second : '\n' ∉ ("#define " ++ guard).toList := by simpa using unbroken
    have third : '\n' ∉ "#include <stdint.h>".toList := by decide
    let behind := code ++ "\n#endif /* " ++ guard ++ " */\n"
    refine ⟨String.ofList (keptBehind 1 behind.toList), String.toList_injective ?_⟩
    have lines : ("#ifndef " ++ guard ++ "\n#define " ++ guard ++ "\n\n#include <stdint.h>\n" ++
        code ++ "\n#endif /* " ++ guard ++ " */\n").toList =
        ("#ifndef " ++ guard).toList ++ '\n' :: (("#define " ++ guard).toList ++
          '\n' :: '\n' :: ("#include <stdint.h>".toList ++ '\n' :: behind.toList)) := by
      simp [behind]
    have blank : ∀ rest, keptBehind 1 ('\n' :: rest) = '\n' :: keptBehind 2 rest := fun _ => rfl
    rw [collapseBlankLines, String.toList_ofList, lines, Text.collapseChars_eq,
      Text.keptBehind_whole_line 0 first (by simp), Text.keptBehind_whole_line 1 second (by simp),
      blank, Text.keptBehind_whole_line 2 third (by simp)]
    simp
  closing := by
    have last : '\n' ∉ ("#endif /* " ++ guard ++ " */").toList := by simpa using unbroken
    have lines : ∀ front, (front ++ "\n#endif /* " ++ guard ++ " */\n").toList =
        front.toList ++ '\n' :: (("#endif /* " ++ guard ++ " */").toList ++ ['\n']) := by
      intro front
      simp
    obtain ⟨start, ended⟩ := Text.collapseChars_append_line
      ("#ifndef " ++ guard ++ "\n#define " ++ guard ++ "\n\n#include <stdint.h>\n" ++
        code).toList last (by simp) ['\n']
    refine ⟨String.ofList start, String.toList_injective ?_⟩
    rw [collapseBlankLines, String.toList_ofList, lines, ended]
    simp [keptBehind]
  compact := by
    rw [collapseBlankLines, String.toList_ofList]
    exact Text.not_infix_collapseChars _

namespace Session

theorem keptBehind_includeLine (breaks : Nat) (file : String) (rest : List Char) :
    keptBehind breaks ((includeLine file).toList ++ rest) =
      (includeLine (collapseBlankLines file)).toList ++ keptBehind 1 rest := by
  have name : (collapseBlankLines file).toList = collapseChars file.toList :=
    String.toList_ofList
  have edges : ∀ c d : Char,
      ((collapseBlankLines file).toList.head? = some c ∧
        (collapseBlankLines file).toList.getLast? = some d) ↔
      (file.toList.head? = some c ∧ file.toList.getLast? = some d) := by
    intro c d
    rw [name, Text.head?_collapseChars, Text.getLast?_collapseChars]
  rw [includeLine, includeLine]
  by_cases bracketed : file.toList.head? = some '<' ∧ file.toList.getLast? = some '>'
  · rw [if_pos bracketed, if_pos ((edges _ _).mpr bracketed)]
    have start : '\n' ∉ "#include ".toList := by decide
    have line : ("#include " ++ file ++ "\n").toList ++ rest =
        "#include ".toList ++ (file.toList ++ '\n' :: rest) := by
      simp
    have closed := Text.breaksAfter_of_getLast? 0 bracketed.2 (by decide)
    rw [line, Text.keptBehind_line breaks start (by decide), Text.keptBehind_append, closed]
    simp [name, Text.collapseChars_eq, keptBehind]
  · rw [if_neg bracketed, if_neg (mt (edges _ _).mp bracketed)]
    have start : '\n' ∉ "#include \"".toList := by decide
    have line : ("#include \"" ++ file ++ "\"\n").toList ++ rest =
        "#include \"".toList ++ (file.toList ++ '"' :: '\n' :: rest) := by
      simp
    rw [line, Text.keptBehind_line breaks start (by decide), Text.keptBehind_append]
    simp [name, Text.collapseChars_eq, keptBehind]

theorem keptBehind_includeLines (files : List String) (rest : List Char) :
    keptBehind 1 ((String.join (files.map includeLine)).toList ++ rest) =
      (String.join (files.map fun file => includeLine (collapseBlankLines file))).toList ++
        keptBehind 1 rest := by
  induction files with
  | nil => simp
  | cons file files ih =>
    rw [List.map_cons, List.map_cons, String.join_cons, String.join_cons, String.toList_append,
      List.append_assoc, keptBehind_includeLine, ih, String.toList_append, List.append_assoc]

theorem headerFrame_headerBody (settings : Settings) (s : Session) :
    HeaderFrame (settings.naming.headerGuard s.fileBase) (s.headerBody settings) := by
  have guard : '\n' ∉ (settings.naming.headerGuard s.fileBase).toList :=
    ((unbroken_upperIdentifier s.fileBase).append (by decide)).newline_not_mem
  have tag : (s.resolution settings).headerGuard = settings.naming.headerGuard s.fileBase := rfl
  have standard : "\n\n" ++ "#include <stdint.h>\n" = "\n\n#include <stdint.h>\n" := by decide
  have framed := headerFrame_collapse guard
    ((s.resolution settings).bools.includeLine ++ String.join (s.headerIncludes.map includeLine) ++
      "\n" ++ (Pages.ofFragments (s.resolution settings) s.fragments).macros ++
      (Pages.ofFragments (s.resolution settings) s.fragments).declarations)
  rw [headerBody, finish, resolve_headerCode, tag]
  simpa only [← standard, String.append_assoc] using framed

/-- A source starts with its header and the files that it includes, provided that the name of the
header is on one line. -/
theorem exists_sourceBody (settings : Settings) {s : Session}
    (oneLine : '\n' ∉ s.fileBase.toList) :
    ∃ rest, s.sourceBody settings =
      "#include \"" ++ s.headerFile settings ++ "\"\n" ++
        String.join (s.sourceIncludes.map fun file => includeLine (collapseBlankLines file)) ++
        rest := by
  have name : '\n' ∉ (s.headerFile settings).toList := by
    intro member
    rw [headerFile, NamingStyle.headerFile, lowerName, String.toList_append, String.toList_ofList]
      at member
    rcases List.mem_append.mp member with lowered | suffix
    · exact oneLine (Text.mem_of_mem_lower lowered (by decide))
    · exact absurd suffix (by decide)
  have first : '\n' ∉ ("#include \"" ++ s.headerFile settings ++ "\"").toList := by
    simpa using name
  have tag : (s.resolution settings).headerFile = s.headerFile settings := rfl
  let code := "\n" ++ (Pages.ofFragments (s.resolution settings) s.fragments).storage ++
    (Pages.ofFragments (s.resolution settings) s.fragments).functions
  have lines : ("#include \"" ++ s.headerFile settings ++ "\"\n" ++
      String.join (s.sourceIncludes.map includeLine) ++ "\n" ++
      (Pages.ofFragments (s.resolution settings) s.fragments).storage ++
      (Pages.ofFragments (s.resolution settings) s.fragments).functions).toList =
      ("#include \"" ++ s.headerFile settings ++ "\"").toList ++
        '\n' :: ((String.join (s.sourceIncludes.map includeLine)).toList ++ code.toList) := by
    simp [code]
  refine ⟨String.ofList (keptBehind 1 code.toList), String.toList_injective ?_⟩
  rw [sourceBody, finish, resolve_sourceCode, tag, collapseBlankLines, String.toList_ofList, lines,
    Text.collapseChars_eq, Text.keptBehind_whole_line 0 first (by simp), keptBehind_includeLines]
  simp

/-- After any calls, also calls that stop with a fault, the header stands in the guard of the
module, which is the same at all three places, and has no two blank lines in a row. If the name of
the module is on one line, the source starts with a line that includes the header and then with the
lines of all files that accepted entries have asked for since the last reset, in order. -/
theorem bodies_keep_frame (settings : Settings) (calls : List ServedCall) (s : Session)
    (reached : afterCalls settings calls (fresh settings) = s) :
    HeaderFrame (settings.naming.headerGuard s.fileBase) (s.headerBody settings) ∧
      ('\n' ∉ s.fileBase.toList →
        ∃ rest, s.sourceBody settings =
          "#include \"" ++ s.headerFile settings ++ "\"\n" ++
            String.join (((acceptedAfter settings [] calls (fresh settings)).flatMap
              Entry.sourceFiles).map fun file => includeLine (collapseBlankLines file)) ++
            rest) := by
  refine ⟨headerFrame_headerBody settings s, ?_⟩
  intro oneLine
  have files : s.sourceIncludes =
      (acceptedAfter settings [] calls (fresh settings)).flatMap Entry.sourceFiles := by
    rw [← reached]
    exact sourceIncludes_afterCalls rfl calls
  rw [← files]
  exact exists_sourceBody settings oneLine

/-- Four calls, of which only the first ends without a fault. Of the third its first item is
accepted, of the others nothing. -/
private def frayed : List ServedCall :=
  [⟨.steady "v1" 1700000000, .object [("Module_Name", .string "Frame"),
      ("Include_Source", .array [.string "a.h"]), ("macro:Note", .string "1\n\n\n\n2")]⟩,
    ⟨.steady "v1" 1700000000, .text "["⟩,
    ⟨.steady "v1" 1700000000, .value (.array
      [.object [("Include_Source", .array [.string "b\n\n\n\nc.h", .string "<d.h>"])], .null])⟩,
    ⟨.steady "v1" 1700000000, .object [("Include_Source", .array [.string "e.h", .null])]⟩]

theorem bodies_keep_frame_after_faults :
    ∃ s, afterCalls (.steady .pascal) frayed (fresh (.steady .pascal)) = s ∧
      HeaderFrame "FRAME_H_" (s.headerBody (.steady .pascal)) ∧
      ∃ rest, s.sourceBody (.steady .pascal) =
        "#include \"frame.h\"\n#include \"a.h\"\n#include \"b\n\nc.h\"\n#include <d.h>\n" ++
          rest := by
  obtain ⟨header, source⟩ := bodies_keep_frame (.steady .pascal) frayed _ rfl
  have base : (afterCalls (.steady .pascal) frayed (fresh (.steady .pascal))).fileBase =
      "Frame" := by
    decide +kernel
  have guard : (Settings.steady .pascal).naming.headerGuard "Frame" = "FRAME_H_" := by
    decide +kernel
  rw [base, guard] at header
  obtain ⟨rest, started⟩ := source (by rw [base]; decide)
  refine ⟨_, rfl, header, rest, started.trans ?_⟩
  exact congrArg (· ++ rest) (by decide +kernel)

end Session

end AccessorGen
