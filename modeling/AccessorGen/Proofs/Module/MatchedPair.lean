/- The header and the source as a pair.
   Both files list the functions of the module in the order in which their fields were captured. A
   function is declared in the header with the signature that it is defined with in the source. -/

import AccessorGen.Proofs.Module.Signatures
import Mathlib.Data.List.Flatten

set_option autoImplicit false
set_option relaxedAutoImplicit false

namespace AccessorGen

namespace Routine

def declarationLine (routine : Routine) : List Char :=
  (routine.prototype ++ ";").toList

def openingLine (routine : Routine) : List Char :=
  (routine.prototype ++ " \x7b").toList

/-- The lines that define a function, without blank ones. -/
def definitionLines (routine : Routine) : List (List Char) :=
  routine.openingLine :: Text.filledLines routine.body.toList ++ [['\x7d']]

/-- A function in whole lines, of which only the first and the last are not indented. -/
structure Proper (routine : Routine) : Prop where
  oneLine : '\n' ∉ routine.prototype.toList
  flush : routine.prototype.toList.head? ≠ some ' '
  filled : routine.prototype.toList ≠ []
  body : Indented routine.body

end Routine

theorem Pen.proper_routines {pen : Pen} (front : Unbroken pen.front) {field : ModuleField}
    (sound : field.Sound) : ∀ routine ∈ pen.routines field, routine.Proper := by
  intro routine member
  have listed : routine.prototype ∈ (pen.signatures field.descriptor).map Signature.text := by
    rw [← pen.prototype_routines sound]
    exact List.mem_map_of_mem member
  obtain ⟨signature, own, same⟩ := List.mem_map.mp listed
  have proper := proper_signatures front sound signature own
  obtain ⟨flush, mark, -⟩ := proper.result
  have filled : signature.result.toList ≠ [] := by
    intro vacant
    rw [vacant] at mark
    rcases mark with space | star
    · cases space
    · cases star
  refine ⟨?_, ?_, ?_, indented_routines front sound routine member⟩
  · rw [← same]
    exact proper.newline_not_mem_text
  · rw [← same, Signature.text, String.toList_append, String.toList_append, List.append_assoc,
      List.head?_append_of_ne_nil _ filled]
    exact flush
  · rw [← same]
    simp [Signature.text, filled]

private theorem filledLines_ended {line : String} (oneLine : '\n' ∉ line.toList)
    (filled : line.toList ≠ []) : Text.filledLines (line ++ "\n").toList = [line.toList] := by
  have shape : (line ++ "\n").toList = line.toList ++ '\n' :: [] := by simp
  rw [shape, Text.filledLines_append_newline, Text.filledLines_line oneLine filled,
    Text.filledLines_nil, List.append_nil]

namespace Pages

/-- Pages in whole lines that declare and define the functions of a list and nothing else. -/
structure Holds (pages : Pages) (routines : List Routine) : Prop extends pages.FillLines where
  declared : Text.filledLines pages.declarations.toList = routines.map Routine.declarationLine
  defined : Text.filledLines pages.functions.toList = routines.flatMap Routine.definitionLines

theorem holds_blank : blank.Holds [] :=
  ⟨fillLines_blank, rfl, rfl⟩

theorem Holds.append {front back : Pages} {first second : List Routine} (before : front.Holds first)
    (behind : back.Holds second) : (front.append back).Holds (first ++ second) where
  toFillLines := before.toFillLines.append behind.toFillLines
  declared := by
    rw [Pages.append, before.declarations.filledLines_append, before.declared, behind.declared,
      List.map_append]
  defined := by
    rw [Pages.append, before.functions.filledLines_append, before.defined, behind.defined,
      List.flatMap_append]

theorem Holds.writeRoutine {pages : Pages} {routines : List Routine} (holds : pages.Holds routines)
    {routine : Routine} (proper : routine.Proper) :
    (pages.writeRoutine routine).Holds (routines ++ [routine]) where
  toFillLines := holds.toFillLines.writeRoutine routine
  declared := by
    have ending : ";\n" = ";" ++ "\n" := by decide
    have line : Text.filledLines (routine.prototype ++ ";\n").toList =
        [routine.declarationLine] := by
      rw [ending, ← String.append_assoc, filledLines_ended _ _]
      · rfl
      · simp [proper.oneLine]
      · simp
    rw [Pages.writeRoutine, String.append_assoc, holds.declarations.filledLines_append,
      holds.declared, line, List.map_append]
    rfl
  defined := by
    have brace : " \x7b\n" = " \x7b" ++ "\n" := by decide
    have opening : Text.filledLines (routine.prototype ++ " \x7b\n").toList =
        [routine.openingLine] := by
      rw [brace, ← String.append_assoc, filledLines_ended _ _]
      · rfl
      · simp [proper.oneLine]
      · simp
    have ended : EndsLine (routine.prototype ++ " \x7b\n") :=
      endsLine_of_append _ ⟨" \x7b", brace⟩
    have closing : Text.filledLines "\x7d\n".toList = [['\x7d']] := by decide
    have parts : pages.functions ++ "\n" ++ routine.prototype ++ " \x7b\n" ++ routine.body ++
        "\x7d\n" =
        pages.functions ++ ("\n" ++ ((routine.prototype ++ " \x7b\n") ++
          (routine.body ++ "\x7d\n"))) := by
      simp only [String.append_assoc]
    have newline : EndsLine "\n" := .inr ⟨"", rfl⟩
    have vacant : Text.filledLines "\n".toList = [] := by decide
    rw [Pages.writeRoutine, parts, holds.functions.filledLines_append,
      newline.filledLines_append, ended.filledLines_append,
      proper.body.endsLine.filledLines_append, holds.defined, vacant, opening, closing,
      List.flatMap_append, List.flatMap_singleton]
    rfl

theorem Holds.foldl_writeRoutine {pages : Pages} {routines : List Routine}
    (holds : pages.Holds routines) {more : List Routine}
    (proper : ∀ routine ∈ more, routine.Proper) :
    (more.foldl Pages.writeRoutine pages).Holds (routines ++ more) := by
  induction more generalizing pages routines with
  | nil => simpa using holds
  | cons first rest ih =>
    have next := holds.writeRoutine (proper first List.mem_cons_self)
    have all := ih next fun routine member => proper routine (List.mem_cons_of_mem first member)
    rwa [List.append_assoc, List.singleton_append] at all

theorem Holds.writeVariable {pages : Pages} {routines : List Routine}
    (holds : pages.Holds routines) {line : String} (ended : EndsLine line) :
    (pages.writeVariable line).Holds routines :=
  ⟨holds.toFillLines.writeVariable ended, holds.declared, holds.defined⟩

end Pages

theorem Pen.holds_write (pen : Pen) (field : ModuleField)
    (proper : ∀ routine ∈ pen.routines field, routine.Proper) :
    (pen.write .blank field).Holds (pen.routines field) := by
  unfold routines at proper ⊢
  rw [write]
  cases content : field.content with
  | number cType literal =>
    rw [content] at proper
    exact (Pages.holds_blank.writeVariable (pen.endsLine_scalarLine _ _ _)).foldl_writeRoutine
      proper
  | boolean b =>
    rw [content] at proper
    exact (Pages.holds_blank.writeVariable (pen.endsLine_scalarLine _ _ _)).foldl_writeRoutine
      proper
  | string value =>
    rw [content] at proper
    exact (Pages.holds_blank.writeVariable (pen.endsLine_stringLine _ _)).foldl_writeRoutine
      proper
  | replacement text =>
    exact ⟨Pages.fillLines_blank.writeMacro (pen.endsLine_macroLine _ _), rfl, rfl⟩

theorem Pages.holds_flatMap {α : Type} (r : Resolution) {items : List α}
    {code : α → List Fragment} {routines : α → List Routine}
    (each : ∀ item ∈ items, (ofFragments r (code item)).Holds (routines item)) :
    (ofFragments r (items.flatMap code)).Holds (items.flatMap routines) := by
  induction items with
  | nil => exact holds_blank
  | cons first rest ih =>
    have head := each first List.mem_cons_self
    have tail := ih fun item member => each item (List.mem_cons_of_mem first member)
    rw [List.flatMap_cons, List.flatMap_cons, ofFragments_append]
    exact head.append tail

theorem Meaning.holds_fragments {r : Resolution} {scope : Scope}
    (front : Unbroken (Pen.ofScope r scope).front) {meanings : List Meaning}
    (sound : ∀ field ∈ Meaning.allFields meanings, field.Sound) :
    (Pages.ofFragments r (Meaning.fragments scope meanings)).Holds
      ((Meaning.allFields meanings).flatMap (Pen.ofScope r scope).routines) := by
  have vacant : Text.filledLines "\n".toList = [] := by decide
  have separated : (Pages.ofFragments r [.separator]).Holds [] :=
    ⟨Pages.fillLines_separator r, vacant, vacant⟩
  rw [Meaning.allFields, List.flatMap_assoc]
  refine Pages.holds_flatMap r fun meaning inside => ?_
  have fields : (Pages.ofFragments r (meaning.newFields.map (ModuleField.code scope))).Holds
      (meaning.newFields.flatMap (Pen.ofScope r scope).routines) := by
    rw [List.map_eq_flatMap]
    refine Pages.holds_flatMap r fun field own => ?_
    have member : field ∈ Meaning.allFields meanings := List.mem_flatMap.mpr ⟨meaning, inside, own⟩
    rw [field.ofFragments_code]
    exact Pen.holds_write _ _ (Pen.proper_routines front (sound field member))
  have all := fields.append separated
  rwa [← Pages.ofFragments_append, List.append_nil] at all

theorem Pen.names_signatures_sublist (pen : Pen) (d : Descriptor) :
    ((pen.signatures d).map Signature.name).Sublist
      ((pen.naming.symbols d).map fun symbol => pen.front ++ symbol) := by
  by_cases config : d.type = .config
  · simp [signatures, config]
  · by_cases definition : d.type = .cMacro
    · simp [signatures, definition]
    · rw [pen.names_signatures config definition, NamingStyle.symbols, if_neg definition,
        List.map_cons, List.map_map]
      exact List.sublist_cons_self _ _

/-- Whether a line is neither indented nor a closing brace. -/
def Routine.opens (line : List Char) : Bool :=
  line.head? != some ' ' && line != ['\x7d']

theorem Routine.filter_definitionLines {routines : List Routine}
    (proper : ∀ routine ∈ routines, routine.Proper) :
    (routines.flatMap definitionLines).filter opens = routines.map openingLine := by
  induction routines with
  | nil => rfl
  | cons first rest ih =>
    have own := proper first List.mem_cons_self
    have flush : first.openingLine.head? ≠ some ' ' := by
      rw [openingLine, String.toList_append, List.head?_append_of_ne_nil _ own.filled]
      exact own.flush
    have other : first.openingLine ≠ ['\x7d'] := by
      intro same
      have last := congrArg List.getLast? same
      simp [openingLine] at last
    have kept : opens first.openingLine = true := by simp [opens, flush, other]
    have indented : (Text.filledLines first.body.toList).filter opens = [] := by
      rw [List.filter_eq_nil_iff]
      intro line member
      simp [opens, own.body.head?_filledLines line member]
    have later := ih fun routine member => proper routine (List.mem_cons_of_mem first member)
    rw [List.flatMap_cons, List.filter_append, later, definitionLines, List.filter_append,
      List.filter_cons_of_pos kept, indented]
    rfl

private theorem Routine.nodup_map_line {routines : List Routine}
    (distinct : (routines.map prototype).Nodup) (ending : String) :
    (routines.map fun routine => (routine.prototype ++ ending).toList).Nodup := by
  have injective : Function.Injective fun prototype : String => (prototype ++ ending).toList := by
    intro a b same
    simp only [String.toList_append] at same
    exact String.toList_inj.mp (List.append_cancel_right same)
  have lines := distinct.map injective
  rwa [List.map_map] at lines

theorem Routine.count_declarationLine {routines : List Routine}
    (distinct : (routines.map prototype).Nodup) {routine : Routine}
    (member : routine ∈ routines) :
    (routines.map declarationLine).count routine.declarationLine = 1 :=
  List.count_eq_one_of_mem (nodup_map_line distinct ";") (List.mem_map_of_mem member)

theorem Routine.count_openingLine {routines : List Routine}
    (proper : ∀ routine ∈ routines, routine.Proper) (distinct : (routines.map prototype).Nodup)
    {routine : Routine} (member : routine ∈ routines) :
    (routines.flatMap definitionLines).count routine.openingLine = 1 := by
  have own : routine.openingLine ∈ routines.map openingLine := List.mem_map_of_mem member
  have kept : opens routine.openingLine = true := by
    rw [← filter_definitionLines proper] at own
    exact (List.mem_filter.mp own).2
  rw [← List.count_filter kept, filter_definitionLines proper]
  exact List.count_eq_one_of_mem (nodup_map_line distinct " \x7b") own

namespace Session

/-- What the fields of a section are written with at this point of the session. -/
def pen (settings : Settings) (s : Session) (sec : Section) : Pen :=
  ⟨settings.naming, labelPrefix settings.naming sec.label, s.bools⟩

/-- The functions of the module, in the order in which their fields were captured. -/
def signatures (settings : Settings) (s : Session) : List Signature :=
  s.sections.reverse.flatMap fun sec =>
    sec.fields.toList.flatMap fun field => (s.pen settings sec).signatures field.descriptor

/-- The header up to its declarations. -/
def headerFront (settings : Settings) (s : Session) : String :=
  "#ifndef " ++ settings.naming.headerGuard s.fileBase ++ "\n#define " ++
    settings.naming.headerGuard s.fileBase ++ "\n\n" ++ "#include <stdint.h>\n" ++
    s.bools.includeLine ++ String.join (s.headerIncludes.map includeLine) ++ "\n" ++
    (Snippet.join (s.fragments.map Fragment.macros)).resolve (s.resolution settings)

def guardEnd (settings : Settings) (s : Session) : List Char :=
  ("#endif /* " ++ settings.naming.headerGuard s.fileBase ++ " */").toList

/-- The source up to its functions. -/
def sourceFront (settings : Settings) (s : Session) : String :=
  "#include \"" ++ s.headerFile settings ++ "\"\n" ++
    String.join (s.sourceIncludes.map includeLine) ++ "\n" ++
    (Snippet.join (s.fragments.map Fragment.storage)).resolve (s.resolution settings)

theorem names_signatures_sublist (settings : Settings) (s : Session) :
    ((s.signatures settings).map Signature.name).Sublist (s.symbols settings.naming) := by
  rw [signatures, List.map_flatMap]
  refine List.Sublist.flatMap_right _ fun sec _ => ?_
  rw [List.map_flatMap]
  exact List.Sublist.flatMap_right _ fun field _ =>
    (s.pen settings sec).names_signatures_sublist field.descriptor

section Bodies

variable {settings : Settings} {s : Session} {routines : List Routine}

theorem filledLines_headerBody
    (holds : (Pages.ofFragments (s.resolution settings) s.fragments).Holds routines) :
    Text.filledLines (s.headerBody settings).toList =
      Text.filledLines (s.headerFront settings).toList ++
        routines.map Routine.declarationLine ++ [s.guardEnd settings] := by
  have macros : EndsLine ((Snippet.join (s.fragments.map Fragment.macros)).resolve
      (s.resolution settings)) := by
    have filled := holds.macros
    rwa [resolve_join_fragments] at filled
  have front : EndsLine (s.headerFront settings) :=
    EndsLine.append (endsLine_of_append _ ⟨"", by decide⟩) macros
  have guard : Unbroken (settings.naming.headerGuard s.fileBase) :=
    (unbroken_upperIdentifier s.fileBase).append (by decide)
  have ending : Text.filledLines ("\n#endif /* " ++ settings.naming.headerGuard s.fileBase ++
      " */\n").toList = [s.guardEnd settings] := by
    have parts : "\n#endif /* " ++ settings.naming.headerGuard s.fileBase ++ " */\n" =
        "\n" ++ ("#endif /* " ++ settings.naming.headerGuard s.fileBase ++ " */" ++ "\n") := by
      have first : "\n#endif /* " = "\n" ++ "#endif /* " := by decide
      have last : " */\n" = " */" ++ "\n" := by decide
      rw [first, last]
      simp only [String.append_assoc]
    have newline : EndsLine "\n" := .inr ⟨"", rfl⟩
    have vacant : Text.filledLines "\n".toList = [] := by decide
    rw [parts, newline.filledLines_append, vacant, filledLines_ended _ _]
    · rfl
    · simp [guard.newline_not_mem]
    · simp
  have text : s.headerCode.resolve (s.resolution settings) =
      s.headerFront settings ++
        ((Pages.ofFragments (s.resolution settings) s.fragments).declarations ++
          ("\n#endif /* " ++ settings.naming.headerGuard s.fileBase ++ " */\n")) := by
    rw [resolve_headerCode]
    delta headerFront
    rw [resolve_join_fragments]
    simp only [resolution, String.append_assoc]
  rw [headerBody, finish, text, Text.collapseBlankLines, String.toList_ofList,
    Text.filledLines_collapseChars, front.filledLines_append,
    holds.declarations.filledLines_append, holds.declared, ending, List.append_assoc]

theorem filledLines_sourceBody
    (holds : (Pages.ofFragments (s.resolution settings) s.fragments).Holds routines) :
    Text.filledLines (s.sourceBody settings).toList =
      Text.filledLines (s.sourceFront settings).toList ++
        routines.flatMap Routine.definitionLines := by
  have storage : EndsLine ((Snippet.join (s.fragments.map Fragment.storage)).resolve
      (s.resolution settings)) := by
    have filled := holds.storage
    rwa [resolve_join_fragments] at filled
  have front : EndsLine (s.sourceFront settings) :=
    EndsLine.append (endsLine_of_append _ ⟨"", by decide⟩) storage
  have text : s.sourceCode.resolve (s.resolution settings) =
      s.sourceFront settings ++
        (Pages.ofFragments (s.resolution settings) s.fragments).functions := by
    rw [resolve_sourceCode]
    delta sourceFront
    rw [resolve_join_fragments]
    simp only [resolution, String.append_assoc]
  rw [sourceBody, finish, text, Text.collapseBlankLines, String.toList_ofList,
    Text.filledLines_collapseChars, front.filledLines_append, holds.defined]

end Bodies

/-- What a document of the closed form is written with. -/
private def penOf (settings : Settings) (documents : List (List Meaning)) (own : List Meaning) :
    Pen :=
  ⟨settings.naming, labelPrefix settings.naming (Meaning.finalLabel own),
    (ofMeanings settings documents).bools⟩

private def routinesOf (settings : Settings) (documents : List (List Meaning)) : List Routine :=
  documents.flatMap fun own =>
    (Meaning.allFields own).flatMap (penOf settings documents own).routines

private theorem signatures_ofMeanings (settings : Settings) (documents : List (List Meaning)) :
    (ofMeanings settings documents).signatures settings =
      documents.flatMap fun own => (Meaning.allFields own).flatMap fun field =>
        (penOf settings documents own).signatures field.descriptor := by
  have sections : (ofMeanings settings documents).sections.reverse =
      documents.mapIdx fun index => Section.ofMeanings ⟨settings.naming, index⟩ := by
    rw [ofMeanings, List.reverse_reverse]
  rw [signatures, sections, List.flatMap_def, List.flatMap_def]
  congr 1
  apply List.ext_getElem?
  intro index
  rw [List.getElem?_map, List.getElem?_mapIdx, List.getElem?_map, Option.map_map]
  congr 1
  funext own
  simp only [Function.comp_apply, Section.ofMeanings, Section.extend, Array.toList_append,
    List.nil_append, List.flatMap_map]
  rfl

section Sound

variable {settings : Settings} {documents : List (List Meaning)}
  (sound : ∀ own ∈ documents, ∀ field ∈ Meaning.allFields own, field.Sound)

include sound

private theorem prototype_routinesOf :
    (routinesOf settings documents).map Routine.prototype =
      ((ofMeanings settings documents).signatures settings).map Signature.text := by
  rw [signatures_ofMeanings, routinesOf, List.map_flatMap, List.map_flatMap]
  refine List.flatMap_congr fun own document => ?_
  rw [List.map_flatMap, List.map_flatMap]
  exact List.flatMap_congr fun field captured =>
    (penOf settings documents own).prototype_routines (sound own document field captured)

private theorem proper_routinesOf :
    ∀ routine ∈ routinesOf settings documents, routine.Proper := by
  intro routine member
  obtain ⟨own, document, inside⟩ := List.mem_flatMap.mp member
  obtain ⟨field, captured, written⟩ := List.mem_flatMap.mp inside
  have front : Unbroken (penOf settings documents own).front := unbroken_labelPrefix _ _
  exact Pen.proper_routines front (sound own document field captured) routine written

private theorem proper_signatures :
    ∀ signature ∈ (ofMeanings settings documents).signatures settings, signature.Proper := by
  rw [signatures_ofMeanings]
  intro signature member
  obtain ⟨own, document, inside⟩ := List.mem_flatMap.mp member
  obtain ⟨field, captured, asked⟩ := List.mem_flatMap.mp inside
  have front : Unbroken (penOf settings documents own).front := unbroken_labelPrefix _ _
  exact Pen.proper_signatures front (sound own document field captured) signature asked

private theorem holds_routinesOf :
    (Pages.ofFragments ((ofMeanings settings documents).resolution settings)
      (ofMeanings settings documents).fragments).Holds (routinesOf settings documents) := by
  -- The code of a document depends on its index, and its functions do not.
  have indexed : routinesOf settings documents = documents.zipIdx.flatMap fun place =>
      (Meaning.allFields place.1).flatMap (penOf settings documents place.1).routines := by
    have all : (documents.zipIdx.map Prod.fst).flatMap (fun own =>
        (Meaning.allFields own).flatMap (penOf settings documents own).routines) =
        routinesOf settings documents := by
      rw [List.zipIdx_map_fst]
      rfl
    rw [← all, List.flatMap_map]
  rw [fragments_ofMeanings, List.mapIdx_eq_zipIdx_map, ← List.flatMap_def, indexed]
  refine Pages.holds_flatMap _ fun place member => ?_
  obtain ⟨own, index⟩ := place
  have found : documents[index]? = some own := List.mem_zipIdx_iff_getElem?.mp member
  have pen : Pen.ofScope ((ofMeanings settings documents).resolution settings)
      ⟨settings.naming, index⟩ = penOf settings documents own := by
    rw [Pen.ofScope, tag_resolution_ofMeanings settings documents index own found]
    rfl
  have front : Unbroken (penOf settings documents own).front := unbroken_labelPrefix _ _
  rw [← pen] at front ⊢
  exact Meaning.holds_fragments front (sound own (List.mem_of_getElem? found))

/-- In closed form, the source defines the functions of every field, one behind the other. -/
theorem definitions_infix_sourceBody {index : Nat} {own : List Meaning}
    (found : documents[index]? = some own) {field : ModuleField}
    (captured : field ∈ Meaning.allFields own) :
    (((ofMeanings settings documents).pen settings
        (Section.ofMeanings ⟨settings.naming, index⟩ own)).routines field).flatMap
          Routine.definitionLines <:+:
      Text.filledLines ((ofMeanings settings documents).sourceBody settings).toList := by
  have pen : (ofMeanings settings documents).pen settings
      (Section.ofMeanings ⟨settings.naming, index⟩ own) = penOf settings documents own := rfl
  have ofField : (penOf settings documents own).routines field <:+:
      (Meaning.allFields own).flatMap (penOf settings documents own).routines :=
    List.infix_of_mem_flatten (List.mem_map_of_mem captured)
  have ofDocument : (Meaning.allFields own).flatMap (penOf settings documents own).routines <:+:
      routinesOf settings documents :=
    List.infix_of_mem_flatten (List.mem_map_of_mem (List.mem_of_getElem? found))
  obtain ⟨before, behind, all⟩ := ofField.trans ofDocument
  rw [filledLines_sourceBody (holds_routinesOf sound), pen, ← all, List.flatMap_append,
    List.flatMap_append]
  exact ⟨_ ++ before.flatMap Routine.definitionLines, _, by simp only [List.append_assoc]; rfl⟩

end Sound

/-- The header and the source of a session whose calls are all done are a matched pair: there is one
list of functions, with the signatures that the captured fields ask for under the final labels and
the final storage of booleans, in the order of capture. Behind its front part the header declares
just these functions, one in a line, and the source defines them in the same order. Every function
has a name of its own and is declared and defined exactly once. -/
theorem header_declares_what_source_defines (settings : Settings) (calls : List ServedCall)
    (s : Session) (completed : performAll settings calls (fresh settings) = .done s) :
    ∃ routines : List Routine,
      routines.map Routine.prototype = (s.signatures settings).map Signature.text ∧
      ((s.signatures settings).map Signature.name).Nodup ∧
      Text.filledLines (s.headerBody settings).toList =
        Text.filledLines (s.headerFront settings).toList ++
          routines.map Routine.declarationLine ++ [s.guardEnd settings] ∧
      Text.filledLines (s.sourceBody settings).toList =
        Text.filledLines (s.sourceFront settings).toList ++
          routines.flatMap Routine.definitionLines ∧
      ∀ routine ∈ routines,
        (routines.map Routine.declarationLine).count routine.declarationLine = 1 ∧
        (routines.flatMap Routine.definitionLines).count routine.openingLine = 1 := by
  obtain ⟨documents, meanings, -, read, rfl, symbols⟩ := performAll_fresh_eq_done completed
  have sound : ∀ own ∈ meanings, ∀ field ∈ Meaning.allFields own, field.Sound := by
    intro own member
    obtain ⟨served, -, meant⟩ := exists_of_mem_mapM read member
    exact Document.sound_of_meanings meant
  have proper := @proper_routinesOf settings meanings sound
  have holds := @holds_routinesOf settings meanings sound
  have prototypes := @prototype_routinesOf settings meanings sound
  have names := symbols.sublist (names_signatures_sublist settings (ofMeanings settings meanings))
  have distinct : ((routinesOf settings meanings).map Routine.prototype).Nodup := by
    rw [prototypes]
    exact Signature.nodup_map_text (proper_signatures sound) names
  refine ⟨routinesOf settings meanings, prototypes, names, filledLines_headerBody holds,
    filledLines_sourceBody holds, fun routine member => ⟨?_, ?_⟩⟩
  · exact Routine.count_declarationLine distinct member
  · exact Routine.count_openingLine proper distinct member

/-- Two documents under different labels with fields of all kinds of signatures, and a macro whose
text looks like a declaration. Booleans become integers only at the end. -/
private def mixed : List ServedCall :=
  [⟨.steady "v1" 1700000000,
      .object [("bool:w:Ready", .bool true), ("string[8]:w:Title", .string "a"),
        ("Section_Prefix", .string "left"), ("macro:Note", .string "1\nvoid Left(void);")]⟩,
    ⟨.steady "v2" 1700000060,
      .object [("int16:Ready", .number (.ofInt (-3))), ("Date_Time", .bool true),
        ("Bool_Is_Integer", .bool true)]⟩]

theorem header_declares_what_source_defines_mixed :
    ∃ s, performAll (.steady .snake) mixed (fresh (.steady .snake)) = .done s ∧
      (s.signatures (.steady .snake)).map Signature.text =
        ["uint8_t LEFT_get_ready(void)", "void LEFT_set_ready(uint8_t val)",
          "uint16_t LEFT_len_title(void)", "const char *LEFT_ptr_title(void)",
          "uint8_t LEFT_get_title(char *buff_ptr, uint16_t len)",
          "uint8_t LEFT_set_title(const char *buff_ptr, uint16_t len)",
          "int16_t get_ready(void)", "uint32_t get_unix_time(void)",
          "uint16_t len_time_str(void)", "const char *ptr_time_str(void)"] ∧
      ∃ routines : List Routine,
        routines.map Routine.prototype = (s.signatures (.steady .snake)).map Signature.text ∧
        Text.filledLines (s.headerBody (.steady .snake)).toList =
          Text.filledLines (s.headerFront (.steady .snake)).toList ++
            routines.map Routine.declarationLine ++ [s.guardEnd (.steady .snake)] ∧
        Text.filledLines (s.sourceBody (.steady .snake)).toList =
          Text.filledLines (s.sourceFront (.steady .snake)).toList ++
            routines.flatMap Routine.definitionLines := by
  have completed :
      (performAll (.steady .snake) mixed (fresh (.steady .snake))).fault.isNone = true := by
    decide +kernel
  obtain ⟨routines, prototypes, -, header, source, -⟩ :=
    header_declares_what_source_defines (.steady .snake) mixed _ (Outcome.eq_done completed)
  exact ⟨_, Outcome.eq_done completed, by decide +kernel, routines, prototypes, header, source⟩

end Session

end AccessorGen
