/- Deferred text.
   The code that a session takes up, with every tag resolved at the end, is the text that a writer
   puts down at once when it is told the end of the session in advance. -/

import AccessorGen.Proofs.Module.Writer
import AccessorGen.Proofs.Session.Calls
import AccessorGen.Proofs.Snippet.Resolve

set_option autoImplicit false
set_option relaxedAutoImplicit false

namespace AccessorGen

inductive Part where
  | macros
  | declarations
  | storage
  | functions

namespace Pages

def part (pages : Pages) : Part → String
  | .macros => pages.macros
  | .declarations => pages.declarations
  | .storage => pages.storage
  | .functions => pages.functions

def append (front back : Pages) : Pages :=
  ⟨front.macros ++ back.macros, front.declarations ++ back.declarations,
    front.storage ++ back.storage, front.functions ++ back.functions⟩

@[simp] theorem blank_append (pages : Pages) : blank.append pages = pages := by
  simp [blank, append]

@[simp] theorem append_blank (pages : Pages) : pages.append blank = pages := by
  simp [blank, append]

theorem append_assoc (a b c : Pages) : (a.append b).append c = a.append (b.append c) := by
  simp [append, String.append_assoc]

theorem part_append (front back : Pages) (part : Part) :
    (front.append back).part part = front.part part ++ back.part part := by
  cases part <;> rfl

/-- The pages of code whose tags are resolved. -/
def ofFragments (r : Resolution) : List Fragment → Pages
  | [] => blank
  | code :: rest =>
    append ⟨code.macros.resolve r, code.declarations.resolve r, code.storage.resolve r,
      code.functions.resolve r⟩ (ofFragments r rest)

theorem ofFragments_append (r : Resolution) (front back : List Fragment) :
    ofFragments r (front ++ back) = (ofFragments r front).append (ofFragments r back) := by
  induction front with
  | nil => simp [ofFragments]
  | cons code front ih => rw [List.cons_append, ofFragments, ofFragments, ih, append_assoc]

theorem ofFragments_singleton (r : Resolution) (code : Fragment) :
    ofFragments r [code] = ⟨code.macros.resolve r, code.declarations.resolve r,
      code.storage.resolve r, code.functions.resolve r⟩ := by
  rw [ofFragments, ofFragments, append_blank]

end Pages

def Pen.ofScope (r : Resolution) (scope : Scope) : Pen :=
  ⟨scope.naming, r.tag (.sectionPrefix scope.document), r.bools⟩

def Accessor.routine (r : Resolution) (a : Accessor) : Routine :=
  ⟨r.text a.prototype, r.text a.body⟩

section Resolved

variable (r : Resolution) (scope : Scope) (d : Descriptor)

@[simp] theorem Scope.text_storage :
    r.text (scope.storage d) = (Pen.ofScope r scope).storage d := by
  simp [storage, qualified, Pen.storage, Pen.ofScope, Resolution.piece]

@[simp] theorem Scope.text_function (verb : String) :
    r.text (scope.function verb d) = (Pen.ofScope r scope).function verb d := by
  simp [function, qualified, Pen.function, Pen.ofScope, Resolution.piece]

theorem Scope.routine_scalarGet (cType : Piece) :
    (scope.scalarGet d cType).routine r = (Pen.ofScope r scope).scalarGet d (r.piece cType) := by
  delta scalarGet Pen.scalarGet
  simp [Accessor.routine, Resolution.text_append, Resolution.piece, String.append_assoc]

theorem Scope.routine_scalarSet (cType : Piece) :
    (scope.scalarSet d cType).routine r = (Pen.ofScope r scope).scalarSet d (r.piece cType) := by
  delta scalarSet Pen.scalarSet
  simp [Accessor.routine, Resolution.text_append, Resolution.piece, String.append_assoc]

theorem Scope.routine_stringLen :
    (scope.stringLen d).routine r = (Pen.ofScope r scope).stringLen d := by
  delta stringLen Pen.stringLen
  simp [Accessor.routine, Resolution.text_append, Resolution.piece, String.append_assoc]

theorem Scope.routine_stringPtr :
    (scope.stringPtr d).routine r = (Pen.ofScope r scope).stringPtr d := by
  delta stringPtr Pen.stringPtr
  simp [Accessor.routine, Resolution.text_append, Resolution.piece, String.append_assoc]

private theorem Pen.bools_ofScope : (Pen.ofScope r scope).bools = r.bools :=
  rfl

theorem Scope.routine_stringGet :
    (scope.stringGet d).routine r = (Pen.ofScope r scope).stringGet d := by
  delta stringGet Pen.stringGet
  simp [Accessor.routine, Resolution.text_append, Resolution.piece, Resolution.tag,
    Pen.bools_ofScope, String.append_assoc]

theorem Scope.routine_stringSet :
    (scope.stringSet d).routine r = (Pen.ofScope r scope).stringSet d := by
  delta stringSet Pen.stringSet
  simp [Accessor.routine, Resolution.text_append, Resolution.piece, Resolution.tag,
    Pen.bools_ofScope, String.append_assoc]

theorem Scope.resolve_scalar_storage (cType value : Piece) :
    (scope.scalar d cType value).storage.resolve r =
      (Pen.ofScope r scope).scalarLine d (r.piece cType) (r.piece value) := by
  delta Pen.scalarLine
  simp [scalar, Fragment.ofStorage, Resolution.text_append, Resolution.piece, String.append_assoc]

theorem Scope.resolve_string_storage (value : String) :
    (scope.string d value).storage.resolve r = (Pen.ofScope r scope).stringLine d value := by
  delta Pen.stringLine
  simp [string, Fragment.ofStorage, Resolution.text_append, Resolution.piece, String.append_assoc]

end Resolved

theorem Pages.foldl_writeRoutine (r : Resolution) (accessors : List Accessor) (pages : Pages) :
    (accessors.map (Accessor.routine r)).foldl writeRoutine pages =
      pages.append ⟨"", r.text (accessors.flatMap Accessor.declaration), "",
        r.text (accessors.flatMap Accessor.definition)⟩ := by
  induction accessors generalizing pages with
  | nil => simp [append]
  | cons accessor rest ih =>
    rw [List.map_cons, List.foldl_cons, ih]
    simp [append, writeRoutine, Accessor.routine, Accessor.declaration, Accessor.definition,
      Resolution.text_append, Resolution.piece, String.append_assoc]

theorem Pages.write_ofStorage (r : Resolution) (storage : List Piece) (accessors : List Accessor)
    (pages : Pages) :
    (accessors.map (Accessor.routine r)).foldl writeRoutine
        (pages.writeVariable ((Fragment.ofStorage storage accessors).storage.resolve r)) =
      pages.append (ofFragments r [.ofStorage storage accessors]) := by
  rw [foldl_writeRoutine, ofFragments_singleton]
  simp [append, writeVariable, Fragment.ofStorage]

namespace Pen

variable (r : Resolution) (scope : Scope) (d : Descriptor)

theorem write_scalar (cType value : Piece) (pages : Pages) :
    ((ofScope r scope).scalarRoutines d (r.piece cType)).foldl .writeRoutine
        (pages.writeVariable
          ((ofScope r scope).scalarLine d (r.piece cType) (r.piece value))) =
      pages.append (.ofFragments r [scope.scalar d cType value]) := by
  rw [← Scope.resolve_scalar_storage, Scope.scalar, ← Pages.write_ofStorage]
  congr 1
  cases access : d.access <;>
    simp [scalarRoutines, access, Scope.routine_scalarGet, Scope.routine_scalarSet]

theorem write_string (value : String) (pages : Pages) :
    ((ofScope r scope).stringRoutines d).foldl .writeRoutine
        (pages.writeVariable ((ofScope r scope).stringLine d value)) =
      pages.append (.ofFragments r [scope.string d value]) := by
  rw [← Scope.resolve_string_storage, Scope.string, ← Pages.write_ofStorage]
  congr 1
  cases access : d.access <;>
    simp [stringRoutines, access, Scope.routine_stringLen, Scope.routine_stringPtr,
      Scope.routine_stringGet, Scope.routine_stringSet]

theorem write_macro (text : String) (pages : Pages) :
    pages.writeMacro ((ofScope r scope).macroLine d text) =
      pages.append (.ofFragments r [scope.macroDefinition d text]) := by
  rw [Pages.ofFragments_singleton]
  delta macroLine
  simp [Pages.append, Pages.writeMacro, Scope.macroDefinition, Scope.qualified,
    ofScope, Resolution.piece, String.append_assoc]

theorem write_eq (pages : Pages) (field : ModuleField) :
    (ofScope r scope).write pages field =
      pages.append (.ofFragments r [field.code scope]) := by
  rw [write, ModuleField.code]
  cases field.content with
  | number cType literal => exact write_scalar r scope _ (.text cType) (.text literal) pages
  | boolean b =>
    have line := write_scalar r scope field.descriptor (.tag .boolType)
      (.tag (if b then .boolTrue else .boolFalse)) pages
    cases b <;> exact line
  | string value => exact write_string r scope _ value pages
  | replacement text => exact write_macro r scope _ text pages

theorem foldl_write_eq (pages : Pages) (fields : List ModuleField) :
    fields.foldl (ofScope r scope).write pages =
      pages.append (.ofFragments r (fields.map (ModuleField.code scope))) := by
  induction fields generalizing pages with
  | nil => simp [Pages.ofFragments]
  | cons field rest ih =>
    rw [List.foldl_cons, write_eq, ih, Pages.append_assoc, ← Pages.ofFragments_append,
      List.singleton_append, List.map_cons]

theorem writeDocument_eq {services : Services} {document : Document} {meanings : List Meaning}
    (read : document.meanings services = .ok meanings) (pages : Pages) :
    (ofScope r scope).writeDocument services pages document =
      .ok (pages.append (.ofFragments r (Meaning.fragments scope meanings))) := by
  induction document generalizing meanings pages with
  | nil =>
    obtain rfl : [] = meanings := Except.ok.inj read
    rw [Meaning.fragments, List.flatMap_nil, Pages.ofFragments, Pages.append_blank]
    rfl
  | cons entry rest ih =>
    obtain ⟨meaning, others, first, more, rfl⟩ := mapM_cons_eq_ok_iff.mp read
    have ended : (pages.append (.ofFragments r (meaning.newFields.map
        (ModuleField.code scope)))).endLine =
        pages.append (.ofFragments r
          (meaning.newFields.map (ModuleField.code scope) ++ [.separator])) := by
      rw [Pages.ofFragments_append, ← Pages.append_assoc, Pages.ofFragments_singleton]
      simp [Pages.endLine, Pages.append, Fragment.separator, Resolution.piece]
    have step : writeEntry services (ofScope r scope) pages entry =
        .ok (pages.append (.ofFragments r
          (meaning.newFields.map (ModuleField.code scope) ++ [.separator]))) := by
      rw [writeEntry, first, ← ended, ← foldl_write_eq]
      rfl
    rw [writeDocument, List.foldlM_cons, step]
    change (ofScope r scope).writeDocument services _ rest = _
    rw [ih more, Pages.append_assoc, ← Pages.ofFragments_append]
    rfl

end Pen

/-- Documents are written down as their code is resolved, if their labels are told in advance. -/
theorem Briefing.writeAll_eq {briefing : Briefing} {naming : NamingStyle} {r : Resolution}
    (bools : briefing.bools = r.bools) {documents : List ServedDocument}
    {meanings : List (List Meaning)}
    (read : documents.mapM ServedDocument.meanings = .ok meanings) (index : Nat)
    (fronts : ∀ i own, meanings[i]? = some own →
      r.tag (.sectionPrefix (index + i)) =
        Session.labelPrefix naming (Meaning.finalLabel own))
    (pages : Pages) :
    briefing.writeAll naming ((meanings.map Meaning.finalLabel).zip documents) pages =
      .ok (pages.append (.ofFragments r (meanings.mapIdx fun i own =>
        Meaning.fragments ⟨naming, index + i⟩ own).flatten)) := by
  induction documents generalizing meanings index pages with
  | nil =>
    obtain rfl : [] = meanings := Except.ok.inj read
    rw [List.mapIdx_nil, List.flatten_nil, Pages.ofFragments, Pages.append_blank]
    rfl
  | cons served rest ih =>
    -- `index` documents are written already, and the tags of the others count on from there.
    obtain ⟨own, others, first, more, rfl⟩ := mapM_cons_eq_ok_iff.mp read
    have pen : briefing.pen naming (Meaning.finalLabel own) =
        Pen.ofScope r ⟨naming, index⟩ := by
      have front := fronts 0 own rfl
      rw [Nat.add_zero] at front
      rw [Briefing.pen, Pen.ofScope, bools, front]
      rfl
    have later : ∀ i next, others[i]? = some next →
        r.tag (.sectionPrefix (index + 1 + i)) =
          Session.labelPrefix naming (Meaning.finalLabel next) := by
      intro i next found
      have front := fronts (i + 1) next found
      rwa [Nat.add_comm i 1, ← Nat.add_assoc] at front
    have shift : (fun i own => Meaning.fragments ⟨naming, index + 1 + i⟩ own) =
        fun i own => Meaning.fragments ⟨naming, index + (i + 1)⟩ own := by
      funext i own
      rw [Nat.add_assoc, Nat.add_comm 1 i]
    rw [writeAll, List.map_cons, List.zip_cons_cons, List.foldlM_cons]
    simp only [pen, Pen.writeDocument_eq r _ first]
    change briefing.writeAll naming ((others.map Meaning.finalLabel).zip rest) _ = _
    rw [ih more (index + 1) later, shift, List.mapIdx_cons, List.flatten_cons,
      Pages.append_assoc, ← Pages.ofFragments_append]
    rfl

namespace Session

section Resolved

variable (settings : Settings) (documents : List (List Meaning))

theorem fragments_ofMeanings :
    (ofMeanings settings documents).fragments =
      (documents.mapIdx fun index own =>
        Meaning.fragments ⟨settings.naming, index⟩ own).flatten := by
  rw [fragments, ofMeanings, List.reverse_reverse, List.flatMap_def]
  congr 1
  apply List.ext_getElem?
  intro index
  rw [List.getElem?_map, List.getElem?_mapIdx, List.getElem?_mapIdx, Option.map_map]
  congr 1
  funext own
  simp [Section.ofMeanings, Section.extend]

theorem fileBase_ofMeanings :
    (ofMeanings settings documents).fileBase =
      (Briefing.ofMeanings settings documents).base := by
  rw [fileBase]
  simp only [ofMeanings, Briefing.ofMeanings]
  cases (Meaning.last? Meaning.baseName? documents.flatten).or settings.baseName with
  | some base => rfl
  | none =>
    rcases List.eq_nil_or_concat documents with rfl | ⟨front, own, rfl⟩
    · rfl
    · simp [List.mapIdx_append, Briefing.labelBase, Section.ofMeanings, Section.extend,
        Meaning.finalLabel, standardBase]

theorem tag_resolution_ofMeanings (index : Nat) (own : List Meaning)
    (found : documents[index]? = some own) :
    ((ofMeanings settings documents).resolution settings).tag (.sectionPrefix index) =
      labelPrefix settings.naming (Meaning.finalLabel own) := by
  simp [resolution, ofMeanings, Resolution.tag, found, Section.ofMeanings, Section.extend,
    Meaning.finalLabel]

end Resolved

theorem text_includeLines (r : Resolution) (files : List String) :
    r.text (includeLines files) = String.join (files.map includeLine) := by
  induction files with
  | nil => rfl
  | cons file rest ih =>
    rw [List.map_cons, String.join_cons, ← ih]
    rfl

theorem resolve_join_fragments (r : Resolution) (code : List Fragment) :
    Pages.ofFragments r code =
      ⟨(Snippet.join (code.map Fragment.macros)).resolve r,
        (Snippet.join (code.map Fragment.declarations)).resolve r,
        (Snippet.join (code.map Fragment.storage)).resolve r,
        (Snippet.join (code.map Fragment.functions)).resolve r⟩ := by
  induction code with
  | nil => rfl
  | cons first rest ih =>
    rw [Pages.ofFragments, ih]
    simp [Pages.append]

theorem resolve_headerCode (s : Session) (r : Resolution) :
    s.headerCode.resolve r =
      "#ifndef " ++ r.headerGuard ++ "\n#define " ++ r.headerGuard ++ "\n\n" ++
        "#include <stdint.h>\n" ++ r.bools.includeLine ++
        String.join (s.headerIncludes.map includeLine) ++ "\n" ++
        (Pages.ofFragments r s.fragments).macros ++
        (Pages.ofFragments r s.fragments).declarations ++
        "\n#endif /* " ++ r.headerGuard ++ " */\n" := by
  have standard : includeLine "<stdint.h>" = "#include <stdint.h>\n" := by decide
  simp only [headerCode, resolve_join_fragments, Snippet.resolve_join_cons,
    Snippet.resolve_join_nil, Snippet.resolve_ofPieces, Resolution.text_append, Resolution.text,
    Resolution.piece, Resolution.tag, text_includeLines, standard, String.append_assoc,
    String.append_empty]

theorem resolve_sourceCode (s : Session) (r : Resolution) :
    s.sourceCode.resolve r =
      "#include \"" ++ r.headerFile ++ "\"\n" ++
        String.join (s.sourceIncludes.map includeLine) ++ "\n" ++
        (Pages.ofFragments r s.fragments).storage ++
        (Pages.ofFragments r s.fragments).functions := by
  simp only [sourceCode, resolve_join_fragments, Snippet.resolve_join_cons,
    Snippet.resolve_join_nil, Snippet.resolve_ofPieces, Resolution.text_append, Resolution.text,
    Resolution.piece, Resolution.tag, text_includeLines, String.append_assoc,
    String.append_empty]

theorem bodies_ofMeanings (settings : Settings) (documents : List (List Meaning)) :
    (ofMeanings settings documents).headerBody settings =
        Text.collapseBlankLines ((Briefing.ofMeanings settings documents).header settings.naming
          (.ofFragments ((ofMeanings settings documents).resolution settings)
            (ofMeanings settings documents).fragments)) ∧
      (ofMeanings settings documents).sourceBody settings =
        Text.collapseBlankLines ((Briefing.ofMeanings settings documents).source settings.naming
          (.ofFragments ((ofMeanings settings documents).resolution settings)
            (ofMeanings settings documents).fragments)) := by
  have guard : ((ofMeanings settings documents).resolution settings).headerGuard =
      settings.naming.headerGuard (Briefing.ofMeanings settings documents).base := by
    rw [← fileBase_ofMeanings]
    rfl
  have file : ((ofMeanings settings documents).resolution settings).headerFile =
      settings.naming.headerFile (Briefing.ofMeanings settings documents).base := by
    rw [← fileBase_ofMeanings]
    rfl
  constructor
  · rw [headerBody, finish, resolve_headerCode, guard]
    rfl
  · rw [sourceBody, finish, resolve_sourceCode, file]
    rfl

/-- A session whose calls are all done renders, tag by tag, the module that a writer puts down in
one pass over the same documents when it is told in advance the last label of each document, the
base name, the storage of booleans and the included files. -/
theorem bodies_eq_generate (settings : Settings) (calls : List ServedCall) (s : Session)
    (completed : performAll settings calls (fresh settings) = .done s) :
    ∃ documents meanings, ServedCall.documentsAfter? [] calls = some documents ∧
      documents.mapM ServedDocument.meanings = .ok meanings ∧
      (Briefing.ofMeanings settings meanings).generate settings.naming documents =
        .ok ⟨s.headerBody settings, s.sourceBody settings⟩ := by
  obtain ⟨documents, meanings, handed, read, rfl, -⟩ := performAll_fresh_eq_done completed
  refine ⟨documents, meanings, handed, read, ?_⟩
  have fronts : ∀ index own, meanings[index]? = some own →
      ((ofMeanings settings meanings).resolution settings).tag (.sectionPrefix (0 + index)) =
        labelPrefix settings.naming (Meaning.finalLabel own) := by
    intro index own found
    rw [Nat.zero_add]
    exact tag_resolution_ofMeanings settings meanings index own found
  have bools : (Briefing.ofMeanings settings meanings).bools =
      ((ofMeanings settings meanings).resolution settings).bools :=
    rfl
  have written := Briefing.writeAll_eq bools read 0 fronts .blank
  simp only [Nat.zero_add, ← fragments_ofMeanings, Pages.blank_append] at written
  obtain ⟨header, source⟩ := bodies_ofMeanings settings meanings
  rw [Briefing.generate, header, source]
  change (Briefing.writeAll _ settings.naming
    ((meanings.map Meaning.finalLabel).zip documents) .blank >>= _) = _
  rw [written]
  rfl

/-- Directives that come after the fields that depend on them, in two documents a minute apart. -/
private def belated : List ServedCall :=
  [⟨.steady "v1" 1700000000,
      .object [("bool:w:Ready", .bool true), ("Date_Time", .bool true),
        ("string:w:Title", .string "a"), ("Section_Prefix", .string "left")]⟩,
    ⟨.steady "v2" 1700000060,
      .value (.array [.object [("bool:Ready", .bool false), ("Section_Prefix", .string "right"),
        ("Date_Time", .bool true), ("Bool_Is_Integer", .bool true),
        ("Include_Header", .array [.string "extra.h"]), ("Module_Name", .string "Board")]])⟩]

theorem bodies_eq_generate_belated :
    ∃ s, performAll (.steady .pascal) belated (fresh (.steady .pascal)) = .done s ∧
      ∃ documents meanings, ServedCall.documentsAfter? [] belated = some documents ∧
        documents.mapM ServedDocument.meanings = .ok meanings ∧
        (Briefing.ofMeanings (.steady .pascal) meanings).generate .pascal documents =
          .ok ⟨s.headerBody (.steady .pascal), s.sourceBody (.steady .pascal)⟩ := by
  have completed :
      (performAll (.steady .pascal) belated (fresh (.steady .pascal))).fault.isNone = true := by
    decide +kernel
  exact ⟨_, Outcome.eq_done completed,
    bodies_eq_generate (.steady .pascal) belated _ (Outcome.eq_done completed)⟩

end Session

end AccessorGen
