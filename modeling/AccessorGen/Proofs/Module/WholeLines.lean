/- Code in whole lines.
   Whatever a field adds to a part of the module, it adds whole lines, and so does the separator
   behind every entry. -/

import AccessorGen.Proofs.Module.Deferral
import AccessorGen.Proofs.Text.BlankLines

set_option autoImplicit false
set_option relaxedAutoImplicit false

namespace AccessorGen

/-- Pages whose parts are all made of whole lines. -/
structure Pages.FillLines (pages : Pages) : Prop where
  macros : EndsLine pages.macros
  declarations : EndsLine pages.declarations
  storage : EndsLine pages.storage
  functions : EndsLine pages.functions

namespace Pages

theorem fillLines_blank : blank.FillLines :=
  ⟨endsLine_empty, endsLine_empty, endsLine_empty, endsLine_empty⟩

theorem FillLines.append {front back : Pages} (first : front.FillLines)
    (second : back.FillLines) : (front.append back).FillLines :=
  ⟨first.macros.append second.macros, first.declarations.append second.declarations,
    first.storage.append second.storage, first.functions.append second.functions⟩

theorem FillLines.writeMacro {pages : Pages} (filled : pages.FillLines) {line : String}
    (ended : EndsLine line) : (pages.writeMacro line).FillLines :=
  { filled with macros := filled.macros.append ended }

theorem FillLines.writeVariable {pages : Pages} (filled : pages.FillLines) {line : String}
    (ended : EndsLine line) : (pages.writeVariable line).FillLines :=
  { filled with storage := filled.storage.append ended }

theorem FillLines.writeRoutine {pages : Pages} (filled : pages.FillLines) (routine : Routine) :
    (pages.writeRoutine routine).FillLines := by
  have declared : ∃ rest, ";\n" = rest ++ "\n" := ⟨";", by decide⟩
  have closed : ∃ rest, "\x7d\n" = rest ++ "\n" := ⟨"\x7d", by decide⟩
  exact { filled with
    declarations := endsLine_of_append _ declared
    functions := endsLine_of_append _ closed }

theorem FillLines.foldl_writeRoutine {pages : Pages} (filled : pages.FillLines)
    (routines : List Routine) : (routines.foldl Pages.writeRoutine pages).FillLines := by
  induction routines generalizing pages with
  | nil => exact filled
  | cons routine rest ih => exact ih (filled.writeRoutine routine)

end Pages

theorem Pen.endsLine_scalarLine (pen : Pen) (d : Descriptor) (cType value : String) :
    EndsLine (pen.scalarLine d cType value) :=
  endsLine_of_append _ ⟨";", by decide⟩

theorem Pen.endsLine_stringLine (pen : Pen) (d : Descriptor) (value : String) :
    EndsLine (pen.stringLine d value) :=
  endsLine_of_append _ ⟨"\";", by decide⟩

theorem Pen.endsLine_macroLine (pen : Pen) (d : Descriptor) (replacement : String) :
    EndsLine (pen.macroLine d replacement) :=
  .inr ⟨_, rfl⟩

theorem Pen.fillLines_write (pen : Pen) {pages : Pages} (filled : pages.FillLines)
    (field : ModuleField) : (pen.write pages field).FillLines := by
  rw [write]
  cases field.content with
  | number cType literal =>
    exact (filled.writeVariable (pen.endsLine_scalarLine _ _ _)).foldl_writeRoutine _
  | boolean b =>
    exact (filled.writeVariable (pen.endsLine_scalarLine _ _ _)).foldl_writeRoutine _
  | string value =>
    exact (filled.writeVariable (pen.endsLine_stringLine _ _)).foldl_writeRoutine _
  | replacement text => exact filled.writeMacro (pen.endsLine_macroLine _ _)

theorem ModuleField.ofFragments_code (r : Resolution) (scope : Scope) (field : ModuleField) :
    Pages.ofFragments r [field.code scope] = (Pen.ofScope r scope).write .blank field := by
  rw [Pen.write_eq, Pages.blank_append]

theorem ModuleField.fillLines_code (r : Resolution) (scope : Scope) (field : ModuleField) :
    (Pages.ofFragments r [field.code scope]).FillLines := by
  rw [ofFragments_code]
  exact (Pen.ofScope r scope).fillLines_write Pages.fillLines_blank field

theorem Pages.ofFragments_separator (r : Resolution) :
    ofFragments r [.separator] = ⟨"\n", "\n", "\n", "\n"⟩ :=
  rfl

theorem Pages.fillLines_separator (r : Resolution) : (ofFragments r [.separator]).FillLines := by
  have newline : EndsLine "\n" := .inr ⟨"", rfl⟩
  exact ⟨newline, newline, newline, newline⟩

/-- Code in which every fragment fills whole lines fills whole lines. -/
theorem Pages.fillLines_ofFragments (r : Resolution) {code : List Fragment}
    (filled : ∀ fragment ∈ code, (ofFragments r [fragment]).FillLines) :
    (ofFragments r code).FillLines := by
  induction code with
  | nil => exact fillLines_blank
  | cons first rest ih =>
    have head := filled first List.mem_cons_self
    have tail := ih fun fragment member => filled fragment (List.mem_cons_of_mem first member)
    rw [← List.singleton_append, ofFragments_append]
    exact head.append tail

theorem Meaning.fillLines_fragments (r : Resolution) (scope : Scope) (meanings : List Meaning) :
    ∀ code ∈ Meaning.fragments scope meanings, (Pages.ofFragments r [code]).FillLines := by
  intro code member
  obtain ⟨meaning, -, inside⟩ := List.mem_flatMap.mp member
  rcases List.mem_append.mp inside with own | separator
  · obtain ⟨field, -, rfl⟩ := List.mem_map.mp own
    exact field.fillLines_code r scope
  · obtain rfl := List.mem_singleton.mp separator
    exact Pages.fillLines_separator r

theorem Session.endsLine_includeLine (file : String) : EndsLine (includeLine file) := by
  rw [includeLine]
  split
  · exact endsLine_of_append _ ⟨"", by decide⟩
  · exact endsLine_of_append _ ⟨"\"", by decide⟩

theorem Session.endsLine_join_includeLine (files : List String) :
    EndsLine (String.join (files.map includeLine)) := by
  apply EndsLine.join
  intro line member
  obtain ⟨file, -, rfl⟩ := List.mem_map.mp member
  exact endsLine_includeLine file

theorem BoolStorage.endsLine_includeLine (storage : BoolStorage) :
    EndsLine storage.includeLine := by
  cases storage with
  | native => exact .inr ⟨"#include <stdbool.h>", by decide⟩
  | integer => exact endsLine_empty

end AccessorGen
