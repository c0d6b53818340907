/- Strings in the generated source.
   The source stores every string field in a line of its own, and a C compiler that reads this line
   gets the bytes of the string back. -/

import AccessorGen.Proofs.Module.StorageLines
import AccessorGen.Proofs.Text.CLiteral

set_option autoImplicit false
set_option relaxedAutoImplicit false

namespace AccessorGen

def stringDeclaration (front name size body : String) : String :=
  "static char " ++ front ++ name ++ "[" ++ size ++ "] = \"" ++ body ++ "\";"

private theorem newline_not_mem_stringDeclaration {front name size body : String}
    (plainFront : '\n' ∉ front.toList) (plainName : '\n' ∉ name.toList)
    (plainSize : '\n' ∉ size.toList) (plainBody : '\n' ∉ body.toList) :
    '\n' ∉ (stringDeclaration front name size body).toList := by
  delta stringDeclaration
  simp [plainFront, plainName, plainSize, plainBody]

private theorem stringDeclaration_ne_nil (front name size body : String) :
    (stringDeclaration front name size body).toList ≠ [] := by
  delta stringDeclaration
  simp

private theorem Pen.stringLine_eq (pen : Pen) (d : Descriptor) (value : String) :
    pen.stringLine d value =
      stringDeclaration pen.front (pen.naming.globalVariable d.name) (Scope.sizeText d.size)
        (Text.CLiteral.encode value) ++ "\n" := by
  have ending : "\";\n" = "\";" ++ "\n" := by decide
  delta stringLine stringDeclaration
  rw [ending, Pen.storage]
  simp only [String.append_assoc]

namespace Session

theorem stringDeclaration_mem_sourceBody {settings : Settings} {meanings : List (List Meaning)}
    {index : Nat} {own : List Meaning} {field : ModuleField}
    (found : meanings[index]? = some own) (member : field ∈ Meaning.allFields own)
    (parsed : Descriptor.parse field.key = .ok field.descriptor) {value : String}
    (content : field.content = .string value) :
    (stringDeclaration (labelPrefix settings.naming (Meaning.finalLabel own))
        (settings.naming.globalVariable field.descriptor.name)
        (Scope.sizeText field.descriptor.size) (Text.CLiteral.encode value)).toList ∈
      Text.splitOn '\n' ((ofMeanings settings meanings).sourceBody settings).toList := by
  have written : (field.code ⟨settings.naming, index⟩).storage.resolve
      ((ofMeanings settings meanings).resolution settings) =
      stringDeclaration (labelPrefix settings.naming (Meaning.finalLabel own))
        (settings.naming.globalVariable field.descriptor.name)
        (Scope.sizeText field.descriptor.size) (Text.CLiteral.encode value) ++ "\n" := by
    rw [← tag_resolution_ofMeanings settings meanings index own found, ModuleField.code, content,
      Scope.code, Scope.resolve_string_storage, Pen.stringLine_eq]
    rfl
  have body : '\n' ∉ (Text.CLiteral.encode value).toList := fun inside =>
    (Text.CLiteral.ne_of_mem_encode inside).1 rfl
  have oneLine := newline_not_mem_stringDeclaration
    (unbroken_labelPrefix settings.naming (Meaning.finalLabel own)).newline_not_mem
    (settings.naming.newline_not_mem_globalVariable parsed)
    (Scope.newline_not_mem_sizeText field.descriptor.size) body
  exact storageLine_mem_sourceBody found member written (stringDeclaration_ne_nil _ _ _ _) oneLine

/-- In a session whose calls are all done, every string field is stored in a line of the source,
under the final label of its document. What this line holds between its quotes has neither quotes
that are not escaped nor line breaks, and C reads it as the bytes of the string. -/
theorem strings_survive_in_source (settings : Settings) (calls : List ServedCall) (s : Session)
    (completed : performAll settings calls (fresh settings) = .done s) :
    ∃ documents meanings, ServedCall.documentsAfter? [] calls = some documents ∧
      documents.mapM ServedDocument.meanings = .ok meanings ∧
      ∀ (index : Nat) (sec : Section), s.sections.reverse[index]? = some sec →
        ∃ own, meanings[index]? = some own ∧
          sec.fields.toList = (Meaning.allFields own).map ModuleField.captured ∧
          ∀ field ∈ Meaning.allFields own, field.descriptor.type = .string →
            ∃ value body, field.content = .string value ∧
              (stringDeclaration (labelPrefix settings.naming sec.label)
                  (settings.naming.globalVariable field.descriptor.name)
                  (Scope.sizeText field.descriptor.size) body).toList ∈
                Text.splitOn '\n' (s.sourceBody settings).toList ∧
              Text.CLiteral.hasBareQuote body.toList = false ∧
              '\n' ∉ body.toList ∧ '\r' ∉ body.toList ∧
              Text.CLiteral.decode body.toList = some value.toUTF8.data.toList := by
  obtain ⟨documents, meanings, handed, read, rfl, -⟩ := performAll_fresh_eq_done completed
  refine ⟨documents, meanings, handed, read, ?_⟩
  intro index sec place
  simp only [ofMeanings, List.reverse_reverse, List.getElem?_mapIdx] at place
  obtain ⟨own, found, rfl⟩ := Option.map_eq_some_iff.mp place
  refine ⟨own, found, by simp [Section.ofMeanings, Section.extend], ?_⟩
  intro field member type
  obtain ⟨served, -, meant⟩ := exists_of_mem_mapM read (List.mem_of_getElem? found)
  have sound := Document.sound_of_meanings meant field member
  obtain ⟨value, content⟩ := sound.exists_string type
  exact ⟨value, Text.CLiteral.encode value, content,
    stringDeclaration_mem_sourceBody found member sound.parsed content,
    Text.CLiteral.hasBareQuote_encode value,
    fun inside => (Text.CLiteral.ne_of_mem_encode inside).1 rfl,
    fun inside => (Text.CLiteral.ne_of_mem_encode inside).2 rfl,
    Text.CLiteral.decode_encode value⟩

/-- A string with a control character before a digit, a placeholder, quotes and blank lines, in a
document whose label comes last. -/
private def awkward : List ServedCall :=
  [⟨.steady "v1" 1700000000,
    .object [("string[64]:w:My_Text", .string "\x0017\x24\x7bprefix\x7d\\\"\n\n\n\r\u00e9"),
      ("Section_Prefix", .string "a b")]⟩]

theorem strings_survive_in_source_awkward :
    ∃ s sec field value body,
      performAll (.steady .snake) awkward (fresh (.steady .snake)) = .done s ∧
      s.sections.reverse[0]? = some sec ∧ field ∈ sec.fields.toList ∧
      (stringDeclaration (labelPrefix .snake sec.label)
          (NamingStyle.snake.globalVariable field.descriptor.name)
          (Scope.sizeText field.descriptor.size) body).toList ∈
        Text.splitOn '\n' (s.sourceBody (.steady .snake)).toList ∧
      Text.CLiteral.decode body.toList = some (String.toUTF8 value).data.toList := by
  have completed :
      (performAll (.steady .snake) awkward (fresh (.steady .snake))).fault.isNone = true := by
    decide +kernel
  have stored : ((performAll (.steady .snake) awkward
      (fresh (.steady .snake))).session.sections.reverse[0]?.map fun sec =>
        sec.fields.toList.map fun field => field.descriptor.type) = some [.string] := by
    decide +kernel
  obtain ⟨documents, meanings, -, -, lines⟩ :=
    strings_survive_in_source (.steady .snake) awkward _ (Outcome.eq_done completed)
  obtain ⟨sec, place, types⟩ := Option.map_eq_some_iff.mp stored
  obtain ⟨own, -, fields, strings⟩ := lines 0 sec place
  rw [fields, List.map_map] at types
  obtain ⟨field, member, type⟩ := List.mem_map.mp (types ▸ List.mem_singleton_self FieldType.string)
  obtain ⟨value, body, -, line, -, -, -, bytes⟩ := strings field member type
  refine ⟨_, sec, field.captured, value, body, Outcome.eq_done completed, place, ?_, line, bytes⟩
  rw [fields]
  exact List.mem_map_of_mem member

end Session

end AccessorGen
