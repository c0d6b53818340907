/- Integers in the generated source.
   The source stores every integer field in a line of its own. The number that was checked and the
   text that is written travel apart. C reads the constant of this line as the integer that the
   entry gives, in the range of the type that the line declares, unless the number stands in an
   object of its own: then the object is written for it. -/

import AccessorGen.Proofs.FieldValue
import AccessorGen.Proofs.Module.StorageLines
import AccessorGen.Proofs.Session.Calls
import AccessorGen.Proofs.Text.CInteger

set_option autoImplicit false
set_option relaxedAutoImplicit false

namespace AccessorGen

open Text (CInteger)

structure IntegerType where
  type : FieldType
  cName : String
  least : Int
  greatest : Int
  deriving DecidableEq, Repr

/-- The integer types of C, with the limits that its standard header defines for them. -/
def integerTypes : List IntegerType :=
  [⟨.signed .w8, "int8_t", -128, 127⟩, ⟨.signed .w16, "int16_t", -32768, 32767⟩,
    ⟨.signed .w32, "int32_t", -2147483648, 2147483647⟩,
    ⟨.signed .w64, "int64_t", -9223372036854775808, 9223372036854775807⟩,
    ⟨.unsigned .w8, "uint8_t", 0, 255⟩, ⟨.unsigned .w16, "uint16_t", 0, 65535⟩,
    ⟨.unsigned .w32, "uint32_t", 0, 4294967295⟩,
    ⟨.unsigned .w64, "uint64_t", 0, 18446744073709551615⟩]

theorem FieldType.exists_integerType {type : FieldType} {domain : IntDomain}
    (integer : type.intDomain? = some domain) :
    ∃ row ∈ integerTypes, row.type = type ∧ type.cNumericType? = some row.cName ∧
      domain = ⟨row.least, row.greatest + 1⟩ := by
  cases type with
  | signed width =>
    obtain rfl := Option.some.inj integer
    cases width <;> decide
  | unsigned width =>
    obtain rfl := Option.some.inj integer
    cases width <;> decide
  | _ => cases integer

def numberDeclaration (cType front name text : String) : String :=
  "static " ++ cType ++ " " ++ front ++ name ++ " = " ++ text ++ ";"

theorem Pen.scalarLine_eq (pen : Pen) (d : Descriptor) (cType text : String) :
    pen.scalarLine d cType text =
      numberDeclaration cType pen.front (pen.naming.globalVariable d.name) text ++ "\n" := by
  have ending : ";\n" = ";" ++ "\n" := by decide
  delta scalarLine numberDeclaration
  rw [ending, Pen.storage]
  simp only [String.append_assoc]

theorem newline_not_mem_numberDeclaration {cType front name text : String}
    (plainType : '\n' ∉ cType.toList) (plainFront : '\n' ∉ front.toList)
    (plainName : '\n' ∉ name.toList) (plainText : '\n' ∉ text.toList) :
    '\n' ∉ (numberDeclaration cType front name text).toList := by
  delta numberDeclaration
  simp [plainType, plainFront, plainName, plainText]

theorem numberDeclaration_ne_nil (cType front name text : String) :
    (numberDeclaration cType front name text).toList ≠ [] := by
  delta numberDeclaration
  simp

/-- The integer that an entry gives for a field: its number, the packed number of a version, or the
timestamp of the clock. -/
inductive Entry.Gives (services : Services) (entry : Entry) : CapturedField → Int → Prop
  | number {d : Descriptor} {n : Json.Number} {i : Int}
      (parsed : Descriptor.parse entry.key = .ok d) (stored : d.type ≠ .config)
      (value : entry.value = .number n) (whole : n.int? = some i) :
      Gives services entry ⟨entry.key, d⟩ i
  | version {version : Version} (named : entry.directive? = some .version)
      (value : Version.ofValue entry.value = .ok version) :
      Gives services entry
        ⟨"uint32:Version_Num", ⟨.unsigned .w32, none, .readOnly, "Version_Num", none⟩⟩
        version.packed
  | time {now : LocalTime} (named : entry.directive? = some .dateTime)
      (value : entry.value = .bool true) (clock : services.clock = .ok now) :
      Gives services entry
        ⟨"uint32:Unix_Time", ⟨.unsigned .w32, none, .readOnly, "Unix_Time", none⟩⟩
        now.timestamp

/-- A field that holds a text for an integer of its domain. -/
structure ModuleField.HoldsInteger (field : ModuleField) (domain : IntDomain) (text : String)
    (i : Int) : Prop where
  content : ∃ cType, field.content = .number cType text
  inside : domain.holds i = true

namespace ModuleField

theorem integer_of_check {key : String} {d : Descriptor} {value : Json.Value}
    {literal : Option String} {field : ModuleField} {domain : IntDomain}
    (made : check key d value literal = .ok field)
    (integer : field.descriptor.type.intDomain? = some domain) :
    ∃ n i, value = .number n ∧ n.int? = some i ∧
      field.HoldsInteger domain (literal.getD n.spelling) i := by
  have own : field.descriptor = d := congrArg CapturedField.descriptor (captured_of_check made)
  rw [own] at integer
  obtain ⟨checked, accepted, fits⟩ := bind_eq_ok_iff.mp made
  rw [FieldValue.validate_integer integer] at accepted
  obtain ⟨n, i, rfl, whole, inside, rfl⟩ := FieldValue.checkInteger_eq_ok accepted
  refine ⟨n, i, rfl, whole, ?_, inside⟩
  split at fits
  · rename_i content held
    obtain ⟨cType, -, rfl⟩ := Option.map_eq_some_iff.mp held
    obtain rfl := Except.ok.inj fits
    exact ⟨cType, rfl⟩
  · cases fits

end ModuleField

section Meanings

variable {services : Services} {key : String} {value : Json.Value} {fields : List ModuleField}
  {field : ModuleField} {domain : IntDomain}

private theorem not_integer_of_read {d : Descriptor} {literal : Option String}
    (parsed : Descriptor.parse key = .ok d) (string : d.type = .string)
    (made : ModuleField.read key value literal = .ok field) :
    field.descriptor.type.intDomain? ≠ some domain := by
  have own : field.descriptor = d := congrArg CapturedField.descriptor
    (ModuleField.captured_of_check (ModuleField.check_of_read parsed made))
  rw [own, string]
  intro integer
  cases integer

private theorem holds_of_read {d : Descriptor} {literal : Option String} {i : Int}
    (parsed : Descriptor.parse key = .ok d)
    (made : ModuleField.read key (.number (.ofInt i)) literal = .ok field)
    (integer : field.descriptor.type.intDomain? = some domain) :
    field.captured = ⟨key, d⟩ ∧
      field.HoldsInteger domain (literal.getD (Json.Number.ofInt i).spelling) i := by
  have checked := ModuleField.check_of_read parsed made
  obtain ⟨n, j, same, whole, holds⟩ := ModuleField.integer_of_check checked integer
  obtain rfl := Json.Value.number.inj same
  obtain rfl := Option.some.inj ((Json.Number.int?_ofInt i).symm.trans whole)
  exact ⟨ModuleField.captured_of_check checked, holds⟩

private theorem time_of_meaning
    (read : Directive.dateTime.meaning services key value = .ok (.fields fields))
    (member : field ∈ fields) (integer : field.descriptor.type.intDomain? = some domain) :
    ∃ now, value = .bool true ∧ services.clock = .ok now ∧
      field.captured =
        ⟨"uint32:Unix_Time", ⟨.unsigned .w32, none, .readOnly, "Unix_Time", none⟩⟩ ∧
      field.HoldsInteger domain (Json.Number.ofInt now.timestamp).spelling now.timestamp := by
  obtain ⟨wanted, asked, read⟩ := bind_eq_ok_iff.mp read
  cases wanted with
  | false =>
    obtain rfl := Meaning.fields.inj (Except.ok.inj read)
    cases member
  | true =>
    obtain ⟨now, answered, read⟩ := bind_eq_ok_iff.mp read
    obtain ⟨stamp, madeStamp, read⟩ := bind_eq_ok_iff.mp read
    obtain ⟨text, madeText, read⟩ := bind_eq_ok_iff.mp read
    obtain rfl := Meaning.fields.inj (Except.ok.inj read)
    have clock : services.clock = .ok now := by
      cases known : services.clock with
      | error causes =>
        rw [known] at answered
        cases answered
      | ok own =>
        rw [known] at answered
        simp only [Except.mapError, Except.ok.injEq] at answered
        rw [answered]
    have switched : value = .bool true := by
      cases value with
      | bool b => rw [Except.ok.inj asked]
      | _ => cases asked
    refine ⟨now, switched, clock, ?_⟩
    simp only [List.mem_cons, List.not_mem_nil, or_false] at member
    rcases member with rfl | rfl
    · exact holds_of_read rfl madeStamp integer
    · exact absurd integer (not_integer_of_read rfl rfl madeText)

private theorem version_of_meaning
    (read : Directive.version.meaning services key value = .ok (.fields fields))
    (member : field ∈ fields) (integer : field.descriptor.type.intDomain? = some domain) :
    ∃ version, Version.ofValue value = .ok version ∧
      field.captured =
        ⟨"uint32:Version_Num", ⟨.unsigned .w32, none, .readOnly, "Version_Num", none⟩⟩ ∧
      field.HoldsInteger domain version.packedLiteral version.packed := by
  obtain ⟨version, given, read⟩ := bind_eq_ok_iff.mp read
  obtain ⟨text, madeText, read⟩ := bind_eq_ok_iff.mp read
  obtain ⟨packed, madePacked, read⟩ := bind_eq_ok_iff.mp read
  obtain rfl := Meaning.fields.inj (Except.ok.inj read)
  refine ⟨version, given, ?_⟩
  simp only [List.mem_cons, List.not_mem_nil, or_false] at member
  rcases member with rfl | rfl
  · exact absurd integer (not_integer_of_read rfl rfl madeText)
  · exact holds_of_read rfl madePacked integer

theorem Entry.Spelled.spells_iff {entry : Entry} (spelled : entry.Spelled) {n : Json.Number}
    {i : Int} (number : entry.value = .number n) (whole : n.int? = some i) :
    CInteger.Spells (entry.literal.getD n.spelling).toList i ↔ ¬ entry.Bracketed := by
  have own : CInteger.Spells n.spelling.toList i := by
    rw [Json.Number.spelling, String.toList_ofList]
    exact CInteger.spells_number whole
  constructor
  · rintro spells ⟨literal, given, brace⟩
    rw [Option.mem_def.mp given, Option.getD_some] at spells
    exact spells.not_brace brace
  · intro bare
    rcases spelled.number n number with none | same | bracketed
    · rw [none, Option.getD_none]
      exact own
    · rw [same, Option.getD_some]
      exact own
    · exact absurd bracketed bare

/-- An entry gives the integer of every integer field that it adds. The field holds a constant for
it, unless the number stands in an object. -/
theorem Entry.gives_of_meaning {entry : Entry} (spelled : entry.Spelled)
    (read : entry.meaning services = .ok (.fields fields)) (member : field ∈ fields)
    (integer : field.descriptor.type.intDomain? = some domain) :
    ∃ i text, entry.Gives services field.captured i ∧ field.HoldsInteger domain text i ∧
      (CInteger.Spells text.toList i ↔ ¬ entry.Bracketed) := by
  have constant : ∀ {text : String} {i : Int}, (∀ n, entry.value ≠ .number n) →
      CInteger.Spells text.toList i → (CInteger.Spells text.toList i ↔ ¬ entry.Bracketed) :=
    fun other spells => iff_of_true spells (not_bracketed_of_literal (spelled.other other))
  obtain ⟨d, parsed, read⟩ := bind_eq_ok_iff.mp read
  split at read
  · rename_i config
    split at read
    · cases read
    · rename_i directive known
      have named : entry.directive? = some directive := by
        rw [directive?, parsed]
        simp only [config, if_true, known]
      cases directive with
      | gitRepository =>
        obtain ⟨repository, -, read⟩ := bind_eq_ok_iff.mp read
        obtain ⟨revision, -, read⟩ := bind_eq_ok_iff.mp read
        obtain ⟨own, made, read⟩ := bind_eq_ok_iff.mp read
        obtain rfl := Meaning.fields.inj (Except.ok.inj read)
        obtain rfl := List.mem_singleton.mp member
        exact absurd integer (not_integer_of_read rfl rfl made)
      | dateTime =>
        obtain ⟨now, switched, clock, captured, holds⟩ := time_of_meaning read member integer
        refine ⟨now.timestamp, _, captured ▸ .time named switched clock, holds, constant ?_ ?_⟩
        · intro n number
          cases switched.symm.trans number
        · rw [Json.Number.spelling, String.toList_ofList]
          exact Json.Number.spells_ofInt now.timestamp
      | version =>
        obtain ⟨version, given, captured, holds⟩ := version_of_meaning read member integer
        refine ⟨version.packed, _, captured ▸ .version named given, holds,
          constant ?_ version.spells_packedLiteral⟩
        intro n number
        rw [number] at given
        cases given
      | _ =>
        obtain ⟨_, -, read⟩ := bind_eq_ok_iff.mp read
        cases read
  · rename_i stored
    obtain ⟨own, made, read⟩ := bind_eq_ok_iff.mp read
    obtain rfl := Meaning.fields.inj (Except.ok.inj read)
    obtain rfl := List.mem_singleton.mp member
    obtain ⟨n, i, number, whole, holds⟩ := ModuleField.integer_of_check made integer
    refine ⟨i, _, ?_, holds, spelled.spells_iff number whole⟩
    rw [ModuleField.captured_of_check made]
    exact .number parsed stored number whole

end Meanings

namespace Session

/-- The source stores an integer in a line of its own, under the label of its section. C reads the
constant of the line as this integer, and the type of the line has it in its range. -/
def StoresInteger (settings : Settings) (s : Session) (label : String) (field : CapturedField)
    (i : Int) : Prop :=
  ∃ row ∈ integerTypes, ∃ text : String, row.type = field.descriptor.type ∧
    (numberDeclaration row.cName (labelPrefix settings.naming label)
        (settings.naming.globalVariable field.descriptor.name) text).toList ∈
      Text.splitOn '\n' (s.sourceBody settings).toList ∧
    CInteger.Spells text.toList i ∧ row.least ≤ i ∧ i ≤ row.greatest

/-- A section holds the code of an integer field, with a text as its initialiser. -/
def Initialises (scope : Scope) (sec : Section) (field : CapturedField) (text : String) : Prop :=
  ∃ row ∈ integerTypes, row.type = field.descriptor.type ∧
    scope.scalar field.descriptor (.text row.cName) (.text text) ∈ sec.fragments.toList

section ClosedForm

variable {settings : Settings} {index : Nat} {own : List Meaning} {field : ModuleField}
  {domain : IntDomain} {text : String} {i : Int}

private theorem exists_row (sound : field.Sound)
    (integer : field.descriptor.type.intDomain? = some domain)
    (holds : field.HoldsInteger domain text i) :
    ∃ row ∈ integerTypes, row.type = field.descriptor.type ∧
      field.content = .number row.cName text ∧ row.least ≤ i ∧ i ≤ row.greatest := by
  obtain ⟨cType, content⟩ := holds.content
  obtain ⟨row, listed, type, named, rfl⟩ := FieldType.exists_integerType integer
  have inside := holds.inside
  rw [IntDomain.holds, Bool.and_eq_true, decide_eq_true_eq, decide_eq_true_eq] at inside
  have fits := sound.fits
  rw [content] at fits
  obtain rfl : cType = row.cName := Option.some.inj (fits.symm.trans named)
  exact ⟨row, listed, type, content, inside.1, Int.le_of_lt_add_one inside.2⟩

theorem initialises_ofMeanings (scope : Scope) (member : field ∈ Meaning.allFields own)
    (sound : field.Sound) (integer : field.descriptor.type.intDomain? = some domain)
    (holds : field.HoldsInteger domain text i) :
    Initialises scope (Section.ofMeanings scope own) field.captured text := by
  obtain ⟨row, listed, type, content, -⟩ := exists_row sound integer holds
  obtain ⟨meaning, inside, new⟩ := List.mem_flatMap.mp member
  refine ⟨row, listed, type, ?_⟩
  have code : field.code scope = scope.scalar field.descriptor (.text row.cName) (.text text) := by
    rw [ModuleField.code, content, Scope.code]
  simp only [Section.ofMeanings, Section.extend, Array.toList_append, List.nil_append]
  refine List.mem_flatMap.mpr ⟨meaning, inside, List.mem_append_left _ ?_⟩
  rw [ModuleField.captured, ← code]
  exact List.mem_map_of_mem new

theorem storesInteger_ofMeanings {meanings : List (List Meaning)}
    (found : meanings[index]? = some own) (member : field ∈ Meaning.allFields own)
    (sound : field.Sound) (integer : field.descriptor.type.intDomain? = some domain)
    (holds : field.HoldsInteger domain text i) (spells : CInteger.Spells text.toList i) :
    (ofMeanings settings meanings).StoresInteger settings (Meaning.finalLabel own) field.captured
      i := by
  obtain ⟨row, listed, type, content, least, greatest⟩ := exists_row sound integer holds
  have plainType : ∀ row ∈ integerTypes, '\n' ∉ row.cName.toList := by
    decide
  have written : (field.code ⟨settings.naming, index⟩).storage.resolve
      ((ofMeanings settings meanings).resolution settings) =
      numberDeclaration row.cName (labelPrefix settings.naming (Meaning.finalLabel own))
        (settings.naming.globalVariable field.descriptor.name) text ++ "\n" := by
    rw [← tag_resolution_ofMeanings settings meanings index own found, ModuleField.code, content,
      Scope.code, Scope.resolve_scalar_storage, Pen.scalarLine_eq]
    rfl
  have oneLine := newline_not_mem_numberDeclaration (plainType row listed)
    (unbroken_labelPrefix settings.naming (Meaning.finalLabel own)).newline_not_mem
    (settings.naming.newline_not_mem_globalVariable sound.parsed) spells.newline_not_mem
  have line := storageLine_mem_sourceBody found member written
    (numberDeclaration_ne_nil _ _ _ _) oneLine
  exact ⟨row, listed, text, type, line, spells, least, greatest⟩

end ClosedForm

/-- In a session whose calls are all done, the fields of each document are those of its entries in
order. An integer field among them is initialised by a text that C reads as the integer that the
entry gives, exactly if the number does not stand in an object of the text. Then the source stores
the integer. -/
theorem integer_initialisers_denote_values (settings : Settings) (calls : List ServedCall)
    (s : Session) (completed : performAll settings calls (fresh settings) = .done s) :
    ∃ documents, ServedCall.documentsAfter? [] calls = some documents ∧
      ∀ (index : Nat) (sec : Section), s.sections.reverse[index]? = some sec →
        ∃ served parts, documents[index]? = some served ∧ sec.fields.toList = parts.flatten ∧
          List.Forall₂ (fun entry fields => ∀ field ∈ fields,
              field.descriptor.type.intDomain?.isSome = true →
                ∃ i text, entry.Gives served.services field i ∧
                  Initialises ⟨settings.naming, index⟩ sec field text ∧
                  (CInteger.Spells text.toList i ↔ ¬ entry.Bracketed) ∧
                  (¬ entry.Bracketed → s.StoresInteger settings sec.label field i))
            served.document parts := by
  obtain ⟨documents, meanings, handed, read, rfl, -⟩ := performAll_fresh_eq_done completed
  have known := ServedCall.spelled_of_documentsAfter? (by simp) handed
  refine ⟨documents, handed, ?_⟩
  intro index sec place
  simp only [ofMeanings, List.reverse_reverse, List.getElem?_mapIdx] at place
  obtain ⟨own, found, rfl⟩ := Option.map_eq_some_iff.mp place
  obtain ⟨served, among, meant⟩ := getElem?_of_forall₂ (mapM_eq_ok_iff.mp read) found
  refine ⟨served, own.map fun meaning => meaning.newFields.map ModuleField.captured, among, ?_, ?_⟩
  · have added : (Meaning.allFields own).map ModuleField.captured =
        (own.map fun meaning => meaning.newFields.map ModuleField.captured).flatten := by
      rw [Meaning.allFields, List.map_flatMap, List.flatMap_def]
    rw [← added]
    simp [Section.ofMeanings, Section.extend]
  · rw [List.forall₂_map_right_iff]
    refine forall₂_of_mem (mapM_eq_ok_iff.mp meant) fun entry inside meaning listed asks => ?_
    intro captured member integer
    obtain ⟨field, new, rfl⟩ := List.mem_map.mp member
    obtain ⟨domain, integer⟩ := Option.isSome_iff_exists.mp integer
    have all : field ∈ Meaning.allFields own := List.mem_flatMap.mpr ⟨meaning, listed, new⟩
    have sound := Document.sound_of_meanings meant field all
    cases meaning with
    | fields fields =>
      have spelled := known served (List.mem_of_getElem? among) entry inside
      obtain ⟨i, text, gives, holds, constant⟩ :=
        Entry.gives_of_meaning spelled asks new integer
      refine ⟨i, text, gives, initialises_ofMeanings _ all sound integer holds, constant,
        fun bare => ?_⟩
      exact storesInteger_ofMeanings found all sound integer holds (constant.mpr bare)
    | _ => cases new

/-- A text with a negative zero and the least of all integers, then an object whose fields come from
a number, a version and the clock, and whose label comes last. -/
private def integerCalls : List ServedCall :=
  [⟨.steady "v1" 1700000000,
      .text "\x7b \"int8:Zero\" : -0 , \"int64:w:Low\" : -9223372036854775808\n \x7d"⟩,
    ⟨.steady "v1" 1700000000,
      .object [("uint16:Port", .number (.ofInt 65535)),
        ("Version", .array [.number (.ofInt 1), .number (.ofInt 171), .number (.ofInt 0),
          .string "", .string ""]),
        ("Date_Time", .bool true), ("Section_Prefix", .string "net")]⟩]

theorem integer_initialisers_denote_values_mixed :
    ∃ s sec, performAll (.steady .pascal) integerCalls (fresh (.steady .pascal)) = .done s ∧
      s.sections.reverse[1]? = some sec ∧
      sec.fields.toList.map CapturedField.key = ["uint16:Port", "string:Version_Str",
        "uint32:Version_Num", "uint32:Unix_Time", "string:Time_Str"] ∧
      ∀ field ∈ sec.fields.toList, field.descriptor.type.intDomain?.isSome = true →
        ∃ i, s.StoresInteger (.steady .pascal) sec.label field i := by
  have completed : (performAll (.steady .pascal) integerCalls
      (fresh (.steady .pascal))).fault.isNone = true := by
    decide +kernel
  have captured : ((performAll (.steady .pascal) integerCalls
      (fresh (.steady .pascal))).session.sections.reverse[1]?.map fun sec =>
        sec.fields.toList.map CapturedField.key) = some ["uint16:Port", "string:Version_Str",
          "uint32:Version_Num", "uint32:Unix_Time", "string:Time_Str"] := by
    decide +kernel
  obtain ⟨documents, handed, stored⟩ := integer_initialisers_denote_values (.steady .pascal)
    integerCalls _ (Outcome.eq_done completed)
  obtain ⟨sec, place, keys⟩ := Option.map_eq_some_iff.mp captured
  obtain ⟨served, parts, given, fields, related⟩ := stored 1 sec place
  have bare : ∀ entry ∈ served.document, ¬ entry.Bracketed := by
    have evaluated : ((ServedCall.documentsAfter? [] integerCalls).bind fun documents =>
        documents[1]?.map fun served => served.document.all fun entry =>
          entry.literal.isNone) = some true := by
      decide +kernel
    rw [handed, Option.bind_some, given, Option.map_some, Option.some.injEq,
      List.all_eq_true] at evaluated
    intro entry inside
    exact Entry.not_bracketed_of_literal (Option.isNone_iff_eq_none.mp (evaluated entry inside))
  refine ⟨_, sec, Outcome.eq_done completed, place, keys, ?_⟩
  intro field member integer
  rw [fields] at member
  obtain ⟨own, listed, inside⟩ := List.mem_flatten.mp member
  obtain ⟨entry, among, gives⟩ := exists_mem_of_forall₂ related listed
  obtain ⟨i, text, -, -, -, stores⟩ := gives field inside integer
  exact ⟨i, stores (bare entry among)⟩

/-- An object for the number five. -/
private def boxedFive : String :=
  "\x7b\"$serde_json::private::Number\": \"5\"\x7d"

private def boxedCall : Call :=
  .text ("\x7b\"int8:A\": " ++ boxedFive ++ "\x7d")

/-- The call is accepted, and the object is the initialiser of the field. It is no constant. -/
theorem integer_initialiser_is_object :
    ∃ s, performAll (.steady .pascal) [⟨.steady "v1" 1700000000, boxedCall⟩]
        (fresh (.steady .pascal)) = .done s ∧
      (numberDeclaration "int8_t" "" "A" boxedFive).toList ∈
        Text.splitOn '\n' (s.sourceBody (.steady .pascal)).toList ∧
      (∃ entry n, boxedCall.documents? = some [[entry]] ∧ entry.key = "int8:A" ∧
        entry.value = .number n ∧ n.int? = some 5) ∧
      CInteger.read? boxedFive.toList = none := by
  have accepted : (performAll (.steady .pascal) [⟨.steady "v1" 1700000000, boxedCall⟩]
      (fresh (.steady .pascal))).fault.isNone = true := by
    decide +kernel
  refine ⟨_, Outcome.eq_done accepted, by decide +kernel, ?_, by decide⟩
  exact ⟨⟨"int8:A", .number (.ofInt 5), some boxedFive⟩, .ofInt 5, rfl, rfl, rfl, rfl⟩

end Session

end AccessorGen
