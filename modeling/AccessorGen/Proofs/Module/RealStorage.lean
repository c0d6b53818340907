/- Real numbers in the generated source.
   The source stores every real field in a line of its own, with the number spelled as it was given,
   unless it stands in an object. C reads this spelling as a constant of exactly the same value.
   What the variable holds in the end depends on the type of the constant: an integer constant may
   be too long for any type, or lose its minus sign, and a floating constant is rounded to `double`
   before it becomes a `float`. -/

import AccessorGen.Proofs.Module.AppendOnly
import AccessorGen.Proofs.Module.IntegerStorage
import AccessorGen.Proofs.Module.Signatures
import AccessorGen.Proofs.RealConversion

set_option autoImplicit false
set_option relaxedAutoImplicit false

namespace AccessorGen

open Text (CNumber MarksReal)

namespace ModuleField

theorem real_of_check {key : String} {d : Descriptor} {value : Json.Value}
    {literal : Option String} {field : ModuleField} {format : RealFormat}
    (made : check key d value literal = .ok field) (real : d.type.realFormat? = some format) :
    ∃ n cType, value = .number n ∧ format.admits (.ofNumber n) = true ∧
      field = ⟨key, d, .number cType (literal.getD n.normal.spelling)⟩ := by
  obtain ⟨checked, accepted, fits⟩ := bind_eq_ok_iff.mp made
  obtain ⟨n, number, admitted, rfl⟩ : ∃ n, value = .number n ∧
      format.admits (.ofNumber n) = true ∧
      checked = .real (literal.getD n.normal.spelling) := by
    unfold FieldValue.validate at accepted
    cases type : d.type with
    | float =>
      rw [type] at accepted real
      obtain rfl := Option.some.inj real
      exact FieldValue.checkReal_eq_ok accepted
    | double =>
      rw [type] at accepted real
      obtain rfl := Option.some.inj real
      exact FieldValue.checkReal_eq_ok accepted
    | _ =>
      rw [type] at real
      cases real
  split at fits
  · rename_i content held
    obtain ⟨cType, -, rfl⟩ := Option.map_eq_some_iff.mp held
    obtain rfl := Except.ok.inj fits
    exact ⟨n, cType, number, admitted, rfl⟩
  · cases fits

end ModuleField

namespace Entry

theorem check_of_meaning {services : Services} {entry : Entry} {meaning : Meaning} {d : Descriptor}
    {format : RealFormat} (read : entry.meaning services = .ok meaning)
    (parsed : Descriptor.parse entry.key = .ok d) (real : d.type.realFormat? = some format) :
    ∃ field, meaning = .fields [field] ∧
      ModuleField.check entry.key d entry.value entry.literal = .ok field := by
  have stored : d.type ≠ .config := by
    intro config
    rw [config] at real
    cases real
  obtain ⟨own, same, read⟩ := bind_eq_ok_iff.mp read
  obtain rfl := Except.ok.inj (parsed.symm.trans same)
  rw [if_neg stored] at read
  obtain ⟨field, made, read⟩ := bind_eq_ok_iff.mp read
  exact ⟨field, (Except.ok.inj read).symm, made⟩

section Bare

variable {entry : Entry} {n : Json.Number}

private theorem Spelled.eq_or_eq (spelled : entry.Spelled) (bare : ¬ entry.Bracketed)
    (number : entry.value = .number n) :
    entry.literal.getD n.normal.spelling = n.normal.spelling ∨
      entry.literal.getD n.normal.spelling = n.spelling := by
  rcases spelled.number n number with none | same | bracketed
  · exact .inl (by rw [none, Option.getD_none])
  · exact .inr (by rw [same, Option.getD_some])
  · exact absurd bracketed bare

theorem Spelled.exists_read? (spelled : entry.Spelled) (bare : ¬ entry.Bracketed)
    (number : entry.value = .number n) :
    ∃ constant, CNumber.read? (entry.literal.getD n.normal.spelling).toList = some constant ∧
      constant.Follows (entry.literal.getD n.normal.spelling).toList ∧
      constant.value = n.rational := by
  rcases spelled.eq_or_eq bare number with same | same
  · obtain ⟨constant, read, follows, value⟩ := CNumber.exists_read?_number n.normal
    rw [same, Json.Number.spelling, String.toList_ofList]
    exact ⟨constant, read, follows, value.trans n.rational_normal⟩
  · rw [same, Json.Number.spelling, String.toList_ofList]
    exact CNumber.exists_read?_number n

theorem Spelled.newline_not_mem (spelled : entry.Spelled) (bare : ¬ entry.Bracketed)
    (number : entry.value = .number n) :
    '\n' ∉ (entry.literal.getD n.normal.spelling).toList := by
  rcases spelled.eq_or_eq bare number with same | same
  · rw [same]
    exact n.normal.newline_not_mem_spelling
  · rw [same]
    exact n.newline_not_mem_spelling

end Bare

end Entry

namespace Session

theorem sections_of_processDocuments {settings : Settings} {documents : List Document}
    {t s : Session} (run : processDocuments settings documents t = .done s) :
    t.Extends s ∧ ∀ (index : Nat) (document : Document), documents[index]? = some document →
      ∃ meanings, document.meanings settings.services = .ok meanings ∧
        s.sections.reverse[t.sections.length + index]? =
          some (Section.ofMeanings ⟨settings.naming, t.sections.length + index⟩ meanings) := by
  induction documents generalizing t with
  | nil =>
    obtain rfl : t = s := congrArg Outcome.session run
    exact ⟨Extends.refl t, by simp⟩
  | cons first rest ih =>
    obtain ⟨u, processed, others⟩ := Outcome.andThen_eq_done_iff.mp run
    obtain ⟨further, later⟩ := ih others
    have step := extends_processDocument settings t first
    rw [processed] at step
    obtain ⟨meanings, read, -, made⟩ :=
      (processDocument_eq_done_iff settings t first u).mp processed
    have sections : u.sections =
        Section.ofMeanings ⟨settings.naming, t.sections.length⟩ meanings :: t.sections := by
      rw [← made, openSection_applyAll]
    have length : u.sections.length = t.sections.length + 1 := by
      rw [sections, List.length_cons]
    refine ⟨step.trans further, ?_⟩
    intro index document listed
    cases index with
    | zero =>
      obtain rfl := Option.some.inj listed
      refine ⟨meanings, read, further.getElem?_sections ?_⟩
      rw [sections, List.reverse_cons, Nat.add_zero, ← t.sections.length_reverse,
        List.getElem?_concat_length]
    | succ index =>
      obtain ⟨own, meant, place⟩ := later index document listed
      have shift : u.sections.length + index = t.sections.length + (index + 1) := by omega
      rw [shift] at place
      exact ⟨own, meant, place⟩

/-- The source stores a number in a line of its own, spelled by this text, under the label of its
section. -/
def StoresNumber (settings : Settings) (s : Session) (label : String) (d : Descriptor)
    (cType text : String) : Prop :=
  (numberDeclaration cType (labelPrefix settings.naming label)
      (settings.naming.globalVariable d.name) text).toList ∈
    Text.splitOn '\n' (s.sourceBody settings).toList

theorem FillsLines.storesNumber {settings : Settings} {s : Session} (filled : s.FillsLines)
    {index : Nat} {sec : Section} (place : s.sections.reverse[index]? = some sec)
    {field : ModuleField} (sound : field.Sound) {cType text : String}
    (content : field.content = .number cType text) (plain : '\n' ∉ text.toList)
    (member : field.code ⟨settings.naming, index⟩ ∈ sec.fragments.toList) :
    s.StoresNumber settings sec.label field.descriptor cType text := by
  have named : field.descriptor.type.cNumericType? = some cType := by
    have fits := sound.fits
    rw [content] at fits
    exact fits
  have plainType : ∀ known ∈ scalarTypes, '\n' ∉ known.toList := by decide
  have front : (s.resolution settings).tag (.sectionPrefix index) =
      labelPrefix settings.naming sec.label := by
    simp only [Resolution.tag, getElem?_prefixes settings place, Option.getD_some]
  have written : (field.code ⟨settings.naming, index⟩).storage.resolve (s.resolution settings) =
      numberDeclaration cType (labelPrefix settings.naming sec.label)
        (settings.naming.globalVariable field.descriptor.name) text ++ "\n" := by
    rw [← front, ModuleField.code, content, Scope.code, Scope.resolve_scalar_storage,
      Pen.scalarLine_eq]
    rfl
  refine filled.storageLine_mem ?_ written (numberDeclaration_ne_nil _ _ _ _)
    (newline_not_mem_numberDeclaration (plainType cType (FieldType.mem_scalarTypes named))
      (unbroken_labelPrefix settings.naming sec.label).newline_not_mem
      (settings.naming.newline_not_mem_globalVariable sound.parsed) plain)
  exact List.mem_flatMap.mpr ⟨sec, List.mem_of_getElem? place, member⟩

/-- The section of a document holds each of its real fields with the number that the entry gives,
and the number is stored in every module that goes on from there. -/
theorem storesNumber_of_meanings {settings : Settings} {services : Services} {s : Session}
    {index : Nat} {document : Document} {meanings : List Meaning}
    (read : document.meanings services = .ok meanings)
    (place : s.sections.reverse[index]? =
      some (Section.ofMeanings ⟨settings.naming, index⟩ meanings))
    {entry : Entry} (inside : entry ∈ document) (spelled : entry.Spelled)
    (bare : ¬ entry.Bracketed) {d : Descriptor} {format : RealFormat}
    (parsed : Descriptor.parse entry.key = .ok d) (real : d.type.realFormat? = some format) :
    ∃ n cType, entry.value = .number n ∧ format.admits (.ofNumber n) = true ∧
      ⟨entry.key, d⟩ ∈ (Section.ofMeanings ⟨settings.naming, index⟩ meanings).fields.toList ∧
      d.type.cNumericType? = some cType ∧
      ∀ later, Reachable settings later → s.Extends later →
        later.StoresNumber settings (Section.ofMeanings ⟨settings.naming, index⟩ meanings).label d
          cType (entry.literal.getD n.normal.spelling) := by
  obtain ⟨meaning, listed, asks⟩ := exists_mem_of_forall₂ (mapM_eq_ok_iff.mp read).flip inside
  obtain ⟨field, rfl, made⟩ := Entry.check_of_meaning asks parsed real
  have sound := ModuleField.sound_of_check parsed made
  obtain ⟨n, cType, number, admitted, rfl⟩ := ModuleField.real_of_check made real
  refine ⟨n, cType, number, admitted, ?_, sound.fits, fun later reached further => ?_⟩
  · simp only [Section.ofMeanings, Section.extend, Array.toList_append, List.nil_append]
    refine List.mem_map.mpr ⟨_, List.mem_flatMap.mpr ⟨_, listed, List.mem_singleton_self _⟩, rfl⟩
  · refine reached.fillsLines.storesNumber (further.getElem?_sections place) sound rfl
      (spelled.newline_not_mem bare number) ?_
    simp only [Section.ofMeanings, Section.extend, Array.toList_append, List.nil_append]
    refine List.mem_flatMap.mpr ⟨_, listed, List.mem_append_left _ ?_⟩
    exact List.mem_map_of_mem (List.mem_singleton_self _)

/-- Every real field that a call takes up, with a number that does not stand in an object, is
stored, in the module of this session and of all that continue it, in a line with the number as the
entry spells it: as written in a text, and in normal form otherwise. C reads this spelling as a
floating constant if it has a fraction or an exponent and as a decimal integer constant otherwise,
and its value is the very value of the number. If C has a type for the constant, and the minus sign
of an integer does not wrap around, the variable holds the nearest number of its type, where a
`float` may have been rounded to `double` first. -/
theorem real_initialisers_denote_values (settings : Settings) (services : Services) (call : Call)
    (t s : Session) (reached : Reachable settings t)
    (accepted : t.perform (settings.serving services) call = .done s) :
    Reachable settings s ∧ ∃ documents, call.documents? = some documents ∧
      ∀ (index : Nat) (document : Document), documents[index]? = some document →
        ∃ sec, s.sections.reverse[t.sections.length + index]? = some sec ∧
          ∀ entry ∈ document, ¬ entry.Bracketed → ∀ (d : Descriptor) (format : RealFormat),
            Descriptor.parse entry.key = .ok d → d.type.realFormat? = some format →
            ∃ n cType text constant, entry.value = .number n ∧
              text = entry.literal.getD n.normal.spelling ∧
              ⟨entry.key, d⟩ ∈ sec.fields.toList ∧ d.type.cNumericType? = some cType ∧
              (∀ later, Reachable settings later → s.Extends later →
                later.StoresNumber settings sec.label d cType text) ∧
              CNumber.read? text.toList = some constant ∧ constant.Follows text.toList ∧
              constant.value = n.rational ∧
              (MarksReal text.toList ∨ -2 ^ 63 < n.rational ∧ n.rational < 2 ^ 64 →
                constant.Initialises format n.rational) := by
  have next := reached.call services call
  rw [accepted] at next
  refine ⟨next, ?_⟩
  by_cases reset : call = .reset
  · subst reset
    exact ⟨[], rfl, by simp⟩
  obtain ⟨documents, handed, taken⟩ := perform_done reset accepted
  obtain ⟨-, sections⟩ := sections_of_processDocuments taken
  refine ⟨documents, handed, ?_⟩
  intro index document listed
  obtain ⟨meanings, read, place⟩ := sections index document listed
  refine ⟨_, place, ?_⟩
  intro entry inside bare d format parsed real
  have known :=
    Call.spelled_of_documents? handed document (List.mem_of_getElem? listed) entry inside
  obtain ⟨n, cType, number, admitted, captured, named, stored⟩ :=
    @storesNumber_of_meanings settings services s _ document meanings read place entry inside known
      bare d format parsed real
  obtain ⟨constant, spelled, follows, value⟩ := known.exists_read? bare number
  refine ⟨n, cType, _, constant, number, rfl, captured, named, stored, spelled, follows, value, ?_⟩
  intro typed
  refine CNumber.initialises_of_admits real admitted value ?_
  rintro i rfl
  exact typed.resolve_left follows.1

/-- A number beyond the largest of its type, whose refusal leaves a section behind. -/
private def hugeCall : Call :=
  .object [("float:Huge",
    .number ⟨false, .ofNat 1, none, some ⟨false, none, .ofNat 99⟩, by decide⟩)]

private def scaledNumber : Json.Number :=
  ⟨true, .ofNat 2, some (.ofNat 5), some ⟨true, none, .ofNat 3⟩, by decide⟩

private def scaledCall : Call :=
  .object [("Section_Prefix", .string "net"), ("float:w:Gain", .number scaledNumber)]

theorem real_initialisers_denote_values_after_refusal :
    ∃ t s sec constant,
      ((fresh (.steady .pascal)).perform (.steady .pascal) hugeCall).session = t ∧
      t.perform (.steady .pascal) scaledCall = .done s ∧ s.sections.reverse[1]? = some sec ∧
      s.StoresNumber (.steady .pascal) sec.label ⟨.float, none, .writable, "Gain", none⟩ "float"
        "-2.5e+3" ∧
      CNumber.read? "-2.5e+3".toList = some constant ∧ constant.value = scaledNumber.rational ∧
      constant.Initialises .binary32 scaledNumber.rational := by
  have serving : (Settings.steady .pascal).serving (.steady "v1" 1700000000) = .steady .pascal :=
    rfl
  have reached := (@Reachable.fresh (.steady .pascal)).call (.steady "v1" 1700000000) hugeCall
  have fields := real_initialisers_denote_values (.steady .pascal) (.steady "v1" 1700000000)
    scaledCall
  rw [serving] at reached fields
  have accepted : (((fresh (.steady .pascal)).perform (.steady .pascal) hugeCall).session.perform
      (.steady .pascal) scaledCall).fault.isNone = true := by
    decide +kernel
  have before : ((fresh (.steady .pascal)).perform (.steady .pascal)
      hugeCall).session.sections.length = 1 := by
    decide +kernel
  generalize ((fresh (.steady .pascal)).perform (.steady .pascal) hugeCall).session = t
    at reached accepted before ⊢
  have parsed : Descriptor.parse "float:w:Gain" = .ok ⟨.float, none, .writable, "Gain", none⟩ :=
    rfl
  obtain ⟨next, documents, handed, lines⟩ :=
    fields t _ reached (Outcome.eq_done accepted)
  obtain rfl := Option.some.inj handed
  obtain ⟨sec, place, entries⟩ := lines 0 _ rfl
  rw [before] at place
  obtain ⟨n, cType, text, constant, number, spelled, -, named, stored, read, -, value, typed⟩ :=
    entries ⟨"float:w:Gain", .number scaledNumber, none⟩ (by simp [Document.ofMembers])
      (Entry.not_bracketed_of_literal rfl) _ _ parsed rfl
  obtain rfl := Json.Value.number.inj number
  obtain rfl := Option.some.inj named
  have normal : text = "-2.5e+3" := by
    rw [spelled]
    decide
  subst normal
  exact ⟨t, _, sec, constant, rfl, Outcome.eq_done accepted, place,
    stored _ next (Extends.refl _), read, value, typed (.inl (by decide))⟩

/-- The first integer for which C has no type. -/
private def longConstant : Text.CInteger :=
  ⟨false, .decimal, [1, 8, 4, 4, 6, 7, 4, 4, 0, 7, 3, 7, 0, 9, 5, 5, 1, 6, 1, 6]⟩

private theorem not_stores_longConstant (format : RealFormat) (x : ℚ) :
    ¬ (CNumber.integer longConstant).Stores format x := by
  rintro ⟨i, typed, -⟩
  have untyped : longConstant.typed? = none := by decide +kernel
  rw [untyped] at typed
  cases typed

/-- An integer that is unsigned for C, so that its minus sign wraps around. -/
private def wrappedConstant : Text.CInteger :=
  ⟨true, .decimal, [9, 2, 2, 3, 3, 7, 2, 0, 3, 6, 8, 5, 4, 7, 7, 5, 8, 0, 9]⟩

/-- The variable becomes positive, and is not near to the integer. -/
private theorem stores_wrappedConstant :
    ∃ x, (CNumber.integer wrappedConstant).Stores .binary64 x ∧
      ¬ RealFormat.binary64.Nearest wrappedConstant.value x := by
  have typed : wrappedConstant.typed? = some 9223372036854775807 := by decide +kernel
  have value : wrappedConstant.value = -9223372036854775809 := by decide +kernel
  have power : RealFormat.binary64.Represents (2 ^ 63) :=
    ⟨1, 63, by decide, by decide, by decide, by norm_num⟩
  obtain ⟨x, rounds⟩ := @RealFormat.exists_roundsTo .binary64 RealFormat.proper_binary64
    ((9223372036854775807 : Int) : ℚ) (by
      refine lt_of_lt_of_le ?_ (RealFormat.two_pow_le_overflow (by decide))
      calc |((9223372036854775807 : Int) : ℚ)| < 2 ^ 64 := by norm_num
        _ ≤ 2 ^ (RealFormat.binary64.maxExponent - RealFormat.binary64.precision) :=
          pow_le_pow_right₀ (by norm_num) (by decide))
  refine ⟨x, ⟨_, typed, rounds⟩, fun nearest => ?_⟩
  have above := (abs_le.mp (rounds.least _ power)).2
  have below := (abs_le.mp (nearest.least _ power.neg)).1
  rw [value] at below
  norm_num at above below
  linarith

/-- A fraction just above the middle of two neighbours in binary32. Rounding it to binary64 first
gives this middle. -/
private def middleConstant : Text.CFloating :=
  ⟨false, 10000000596046448, -16⟩

private theorem roundsTo_middle :
    RealFormat.binary64.RoundsTo middleConstant.value (16777217 / 16777216) := by
  have rounded : RealFormat.binary64.roundUnits 10000000596046448 10000000000000000 =
      16777217 * 2 ^ 1050 := by
    decide +kernel
  have bounded : RealFormat.binary64.roundUnits 10000000596046448 10000000000000000 ≤
      RealFormat.binary64.largest * 2 ^ RealFormat.binary64.unit := by
    decide +kernel
  have rounds := RealFormat.roundUnits_roundsTo RealFormat.proper_binary64 (by decide) bounded
  have unit : (2 : ℚ) ^ RealFormat.binary64.unit = 16777216 * 2 ^ 1050 := by
    have split : RealFormat.binary64.unit = 24 + 1050 := rfl
    rw [split, pow_add]
    norm_num
  have value : ((10000000596046448 : ℕ) : ℚ) / (10000000000000000 : ℕ) = middleConstant.value := by
    norm_num [middleConstant, Text.CFloating.value]
  rw [rounded, unit, value, Nat.cast_mul, Nat.cast_pow, Nat.cast_ofNat, Nat.cast_ofNat,
    mul_div_mul_right _ _ (by positivity)] at rounds
  exact rounds

private theorem roundsTo_one : RealFormat.binary32.RoundsTo (16777217 / 16777216) 1 := by
  have rounded : RealFormat.binary32.roundUnits 16777217 16777216 =
      2 ^ RealFormat.binary32.unit := by
    decide +kernel
  have bounded : RealFormat.binary32.roundUnits 16777217 16777216 ≤
      RealFormat.binary32.largest * 2 ^ RealFormat.binary32.unit := by
    decide +kernel
  have rounds := RealFormat.roundUnits_roundsTo RealFormat.proper_binary32 (by decide) bounded
  rw [rounded, Nat.cast_pow, Nat.cast_ofNat, Nat.cast_ofNat, Nat.cast_ofNat,
    div_self (by positivity)] at rounds
  exact rounds

/-- The middle goes to the even neighbour, but the fraction is nearer to the other one. -/
private theorem stores_middleConstant :
    (CNumber.floating middleConstant).Stores .binary32 1 ∧
      ¬ RealFormat.binary32.Nearest middleConstant.value 1 := by
  refine ⟨⟨_, roundsTo_middle, roundsTo_one⟩, fun nearest => ?_⟩
  have next : RealFormat.binary32.Represents (8388609 / 8388608) :=
    ⟨8388609, -23, by decide, by decide, by decide, by norm_num⟩
  have least := nearest.least _ next
  have value : middleConstant.value = 10000000596046448 / 10000000000000000 := by
    norm_num [middleConstant, Text.CFloating.value]
  rw [value] at least
  norm_num [abs_of_pos, abs_of_neg] at least

private def farCall : Call :=
  .text ("\x7b\"double:Long\": 18446744073709551616, \"float:Middle\": 1.0000000596046448, " ++
    "\"double:Wrapped\": -9223372036854775809\x7d")

private def longField : ModuleField :=
  ⟨"double:Long", ⟨.double, none, .readOnly, "Long", none⟩,
    .number "double" "18446744073709551616"⟩

private def middleField : ModuleField :=
  ⟨"float:Middle", ⟨.float, none, .readOnly, "Middle", none⟩,
    .number "float" "1.0000000596046448"⟩

private def wrappedField : ModuleField :=
  ⟨"double:Wrapped", ⟨.double, none, .readOnly, "Wrapped", none⟩,
    .number "double" "-9223372036854775809"⟩

private def farFields : List ModuleField :=
  [longField, middleField, wrappedField]

private theorem sound_farFields : ∀ field ∈ farFields, field.Sound := by
  intro field member
  simp only [farFields, List.mem_cons, List.not_mem_nil, or_false] at member
  rcases member with rfl | rfl | rfl
  · exact ⟨rfl, rfl⟩
  · exact ⟨rfl, rfl⟩
  · exact ⟨rfl, rfl⟩

private theorem storesNumber_farFields :
    ∃ s, (fresh (.steady .pascal)).perform (.steady .pascal) farCall = .done s ∧
      ∀ field ∈ farFields, ∀ cType text, field.content = .number cType text →
        '\n' ∉ text.toList → s.StoresNumber (.steady .pascal) "" field.descriptor cType text := by
  have serving : (Settings.steady .pascal).serving (.steady "v1" 1700000000) = .steady .pascal :=
    rfl
  have reached := (@Reachable.fresh (.steady .pascal)).call (.steady "v1" 1700000000) farCall
  rw [serving] at reached
  have evaluated : (((fresh (.steady .pascal)).perform (.steady .pascal) farCall).fault.isNone,
      ((fresh (.steady .pascal)).perform (.steady .pascal)
        farCall).session.sections.reverse[0]?.map fun sec => (sec.label,
          farFields.all fun field => decide (field.code ⟨.pascal, 0⟩ ∈ sec.fragments.toList))) =
      (true, some ("", true)) := by
    decide +kernel
  generalize (fresh (.steady .pascal)).perform (.steady .pascal) farCall = outcome
    at reached evaluated ⊢
  obtain ⟨accepted, held⟩ := Prod.mk.inj evaluated
  refine ⟨outcome.session, Outcome.eq_done accepted, ?_⟩
  obtain ⟨sec, place, known⟩ := Option.map_eq_some_iff.mp held
  obtain ⟨unlabelled, code⟩ := Prod.mk.inj known
  intro field listed cType text content plain
  rw [← unlabelled]
  exact reached.fillsLines.storesNumber place (sound_farFields field listed) content plain
    (of_decide_eq_true (List.all_eq_true.mp code field listed))

/-- Three numbers that are accepted and spelled as they are given: an integer constant for which C
has no type, so that nothing can be stored; an integer constant below that bound whose variable ends
up on the other side of zero; and a floating constant that is rounded twice, so that the variable is
not the nearest `float`. -/
theorem real_initialisers_not_nearest :
    ∃ s, (fresh (.steady .pascal)).perform (.steady .pascal) farCall = .done s ∧
      (∃ constant, s.StoresNumber (.steady .pascal) ""
          ⟨.double, none, .readOnly, "Long", none⟩ "double" "18446744073709551616" ∧
        CNumber.read? "18446744073709551616".toList = some (.integer constant) ∧
        constant.value = 18446744073709551616 ∧
        ∀ x, ¬ (CNumber.integer constant).Stores .binary64 x) ∧
      (∃ constant x, s.StoresNumber (.steady .pascal) ""
          ⟨.double, none, .readOnly, "Wrapped", none⟩ "double" "-9223372036854775809" ∧
        CNumber.read? "-9223372036854775809".toList = some (.integer constant) ∧
        constant.value = -9223372036854775809 ∧
        (CNumber.integer constant).Stores .binary64 x ∧
        ¬ RealFormat.binary64.Nearest constant.value x) ∧
      (∃ constant, s.StoresNumber (.steady .pascal) ""
          ⟨.float, none, .readOnly, "Middle", none⟩ "float" "1.0000000596046448" ∧
        CNumber.read? "1.0000000596046448".toList = some (.floating constant) ∧
        (CNumber.floating constant).Stores .binary32 1 ∧
        ¬ RealFormat.binary32.Nearest constant.value 1) := by
  obtain ⟨s, accepted, lines⟩ := storesNumber_farFields
  obtain ⟨x, stored, far⟩ := stores_wrappedConstant
  refine ⟨s, accepted, ⟨longConstant, ?_, by decide +kernel, by decide +kernel,
      not_stores_longConstant .binary64⟩,
    ⟨wrappedConstant, x, ?_, by decide +kernel, by decide +kernel, stored, far⟩,
    ⟨middleConstant, ?_, by decide +kernel, stores_middleConstant⟩⟩
  · exact lines longField (by simp [farFields]) "double" "18446744073709551616" rfl (by decide)
  · exact lines wrappedField (by simp [farFields]) "double" "-9223372036854775809" rfl (by decide)
  · exact lines middleField (by simp [farFields]) "float" "1.0000000596046448" rfl (by decide)

end Session

end AccessorGen
