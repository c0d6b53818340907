/- The registry of symbols.
   Definitions are taken up exactly if their symbols are pairwise distinct and none of them is in
   the registry already; otherwise the first clash is reported. -/

import AccessorGen.Proofs.Key.Names
import AccessorGen.Proofs.Key.Symbols
import AccessorGen.Session
import Mathlib.Data.List.Nodup

set_option autoImplicit false
set_option relaxedAutoImplicit false

namespace AccessorGen

/-- The C symbols of a section: what its label puts in front, and each symbol of each field. -/
def Section.symbols (naming : NamingStyle) (sec : Section) : List String :=
  sec.fields.toList.flatMap fun field =>
    (naming.symbols field.descriptor).map fun symbol =>
      Session.labelPrefix naming sec.label ++ symbol

namespace Session

def symbols (naming : NamingStyle) (s : Session) : List String :=
  s.sections.reverse.flatMap (Section.symbols naming)

def registered (s : Session) : List String :=
  s.definitions.toList.map Definition.symbol

theorem unbroken_labelPrefix (naming : NamingStyle) (label : String) :
    Unbroken (labelPrefix naming label) := by
  rw [labelPrefix]
  split
  · decide
  · exact naming.unbroken_sectionPrefix label

theorem nodup_labelled_symbols (naming : NamingStyle) (label : String) (d : Descriptor) :
    ((naming.symbols d).map (labelPrefix naming label ++ ·)).Nodup := by
  refine (naming.nodup_symbols d).map ?_
  intro first second joined
  exact (String.append_right_inj _).mp joined

theorem map_symbol_sectionDefinitions (naming : NamingStyle) (sec : Section) :
    (sectionDefinitions naming sec).map Definition.symbol = sec.symbols naming := by
  simp only [sectionDefinitions, Section.symbols, List.map_flatMap, List.map_map,
    Function.comp_def]

/-- New symbols can be taken up if they are distinct and none of them is registered. -/
def Admits (s : Session) (new : List String) : Prop :=
  new.Nodup ∧ List.Disjoint new s.registered

private theorem registered_push (s : Session) (new : Definition) :
    registered { s with definitions := s.definitions.push new } = s.registered ++ [new.symbol] := by
  simp [registered]

private theorem find?_eq_none_iff (s : Session) (symbol : String) :
    (s.definitions.find? fun old => old.symbol == symbol) = none ↔ symbol ∉ s.registered := by
  simp [registered, Array.find?_eq_none]

private theorem admits_cons (s : Session) (new : Definition) (rest : List String) :
    s.Admits (new.symbol :: rest) ↔
      new.symbol ∉ s.registered ∧
        Admits { s with definitions := s.definitions.push new } rest := by
  simp only [Admits, registered_push, List.nodup_cons, List.disjoint_cons_left,
    List.disjoint_append_right, List.disjoint_singleton]
  tauto

theorem session_define (new : List Definition) (s : Session) :
    (define new s).session = { s with definitions := (define new s).session.definitions } := by
  induction new generalizing s with
  | nil => rfl
  | cons first rest ih =>
    rw [define]
    cases s.definitions.find? fun old => old.symbol == first.symbol with
    | some old => rfl
    | none => exact ih { s with definitions := s.definitions.push first }

theorem sections_define (new : List Definition) (s : Session) :
    (define new s).session.sections = s.sections := by
  rw [session_define]

theorem session_register (settings : Settings) (s : Session) :
    (s.register settings).session =
      { s with definitions := (s.register settings).session.definitions } := by
  rw [register]
  split
  · rfl
  · exact session_define _ s

theorem define_eq_done {new : List Definition} {s : Session}
    (admitted : s.Admits (new.map Definition.symbol)) :
    define new s = .done { s with definitions := s.definitions ++ new.toArray } := by
  induction new generalizing s with
  | nil => simp [define]
  | cons first rest ih =>
    obtain ⟨unknown, others⟩ := (admits_cons s first _).mp admitted
    rw [define, (find?_eq_none_iff s first.symbol).mpr unknown]
    simp [ih others]

theorem define_eq_clash {new : List Definition} {s : Session}
    (refused : ¬ s.Admits (new.map Definition.symbol)) :
    ∃ t key symbol other, define new s = ⟨t, some (.symbolClash key symbol other)⟩ := by
  induction new generalizing s with
  | nil => exact absurd ⟨List.nodup_nil, List.disjoint_nil_left _⟩ refused
  | cons first rest ih =>
    rw [define]
    split
    · rename_i old found
      exact ⟨s, first.key, first.symbol, old.key, rfl⟩
    · rename_i unknown
      apply ih
      intro others
      exact refused ((admits_cons s first _).mpr
        ⟨(find?_eq_none_iff s first.symbol).mp unknown, others⟩)

/-- Definitions are taken up from the front. Where this stops, the next one has the symbol of a
definition that has been taken up before. -/
theorem define_cases (new : List Definition) (s : Session) :
    ∃ front back, new = front ++ back ∧
      (define new s).session = { s with definitions := s.definitions ++ front.toArray } ∧
      ∀ fault, (define new s).fault = some fault → ∃ clash rest old, back = clash :: rest ∧
        fault = .symbolClash clash.key clash.symbol old.key ∧ old.symbol = clash.symbol ∧
        (old ∈ s.definitions.toList ∨ old ∈ front) := by
  induction new generalizing s with
  | nil =>
    refine ⟨[], [], rfl, by simp [define, Outcome.done], ?_⟩
    intro fault failed
    cases failed
  | cons first rest ih =>
    rw [define]
    cases found : s.definitions.find? fun old => old.symbol == first.symbol with
    | some old =>
      refine ⟨[], first :: rest, rfl, by simp, ?_⟩
      intro fault failed
      have same : old.symbol = first.symbol := by simpa using Array.find?_some found
      exact ⟨first, rest, old, rfl, (Option.some.inj failed).symm, same,
        .inl (Array.mem_of_find?_eq_some found).val⟩
    | none =>
      obtain ⟨front, back, rfl, session, stops⟩ :=
        ih { s with definitions := s.definitions.push first }
      refine ⟨first :: front, back, rfl, ?_, ?_⟩
      · simpa using session
      · intro fault failed
        obtain ⟨clash, more, old, shape, named, same, known⟩ := stops fault failed
        refine ⟨clash, more, old, shape, named, same, ?_⟩
        rw [Array.toList_push, List.mem_append, List.mem_singleton] at known
        rcases known with (before | rfl) | within
        · exact .inl before
        · exact .inr List.mem_cons_self
        · exact .inr (List.mem_cons_of_mem first within)

theorem register_eq_done {settings : Settings} {s : Session} {active : Section}
    {closed : List Section} (sections : s.sections = active :: closed)
    (admitted : s.Admits (active.symbols settings.naming)) :
    s.register settings =
      .done { s with
        definitions := s.definitions ++ (sectionDefinitions settings.naming active).toArray } := by
  rw [← map_symbol_sectionDefinitions] at admitted
  have opened : s.register settings = define (sectionDefinitions settings.naming active) s := by
    rw [register, sections]
  rw [opened, define_eq_done admitted]

theorem register_eq_clash {settings : Settings} {s : Session} {active : Section}
    {closed : List Section} (sections : s.sections = active :: closed)
    (refused : ¬ s.Admits (active.symbols settings.naming)) :
    ∃ t key symbol other, s.register settings = ⟨t, some (.symbolClash key symbol other)⟩ := by
  rw [← map_symbol_sectionDefinitions] at refused
  rw [register, sections]
  exact define_eq_clash refused

end Session

end AccessorGen
