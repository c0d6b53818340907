/- Tokens and the text that they come from.
   A number keeps every character of its source. The tokens of a text, one behind the other, are the
   text but for white space at its end, and a number, an opening brace or a string can be told from
   the piece of text that it is. -/

import AccessorGen.Json.Token
import AccessorGen.Proofs.Text.Digits
import Mathlib.Data.List.TakeWhile

set_option autoImplicit false
set_option relaxedAutoImplicit false

namespace AccessorGen.Json

open Text (Digits)

private theorem exponentSign_append (cs : List Char) :
    ((exponentSign cs).1.map Sign.char).toList ++ (exponentSign cs).2 = cs := by
  unfold exponentSign
  split <;> rfl

private theorem chars_of_exponent? {cs : List Char} {e : Option Exponent}
    (read : exponent? cs = some e) : e.elim [] Exponent.chars = cs := by
  cases cs with
  | nil =>
    obtain rfl := Option.some.inj read
    rfl
  | cons mark rest =>
    have signed := exponentSign_append rest
    rw [exponent?] at read
    generalize exponentSign rest = pair at read signed
    obtain ⟨sign, tail⟩ := pair
    split at read
    · rename_i marked
      obtain ⟨digits, found, rfl⟩ := Option.map_eq_some_iff.mp read
      have head : (if decide (mark = 'E') = true then 'E' else 'e') = mark := by
        rcases marked with rfl | rfl <;> rfl
      rw [Option.elim_some]
      simp only [Exponent.chars, Digits.chars_of_ofChars? found, head, signed]
    · cases read

private theorem chars_of_fraction? {cs rest : List Char} {fraction : Option Digits}
    (read : fraction? cs = some (fraction, rest)) :
    fraction.elim [] (fun digits => '.' :: digits.chars) ++ rest = cs := by
  unfold fraction? at read
  split at read
  · rename_i digits
    obtain ⟨found, parsed, same⟩ := Option.map_eq_some_iff.mp read
    obtain ⟨rfl, rfl⟩ := Prod.mk.inj same
    rw [Option.elim_some, Digits.chars_of_ofChars? parsed, List.cons_append,
      List.takeWhile_append_dropWhile]
  · obtain ⟨rfl, rfl⟩ := Prod.mk.inj (Option.some.inj read)
    rfl

theorem Number.chars_eq (n : Number) :
    n.chars = (if n.negative then ['-'] else []) ++ n.whole.chars ++
      n.fraction.elim [] (fun digits => '.' :: digits.chars) ++
      n.exponent.elim [] Exponent.chars := by
  obtain ⟨negative, whole, fraction, exponent, filled⟩ := n
  cases fraction <;> cases exponent <;> rfl

private theorem Number.chars_of_unsigned? {negative : Bool} {cs : List Char} {n : Number}
    (read : unsigned? negative cs = some n) :
    n.chars = (if negative then ['-'] else []) ++ cs := by
  simp only [unsigned?, Option.bind_eq_bind, Option.bind_eq_some_iff] at read
  obtain ⟨whole, wholeRead, ⟨fraction, rest⟩, fractionRead, exponent, exponentRead, made⟩ := read
  split at made
  · obtain rfl := Option.some.inj made
    rw [chars_eq, Digits.chars_of_ofChars? wholeRead, chars_of_exponent? exponentRead,
      List.append_assoc, chars_of_fraction? fractionRead, List.append_assoc,
      List.takeWhile_append_dropWhile]
  · cases made

theorem Number.chars_of_ofChars? {cs : List Char} {n : Number} (read : ofChars? cs = some n) :
    n.chars = cs := by
  unfold ofChars? at read
  split at read
  · exact chars_of_unsigned? read
  · exact chars_of_unsigned? read

theorem Number.int?_ofInt (i : Int) : (ofInt i).int? = some i := by
  have integral : (ofInt i).isIntegral = true := rfl
  rw [int?, if_pos integral, ofInt, Digits.value_ofNat]
  simp only [decide_eq_true_eq, Option.some.injEq]
  split
  · omega
  · omega

/-- What the text of a token tells: a number is spelled by it, an object opens in it, and a string
is shorter than it. -/
def Lexeme.Faithful (lexeme : Lexeme) : Prop :=
  match lexeme.token with
  | .number n => lexeme.text.dropWhile isGap = n.chars
  | .openBrace => ['\x7b'] <+: lexeme.text.dropWhile isGap
  | .string raw => raw.length < lexeme.text.length
  | _ => True

/-- What is known of the text since the last token, newest first, where the reading stands. -/
def LexMode.Fits (pending : List Char) : LexMode → Prop
  | .between => ∀ c ∈ pending, isGap c
  | .bare seen =>
    ∃ gaps, pending = seen ++ gaps ∧ (∀ c ∈ gaps, isGap c) ∧ ∀ c ∈ seen, isGap c = false
  | .quoted seen => seen.length < pending.length
  | .escape seen => seen.length < pending.length
  | .hex seen _ _ => seen.length < pending.length

namespace Lexer

def text (lexer : Lexer) : List Char :=
  lexer.lexemes.reverse.flatMap Lexeme.text ++ lexer.pending.reverse

@[simp] theorem text_take (lexer : Lexer) (c : Char) (mode : LexMode) :
    (lexer.take c mode).text = lexer.text ++ [c] := by
  simp [text, take]

@[simp] theorem text_emit (lexer : Lexer) (token : Token) :
    (lexer.emit token).text = lexer.text := by
  simp [text, emit]

/-- Every token so far can be told from its text, and the open one from what has been read of it. -/
structure Faithful (lexer : Lexer) : Prop where
  lexemes : ∀ lexeme ∈ lexer.lexemes, lexeme.Faithful
  pending : lexer.mode.Fits lexer.pending

theorem Faithful.take {lexer : Lexer} {c : Char} {mode : LexMode} (faithful : lexer.Faithful)
    (fits : mode.Fits (c :: lexer.pending)) : (lexer.take c mode).Faithful :=
  ⟨faithful.lexemes, fits⟩

theorem faithful_emit {lexer : Lexer} {token : Token}
    (known : ∀ lexeme ∈ lexer.lexemes, lexeme.Faithful)
    (told : Lexeme.Faithful ⟨lexer.pending.reverse, token⟩) : (lexer.emit token).Faithful :=
  ⟨List.forall_mem_cons.mpr ⟨told, known⟩, fun c member => by cases member⟩

private theorem faithful_bareToken? {seen gaps : List Char} {token : Token}
    (read : bareToken? seen.reverse = some token) (white : ∀ c ∈ gaps, isGap c)
    (solid : ∀ c ∈ seen, isGap c = false) :
    Lexeme.Faithful ⟨(seen ++ gaps).reverse, token⟩ := by
  have trimmed : (seen ++ gaps).reverse.dropWhile isGap = seen.reverse := by
    rw [List.reverse_append, List.dropWhile_append_of_pos (by simpa using white),
      List.dropWhile_eq_self_iff]
    intro length front
    rw [solid _ (List.mem_reverse.mp (List.getElem_mem length))] at front
    cases front
  unfold bareToken? at read
  split_ifs at read
  · cases read
    trivial
  · cases read
    trivial
  · cases read
    trivial
  · obtain ⟨n, parsed, rfl⟩ := Option.map_eq_some_iff.mp read
    exact trimmed.trans (Number.chars_of_ofChars? parsed).symm

private theorem Faithful.closeBare? {lexer closed : Lexer} (faithful : lexer.Faithful)
    (outside : lexer.mode = .between ∨ ∃ seen, lexer.mode = .bare seen)
    (step : lexer.closeBare? = some closed) :
    closed.Faithful ∧ closed.text = lexer.text ∧ ∀ c ∈ closed.pending, isGap c := by
  have fits := faithful.pending
  rcases outside with mode | ⟨seen, mode⟩
  · rw [Lexer.closeBare?, mode] at step
    obtain rfl := Option.some.inj step
    rw [mode] at fits
    exact ⟨faithful, rfl, fits⟩
  · rw [Lexer.closeBare?, mode] at step
    obtain ⟨token, read, rfl⟩ := Option.map_eq_some_iff.mp step
    rw [mode] at fits
    obtain ⟨gaps, same, white, solid⟩ := fits
    refine ⟨faithful_emit faithful.lexemes ?_, text_emit lexer token,
      fun c member => by cases member⟩
    rw [same]
    exact faithful_bareToken? read white solid

private theorem faithful_punctuation? {c : Char} {token : Token} {gaps : List Char}
    (punctuation : punctuation? c = some token) (white : ∀ c ∈ gaps, isGap c) :
    Lexeme.Faithful ⟨(c :: gaps).reverse, token⟩ := by
  unfold punctuation? at punctuation
  split_ifs at punctuation with brace <;> cases punctuation
  · subst brace
    change ['\x7b'] <+: ('\x7b' :: gaps).reverse.dropWhile isGap
    rw [List.reverse_cons, List.dropWhile_append_of_pos (by simpa using white)]
    exact List.prefix_rfl
  all_goals trivial

private theorem Faithful.outside? {lexer next : Lexer} {c : Char} (faithful : lexer.Faithful)
    (outside : lexer.mode = .between ∨ ∃ seen, lexer.mode = .bare seen)
    (step : lexer.outside? c = some next) :
    next.Faithful ∧ next.text = lexer.text ++ [c] := by
  unfold Lexer.outside? at step
  split at step
  · rename_i gap
    obtain ⟨closed, close, rfl⟩ := Option.map_eq_some_iff.mp step
    obtain ⟨kept, same, white⟩ := faithful.closeBare? outside close
    refine ⟨kept.take ?_, by rw [text_take, same]⟩
    exact List.forall_mem_cons.mpr ⟨gap, white⟩
  · rename_i solid
    split at step
    · obtain ⟨closed, close, rfl⟩ := Option.map_eq_some_iff.mp step
      obtain ⟨kept, same, white⟩ := faithful.closeBare? outside close
      exact ⟨kept.take (by simp [LexMode.Fits]), by rw [text_take, same]⟩
    · split at step
      · rename_i token punctuation
        obtain ⟨closed, close, rfl⟩ := Option.map_eq_some_iff.mp step
        obtain ⟨kept, same, white⟩ := faithful.closeBare? outside close
        refine ⟨faithful_emit kept.lexemes ?_, by rw [text_emit, text_take, same]⟩
        exact faithful_punctuation? punctuation white
      · have fits := faithful.pending
        split at step
        -- The character goes on with an open word, or starts one.
        · rename_i seen mode
          obtain rfl := Option.some.inj step
          rw [mode] at fits
          obtain ⟨gaps, same, white, clean⟩ := fits
          refine ⟨faithful.take ⟨gaps, ?_, white, ?_⟩, text_take lexer c _⟩
          · rw [same, List.cons_append]
          · exact List.forall_mem_cons.mpr ⟨by simpa using solid, clean⟩
        · rename_i other
          obtain rfl := Option.some.inj step
          have mode : lexer.mode = .between := outside.resolve_right fun ⟨seen, bare⟩ =>
            other seen bare
          rw [mode] at fits
          refine ⟨faithful.take ⟨lexer.pending, rfl, fits, ?_⟩, text_take lexer c _⟩
          simpa using solid

/-- One step takes up its character and keeps what is known of the tokens. -/
theorem Faithful.step? {lexer next : Lexer} {c : Char} (faithful : lexer.Faithful)
    (step : lexer.step? c = some next) : next.Faithful ∧ next.text = lexer.text ++ [c] := by
  have fits := faithful.pending
  unfold Lexer.step? at step
  split at step
  · rename_i mode
    exact faithful.outside? (.inl mode) step
  · rename_i seen mode
    exact faithful.outside? (.inr ⟨seen, mode⟩) step
  · rename_i seen mode
    rw [mode] at fits
    have longer : seen.length < lexer.pending.length + 1 := Nat.lt_succ_of_lt fits
    split_ifs at step
    · obtain rfl := Option.some.inj step
      refine ⟨faithful_emit faithful.lexemes ?_, by simp⟩
      simpa [Lexeme.Faithful, Lexer.take] using longer
    · obtain rfl := Option.some.inj step
      exact ⟨faithful.take longer, by simp⟩
    · obtain rfl := Option.some.inj step
      exact ⟨faithful.take (Nat.succ_lt_succ fits), by simp⟩
  · rename_i seen mode
    rw [mode] at fits
    split at step
    · obtain rfl := Option.some.inj step
      exact ⟨faithful.take (Nat.lt_succ_of_lt fits), by simp⟩
    · obtain ⟨d, -, rfl⟩ := Option.map_eq_some_iff.mp step
      exact ⟨faithful.take (Nat.succ_lt_succ fits), by simp⟩
  · rename_i seen code missing mode
    rw [mode] at fits
    obtain ⟨digit, -, rfl⟩ := Option.map_eq_some_iff.mp step
    split
    · exact ⟨faithful.take (Nat.succ_lt_succ fits), by simp⟩
    · exact ⟨faithful.take (Nat.lt_succ_of_lt fits), by simp⟩

private theorem Faithful.foldlM {more : List Char} {lexer final : Lexer}
    (faithful : lexer.Faithful) (run : more.foldlM Lexer.step? lexer = some final) :
    final.Faithful ∧ final.text = lexer.text ++ more := by
  induction more generalizing lexer with
  | nil =>
    obtain rfl := Option.some.inj run
    exact ⟨faithful, (List.append_nil _).symm⟩
  | cons c rest ih =>
    rw [List.foldlM_cons] at run
    obtain ⟨next, step, others⟩ := Option.bind_eq_some_iff.mp run
    obtain ⟨kept, taken⟩ := faithful.step? step
    obtain ⟨told, all⟩ := ih kept others
    exact ⟨told, by rw [all, taken, List.append_assoc, List.singleton_append]⟩

private theorem Faithful.finish? {lexer : Lexer} {lexemes : List Lexeme}
    (faithful : lexer.Faithful) (finished : lexer.finish? = some lexemes) :
    (∀ lexeme ∈ lexemes, lexeme.Faithful) ∧ lexemes.flatMap Lexeme.text <+: lexer.text := by
  unfold Lexer.finish? at finished
  split at finished
  · obtain rfl := Option.some.inj finished
    exact ⟨fun lexeme member => faithful.lexemes lexeme (List.mem_reverse.mp member),
      List.prefix_append _ _⟩
  · rename_i seen mode
    obtain ⟨closed, close, rfl⟩ := Option.map_eq_some_iff.mp finished
    obtain ⟨kept, same, -⟩ := faithful.closeBare? (.inr ⟨seen, mode⟩) close
    refine ⟨fun lexeme member => kept.lexemes lexeme (List.mem_reverse.mp member), ?_⟩
    rw [← same]
    exact List.prefix_append _ _
  · cases finished

end Lexer

/-- The tokens of a text stand in it one behind the other, each as its text tells. -/
theorem faithful_of_lexemes? {text : String} {lexemes : List Lexeme}
    (read : lexemes? text = some lexemes) :
    (∀ lexeme ∈ lexemes, lexeme.Faithful) ∧ lexemes.flatMap Lexeme.text <+: text.toList := by
  obtain ⟨lexer, run, finished⟩ := Option.bind_eq_some_iff.mp read
  have start : Lexer.start.Faithful := by
    constructor
    · intro lexeme member
      cases member
    · intro c member
      cases member
  obtain ⟨faithful, whole⟩ := start.foldlM run
  obtain ⟨tokens, front⟩ := faithful.finish? finished
  rw [whole] at front
  exact ⟨tokens, front⟩

end AccessorGen.Json
