/- Members of objects and the text that they come from.
   The builder puts every token behind the text of an open container, and a container that is closed
   behind the one around it. So the text of every member, however deep, is a piece of the text that
   its tree was read from. -/

import AccessorGen.Json.Tree
import AccessorGen.Proofs.Json.Lexeme
import Mathlib.Data.List.Infix

set_option autoImplicit false
set_option relaxedAutoImplicit false

namespace AccessorGen.Json

/-- What the text of a value tells: a number is spelled by it, an object opens in it, and a string
is shorter than it. -/
def Tree.Faithful (source : List Char) : Tree → Prop
  | .number n => source.dropWhile isGap = n.chars
  | .object _ => ['\x7b'] <+: source.dropWhile isGap
  | .string raw => raw.length < source.length
  | _ => True

inductive Tree.Holds (held : Member Tree) : Tree → Prop
  | item {items : List Tree} {tree : Tree} (member : tree ∈ items) (inside : tree.Holds held) :
      Holds held (.array items)
  | own {members : List (Member Tree)} (member : held ∈ members) : Holds held (.object members)
  | nested {members : List (Member Tree)} {outer : Member Tree} (member : outer ∈ members)
      (inside : outer.value.Holds held) : Holds held (.object members)

/-- A member whose text is a piece of a text and tells what its value is. -/
structure Member.StandsIn (text : List Char) (member : Member Tree) : Prop where
  piece : member.source <:+: text
  told : member.value.Faithful member.source

/-- All members that a tree holds are pieces of a text. -/
def Tree.StandsIn (text : List Char) (tree : Tree) : Prop :=
  ∀ member, tree.Holds member → member.StandsIn text

def Content.StandsIn (text : List Char) : Content → Prop
  | .items read => ∀ tree ∈ read, tree.StandsIn text
  | .members read => ∀ member ∈ read, member.StandsIn text ∧ member.value.StandsIn text
  | .member read _ => ∀ member ∈ read, member.StandsIn text ∧ member.value.StandsIn text

def Content.isObject : Content → Bool
  | .items _ => false
  | .members _ => true
  | .member _ _ => true

section StandsIn

variable {text : List Char}

theorem Member.StandsIn.append {member : Member Tree} (stands : member.StandsIn text)
    (more : List Char) : member.StandsIn (text ++ more) :=
  ⟨stands.piece.trans (List.prefix_append text more).isInfix, stands.told⟩

theorem Tree.StandsIn.append {tree : Tree} (stands : tree.StandsIn text) (more : List Char) :
    tree.StandsIn (text ++ more) :=
  fun member held => (stands member held).append more

theorem Content.StandsIn.append {content : Content} (stands : content.StandsIn text)
    (more : List Char) : content.StandsIn (text ++ more) := by
  cases content with
  | items read => exact fun tree member => (stands tree member).append more
  | members read =>
    exact fun own member => (stands own member).imp (·.append more) (·.append more)
  | member read name =>
    exact fun own member => (stands own member).imp (·.append more) (·.append more)

theorem Tree.standsIn_array {items : List Tree} (stands : ∀ tree ∈ items, tree.StandsIn text) :
    (array items).StandsIn text := by
  intro member held
  cases held with
  | item among inside => exact stands _ among member inside

theorem Tree.standsIn_object {members : List (Member Tree)}
    (stands : ∀ member ∈ members, member.StandsIn text ∧ member.value.StandsIn text) :
    (object members).StandsIn text := by
  intro member held
  cases held with
  | own among => exact (stands member among).1
  | nested among inside => exact (stands _ among).2 member inside

end StandsIn

private theorem opens_append {front : List Char} (opens : ['\x7b'] <+: front.dropWhile isGap)
    (more : List Char) : ['\x7b'] <+: (front ++ more).dropWhile isGap := by
  rw [List.dropWhile_append]
  split
  · rename_i empty
    rw [List.isEmpty_iff.mp empty] at opens
    cases List.prefix_nil.mp opens
  · exact opens.trans (List.prefix_append _ _)

/-- A container of which a text holds all members. An object has been opened by its brace. -/
structure Frame.Fits (text : List Char) (frame : Frame) : Prop where
  content : frame.content.StandsIn text
  opens : frame.content.isObject → ['\x7b'] <+: frame.text.reverse.dropWhile isGap

/-- Containers that are open where a text ends by `source`. -/
structure Frame.Enclose (text source : List Char) (frames : List Frame) : Prop where
  pieces : source.reverse ++ frames.flatMap Frame.text <+: text.reverse
  fit : ∀ frame ∈ frames, frame.Fits text

/-- The containers that are open where a text ends, and the tree that has been read by then. -/
structure Builder.Fits (text : List Char) (builder : Builder) : Prop where
  frames : Frame.Enclose text [] builder.frames
  root : ∀ root, builder.expects = .nothing root → root.StandsIn text

namespace Builder

section Steps

variable {text source : List Char} {frame : Frame} {frames outer : List Frame} {lexeme : Lexeme}
  {next : Builder}

private theorem Fits.enclose {builder : Builder} (fits : builder.Fits text) (more : List Char) :
    Frame.Enclose (text ++ more) more builder.frames := by
  constructor
  · rw [List.reverse_append, List.prefix_append_right_inj]
    exact fits.frames.pieces
  · intro frame member
    have own := fits.frames.fit frame member
    exact ⟨own.content.append more, own.opens⟩

private theorem fits_push (enclose : Frame.Enclose text source frames) {content : Content}
    {expects : Expectation} (stands : content.StandsIn text)
    (opens : content.isObject → ['\x7b'] <+: source.dropWhile isGap)
    (awaits : ∀ root, expects ≠ .nothing root) :
    Fits text ⟨⟨source.reverse, content⟩ :: frames, expects⟩ := by
  refine ⟨⟨enclose.pieces, ?_⟩, fun root done => absurd done (awaits root)⟩
  refine List.forall_mem_cons.mpr ⟨⟨stands, ?_⟩, enclose.fit⟩
  rw [List.reverse_reverse]
  exact opens

private theorem fits_extend (enclose : Frame.Enclose text source (frame :: outer))
    {content : Content} {expects : Expectation} (stands : content.StandsIn text)
    (same : content.isObject = frame.content.isObject) (awaits : ∀ root, expects ≠ .nothing root) :
    Fits text ⟨frame.extend source content :: outer, expects⟩ := by
  have pieces := enclose.pieces
  rw [List.flatMap_cons, ← List.append_assoc, ← List.reverseAux_eq] at pieces
  refine ⟨⟨pieces, ?_⟩, fun root done => absurd done (awaits root)⟩
  refine List.forall_mem_cons.mpr ⟨⟨stands, fun object => ?_⟩,
    fun other member => enclose.fit other (List.mem_cons_of_mem _ member)⟩
  have opens := (enclose.fit frame List.mem_cons_self).opens (same.symm.trans object)
  rw [Frame.extend, List.reverseAux_eq, List.reverse_append, List.reverse_reverse]
  exact opens_append opens source

private theorem fits_pass? (enclose : Frame.Enclose text source frames) {expects : Expectation}
    (awaits : ∀ root, expects ≠ .nothing root) (step : pass? frames source expects = some next) :
    next.Fits text := by
  unfold pass? at step
  split at step
  · cases step
  · rename_i frame outer
    obtain rfl := Option.some.inj step
    exact fits_extend enclose (enclose.fit frame List.mem_cons_self).content rfl awaits

/-- A value that ends the text belongs to the innermost container, if there is one. -/
private theorem fits_place? (enclose : Frame.Enclose text source frames) {tree : Tree}
    (step : place? frames source tree = some next) (stands : tree.StandsIn text)
    (told : tree.Faithful source) : next.Fits text := by
  unfold place? at step
  split at step
  · obtain rfl := Option.some.inj step
    refine ⟨⟨List.nil_prefix, fun frame member => by cases member⟩, fun root done => ?_⟩
    obtain rfl := Expectation.nothing.inj done
    exact stands
  · rename_i frame outer
    have content := (enclose.fit frame List.mem_cons_self).content
    split at step
    · rename_i read kind
      obtain rfl := Option.some.inj step
      rw [kind] at content
      refine fits_extend enclose ?_ (by rw [kind]; rfl) (by simp)
      exact List.forall_mem_cons.mpr ⟨stands, content⟩
    · rename_i read name kind
      obtain rfl := Option.some.inj step
      rw [kind] at content
      have ending : source <:+ text :=
        List.reverse_prefix.mp ((List.prefix_append _ _).trans enclose.pieces)
      refine fits_extend enclose ?_ (by rw [kind]; rfl) (by simp)
      exact List.forall_mem_cons.mpr ⟨⟨⟨ending.isInfix, told⟩, stands⟩, content⟩
    · cases step

private theorem fits_value? (enclose : Frame.Enclose text lexeme.text frames)
    (told : lexeme.Faithful) (step : value? frames lexeme = some next) : next.Fits text := by
  unfold value? at step
  rw [Lexeme.Faithful] at told
  split at step
  · exact fits_place? enclose step (fun _ held => by cases held) trivial
  · exact fits_place? enclose step (fun _ held => by cases held) trivial
  · rename_i n token
    rw [token] at told
    exact fits_place? enclose step (fun _ held => by cases held) told
  · rename_i raw token
    rw [token] at told
    exact fits_place? enclose step (fun _ held => by cases held) told
  · obtain rfl := Option.some.inj step
    exact fits_push enclose (fun _ member => by cases member) (by simp [Content.isObject])
      (by simp)
  · rename_i token
    rw [token] at told
    obtain rfl := Option.some.inj step
    exact fits_push enclose (fun _ member => by cases member) (fun _ => told) (by simp)
  · cases step

private theorem fits_close? (enclose : Frame.Enclose text lexeme.text frames)
    (step : close? frames lexeme = some next) : next.Fits text := by
  unfold close? at step
  split at step
  · cases step
  · rename_i frame outer
    have own := enclose.fit frame List.mem_cons_self
    have around : Frame.Enclose text (frame.text.reverse ++ lexeme.text) outer := by
      constructor
      · rw [List.reverse_append, List.reverse_reverse, List.append_assoc]
        exact enclose.pieces
      · exact fun other member => enclose.fit other (List.mem_cons_of_mem _ member)
    have content := own.content
    split at step
    · rename_i read kind token
      rw [kind] at content
      refine fits_place? around step (Tree.standsIn_array fun tree member => ?_) trivial
      exact content tree (List.mem_reverse.mp member)
    · rename_i read kind token
      rw [kind] at content
      refine fits_place? around step (Tree.standsIn_object fun member among => ?_) ?_
      · exact content member (List.mem_reverse.mp among)
      · exact opens_append (own.opens (by rw [kind]; rfl)) lexeme.text
    · cases step

private theorem fits_name? (enclose : Frame.Enclose text lexeme.text frames)
    (step : name? frames lexeme = some next) : next.Fits text := by
  unfold name? at step
  split at step
  · exact fits_pass? enclose (by simp) step
  · cases step

private theorem fits_colon? (enclose : Frame.Enclose text lexeme.text frames) {name : RawString}
    (step : colon? frames lexeme name = some next) : next.Fits text := by
  unfold colon? at step
  split at step
  · cases step
  · rename_i frame outer
    have content := (enclose.fit frame List.mem_cons_self).content
    split at step
    · rename_i read kind token
      obtain rfl := Option.some.inj step
      rw [kind] at content
      exact fits_extend enclose content (by rw [kind]; rfl) (by simp)
    · cases step

private theorem fits_comma? (enclose : Frame.Enclose text source frames)
    (step : comma? frames source = some next) : next.Fits text := by
  unfold comma? at step
  split at step
  · cases step
  · split at step
    · exact fits_pass? enclose (by simp) step
    · exact fits_pass? enclose (by simp) step
    · cases step

theorem Fits.step? {builder : Builder} (fits : builder.Fits text) (told : lexeme.Faithful)
    (step : builder.step? lexeme = some next) : next.Fits (text ++ lexeme.text) := by
  have enclose := fits.enclose lexeme.text
  unfold Builder.step? at step
  split at step
  · exact fits_value? enclose told step
  · split at step
    · exact fits_close? enclose step
    · exact fits_value? enclose told step
  · exact fits_name? enclose step
  · split at step
    · exact fits_close? enclose step
    · exact fits_name? enclose step
  · exact fits_colon? enclose step
  · split at step
    · exact fits_comma? enclose step
    · exact fits_close? enclose step
  · cases step

private theorem Fits.foldlM {lexemes : List Lexeme} {builder final : Builder}
    (fits : builder.Fits text) (told : ∀ lexeme ∈ lexemes, lexeme.Faithful)
    (run : lexemes.foldlM Builder.step? builder = some final) :
    final.Fits (text ++ lexemes.flatMap Lexeme.text) := by
  induction lexemes generalizing text builder with
  | nil =>
    obtain rfl := Option.some.inj run
    rwa [List.flatMap_nil, List.append_nil]
  | cons lexeme rest ih =>
    rw [List.foldlM_cons] at run
    obtain ⟨next, step, others⟩ := Option.bind_eq_some_iff.mp run
    obtain ⟨first, later⟩ := List.forall_mem_cons.mp told
    have moved := ih (fits.step? first step) later others
    rwa [List.append_assoc, ← List.flatMap_cons] at moved

end Steps

end Builder

/-- The members of a tree are pieces of the text that it was read from. -/
theorem Tree.standsIn_of_ofText? {text : String} {tree : Tree} (read : ofText? text = some tree) :
    tree.StandsIn text.toList := by
  obtain ⟨lexemes, cut, built⟩ := Option.bind_eq_some_iff.mp read
  obtain ⟨builder, run, complete⟩ := Option.bind_eq_some_iff.mp built
  obtain ⟨told, front⟩ := faithful_of_lexemes? cut
  have start : Builder.Fits [] ⟨[], .value⟩ :=
    ⟨⟨List.nil_prefix, fun frame member => by cases member⟩, fun root done => by cases done⟩
  have fits := start.foldlM told run
  obtain ⟨rest, whole⟩ := front
  split at complete
  · rename_i root expects
    obtain rfl := Option.some.inj complete
    rw [← whole]
    exact (fits.root root expects).append rest
  · cases complete

end AccessorGen.Json
