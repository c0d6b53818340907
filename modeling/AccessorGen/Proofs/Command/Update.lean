/- Bringing one output file up to date.
   The text of an artifact tells its digest, so a file that has been written is up to date. A file
   that is up to date stays as it is, and the update of another one is a failure under a check and a
   change of that file alone otherwise. -/

import AccessorGen.Command.Run
import AccessorGen.Proofs.Files.FileTree
import AccessorGen.Proofs.Text.Split

set_option autoImplicit false
set_option relaxedAutoImplicit false

namespace AccessorGen.Command

open Files

def textAt (tree : FileTree) (path : String) : Except TextError String :=
  match tree.read path with
  | .error cause => .error (.file cause)
  | .ok bytes =>
    match String.fromUTF8? bytes with
    | some text => .ok text
    | none => .error .notUtf8

theorem run_bind_eq {α β : Type} {action : StateM FileTree α} {tree after : FileTree} {a : α}
    (done : action.run tree = (a, after)) (next : α → StateM FileTree β) :
    (action >>= next).run tree = (next a).run after := by
  rw [StateT.run_bind, done]
  rfl

theorem readText_run (path : String) (tree : FileTree) :
    (readText path : StateM FileTree _).run tree = (textAt tree path, tree) := by
  have start : (MonadFiles.read path : StateM FileTree _).run tree = (tree.read path, tree) := rfl
  rw [readText, textAt, run_bind_eq start]
  cases tree.read path with
  | error cause => rfl
  | ok bytes =>
    dsimp only
    cases String.fromUTF8? bytes <;> rfl

theorem textAt_eq_ok_iff {tree : FileTree} {path text : String} :
    textAt tree path = .ok text ↔
      ∃ bytes, tree.read path = .ok bytes ∧ String.fromUTF8? bytes = some text := by
  rw [textAt]
  cases tree.read path with
  | error cause => simp
  | ok bytes => cases decoded : String.fromUTF8? bytes <;> simp [decoded]

theorem fromUTF8?_toUTF8 (text : String) : String.fromUTF8? text.toUTF8 = some text := by
  rw [String.toUTF8_eq_toByteArray, String.fromUTF8?, dif_pos text.isValidUTF8]
  rfl

/-- There is a file at a path, its bytes are those of a text, and a digest occurs in the text. -/
def Shows (tree : FileTree) (path digest : String) : Prop :=
  ∃ bytes text, tree.read path = .ok bytes ∧ String.fromUTF8? bytes = some text ∧
    digest.toList <:+: text.toList

theorem shows_iff_textAt {tree : FileTree} {path digest : String} :
    Shows tree path digest ↔
      ∃ text, textAt tree path = .ok text ∧ digest.toList <:+: text.toList := by
  constructor
  · rintro ⟨bytes, text, read, decoded, inside⟩
    exact ⟨text, textAt_eq_ok_iff.mpr ⟨bytes, read, decoded⟩, inside⟩
  · rintro ⟨text, read, inside⟩
    obtain ⟨bytes, read, decoded⟩ := textAt_eq_ok_iff.mp read
    exact ⟨bytes, text, read, decoded, inside⟩

/-- Nothing is found at a path, or a text without the digest. -/
def Outdated (tree : FileTree) (path digest : String) : Prop :=
  textAt tree path = .error (.file .notFound) ∨
    ∃ text, textAt tree path = .ok text ∧ ¬ digest.toList <:+: text.toList

theorem digest_infix_banner (digest : String) :
    digest.toList <:+: (Artifact.banner digest).toList := by
  unfold Artifact.banner
  generalize "/*" ++ Artifact.rule ++ "\n" ++ _ ++ _ ++ _ = front
  simp only [String.append_assoc, String.toList_append]
  exact List.infix_append' _ _ _

theorem digest_infix_stamp (body : String) :
    (Artifact.stamp body).digest.toList <:+: (Artifact.stamp body).text.toList := by
  have text : (Artifact.stamp body).text.toList =
      (Artifact.banner (Artifact.stamp body).digest).toList ++ body.toList := String.toList_append
  simp only [text]
  exact List.infix_append_of_infix_left (digest_infix_banner _)

theorem needsWrite_eq_false_iff {artifact : Artifact} {existing : Option String} :
    artifact.needsWrite existing = false ↔
      ∃ text, existing = some text ∧ artifact.digest.toList <:+: text.toList := by
  cases existing with
  | none => simp [Artifact.needsWrite]
  | some text => simp [Artifact.needsWrite, Text.occursIn_iff_infix]

section Update

variable {tree : FileTree} {path : String} {artifact : Artifact}

theorem existingText_run (tree : FileTree) (path : String) :
    (existingText path : StateM FileTree _).run tree =
      (match textAt tree path with
        | .ok text => .ok (some text)
        | .error (.file .notFound) => .ok none
        | .error cause => .error (.readOutput path cause), tree) := by
  rw [existingText, run_bind_eq (readText_run path tree)]
  cases textAt tree path with
  | ok text => rfl
  | error cause =>
    cases cause with
    | notUtf8 => rfl
    | file cause => cases cause <;> rfl

theorem update_of_shows (current : Shows tree path artifact.digest) (check : Bool) :
    (update check path artifact : StateM FileTree _).run tree =
      (.ok ⟨path, artifact, false⟩, tree) := by
  obtain ⟨text, read, inside⟩ := shows_iff_textAt.mp current
  have fresh : artifact.needsWrite (some text) = false :=
    needsWrite_eq_false_iff.mpr ⟨text, rfl, inside⟩
  rw [update, run_bind_eq (existingText_run tree path), read]
  dsimp only
  rw [fresh]
  rfl

/-- A file that is not up to date cannot be read, or it comes to be replaced. -/
theorem update_of_not_shows (outdated : ¬ Shows tree path artifact.digest) (check : Bool) :
    (∃ failure, (update check path artifact : StateM FileTree _).run tree =
      (.error failure, tree)) ∨
    Outdated tree path artifact.digest ∧ (update check path artifact : StateM FileTree _).run tree =
      (if check then pure (.error (.stale path))
      else do
        match ← store path artifact with
        | .error failure => return .error failure
        | .ok () => return .ok ⟨path, artifact, true⟩ : StateM FileTree _).run tree := by
  rw [update, run_bind_eq (existingText_run tree path)]
  cases read : textAt tree path with
  | ok text =>
    have lacking : ¬ artifact.digest.toList <:+: text.toList :=
      fun inside => outdated (shows_iff_textAt.mpr ⟨text, read, inside⟩)
    have needed : artifact.needsWrite (some text) = true := by
      rw [← Bool.not_eq_false, needsWrite_eq_false_iff]
      rintro ⟨_, same, inside⟩
      obtain rfl := Option.some.inj same
      exact lacking inside
    dsimp only
    rw [needed]
    exact .inr ⟨.inr ⟨text, read, lacking⟩, rfl⟩
  | error cause =>
    cases cause with
    | notUtf8 => exact .inl ⟨.readOutput path .notUtf8, rfl⟩
    | file cause =>
      cases cause with
      | notFound => exact .inr ⟨.inl read, rfl⟩
      | _ => exact .inl ⟨.readOutput path (.file _), rfl⟩

theorem update_check_of_not_shows (outdated : ¬ Shows tree path artifact.digest) :
    ∃ failure, (update true path artifact : StateM FileTree _).run tree =
      (.error failure, tree) := by
  rcases update_of_not_shows outdated true with unread | ⟨-, refused⟩
  · exact unread
  · exact ⟨.stale path, refused⟩

theorem prepareDirectory_run (tree : FileTree) (path : String) :
    ∃ result made, (prepareDirectory path : StateM FileTree _).run tree = (result, made) ∧
      tree.Keeps made := by
  rw [prepareDirectory]
  split
  · exact ⟨.ok (), tree, rfl, .refl tree⟩
  · have start : ∀ directory, (MonadFiles.makeDirectories directory : StateM FileTree _).run tree =
        ((tree.makeDirectories directory).2, (tree.makeDirectories directory).1) := fun _ => rfl
    have keeps := tree.keeps_makeDirectories (String.ofList (OutputPath.directory path.toList))
    rw [run_bind_eq (start _)]
    cases (tree.makeDirectories (String.ofList (OutputPath.directory path.toList))).2 with
    | ok done => exact ⟨.ok (), _, rfl, keeps⟩
    | error cause => exact ⟨.error (.makeDirectory _ cause), _, rfl, keeps⟩

theorem write_run (path : String) (bytes : ByteArray) (tree : FileTree) :
    (MonadFiles.write path bytes : StateM FileTree _).run tree =
      match tree.write path bytes with
      | .ok written => (.ok (), written)
      | .error cause => (.error cause, tree) :=
  rfl

theorem store_done {after : FileTree}
    (done : (store path artifact : StateM FileTree _).run tree = (.ok (), after)) :
    ∃ made, tree.Keeps made ∧ made.write path artifact.text.toUTF8 = .ok after := by
  obtain ⟨result, made, prepared, keeps⟩ := prepareDirectory_run tree path
  rw [store, run_bind_eq prepared] at done
  cases result with
  | error failure => cases congrArg Prod.fst done
  | ok _ =>
    refine ⟨made, keeps, ?_⟩
    have start := write_run path artifact.text.toUTF8 made
    dsimp only at done
    cases written : made.write path artifact.text.toUTF8 with
    | error cause =>
      rw [written] at start
      rw [run_bind_eq start] at done
      cases congrArg Prod.fst done
    | ok later =>
      rw [written] at start
      rw [run_bind_eq start] at done
      exact congrArg Except.ok (congrArg Prod.snd done)

theorem update_done (stamped : artifact.digest.toList <:+: artifact.text.toList) {after : FileTree}
    {written : Written}
    (done : (update false path artifact : StateM FileTree _).run tree = (.ok written, after)) :
    FileTree.Rewrites path tree after ∧ Shows after path artifact.digest := by
  by_cases current : Shows tree path artifact.digest
  · rw [update_of_shows current] at done
    obtain rfl : tree = after := congrArg Prod.snd done
    exact ⟨(FileTree.Keeps.refl tree).rewrites path, current⟩
  · rcases update_of_not_shows current false with ⟨failure, unread⟩ | ⟨-, replaced⟩
    · rw [unread] at done
      cases congrArg Prod.fst done
    · rw [replaced, if_neg Bool.false_ne_true] at done
      rcases stored : (store path artifact : StateM FileTree _).run tree with ⟨result, later⟩
      rw [run_bind_eq stored] at done
      cases result with
      | error failure => cases congrArg Prod.fst done
      | ok _ =>
        obtain rfl : later = after := congrArg Prod.snd done
        obtain ⟨mid, keeps, put⟩ := store_done stored
        obtain ⟨rewrites, read⟩ := FileTree.rewrites_of_write put
        exact ⟨rewrites.after_keeps keeps, _, _, read, fromUTF8?_toUTF8 artifact.text, stamped⟩

/-- The update of one file does not take the digest out of another. -/
theorem Shows.of_rewrites {other digest : String} {after : FileTree}
    (current : Shows tree other digest) (rewrites : FileTree.Rewrites path tree after)
    (apart : ¬ after.SameFile other path) : Shows after other digest := by
  obtain ⟨bytes, text, read, rest⟩ := current
  exact ⟨bytes, text, rewrites.read apart read, rest⟩

end Update

end AccessorGen.Command
