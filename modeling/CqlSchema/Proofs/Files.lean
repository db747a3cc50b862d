import CqlSchema.Command.Files
import CqlSchema.Proofs.Checked

/-! A file that was written has the text that was written. The folders on the way to it stay folders,
so the same path leads to it afterwards. -/
namespace CqlSchema.Command.Folder

/-- The folder with a file at a place, over whatever was there. -/
def filed (folder : Folder) (file : List String) (bytes : ByteArray) : Folder :=
  ⟨(file, .bytes bytes) :: folder.contents⟩

section
variable {folder : Folder} {file place next : List String} {bytes : ByteArray} {name : String}

theorem stepOk (walked : folder.step place name = .ok next) :
    folder.content? place = some .folder := by
  unfold step at walked
  cases content : folder.content? place with
  | none => simp [content] at walked
  | some found =>
    cases found with
    | bytes _ => simp [content] at walked
    | folder => rfl

theorem filedContent (free : folder.content? file ≠ some .folder) :
    (folder.filed file bytes).content? file = some (.bytes bytes) := by
  have named : file.isEmpty = false := by
    by_contra empty
    exact free (by simp [content?, empty])
  simp [content?, filed, named]

theorem folderStays (free : folder.content? file ≠ some .folder)
    (found : folder.content? place = some .folder) :
    (folder.filed file bytes).content? place = some .folder := by
  have apart : (place == file) = false := by
    rw [beq_eq_false_iff_ne]
    intro same
    exact free (same ▸ found)
  unfold content? at found ⊢
  split
  · rfl
  · rename_i filled
    rw [if_neg filled] at found
    rw [filed, List.lookup_cons, apart]
    cases content : folder.contents.lookup place with
    | some content => simpa [content] using found
    | none =>
      have within : folder.contents.any (fun entry => place.isPrefixOf entry.1) = true := by
        by_contra absent
        simp [content, absent] at found
      simp [within]

theorem stepStays (free : folder.content? file ≠ some .folder)
    (walked : folder.step place name = .ok next) :
    (folder.filed file bytes).step place name = .ok next := by
  have found := stepOk walked
  rw [step, folderStays free found]
  rwa [step, found] at walked

theorem walkStays {names : List String} (free : folder.content? file ≠ some .folder)
    (walked : names.foldlM folder.step place = .ok next) :
    names.foldlM (folder.filed file bytes).step place = .ok next := by
  induction names generalizing place with
  | nil => exact walked
  | cons name rest ih =>
    rw [List.foldlM_cons, boundOk] at walked ⊢
    obtain ⟨middle, first, others⟩ := walked
    exact ⟨middle, stepStays free first, ih others⟩

theorem placeStays {path : String} (free : folder.content? file ≠ some .folder)
    (found : folder.place path = .ok place) :
    (folder.filed file bytes).place path = .ok place := by
  unfold Folder.place at found ⊢
  rw [elseOk] at found ⊢
  exact ⟨found.1, walkStays free found.2⟩

end

theorem writeOk {folder after : Folder} {path text : String} :
    folder.write path text = .ok after ↔ ∃ place, folder.place path = .ok place ∧
      folder.content? place ≠ some .folder ∧ after = folder.filed place text.toUTF8 := by
  unfold write
  cases found : folder.place path with
  | error error =>
    simp only [reduceCtorEq, false_and, exists_false, iff_false]
    split <;> simp
  | ok place =>
    simp only [Except.ok.injEq, exists_eq_left']
    split
    · rename_i taken
      simp [taken]
    · rename_i free
      rw [Except.ok.injEq]
      exact eq_comm.trans (and_iff_right free).symm

theorem readWritten {folder after : Folder} {path text : String}
    (written : folder.write path text = .ok after) : after.read path = .ok text.toUTF8 := by
  obtain ⟨place, found, free, same⟩ := writeOk.mp written
  subst same
  rw [read, placeStays free found]
  simp only [bind, Except.bind, filedContent free]

theorem systemRead {folder : Folder} {path : String} :
    (system.read path).run folder = pure (folder.read path, folder) := rfl

theorem systemWrite {folder : Folder} {path text : String} :
    (system.write path text).run folder = pure (match folder.write path text with
      | .ok after => (.ok (), after)
      | .error error => (.error error, folder)) := by
  unfold system
  simp only [StateT.run_bind, StateT.run_get, pure_bind]
  cases folder.write path text <;> rfl

end CqlSchema.Command.Folder
