import CodeMarkup.Proofs.Settings.Runs
/-!
# The settings file is replaced whole or not at all

A write of the settings that succeeds leaves the new text in the file and no draft; one that fails leaves the
file as it was, so the same settings are loaded, and at most a new draft (`write_all_or_nothing`). Either way
nothing else changes (`Beside`), except that the directory is made if it was missing and that the logs grow.
-/

namespace CodeMarkup.Settings

open CodeMarkup.Files CodeMarkup.Json CodeMarkup.Log CodeMarkup.Text

/-! ## What is left alone -/

/-- Beside the settings file and its draft nothing changed but logs, and the directory if it was missing. -/
structure Beside (logs : List Place) (files left : Tree) : Prop where
  elsewhere : ∀ place, place ∉ logs → place ≠ directoryPlace → place ≠ filePlace → place ≠ draftPlace →
    Tree.lookup? left place = Tree.lookup? files place
  directory : Tree.lookup? left directoryPlace = Tree.lookup? files directoryPlace ∨
    Tree.lookup? files directoryPlace = none ∧ Tree.lookup? left directoryPlace = some .directory

theorem Beside.refl (logs : List Place) (files : Tree) : Beside logs files files :=
  ⟨fun _ _ _ _ _ => rfl, .inl rfl⟩

theorem Beside.trans {logs : List Place} {files files' left : Tree} (h : Beside logs files files')
    (h' : Beside logs files' left) : Beside logs files left where
  elsewhere place hlog hd hf ht := (h'.elsewhere place hlog hd hf ht).trans (h.elsewhere place hlog hd hf ht)
  directory := by
    rcases h'.directory with h' | ⟨hnone, hmade⟩
    · rw [h']
      exact h.directory
    · rcases h.directory with h | ⟨-, h⟩
      · exact .inr ⟨h ▸ hnone, hmade⟩
      · rw [hnone] at h
        cases h

section Steps

variable (logs : List Place) {workspace : Workspace}

theorem beside_made (h : Tree.lookup? workspace.files directoryPlace = none) :
    Beside logs workspace.files (made workspace).files :=
  ⟨fun _ _ hd _ _ => lookup?_made_of_ne hd.symm, .inr ⟨h, lookup?_made_directory workspace⟩⟩

theorem beside_drafted (workspace : Workspace) (content : ByteArray) :
    Beside logs workspace.files (drafted workspace content).files :=
  ⟨fun _ _ _ _ ht => lookup?_drafted_of_ne ht.symm content, .inl (lookup?_drafted_of_ne (by decide) content)⟩

theorem beside_moved (workspace : Workspace) (content : ByteArray) :
    Beside logs workspace.files (moved workspace content).files :=
  ⟨fun _ _ _ hf ht => lookup?_moved_of_ne hf.symm ht.symm content,
    .inl (lookup?_moved_of_ne (by decide) (by decide) content)⟩

theorem lookup?_moved_draft (workspace : Workspace) (content : ByteArray) :
    Tree.lookup? (moved workspace content).files draftPlace = none := by
  rw [moved, Tree.lookup?_put_of_ne _ (by decide)]
  show Keyed.get? draftPlace _ = none
  rw [Keyed.get?_erase, if_pos rfl]

theorem beside_write (hd : Tree.lookup? workspace.files directoryPlace = some .directory) (v : Value) :
    Beside logs workspace.files (outcome (write v) workspace).2.files := by
  rw [outcome_write hd]
  split
  · exact .refl logs _
  split
  · exact .refl logs _
  split
  · exact beside_drafted logs workspace _
  · exact (beside_drafted logs workspace _).trans (beside_moved logs _ _)

theorem beside_save (v : Value) (workspace : Workspace) :
    Beside logs workspace.files (outcome (save v) workspace).2.files := by
  rw [outcome_save]
  cases hd : Tree.lookup? workspace.files directoryPlace with
  | none => exact (beside_made logs hd).trans (beside_write logs (lookup?_made_directory workspace) v)
  | some entry =>
    cases entry with
    | directory => exact beside_write logs hd v
    | closed =>
      obtain ⟨failure, hwrite⟩ := outcome_write_shut hd v
      rw [hwrite]
      exact .refl logs _
    | file => exact .refl logs _

end Steps

/-- Where there is no directory that may be entered, nothing is reported. -/
theorem outcome_load_outside {workspace : Workspace}
    (h : Tree.lookup? workspace.files directoryPlace ≠ some .directory) :
    (outcome load workspace).2 = workspace := by
  have hplace : ∃ cause, placeIn workspace.files filePlace = .error cause := by
    rw [placeIn]
    cases hd : Tree.lookup? workspace.files directoryPlace with
    | none => exact ⟨_, rfl⟩
    | some entry =>
      cases entry with
      | directory => exact absurd hd h
      | closed => exact ⟨_, rfl⟩
      | file => exact ⟨_, rfl⟩
  obtain ⟨cause, hplace⟩ := hplace
  rw [load, outcome_bind, outcome_get]
  simp only [has_file, hplace]
  cases cause <;> rfl

theorem beside_load (workspace : Workspace) :
    Beside (placesOf workspace.log.handlers) workspace.files (outcome load workspace).2.files := by
  by_cases hd : Tree.lookup? workspace.files directoryPlace = some .directory
  · obtain ⟨left, hload, hleft⟩ := outcome_load workspace
    rw [hload]
    rcases hleft with rfl | rfl
    · exact .refl _ _
    · obtain ⟨hfiles, -⟩ := workspace.report_disturbs (.unreadableSettings file)
      refine ⟨fun place hlog _ _ _ => hfiles.elsewhere place hlog, .inl ?_⟩
      rw [hd]
      exact (hfiles.sameDirectories directoryPlace _ rfl).2 hd
  · rw [outcome_load_outside hd]
    exact .refl _ _

/-! ## The draft -/

/-- After a write there is no draft if it succeeded, and otherwise the one there was or the new text. -/
def DraftLeft (text : String) (files : Tree) : Except Failure Unit × Workspace → Prop
  | (.ok (), left) => Tree.lookup? left.files draftPlace = none
  | (.error _, left) => Tree.lookup? left.files draftPlace = Tree.lookup? files draftPlace ∨
      Tree.lookup? left.files draftPlace = some (.file text.toUTF8)

theorem draftLeft_write {workspace : Workspace}
    (hd : Tree.lookup? workspace.files directoryPlace = some .directory) (v : Value) :
    DraftLeft v.toText workspace.files (outcome (write v) workspace) := by
  rw [outcome_write hd]
  split
  · exact .inl rfl
  split
  · exact .inl rfl
  split
  · exact .inr (lookup?_drafted_draft workspace _)
  · exact lookup?_moved_draft _ _

theorem DraftLeft.congr {text : String} {files files' : Tree} {result : Except Failure Unit × Workspace}
    (h : DraftLeft text files' result) (hd : Tree.lookup? files' draftPlace = Tree.lookup? files draftPlace) :
    DraftLeft text files result := by
  obtain ⟨_ | ⟨⟩, left⟩ := result
  · rw [DraftLeft, ← hd]
    exact h
  · exact h

theorem draftLeft_save (v : Value) (workspace : Workspace) :
    DraftLeft v.toText workspace.files (outcome (save v) workspace) := by
  rw [outcome_save]
  cases hd : Tree.lookup? workspace.files directoryPlace with
  | none =>
    exact (draftLeft_write (lookup?_made_directory workspace) v).congr (lookup?_made_of_ne (by decide))
  | some entry =>
    cases entry with
    | directory => exact draftLeft_write hd v
    | closed =>
      obtain ⟨failure, hwrite⟩ := outcome_write_shut hd v
      rw [hwrite]
      exact .inl rfl
    | file => exact .inl rfl

/-! ## All or nothing -/

/-- What a write of a text comes to: the file is replaced by it, or stays. -/
inductive AllOrNothing (text : String) (workspace : Workspace) : Except Failure Unit × Workspace → Prop
  | all {left : Workspace} (hfile : Tree.lookup? left.files filePlace = some (.file text.toUTF8))
      (hdraft : Tree.lookup? left.files draftPlace = none)
      (hbeside : Beside (placesOf workspace.log.handlers) workspace.files left.files) :
      AllOrNothing text workspace (.ok (), left)
  | nothing {failure : Failure} {left : Workspace}
      (hfile : Tree.lookup? left.files filePlace = Tree.lookup? workspace.files filePlace)
      (hload : (outcome load left).1 = (outcome load workspace).1)
      (hdraft : Tree.lookup? left.files draftPlace = Tree.lookup? workspace.files draftPlace ∨
        Tree.lookup? left.files draftPlace = some (.file text.toUTF8))
      (hbeside : Beside (placesOf workspace.log.handlers) workspace.files left.files) :
      AllOrNothing text workspace (.error failure, left)

theorem Saved.allOrNothing {v : Value} {workspace : Workspace} {result : Except Failure Unit × Workspace}
    (h : Saved v workspace result) (hready : Ready workspace) (hdraft : DraftLeft v.toText workspace.files result)
    (hbeside : Beside (placesOf workspace.log.handlers) workspace.files result.2.files) :
    AllOrNothing v.toText workspace result := by
  cases h with
  | written _ _ _ _ hfile => exact .all hfile hdraft hbeside
  | refused _ hleft hshut hfile =>
    refine .nothing hfile ?_ hdraft hbeside
    rw [outcome_load_fst, outcome_load_fst, found_congr hready hleft hshut hfile]

theorem save_allOrNothing {workspace : Workspace} (h : Ready workspace) (v : Value) :
    AllOrNothing v.toText workspace (outcome (save v) workspace) :=
  (save_saved h v).allOrNothing h (draftLeft_save v workspace) (beside_save _ v workspace)

/-- A draft is left as it is when the settings are loaded, since no log is kept there. -/
theorem Ready.lookup?_draft_load {workspace : Workspace} (h : Ready workspace) :
    Tree.lookup? (outcome load workspace).2.files draftPlace = Tree.lookup? workspace.files draftPlace := by
  obtain ⟨left, hload, hleft⟩ := outcome_load workspace
  rw [hload]
  rcases hleft with rfl | rfl
  · rfl
  · exact (workspace.report_disturbs _).1.elsewhere draftPlace h.draft_unlogged

theorem store_allOrNothing {workspace : Workspace} {settings : Settings} (h : Ready workspace)
    (hs : found workspace.files = .ok settings) (key : CodePoints) (v : Value) :
    AllOrNothing (Value.obj (Keyed.set key v settings)).toText workspace (outcome (store key v) workspace) := by
  have hsaved := store_saved h hs key v
  have hbeside := beside_load workspace
  have hdraft := h.lookup?_draft_load
  obtain ⟨left, hload, -⟩ := load_same h
  rw [store, outcome_bind, hload, hs] at hsaved ⊢
  rw [hload] at hbeside hdraft
  exact hsaved.allOrNothing h ((draftLeft_save _ left).congr hdraft) (hbeside.trans (beside_save _ _ left))

theorem store_nothing {workspace : Workspace} {failure : Failure} (h : Ready workspace)
    (hs : found workspace.files = .error failure) (key : CodePoints) (v : Value) (text : String) :
    AllOrNothing text workspace (outcome (store key v) workspace) := by
  have hbeside := beside_load workspace
  have hdraft := h.lookup?_draft_load
  obtain ⟨left, hload, hsame⟩ := load_same h
  rw [hload] at hbeside hdraft
  rw [store, outcome_bind, hload, hs]
  refine .nothing hsame.file ?_ (.inl hdraft) hbeside
  rw [outcome_load_fst, outcome_load_fst, found_congr h hsame.ready hsame.shut hsame.file]

/-- Saving a value and storing a setting replace the settings file whole or leave it alone, and nothing else
changes. Which of the two it is depends on what stands in the way and on the numbers to be written. -/
theorem write_all_or_nothing {workspace : Workspace} (hrooted : workspace.files.Rooted)
    (hlog : ∀ place ∈ placesOf workspace.log.handlers, place ≠ filePlace ∧ place ≠ draftPlace) :
    (∀ v, AllOrNothing v.toText workspace (outcome (save v) workspace)) ∧
    (∀ key v settings, (outcome load workspace).1 = .ok settings →
      AllOrNothing (Value.obj (Keyed.set key v settings)).toText workspace (outcome (store key v) workspace)) ∧
    (∀ key v failure, (outcome load workspace).1 = .error failure →
      ∀ text, AllOrNothing text workspace (outcome (store key v) workspace)) ∧
    Takes workspace := by
  have hready := ready_of_rooted hrooted hlog
  simp only [outcome_load_fst]
  refine ⟨fun v => save_allOrNothing hready v, ?_, ?_, hready.takes⟩
  · intro key v settings hs
    exact store_allOrNothing hready hs key v
  · intro key v failure hs text
    exact store_nothing hready hs key v text

/-- A settings file, and a directory where the draft is to be. -/
def obstructed (text : String) : Workspace where
  files := [(directoryPlace, .directory), (filePlace, .file text.toUTF8), (draftPlace, .directory)]

theorem rooted_obstructed (text : String) : (obstructed text).files.Rooted :=
  Tree.rooted_of_forall_mem (List.forall_mem_cons.2
    ⟨rfl, List.forall_mem_cons.2 ⟨rfl, List.forall_mem_singleton.2 rfl⟩⟩)

/-- The draft cannot be written, and the settings stay. -/
theorem write_all_or_nothing_obstructed :
    ∃ failure left, outcome (store "theme" (.str "dark")) (obstructed "light") = (.error failure, left) ∧
      Tree.lookup? left.files filePlace = some (.file "light".toUTF8) ∧
      (outcome load left).1 = (outcome load (obstructed "light")).1 := by
  have hlog : ∀ place ∈ placesOf (obstructed "light").log.handlers, place ≠ filePlace ∧ place ≠ draftPlace := nofun
  obtain ⟨-, hstore, hfails, htakes⟩ := write_all_or_nothing (rooted_obstructed "light") hlog
  have hwrite : ∃ text, AllOrNothing text (obstructed "light")
      (outcome (store "theme" (.str "dark")) (obstructed "light")) := by
    cases hs : (outcome load (obstructed "light")).1 with
    | ok settings => exact ⟨_, hstore "theme" (.str "dark") settings hs⟩
    | error failure => exact ⟨"", hfails "theme" (.str "dark") failure hs ""⟩
  have hrefused : (outcome (store "theme" (.str "dark")) (obstructed "light")).1 ≠ .ok () :=
    fun hok => absurd ((htakes.store _ _).1 hok).1.draft (by decide)
  obtain ⟨text, hwrite⟩ := hwrite
  generalize outcome (store "theme" (.str "dark")) (obstructed "light") = result at hwrite hrefused
  cases hwrite with
  | all => exact absurd rfl hrefused
  | nothing hfile hload => exact ⟨_, _, rfl, hfile, hload⟩

end CodeMarkup.Settings
