import CodeMarkup.Proofs.Settings.File
/-!
# A setting that was stored

Once a setting was stored, the file holds the text of an object (`Written`), so the settings are loaded without a
report, and they are those from before with the one setting changed (`written_of_store`). Nothing has to be known of
the files from before, nor of the logs.
-/

namespace CodeMarkup.Settings

open CodeMarkup.Files CodeMarkup.Json CodeMarkup.Text

/-- The settings file holds the text of an object with these members. -/
structure Written (files : Tree) (settings : Settings) : Prop where
  directory : Tree.lookup? files directoryPlace = some .directory
  text : ∃ text : String, Tree.lookup? files filePlace = some (.file text.toUTF8) ∧ read text = .ok (.obj settings)

theorem Written.congr {files files' : Tree} {settings : Settings} (h : Written files settings)
    (hd : Tree.SameDirectories files files')
    (hf : Tree.lookup? files' filePlace = Tree.lookup? files filePlace) : Written files' settings :=
  ⟨(hd directoryPlace _ rfl).2 h.directory, hf ▸ h.text⟩

/-- There is nothing to report. -/
theorem Written.outcome_load {workspace : Workspace} {settings : Settings} (h : Written workspace.files settings) :
    outcome load workspace = (.ok settings, workspace) := by
  obtain ⟨text, hfile, hread⟩ := h.text
  rw [load, outcome_bind, outcome_get]
  simp only [has_file, read_file, placeIn, h.directory, hfile, Option.isSome_some]
  rw [ofBytes, decodeUtf8_toUTF8]
  simp only [hread]
  rfl

theorem Written.found {files : Tree} {settings : Settings} (h : Written files settings) :
    Settings.found files = .ok settings := by
  obtain ⟨text, hfile, hread⟩ := h.text
  rw [Settings.found, has_file, read_file, placeIn, h.directory]
  simp only [hfile]
  rw [settingsIn, decodeUtf8_toUTF8]
  simp only [hread]
  rfl

theorem Written.outcome_lookup {workspace : Workspace} {settings : Settings} (h : Written workspace.files settings)
    (key : CodePoints) (otherwise : Value) :
    outcome (lookup key otherwise) workspace = (.ok (settings.value key otherwise), workspace) := by
  rw [lookup, outcome_bind, h.outcome_load]
  rfl

/-- A value that was saved is in the settings file. -/
theorem file_of_save {v : Value} {workspace left : Workspace} (h : outcome (save v) workspace = (.ok (), left)) :
    v.hasOversized = false ∧ Tree.lookup? left.files directoryPlace = some .directory ∧
      Tree.lookup? left.files filePlace = some (.file v.toText.toUTF8) := by
  have hwrite : ∀ {workspace : Workspace}, Tree.lookup? workspace.files directoryPlace = some .directory →
      outcome (write v) workspace = (.ok (), left) → v.hasOversized = false ∧
        Tree.lookup? left.files directoryPlace = some .directory ∧
          Tree.lookup? left.files filePlace = some (.file v.toText.toUTF8) := by
    intro workspace hd h
    rw [outcome_write hd] at h
    split at h
    · cases h
    · next hv =>
      split at h
      · cases h
      split at h
      · cases h
      cases h
      refine ⟨Bool.eq_false_iff.2 hv, ?_, lookup?_moved_file _ _⟩
      rw [lookup?_moved_of_ne (by decide) (by decide), lookup?_drafted_of_ne (by decide), hd]
  rw [outcome_save] at h
  split at h
  · exact hwrite (lookup?_made_directory workspace) h
  · next hd => exact hwrite hd h
  · next hd =>
    obtain ⟨failure, hfails⟩ := outcome_write_shut hd v
    cases hfails.symm.trans h
  · cases h

/-- What was stored is loaded again, and the other settings with it. -/
theorem written_of_store {key : String} {v : Value} {workspace left : Workspace} (hv : v.Readable)
    (h : outcome (store key v) workspace = (.ok (), left)) :
    ∃ before after, found workspace.files = .ok before ∧ Written left.files after ∧
      Value.Alike (.obj after) (.obj (Keyed.set (CodePoints.ofString key) v before)) := by
  obtain ⟨loaded, hload, -⟩ := outcome_load workspace
  rw [store, outcome_bind, hload] at h
  cases hbefore : found workspace.files with
  | error failure =>
    rw [hbefore] at h
    cases h
  | ok before =>
    rw [hbefore] at h
    have hset := (found_readable hbefore).set (Lexeme.unpaired_ofString key) hv
    obtain ⟨ho, hd, hfile⟩ := file_of_save h
    have hread := read_toText hset.legible hset.distinct ho
    have halike := Value.alike_sorted hset.distinct
    rw [Value.sorted_obj] at hread halike
    exact ⟨before, _, rfl, ⟨hd, _, hfile, hread⟩, halike⟩

end CodeMarkup.Settings
