import CodeMarkup.Proofs.Files.Tree
import CodeMarkup.Proofs.Json.Keys
import CodeMarkup.Proofs.Json.RoundTrip
import CodeMarkup.Proofs.Reports
import CodeMarkup.Proofs.Runs
import CodeMarkup.Settings
/-!
# The settings file

What loading makes of the bytes in the settings file (`outcome_load`), and what saving leaves there: the value
that was written, or what stood there before (`save_saved`).
-/

namespace CodeMarkup.Settings

open CodeMarkup.Files CodeMarkup.Json CodeMarkup.Log CodeMarkup.Text

/-! ## Places -/

/-- The place of the directory of the settings file. -/
def directoryPlace : Place := ⟨.workspace, ["config"]⟩

/-- The place of the settings file. -/
def filePlace : Place := directoryPlace.child "settings.json"

/-- The place of the file that settings are written to at first. -/
def draftPlace : Place := directoryPlace.child "settings.tmp"

/-- The settings' directory may not be entered. -/
def Shut (files : Tree) : Prop := Tree.lookup? files directoryPlace = some .closed

instance (files : Tree) : Decidable (Shut files) := inferInstanceAs (Decidable (_ = _))

/-- The place of something in the settings' directory, unless there is no such directory or it may not be
entered. -/
def placeIn (files : Tree) (place : Place) : Except Cause Place :=
  match Tree.lookup? files directoryPlace with
  | none => .error .notFound
  | some (.file _) => .error .notDirectory
  | some .closed => .error .permissionDenied
  | some .directory => .ok place

theorem ordinary_directory : Tree.Ordinary "config" := ⟨rfl, by decide, by decide⟩

theorem ordinary_file : Tree.Ordinary "settings.json" := ⟨rfl, by decide, by decide⟩

theorem ordinary_draft : Tree.Ordinary "settings.tmp" := ⟨rfl, by decide, by decide⟩

theorem walk_directory (files : Tree) (rest : List CodePoints) :
    Tree.walk files Start.here.place ("config" :: rest) = Tree.walk files directoryPlace rest :=
  Tree.walk_name ordinary_directory rfl rest

theorem walk_within {name : String} (h : Tree.Ordinary name) (files : Tree) :
    Tree.walk files Start.here.place ["config", name] = placeIn files (directoryPlace.child name) := by
  rw [walk_directory, placeIn]
  cases hd : Tree.lookup? files directoryPlace with
  | none => rw [Tree.walk, hd]
  | some entry =>
    cases entry with
    | file => rw [Tree.walk, hd]
    | closed => rw [Tree.walk, hd]
    | directory =>
      rw [Tree.walk_name h hd]
      rfl

theorem locate_file (files : Tree) : Tree.locate files file = placeIn files filePlace := by
  rw [Tree.locate, if_neg (by decide)]
  exact walk_within ordinary_file files

theorem locate_draft (files : Tree) : Tree.locate files draft = placeIn files draftPlace := by
  rw [Tree.locate, if_neg (by decide)]
  exact walk_within ordinary_draft files

theorem locate_directory (files : Tree) : Tree.locate files directory = .ok directoryPlace := by
  rw [Tree.locate, if_neg (by decide)]
  exact walk_directory files []

/-! ## The directory -/

theorem makeDirectory_directory (files : Tree) : Tree.makeDirectory files directory =
    if (Tree.lookup? files directoryPlace).isSome then .error .alreadyExists
    else .ok (Tree.put files directoryPlace .directory) := by
  have habove : Tree.locate files directory.above = .ok ⟨.workspace, []⟩ := by
    rw [Tree.locate, if_neg (by decide)]
    rfl
  rw [Tree.makeDirectory, if_neg (by decide), habove]
  rfl

theorem makeDirectories_directory (files : Tree) : Tree.makeDirectories files directory =
    match Tree.lookup? files directoryPlace with
    | none => (.ok (), Tree.put files directoryPlace .directory)
    | some .directory | some .closed => (.ok (), files)
    | some (.file _) => (.error { cause := .alreadyExists, path := directory.toText }, files) := by
  have hthere : Tree.isDirectory files directory =
      .ok ((Tree.lookup? files directoryPlace).any (!·.isFile)) := by
    rw [Tree.isDirectory, Tree.holds, if_neg (by decide), locate_directory]
  show Tree.makeWithin files directory 1 = _
  rw [Tree.makeWithin, Tree.ensureDirectory, makeDirectory_directory, hthere]
  cases Tree.lookup? files directoryPlace with
  | none => rfl
  | some entry => cases entry <;> rfl

/-! ## Loading -/

/-- The settings in bytes: none if they hold no object. -/
def settingsIn (content : ByteArray) : Except Failure Settings :=
  match decodeUtf8 content with
  | .error _ => .ok []
  | .ok text => match read text with
    | .ok v => .ok (v.members?.getD [])
    | .error (.malformed _ _) => .ok []
    | .error (.oversized digits) => .error (.tooManyDigits digitLimit digits)

/-- The failure to look the settings file up. -/
def refusal (cause : Cause) : Failure := .file { cause, path := file.toText }

/-- The settings in the file: none if it is missing or cannot be read, but it must be possible to look it up. -/
def found (files : Tree) : Except Failure Settings :=
  match Tree.has files file with
  | .error cause => .error (refusal cause)
  | .ok _ => match Tree.read files file with
    | .error _ => .ok []
    | .ok content => settingsIn content

/-- At most, the settings file was reported as unreadable. -/
def LeftBy (workspace left : Workspace) : Prop :=
  left = workspace ∨ left = workspace.report (.unreadableSettings file)

theorem outcome_ofBytes (content : ByteArray) (workspace : Workspace) :
    ∃ left, outcome (ofBytes content) workspace = (settingsIn content, left) ∧ LeftBy workspace left := by
  rw [ofBytes, settingsIn]
  cases decodeUtf8 content with
  | error => exact ⟨_, rfl, .inr rfl⟩
  | ok text =>
    simp only
    cases Json.read text with
    | ok => exact ⟨_, rfl, .inl rfl⟩
    | error fault =>
      cases fault with
      | malformed => exact ⟨_, rfl, .inr rfl⟩
      | oversized => exact ⟨_, rfl, .inl rfl⟩

theorem has_file (files : Tree) : Tree.has files file =
    match placeIn files filePlace with
    | .ok place => .ok (Tree.lookup? files place).isSome
    | .error .permissionDenied => .error .permissionDenied
    | .error _ => .ok false := by
  rw [Tree.has, Tree.holds, if_neg (by decide), locate_file, placeIn]
  cases Tree.lookup? files directoryPlace with
  | none => rfl
  | some entry =>
    cases entry with
    | file => rfl
    | closed => rfl
    | directory => cases h : Tree.lookup? files filePlace <;> simp [h]

/-- The settings file can be looked up unless its directory may not be entered. -/
theorem has_file_eq_error_iff {files : Tree} {cause : Cause} :
    Tree.has files file = .error cause ↔ Shut files ∧ cause = .permissionDenied := by
  rw [has_file, placeIn, Shut]
  cases Tree.lookup? files directoryPlace with
  | none => simp
  | some entry => cases entry <;> simp [eq_comm]

theorem read_file (files : Tree) : Tree.read files file =
    match placeIn files filePlace with
    | .error cause => .error cause
    | .ok place => match Tree.lookup? files place with
      | none => .error .notFound
      | some .directory => .error .isDirectory
      | some .closed => .error .permissionDenied
      | some (.file content) => .ok content := by
  rw [Tree.read, locate_file]
  cases placeIn files filePlace <;> rfl

/-- What loading gives depends on the files alone. -/
theorem outcome_load (workspace : Workspace) :
    ∃ left, outcome load workspace = (found workspace.files, left) ∧ LeftBy workspace left := by
  rw [load, outcome_bind, outcome_get, found]
  simp only [has_file, read_file]
  cases placeIn workspace.files filePlace with
  | error cause => cases cause <;> exact ⟨_, rfl, .inl rfl⟩
  | ok place =>
    simp only
    cases Tree.lookup? workspace.files place with
    | none => exact ⟨_, rfl, .inl rfl⟩
    | some entry =>
      cases entry with
      | directory | closed => exact ⟨_, rfl, .inr rfl⟩
      | file content => exact outcome_ofBytes content workspace

/-! ## Saving -/

/-- A workspace in which only settings are written to the settings file: it is in its directory, and no log
is kept there. -/
structure Ready (workspace : Workspace) : Prop where
  inDirectory : Tree.directoryAt workspace.files directoryPlace = false →
    Tree.lookup? workspace.files filePlace = none
  file_unlogged : filePlace ∉ placesOf workspace.log.handlers
  draft_unlogged : draftPlace ∉ placesOf workspace.log.handlers

/-- Nothing stands where the settings are to be written. -/
structure Unobstructed (files : Tree) : Prop where
  directory : Tree.lookup? files directoryPlace = none ∨ Tree.lookup? files directoryPlace = some .directory
  draft : Tree.directoryAt files draftPlace = false
  file : Tree.directoryAt files filePlace = false

theorem unobstructed_congr {files files' : Tree}
    (hdirectory : (Tree.lookup? files' directoryPlace = none ∨
        Tree.lookup? files' directoryPlace = some .directory) ↔
      (Tree.lookup? files directoryPlace = none ∨ Tree.lookup? files directoryPlace = some .directory))
    (hdraft : Tree.directoryAt files' draftPlace = Tree.directoryAt files draftPlace)
    (hfile : Tree.directoryAt files' filePlace = Tree.directoryAt files filePlace) :
    Unobstructed files' ↔ Unobstructed files := by
  constructor
  · exact fun h => ⟨hdirectory.1 h.directory, hdraft ▸ h.draft, hfile ▸ h.file⟩
  · exact fun h => ⟨hdirectory.2 h.directory, hdraft ▸ h.draft, hfile ▸ h.file⟩

/-- The workspace with the directory of the settings. -/
def made (workspace : Workspace) : Workspace :=
  { workspace with files := Tree.put workspace.files directoryPlace .directory }

/-- The workspace with the draft. -/
def drafted (workspace : Workspace) (content : ByteArray) : Workspace :=
  { workspace with files := Tree.put workspace.files draftPlace (.file content) }

/-- The workspace once the draft has taken the place of the settings file. -/
def moved (workspace : Workspace) (content : ByteArray) : Workspace :=
  { workspace with
    files := Tree.put (Keyed.erase draftPlace workspace.files) filePlace (.file content)
    log := { workspace.log with
      handlers := workspace.log.handlers.map (·.follow draftPlace filePlace) } }

theorem outcome_makeDirectories (workspace : Workspace) :
    outcome (makeDirectories directory) workspace =
      match Tree.lookup? workspace.files directoryPlace with
      | none => (.ok (), made workspace)
      | some .directory | some .closed => (.ok (), workspace)
      | some (.file _) =>
        (.error (.file { cause := .alreadyExists, path := directory.toText }), workspace) := by
  rw [makeDirectories, if_neg (by decide), outcome_changeFiles, makeDirectories_directory]
  cases Tree.lookup? workspace.files directoryPlace with
  | none => rfl
  | some entry => cases entry <;> rfl

theorem outcome_writeDraft {workspace : Workspace}
    (hd : Tree.lookup? workspace.files directoryPlace = some .directory) (content : ByteArray) :
    outcome (writeBytes draft draft.toText content) workspace =
      if Tree.directoryAt workspace.files draftPlace then
        (.error (.file { cause := .isDirectory, path := draft.toText }), workspace)
      else (.ok (), drafted workspace content) := by
  have hplace : Tree.locate workspace.files draft = .ok draftPlace := by
    rw [locate_draft, placeIn, hd]
  rw [writeBytes, outcome_bind, outcome_get]
  simp only [placeFor]
  rw [if_neg (by decide), if_neg (by decide),
    Tree.locateForWriting_of_locate (by decide) (by decide) hplace]
  cases Tree.directoryAt workspace.files draftPlace <;> rfl

theorem outcome_writeDraft_shut {workspace : Workspace} (h : Shut workspace.files) (content : ByteArray) :
    outcome (writeBytes draft draft.toText content) workspace =
      (.error (.file { cause := .permissionDenied, path := draft.toText }), workspace) := by
  have hplace : Tree.locateForWriting workspace.files draft = .error .permissionDenied := by
    rw [Tree.locateForWriting, if_neg (by decide), if_neg (by decide), locate_draft, placeIn, h]
    rfl
  rw [writeBytes, outcome_bind, outcome_get]
  simp only [placeFor]
  rw [if_neg (by decide), if_neg (by decide), hplace]
  rfl

theorem move_draft {workspace : Workspace} {content : ByteArray}
    (hd : Tree.lookup? workspace.files directoryPlace = some .directory)
    (hdraft : Tree.lookup? workspace.files draftPlace = some (.file content)) :
    workspace.move draft file =
      if Tree.directoryAt workspace.files filePlace then .error .isDirectory
      else .ok (moved workspace content) := by
  have hsource : Tree.locate workspace.files draft = .ok draftPlace := by
    rw [locate_draft, placeIn, hd]
  have htarget : Tree.locate workspace.files file = .ok filePlace := by
    rw [locate_file, placeIn, hd]
  rw [Workspace.move, Tree.read_of_locate hsource hdraft, hsource,
    Tree.locateForWriting_of_locate (by decide) (by decide) htarget]
  split <;> rfl

/-! ## What saving leaves -/

theorem Ready.of_directory {workspace left : Workspace} (h : Ready workspace)
    (hd : Tree.lookup? left.files directoryPlace = some .directory)
    (hlog : ∀ place ∈ placesOf left.log.handlers, place ∈ placesOf workspace.log.handlers) : Ready left where
  inDirectory hn := by
    rw [Tree.directoryAt_of_directory hd] at hn
    cases hn
  file_unlogged hm := h.file_unlogged (hlog _ hm)
  draft_unlogged hm := h.draft_unlogged (hlog _ hm)

theorem placesOf_follow {handlers : List Handler} {source target place : Place}
    (hsource : source ∉ placesOf handlers)
    (h : place ∈ placesOf (handlers.map (·.follow source target))) : place ∈ placesOf handlers := by
  simp only [placesOf, List.mem_filterMap, List.mem_map] at h hsource ⊢
  obtain ⟨_, ⟨handler, hm, rfl⟩, hplace⟩ := h
  refine ⟨handler, hm, ?_⟩
  rw [Handler.follow] at hplace
  split at hplace
  · next other position ht =>
    rw [ht]
    split at hplace
    · next he => exact absurd ⟨handler, hm, by rw [ht, he]; rfl⟩ hsource
    · split at hplace
      · cases hplace
      · rwa [ht] at hplace
  · exact hplace

section Written

variable {workspace : Workspace}

theorem lookup?_made_directory (workspace : Workspace) :
    Tree.lookup? (made workspace).files directoryPlace = some .directory :=
  Tree.lookup?_put_self _ (by decide) _

theorem lookup?_made_of_ne {place : Place} (h : directoryPlace ≠ place) :
    Tree.lookup? (made workspace).files place = Tree.lookup? workspace.files place :=
  Tree.lookup?_put_of_ne _ h _

theorem Ready.made (h : Ready workspace) : Ready (made workspace) :=
  h.of_directory (lookup?_made_directory workspace) fun _ hm => hm

theorem lookup?_drafted_draft (workspace : Workspace) (content : ByteArray) :
    Tree.lookup? (drafted workspace content).files draftPlace = some (.file content) :=
  Tree.lookup?_put_self _ (by decide) _

theorem lookup?_drafted_of_ne {place : Place} (h : draftPlace ≠ place) (content : ByteArray) :
    Tree.lookup? (drafted workspace content).files place = Tree.lookup? workspace.files place :=
  Tree.lookup?_put_of_ne _ h _

theorem Ready.drafted (h : Ready workspace)
    (hd : Tree.lookup? workspace.files directoryPlace = some .directory) (content : ByteArray) :
    Ready (drafted workspace content) :=
  h.of_directory ((lookup?_drafted_of_ne (by decide) content).trans hd) fun _ hm => hm

theorem lookup?_moved_file (workspace : Workspace) (content : ByteArray) :
    Tree.lookup? (moved workspace content).files filePlace = some (.file content) :=
  Tree.lookup?_put_self _ (by decide) _

theorem lookup?_moved_of_ne {place : Place} (hf : filePlace ≠ place) (ht : draftPlace ≠ place) (content : ByteArray) :
    Tree.lookup? (moved workspace content).files place = Tree.lookup? workspace.files place := by
  rw [moved, Tree.lookup?_put_of_ne _ hf, Tree.lookup?_erase_of_ne _ ht]

theorem Ready.moved (h : Ready workspace)
    (hd : Tree.lookup? workspace.files directoryPlace = some .directory) (content : ByteArray) :
    Ready (moved workspace content) := by
  exact h.of_directory ((lookup?_moved_of_ne (by decide) (by decide) content).trans hd)
    fun _ hm => placesOf_follow h.draft_unlogged hm

end Written

/-- What saving may come to: the value is in the settings file, or there is what was there before. -/
inductive Saved (v : Value) (workspace : Workspace) : Except Failure Unit × Workspace → Prop
  | written {left : Workspace} (hfree : Unobstructed workspace.files) (hv : v.hasOversized = false)
      (hleft : Ready left) (hopen : ¬ Shut left.files)
      (hfile : Tree.lookup? left.files filePlace = some (.file v.toText.toUTF8)) :
      Saved v workspace (.ok (), left)
  | refused {failure : Failure} {left : Workspace}
      (hrefused : ¬ (Unobstructed workspace.files ∧ v.hasOversized = false)) (hleft : Ready left)
      (hshut : Shut left.files ↔ Shut workspace.files)
      (hfile : Tree.lookup? left.files filePlace = Tree.lookup? workspace.files filePlace) :
      Saved v workspace (.error failure, left)

/-- The part of saving that comes once there is a directory. -/
def write (v : Value) : Attempt Unit := do
  if v.hasOversized then throw (.tooLongNumber digitLimit)
  writeBytes draft draft.toText v.toText.toUTF8
  match (← get).move draft file with
  | .error cause => throw (.file { cause, path := draft.toText, target := some file.toText })
  | .ok workspace => set workspace

theorem save_eq (v : Value) : save v = (do makeDirectories directory; write v) := rfl

theorem outcome_write {workspace : Workspace}
    (hd : Tree.lookup? workspace.files directoryPlace = some .directory) (v : Value) :
    outcome (write v) workspace =
      if v.hasOversized then (.error (.tooLongNumber digitLimit), workspace)
      else if Tree.directoryAt workspace.files draftPlace then
        (.error (.file { cause := .isDirectory, path := draft.toText }), workspace)
      else if Tree.directoryAt workspace.files filePlace then
        (.error (.file { cause := .isDirectory, path := draft.toText, target := some file.toText }),
          drafted workspace v.toText.toUTF8)
      else (.ok (), moved (drafted workspace v.toText.toUTF8) v.toText.toUTF8) := by
  by_cases hv : v.hasOversized = true
  · rw [write, if_pos hv, if_pos hv]
    rfl
  rw [write, if_neg hv, if_neg hv, outcome_bind, outcome_writeDraft hd]
  by_cases hdraft : Tree.directoryAt workspace.files draftPlace = true
  · rw [if_pos hdraft, if_pos hdraft]
  rw [if_neg hdraft, if_neg hdraft]
  -- From here on there is a draft, also if its move is refused.
  have hd' := (lookup?_drafted_of_ne (by decide) v.toText.toUTF8).trans hd
  have hfile' : Tree.directoryAt (drafted workspace v.toText.toUTF8).files filePlace =
      Tree.directoryAt workspace.files filePlace := by
    rw [Tree.directoryAt, lookup?_drafted_of_ne (by decide), Tree.directoryAt]
  simp only [outcome_bind, outcome_get, move_draft hd' (lookup?_drafted_draft _ _), hfile']
  cases Tree.directoryAt workspace.files filePlace <;> rfl

/-- Where the directory may not be entered, nothing is written. -/
theorem outcome_write_shut {workspace : Workspace} (h : Shut workspace.files) (v : Value) :
    ∃ failure, outcome (write v) workspace = (.error failure, workspace) := by
  rw [write]
  split
  · exact ⟨_, rfl⟩
  · exact ⟨_, by rw [outcome_bind, outcome_writeDraft_shut h]⟩

theorem outcome_save (v : Value) (workspace : Workspace) : outcome (save v) workspace =
    match Tree.lookup? workspace.files directoryPlace with
    | none => outcome (write v) (made workspace)
    | some .directory | some .closed => outcome (write v) workspace
    | some (.file _) =>
      (.error (.file { cause := .alreadyExists, path := directory.toText }), workspace) := by
  rw [save_eq, outcome_bind, outcome_makeDirectories]
  cases Tree.lookup? workspace.files directoryPlace with
  | none => rfl
  | some entry => cases entry <;> rfl

theorem write_saved {workspace : Workspace} (h : Ready workspace)
    (hd : Tree.lookup? workspace.files directoryPlace = some .directory) (v : Value) :
    Saved v workspace (outcome (write v) workspace) := by
  rw [outcome_write hd]
  split
  · next hv => exact .refused (fun hn => by rw [hn.2] at hv; cases hv) h Iff.rfl rfl
  · next hv =>
    have hready := h.drafted hd v.toText.toUTF8
    have hfile := @lookup?_drafted_of_ne workspace filePlace (by decide) v.toText.toUTF8
    have hd' := (lookup?_drafted_of_ne (by decide) v.toText.toUTF8).trans hd
    have hopen : ∀ {files : Tree}, Tree.lookup? files directoryPlace = some .directory → ¬ Shut files := by
      intro files hfiles hshut
      cases hfiles.symm.trans hshut
    split
    · next hdraft => exact .refused (fun hn => by rw [hn.1.draft] at hdraft; cases hdraft) h Iff.rfl rfl
    · next hdraft =>
      split
      · next hobstructed =>
        refine .refused (fun hn => ?_) hready (iff_of_false (hopen hd') (hopen hd)) hfile
        rw [hn.1.file] at hobstructed
        cases hobstructed
      · next hfree =>
        exact .written ⟨.inr hd, Bool.eq_false_iff.2 hdraft, Bool.eq_false_iff.2 hfree⟩ (Bool.eq_false_iff.2 hv)
          (hready.moved hd' _) (hopen ((lookup?_moved_of_ne (by decide) (by decide) _).trans hd'))
          (lookup?_moved_file _ _)

theorem Saved.congr {v : Value} {workspace other : Workspace} {result : Except Failure Unit × Workspace}
    (h : Saved v other result) (hfree : Unobstructed other.files ↔ Unobstructed workspace.files)
    (hshut : Shut other.files ↔ Shut workspace.files)
    (hfile : Tree.lookup? other.files filePlace = Tree.lookup? workspace.files filePlace) :
    Saved v workspace result := by
  cases h with
  | written hother hv hleft hopen hwritten => exact .written (hfree.1 hother) hv hleft hopen hwritten
  | refused hother hleft hleftShut hleftFile =>
    exact .refused (fun hn => hother ⟨hfree.2 hn.1, hn.2⟩) hleft (hleftShut.trans hshut) (hleftFile.trans hfile)

/-- Saving writes the value to the settings file or leaves the file alone. -/
theorem save_saved {workspace : Workspace} (h : Ready workspace) (v : Value) :
    Saved v workspace (outcome (save v) workspace) := by
  rw [outcome_save]
  cases hd : Tree.lookup? workspace.files directoryPlace with
  | some entry =>
    cases entry with
    | directory => exact write_saved h hd v
    | closed =>
      obtain ⟨failure, hwrite⟩ := outcome_write_shut hd v
      rw [hwrite]
      exact .refused (fun hn => by simpa [hd] using hn.1.directory) h Iff.rfl rfl
    | file content => exact .refused (fun hn => by simpa [hd] using hn.1.directory) h Iff.rfl rfl
  | none =>
    have hdraft : Tree.lookup? (made workspace).files draftPlace =
        Tree.lookup? workspace.files draftPlace := lookup?_made_of_ne (by decide)
    have hfile : Tree.lookup? (made workspace).files filePlace =
        Tree.lookup? workspace.files filePlace := lookup?_made_of_ne (by decide)
    have hmade := lookup?_made_directory workspace
    have hfree : Unobstructed (made workspace).files ↔ Unobstructed workspace.files :=
      unobstructed_congr (iff_of_true (.inr hmade) (.inl hd)) (congrArg (Option.any _) hdraft)
        (congrArg (Option.any _) hfile)
    have hshut : Shut (made workspace).files ↔ Shut workspace.files := by
      rw [Shut, Shut, hmade, hd]
      exact iff_of_false nofun nofun
    exact (write_saved h.made hmade v).congr hfree hshut hfile

/-! ## What saving and loading depend on -/

/-- Loading and saving do not tell these workspaces apart. -/
structure Same (workspace other : Workspace) : Prop where
  ready : Ready other
  free : Unobstructed other.files ↔ Unobstructed workspace.files
  shut : Shut other.files ↔ Shut workspace.files
  file : Tree.lookup? other.files filePlace = Tree.lookup? workspace.files filePlace

theorem Ready.report {workspace : Workspace} (h : Ready workspace) (notice : Notice) :
    Same workspace (workspace.report notice) := by
  obtain ⟨hfiles, hplaces⟩ := workspace.report_disturbs notice
  have hfile := hfiles.elsewhere filePlace h.file_unlogged
  have hsame := hfiles.sameDirectories
  refine ⟨⟨fun hn => ?_, hplaces ▸ h.file_unlogged, hplaces ▸ h.draft_unlogged⟩, ?_,
    hsame directoryPlace _ rfl, hfile⟩
  · rw [hfile]
    exact h.inDirectory (hsame.directoryAt directoryPlace ▸ hn)
  · refine unobstructed_congr (or_congr ?_ (hsame directoryPlace _ rfl)) (hsame.directoryAt _) (hsame.directoryAt _)
    have hkind := hfiles.kinds directoryPlace
    rw [← Option.map_eq_none_iff (f := Entry.emptied), hkind, Option.map_eq_none_iff]

theorem Ready.same_of_leftBy {workspace left : Workspace} (h : Ready workspace) (hl : LeftBy workspace left) :
    Same workspace left := by
  rcases hl with rfl | rfl
  · exact ⟨h, Iff.rfl, Iff.rfl, rfl⟩
  · exact h.report _

/-- The settings in what stands at the place of the file. -/
def settingsAt : Option Entry → Except Failure Settings
  | some (.file content) => settingsIn content
  | _ => .ok []

theorem found_shut {files : Tree} (h : Shut files) : found files = .error (refusal .permissionDenied) := by
  rw [found, has_file_eq_error_iff.2 ⟨h, rfl⟩]

theorem found_eq {workspace : Workspace} (h : Ready workspace) (hopen : ¬ Shut workspace.files) :
    found workspace.files = settingsAt (Tree.lookup? workspace.files filePlace) := by
  rw [found, has_file, read_file, placeIn]
  cases hd : Tree.lookup? workspace.files directoryPlace with
  | none =>
    rw [h.inDirectory (by rw [Tree.directoryAt, hd]; rfl)]
    rfl
  | some entry =>
    cases entry with
    | file =>
      rw [h.inDirectory (by rw [Tree.directoryAt, hd]; rfl)]
      rfl
    | closed => exact absurd hd hopen
    | directory =>
      simp only
      cases Tree.lookup? workspace.files filePlace with
      | none => rfl
      | some entry => cases entry <;> rfl

theorem found_congr {workspace other : Workspace} (h : Ready workspace) (h' : Ready other)
    (hshut : Shut other.files ↔ Shut workspace.files)
    (hfile : Tree.lookup? other.files filePlace = Tree.lookup? workspace.files filePlace) :
    found other.files = found workspace.files := by
  by_cases hclosed : Shut workspace.files
  · rw [found_shut hclosed, found_shut (hshut.2 hclosed)]
  · rw [found_eq h hclosed, found_eq h' (mt hshut.1 hclosed), hfile]

/-- The settings in the text of an object are its members, up to their order. -/
theorem settingsIn_toText {members : Settings} (hl : (Value.obj members).Legible)
    (hd : (Value.obj members).Distinct) (ho : (Value.obj members).hasOversized = false) :
    ∃ settings, settingsIn (Value.obj members).toText.toUTF8 = .ok settings ∧
      Value.obj settings = (Value.obj members).sorted := by
  refine ⟨_, ?_, (Value.sorted_obj members).symm⟩
  rw [settingsIn, decodeUtf8_toUTF8]
  simp only
  rw [read_toText hl hd ho, Value.sorted_obj]
  rfl

/-- What was written is loaded, up to the order of its members. -/
theorem found_written {workspace : Workspace} {members : Settings} (h : Ready workspace)
    (hopen : ¬ Shut workspace.files)
    (hp : (Value.obj members).Plain) (hd : (Value.obj members).Distinct)
    (ho : (Value.obj members).hasOversized = false)
    (hfile : Tree.lookup? workspace.files filePlace = some (.file (Value.obj members).toText.toUTF8)) :
    ∃ settings, found workspace.files = .ok settings ∧ Value.obj settings = (Value.obj members).sorted := by
  rw [found_eq h hopen, hfile]
  exact settingsIn_toText hp.legible hd ho

/-- The settings in a file are as the reader gives them. -/
theorem found_readable {files : Tree} {settings : Settings} (h : found files = .ok settings) :
    (Value.obj settings).Readable := by
  have hnone : (Value.obj []).Readable := ⟨.obj List.nodup_nil nofun, .obj nofun nofun⟩
  rw [found] at h
  split at h
  · cases h
  split at h
  · cases h
    exact hnone
  · rw [settingsIn] at h
    split at h
    · cases h
      exact hnone
    · split at h
      · next v hr =>
        cases h
        cases v with
        | obj members => exact readable_of_read hr
        | _ => exact hnone
      · cases h
        exact hnone
      · cases h

theorem found_distinct {files : Tree} {settings : Settings} (h : found files = .ok settings) :
    (Value.obj settings).Distinct := (found_readable h).distinct

end CodeMarkup.Settings
