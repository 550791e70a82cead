import CodeMarkup.Proofs.Settings.File
import CodeMarkup.Proofs.Theme.Loading
/-!
# Runs over the settings

Settings that are stored one after the other are all there afterwards, and those whose storing failed left no
trace (`runs_lose_no_update`). This needs settings that can be loaded to begin with. They cannot if the file
may not be looked up or holds a whole number with more digits than are read (`Unloadable`), and
`lookup_long_number` is an instance of the latter.
-/

namespace CodeMarkup.Settings

open CodeMarkup.Files CodeMarkup.Json CodeMarkup.Log CodeMarkup.Text CodeMarkup.Theme

/-! ## One call -/

theorem load_same {workspace : Workspace} (h : Ready workspace) :
    ∃ left, outcome load workspace = (found workspace.files, left) ∧ Same workspace left := by
  obtain ⟨left, hload, hleft⟩ := outcome_load workspace
  exact ⟨left, hload, h.same_of_leftBy hleft⟩

theorem outcome_lookup (key : CodePoints) (otherwise : Value) (workspace : Workspace) :
    (outcome (lookup key otherwise) workspace).1 =
      (found workspace.files).map fun settings => settings.value key otherwise := by
  obtain ⟨left, hload, -⟩ := outcome_load workspace
  rw [lookup, outcome_bind, hload]
  cases found workspace.files <;> rfl

/-- Storing saves the loaded settings with the one key set. -/
theorem store_saved {workspace : Workspace} {settings : Settings} (h : Ready workspace)
    (hs : found workspace.files = .ok settings) (key : CodePoints) (v : Value) :
    Saved (.obj (Keyed.set key v settings)) workspace (outcome (store key v) workspace) := by
  obtain ⟨left, hload, hsame⟩ := load_same h
  rw [store, outcome_bind, hload, hs]
  exact (save_saved hsame.ready _).congr hsame.free hsame.shut hsame.file

theorem store_failed {workspace : Workspace} {failure : Failure} (h : Ready workspace)
    (hs : found workspace.files = .error failure) (key : CodePoints) (v : Value) :
    ∃ left, outcome (store key v) workspace = (.error failure, left) ∧ Same workspace left := by
  obtain ⟨left, hload, hsame⟩ := load_same h
  refine ⟨left, ?_, hsame⟩
  rw [store, outcome_bind, hload, hs]

theorem Saved.ready {v : Value} {workspace : Workspace} {result : Except Failure Unit × Workspace}
    (h : Saved v workspace result) : Ready result.2 := by
  cases h with
  | written _ _ hleft => exact hleft
  | refused _ hleft => exact hleft

theorem Ready.store {workspace : Workspace} (h : Ready workspace) (key : CodePoints) (v : Value) :
    Ready (outcome (store key v) workspace).2 := by
  cases hs : found workspace.files with
  | ok settings => exact (store_saved h hs key v).ready
  | error failure =>
    obtain ⟨left, hcall, hsame⟩ := store_failed h hs key v
    rw [hcall]
    exact hsame.ready

/-! ## Runs -/

/-- Stores one setting after the other: the calls that succeed, and the workspace that is left. -/
def storeAll : Settings → Workspace → Settings × Workspace
  | [], workspace => ([], workspace)
  | (key, v) :: rest, workspace =>
    match outcome (store key v) workspace with
    | (.ok (), left) => ((key, v) :: (storeAll rest left).1, (storeAll rest left).2)
    | (.error _, left) => storeAll rest left

/-- A call with a value that is read back as it was written: no surrogates, and whole numbers only. -/
structure Storable (call : CodePoints × Value) : Prop where
  key : ∃ key : String, call.1 = key
  plain : call.2.Plain
  distinct : call.2.Distinct

theorem Ready.storeAll {calls : Settings} {workspace : Workspace} (h : Ready workspace) :
    Ready (storeAll calls workspace).2 := by
  induction calls generalizing workspace with
  | nil => exact h
  | cons first rest ih =>
    have hcall := h.store first.1 first.2
    rw [Settings.storeAll]
    split
    · next left hleft => exact ih (by rwa [hleft] at hcall)
    · next left hleft => exact ih (by rwa [hleft] at hcall)

/-- The file holds settings like these, and what they are can be read back. -/
structure Holds (workspace : Workspace) (settings : Settings) : Prop where
  ready : Ready workspace
  found : ∃ loaded, found workspace.files = .ok loaded ∧ (Value.obj loaded).Plain ∧
    Value.Alike (.obj loaded) (.obj settings)

/-- A call that succeeds sets its key, and one that fails changes nothing. -/
theorem Holds.store {workspace : Workspace} {settings : Settings} (h : Holds workspace settings)
    {key : CodePoints} {v : Value} (hcall : Storable (key, v)) :
    (∃ left, outcome (store key v) workspace = (.ok (), left) ∧ Holds left (Keyed.set key v settings)) ∨
      ∃ failure left, outcome (store key v) workspace = (.error failure, left) ∧ Holds left settings := by
  obtain ⟨loaded, hloaded, hplain, halike⟩ := h.found
  obtain ⟨⟨key, rfl⟩, hp, hd⟩ := hcall
  have hsaved := store_saved h.ready hloaded key v
  generalize outcome (Settings.store key v) workspace = result at hsaved ⊢
  cases hsaved with
  | @written left _ ho hleft hopen hfile =>
    have hplain' := hplain.set hp key
    have hdistinct' := (found_distinct hloaded).set hd key
    obtain ⟨written, hwritten, hsorted⟩ := found_written hleft hopen hplain' hdistinct' ho hfile
    refine .inl ⟨left, rfl, hleft, written, hwritten, ?_, ?_⟩
    · rw [hsorted]
      exact hplain'.sorted
    · rw [hsorted]
      exact (Value.alike_sorted hdistinct').trans (halike.set (Value.Alike.refl hd) key)
  | @refused failure left _ hleft hshut hfile =>
    refine .inr ⟨failure, left, rfl, hleft, loaded, ?_, hplain, halike⟩
    rw [found_congr h.ready hleft hshut hfile, hloaded]

/-- The settings after a run are those before it, updated with what was stored. -/
theorem Holds.storeAll {calls : Settings} {workspace : Workspace} {settings : Settings}
    (h : Holds workspace settings) (hcalls : ∀ call ∈ calls, Storable call) :
    Holds (storeAll calls workspace).2 (Keyed.update settings (storeAll calls workspace).1) := by
  induction calls generalizing workspace settings with
  | nil => exact h
  | cons first rest ih =>
    obtain ⟨key, v⟩ := first
    rw [List.forall_mem_cons] at hcalls
    -- The rest of the run starts with what the first call left.
    rcases h.store hcalls.1 with ⟨left, hcall, hleft⟩ | ⟨failure, left, hcall, hleft⟩
    · rw [Settings.storeAll, hcall]
      exact ih hleft hcalls.2
    · rw [Settings.storeAll, hcall]
      exact ih hleft hcalls.2

/-- If the settings cannot be loaded, nothing is stored. -/
theorem storeAll_failed (calls : Settings) {workspace : Workspace} {failure : Failure} (h : Ready workspace)
    (hs : found workspace.files = .error failure) :
    (storeAll calls workspace).1 = [] ∧ found (storeAll calls workspace).2.files = .error failure := by
  induction calls generalizing workspace with
  | nil => exact ⟨rfl, hs⟩
  | cons first rest ih =>
    obtain ⟨key, v⟩ := first
    obtain ⟨left, hcall, hsame⟩ := store_failed h hs key v
    rw [storeAll, hcall]
    exact ih hsame.ready ((found_congr h hsame.ready hsame.shut hsame.file).trans hs)

/-! ## What a run comes to -/

/-- What loading and looking up give where the file holds these settings. -/
structure Shows (workspace : Workspace) (settings : Settings) : Prop where
  loaded : ∃ loaded, (outcome load workspace).1 = .ok loaded ∧ Value.Alike (.obj loaded) (.obj settings)
  stored : ∀ key otherwise v, Keyed.get? key settings = some v →
    ∃ u, (outcome (lookup key otherwise) workspace).1 = .ok u ∧ Value.Alike u v
  given : ∀ key otherwise, Keyed.get? key settings = none → otherwise ≠ .null →
    (outcome (lookup key otherwise) workspace).1 = .ok otherwise
  default : ∀ key, Keyed.get? key settings = none →
    (outcome (lookup key .null) workspace).1 = .ok ((Keyed.get? key defaults).getD .null)

/-- Which writes succeed. -/
structure Takes (workspace : Workspace) : Prop where
  save : ∀ v, (outcome (save v) workspace).1 = .ok () ↔
    Unobstructed workspace.files ∧ v.hasOversized = false
  store : ∀ key v, (outcome (store key v) workspace).1 = .ok () ↔
    Unobstructed workspace.files ∧ ∃ loaded, (outcome load workspace).1 = .ok loaded ∧
      (Value.obj (Keyed.set key v loaded)).hasOversized = false

theorem outcome_load_fst (workspace : Workspace) : (outcome load workspace).1 = found workspace.files := by
  obtain ⟨left, hload, -⟩ := outcome_load workspace
  rw [hload]

theorem value_stored {settings : Settings} {key : CodePoints} {v : Value}
    (h : Keyed.get? key settings = some v) (otherwise : Value) : settings.value key otherwise = v := by
  unfold value
  rw [h]

theorem value_given {settings : Settings} {key : CodePoints} (h : Keyed.get? key settings = none)
    {otherwise : Value} (hne : otherwise ≠ .null) : settings.value key otherwise = otherwise := by
  unfold value
  rw [h]
  cases otherwise with
  | null => exact absurd rfl hne
  | _ => rfl

theorem value_default {settings : Settings} {key : CodePoints} (h : Keyed.get? key settings = none) :
    settings.value key .null = (Keyed.get? key defaults).getD .null := by
  unfold value
  rw [h]

theorem shows_of_found {workspace : Workspace} {loaded settings : Settings}
    (hf : found workspace.files = .ok loaded) (h : Value.Alike (.obj loaded) (.obj settings)) :
    Shows workspace settings := by
  have hlookup : ∀ key otherwise,
      (outcome (lookup key otherwise) workspace).1 = .ok (value loaded key otherwise) := by
    intro key otherwise
    rw [outcome_lookup, hf]
    rfl
  refine ⟨⟨loaded, (outcome_load_fst workspace).trans hf, h⟩, ?_, ?_, ?_⟩
  · intro key otherwise v hv
    obtain ⟨u, hu, halike⟩ := h.get?_some hv
    rw [hlookup, value_stored hu]
    exact ⟨u, rfl, halike⟩
  · intro key otherwise hn hne
    rw [hlookup, value_given (h.get?_none hn) hne]
  · intro key hn
    rw [hlookup, value_default (h.get?_none hn)]

theorem Saved.fst_eq_ok_iff {v : Value} {workspace : Workspace} {result : Except Failure Unit × Workspace}
    (h : Saved v workspace result) :
    result.1 = .ok () ↔ Unobstructed workspace.files ∧ v.hasOversized = false := by
  cases h with
  | written hfree hv => exact ⟨fun _ => ⟨hfree, hv⟩, fun _ => rfl⟩
  | refused hrefused => exact ⟨nofun, fun hn => absurd hn hrefused⟩

theorem Ready.takes {workspace : Workspace} (h : Ready workspace) : Takes workspace := by
  refine ⟨fun v => (save_saved h v).fst_eq_ok_iff, fun key v => ?_⟩
  rw [outcome_load_fst]
  cases hs : found workspace.files with
  | ok loaded =>
    rw [(store_saved h hs key v).fst_eq_ok_iff]
    simp
  | error failure =>
    obtain ⟨left, hcall, -⟩ := store_failed h hs key v
    rw [hcall]
    simp

/-- The failures of loading: the file may not be looked up, or holds a number with more digits than are read. -/
inductive Unloadable (files : Tree) : Failure → Prop
  | refused {cause : Cause} (h : Tree.has files file = .error cause) :
      Unloadable files (.file { cause, path := file.toText })
  | oversized {digits : Nat} (h : Oversized files file digits) :
      Unloadable files (.tooManyDigits digitLimit digits)

/-- What can be read can be looked up. -/
theorem exists_has_of_read {files : Tree} {content : ByteArray} (h : Tree.read files file = .ok content) :
    ∃ there, Tree.has files file = .ok there := by
  cases hhas : Tree.has files file with
  | ok there => exact ⟨there, rfl⟩
  | error cause =>
    rw [read_file, placeIn, (has_file_eq_error_iff.1 hhas).1] at h
    cases h

theorem found_of_read {files : Tree} {content : ByteArray} (h : Tree.read files file = .ok content) :
    found files = settingsIn content := by
  obtain ⟨there, hthere⟩ := exists_has_of_read h
  rw [found, hthere, h]

theorem found_eq_error {files : Tree} {failure : Failure} :
    found files = .error failure ↔ Unloadable files failure := by
  constructor
  · intro h
    rw [found] at h
    split at h
    · next cause hc =>
      cases h
      exact .refused hc
    split at h
    · cases h
    · next content hc =>
      rw [settingsIn] at h
      split at h
      · cases h
      · next text ht =>
        split at h
        · cases h
        · cases h
        · next digits hd =>
          cases h
          exact .oversized ⟨content, text, hc, ht, hd⟩
  · intro h
    cases h with
    | refused hc =>
      rw [found, hc]
      rfl
    | oversized ho =>
      obtain ⟨content, text, hc, ht, hd⟩ := ho
      rw [found_of_read hc, settingsIn, ht]
      simp only [hd]

theorem exists_found_iff {files : Tree} :
    (∃ settings, found files = .ok settings) ↔ ∀ failure, ¬ Unloadable files failure := by
  simp only [← found_eq_error]
  cases found files with
  | ok settings => exact iff_of_true ⟨settings, rfl⟩ nofun
  | error failure => exact iff_of_false nofun fun h => h failure rfl

/-- The settings file can be looked up, be it there or not. -/
def InReach (files : Tree) : Prop := ∃ there, Tree.has files file = .ok there

theorem loadable_iff {files : Tree} :
    (∀ failure, ¬ Unloadable files failure) ↔ InReach files ∧ ∀ digits, ¬ Oversized files file digits := by
  constructor
  · refine fun h => ⟨?_, fun digits ho => h _ (.oversized ho)⟩
    cases hhas : Tree.has files file with
    | ok there => exact ⟨there, hhas⟩
    | error cause => exact absurd (.refused hhas) (h _)
  · rintro ⟨⟨there, hthere⟩, hlimits⟩ failure hfails
    cases hfails with
    | refused hhas => cases hthere.symm.trans hhas
    | oversized ho => exact hlimits _ ho

/-- What is saved is shown afterwards. -/
theorem shows_of_save {workspace left : Workspace} {members : Settings} (h : Ready workspace)
    (hp : (Value.obj members).Plain) (hd : (Value.obj members).Distinct)
    (hsave : outcome (save (.obj members)) workspace = (.ok (), left)) : Shows left members := by
  have hsaved := save_saved h (.obj members)
  rw [hsave] at hsaved
  cases hsaved with
  | written _ ho hleft hopen hfile =>
    obtain ⟨loaded, hloaded, hsorted⟩ := found_written hleft hopen hp hd ho hfile
    exact shows_of_found hloaded (hsorted ▸ Value.alike_sorted hd)

theorem ready_of_rooted {workspace : Workspace} (hrooted : workspace.files.Rooted)
    (hlog : ∀ place ∈ placesOf workspace.log.handlers, place ≠ filePlace ∧ place ≠ draftPlace) :
    Ready workspace where
  inDirectory hn := by
    rw [← Option.not_isSome_iff_eq_none]
    exact fun hsome => Bool.false_ne_true (hn.symm.trans (hrooted filePlace hsome))
  file_unlogged hm := (hlog filePlace hm).1 rfl
  draft_unlogged hm := (hlog draftPlace hm).2 rfl

/-- Storing settings loses no update: a run gives the settings before it, updated with those that were stored,
and what is saved is loaded again. Where the settings cannot be loaded, every call fails. -/
theorem runs_lose_no_update {workspace : Workspace} (hrooted : workspace.files.Rooted)
    (hlog : ∀ place ∈ placesOf workspace.log.handlers, place ≠ filePlace ∧ place ≠ draftPlace)
    (hplain : ∀ initial, (outcome load workspace).1 = .ok initial → (Value.obj initial).Plain)
    {calls : Settings} (hcalls : ∀ call ∈ calls, Storable call) :
    (∀ initial, (outcome load workspace).1 = .ok initial →
      Shows (storeAll calls workspace).2 (Keyed.update initial (storeAll calls workspace).1)) ∧
    Takes (storeAll calls workspace).2 ∧
    (∀ members left, (Value.obj members).Plain → (Value.obj members).Distinct →
      outcome (save (.obj members)) (storeAll calls workspace).2 = (.ok (), left) → Shows left members) ∧
    ((∃ initial, (outcome load workspace).1 = .ok initial) ↔
      ∀ failure, ¬ Unloadable workspace.files failure) ∧
    ∀ failure, Unloadable workspace.files failure →
      (storeAll calls workspace).1 = [] ∧
      (outcome load (storeAll calls workspace).2).1 = .error failure ∧
      ∀ key otherwise, (outcome (lookup key otherwise) (storeAll calls workspace).2).1 = .error failure := by
  have hready := ready_of_rooted hrooted hlog
  simp only [outcome_load_fst] at hplain ⊢
  refine ⟨fun initial hinitial => ?_, hready.storeAll.takes,
    fun members left hp hd hsave => shows_of_save hready.storeAll hp hd hsave, exists_found_iff,
    fun failure hfails => ?_⟩
  · have hrefl := Value.Alike.refl (found_distinct hinitial)
    have hholds : Holds workspace initial := ⟨hready, initial, hinitial, hplain initial hinitial, hrefl⟩
    obtain ⟨loaded, hloaded, -, halike⟩ := (hholds.storeAll hcalls).found
    exact shows_of_found hloaded halike
  · obtain ⟨hstored, hs⟩ := storeAll_failed calls hready (found_eq_error.2 hfails)
    refine ⟨hstored, hs, fun key otherwise => ?_⟩
    rw [outcome_lookup, hs]
    rfl

/-! ## Settings in one file -/

/-- A workspace with a settings file. -/
def withFile (text : String) : Workspace where
  files := [(directoryPlace, .directory), (filePlace, .file text.toUTF8)]

theorem rooted_withFile (text : String) : (withFile text).files.Rooted :=
  Tree.rooted_of_forall_mem (List.forall_mem_cons.2 ⟨rfl, List.forall_mem_singleton.2 rfl⟩)

theorem read_withFile (text : String) : Tree.read (withFile text).files file = .ok text.toUTF8 := rfl

/-- The theme as the one setting. -/
def darkSettings : Settings := [("theme", .str "dark")]

/-- The theme taken back, and a directory for themes. -/
def themeCalls : Settings := [("themes_dir", .str "t"), ("theme", .null)]

/-- Settings that were saved before are updated. -/
theorem runs_lose_no_update_dark :
    (outcome load (withFile (Value.obj darkSettings).toText)).1 = .ok darkSettings ∧
      Shows (storeAll themeCalls (withFile (Value.obj darkSettings).toText)).2
        (Keyed.update darkSettings (storeAll themeCalls (withFile (Value.obj darkSettings).toText)).1) := by
  have hrooted := rooted_withFile (Value.obj darkSettings).toText
  have hlog : ∀ place ∈ placesOf (withFile (Value.obj darkSettings).toText).log.handlers,
      place ≠ filePlace ∧ place ≠ draftPlace := nofun
  have hp : (Value.obj darkSettings).Plain :=
    .obj (List.forall_mem_singleton.2 ⟨"theme", rfl⟩) (List.forall_mem_singleton.2 (.str "dark"))
  have hd : (Value.obj darkSettings).Distinct :=
    .obj (by decide) (List.forall_mem_singleton.2 (.str _))
  have hinitial : found (withFile (Value.obj darkSettings).toText).files = .ok darkSettings := by
    obtain ⟨initial, hinitial, hsorted⟩ :=
      found_written (ready_of_rooted hrooted hlog) (by decide) hp hd (by decide) rfl
    rw [Value.sorted_obj, darkSettings, List.map_singleton, Value.sortKeys, List.mergeSort_singleton] at hsorted
    cases hsorted
    exact hinitial
  rw [← outcome_load_fst] at hinitial
  have hplain : ∀ initial, (outcome load (withFile (Value.obj darkSettings).toText)).1 = .ok initial →
      (Value.obj initial).Plain := by
    intro initial h
    cases hinitial.symm.trans h
    exact hp
  have hcalls : ∀ call ∈ themeCalls, Storable call :=
    List.forall_mem_cons.2 ⟨⟨⟨"themes_dir", rfl⟩, .str "t", .str _⟩,
      List.forall_mem_singleton.2 ⟨⟨"theme", rfl⟩, .null, .null⟩⟩
  exact ⟨hinitial, (runs_lose_no_update hrooted hlog hplain hcalls).1 darkSettings hinitial⟩

/-- The settings file holds a number of 4301 digits, and no setting can be looked up. -/
theorem lookup_long_number :
    (outcome (lookup "m" (.int 1)) (withFile (memberText (List.replicate 4301 '7')))).1 =
      .error (.tooManyDigits digitLimit 4301) := by
  have hread := read_sevens (by decide : digitLimit < 4301)
  have hover : Oversized (withFile (memberText (List.replicate 4301 '7'))).files file 4301 :=
    ⟨_, _, read_withFile _, decodeUtf8_toUTF8 _, hread⟩
  rw [outcome_lookup, found_eq_error.2 (.oversized hover)]
  rfl

end CodeMarkup.Settings
