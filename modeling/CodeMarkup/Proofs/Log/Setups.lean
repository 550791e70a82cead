import CodeMarkup.Log.Setup
import CodeMarkup.Proofs.Reports
/-!
# Setting up logging again and again

A setup that succeeds makes the same configuration whatever was set up before, and whether it succeeds does not
depend on that either. A setup that is refused for the name of its level changes nothing. One whose log file
cannot be opened has changed the level and taken the handlers away, so after it the configuration is not the
last one that was set up (`last_setup_counts`).
-/

namespace CodeMarkup.Log

open CodeMarkup.Files CodeMarkup.Text

/-! ## Configurations -/

/-- How logging is configured: what `configure` sets. -/
structure Configuration where
  /-- The level of the program's own logger. -/
  level : Nat
  handlers : List Handler
  themeLevel : Nat
  styleLevel : Nat
  deriving DecidableEq, Repr

/-- The configuration in a log. -/
def configuration (log : Log) : Configuration where
  level := log.ownLevel programLogger
  handlers := log.handlers
  themeLevel := log.ownLevel themeLogger
  styleLevel := log.ownLevel styleLogger

@[simp] theorem ownLevel_setLevel (log : Log) (logger other : String) (level : Nat) :
    (log.setLevel logger level).ownLevel other = if logger = other then level else log.ownLevel other := by
  rw [ownLevel, setLevel, Keyed.get?_set]
  split <;> rfl

theorem configuration_start (level : Nat) (log : Log) :
    (Setup.start level log).configuration = { log.configuration with level, handlers := [] } := by
  have hlevels : ∀ logger, (Setup.start level log).ownLevel logger =
      (log.setLevel programLogger level).ownLevel logger := ownLevel_congr rfl
  simp only [configuration, hlevels, ownLevel_setLevel]
  rfl

theorem configuration_finish (setup : Setup) (level : Nat) (file : Option Place) (log : Log) :
    (setup.finish level file log).configuration =
      ⟨log.ownLevel programLogger, setup.handlers level file, setup.traceLevel level, setup.traceLevel level⟩ := by
  have hown : ({ log with handlers := setup.handlers level file } : Log).ownLevel programLogger =
      log.ownLevel programLogger := ownLevel_congr rfl _
  simp only [Setup.finish, configuration, ownLevel_setLevel, hown]
  rfl

/-- The level of the program's own logger counts for it, unless none is set. -/
theorem level_programLogger (log : Log) :
    log.level programLogger =
      if log.configuration.level = 0 then usualLevel else log.configuration.level := rfl

theorem passes_notice_congr {log log' : Log} (h : log'.configuration = log.configuration) (setup : Setup) :
    log'.passes setup.notice = log.passes setup.notice := by
  have hlogger : setup.notice.logger = programLogger := rfl
  rw [passes, passes, hlogger, level_programLogger, level_programLogger, h]

/-- A setup is noted in the same way in workspaces that are alike where there are handlers. -/
theorem configuration_report_congr {workspace other : Workspace}
    (hlog : other.log.configuration = workspace.log.configuration)
    (h : workspace.AlikeAt (placesOf workspace.log.handlers) other) (setup : Setup) :
    (other.report setup.notice).log.configuration = (workspace.report setup.notice).log.configuration := by
  have hhandlers : other.log.handlers = workspace.log.handlers := congrArg Configuration.handlers hlog
  rw [Workspace.report_log, Workspace.report_log, passes_notice_congr hlog]
  split
  · show { other.log.configuration with handlers := (other.handle setup.notice other.log.handlers).2 } =
      { workspace.log.configuration with handlers := (workspace.handle setup.notice workspace.log.handlers).2 }
    rw [hlog, hhandlers, h.handlers]
  · exact hlog

/-! ## One setup -/

/-- The place at which the log file of a setup is opened, if it has one that is used at this level. -/
def Setup.opened (setup : Setup) (level : Nat) (files : Tree) : Except Failure (Option Place) :=
  match setup.openedFile? level with
  | none => .ok none
  | some file =>
    (placeFor files (settled (Path.ofText file)) (settled (Path.ofText file)).toText).map some

theorem placeFor_eq_ok_iff {files : Tree} {path : Path} {shown : CodePoints} {place : Place} :
    placeFor files path shown = .ok place ↔
      (path.hasNul = false ∧ shown ≠ []) ∧ Tree.locateForWriting files path = .ok place := by
  rw [placeFor]
  split
  · next hnul => simp [hnul]
  · next hnul =>
    split
    · next hshown => simp [hshown]
    · next hshown =>
      cases Tree.locateForWriting files path with
      | ok =>
        constructor
        · intro h
          cases h
          exact ⟨⟨Bool.eq_false_iff.2 hnul, hshown⟩, rfl⟩
        · rintro ⟨-, h⟩
          cases h
          rfl
      | error => exact ⟨nofun, fun h => nomatch h.2⟩

/-- A file that can be opened is opened at the same place if the trees differ in their files only. -/
theorem placeFor_congr {files files' : Tree} (h : Tree.SameDirectories files files') {path : Path}
    {shown : CodePoints} {place : Place} (hplace : placeFor files path shown = .ok place) :
    placeFor files' path shown = .ok place := by
  rw [placeFor_eq_ok_iff, Tree.locateForWriting_eq_ok_iff] at hplace ⊢
  obtain ⟨hshown, hslash, hlocate, hd⟩ := hplace
  exact ⟨hshown, hslash, h.locate hlocate, (h.directoryAt place).trans hd⟩

theorem Setup.opened_congr {files files' : Tree} (h : Tree.SameDirectories files files') {setup : Setup}
    {level : Nat} {file : Option Place} (hopen : setup.opened level files = .ok file) :
    setup.opened level files' = .ok file := by
  rw [Setup.opened] at hopen ⊢
  split at hopen
  · exact hopen
  · cases hplace : placeFor files (settled (Path.ofText _)) (settled (Path.ofText _)).toText with
    | error failure =>
      rw [hplace] at hopen
      cases hopen
    | ok place =>
      rw [hplace] at hopen
      rw [placeFor_congr h hplace]
      exact hopen

theorem Setup.not_directory_of_opened {files : Tree} {setup : Setup} {level : Nat} {place : Place}
    (h : setup.opened level files = .ok (some place)) : Tree.directoryAt files place = false := by
  rw [Setup.opened] at h
  split at h
  · cases h
  · next file _ =>
    cases hplace : placeFor files (settled (Path.ofText file)) (settled (Path.ofText file)).toText with
    | error failure =>
      rw [hplace] at h
      cases h
    | ok found =>
      rw [hplace] at h
      cases h
      exact (Tree.locateForWriting_eq_ok_iff.1 (placeFor_eq_ok_iff.1 hplace).2).2.2

/-- The workspace with an empty log file. -/
def emptied (workspace : Workspace) : Option Place → Workspace
  | none => workspace
  | some place =>
    { workspace with files := Tree.put workspace.files place (.file ByteArray.empty) }

/-- The workspace after the first part of a setup. -/
def started (workspace : Workspace) (level : Nat) : Workspace :=
  { workspace with log := Setup.start level workspace.log }

/-- The workspace with all parts set up, before this is noted. -/
def completed (workspace : Workspace) (setup : Setup) (level : Nat) (file : Option Place) : Workspace :=
  { emptied workspace file with log := setup.finish level file (Setup.start level workspace.log) }

/-- What a setup may come to. -/
inductive Configured (setup : Setup) (workspace : Workspace) : Except Failure Unit × Workspace → Prop
  | refused {failure : Failure} (hlevel : levelNamed setup.level = .error failure) :
      Configured setup workspace (.error failure, workspace)
  | unopened {failure : Failure} {level : Nat} (hlevel : levelNamed setup.level = .ok level)
      (hopen : setup.opened level workspace.files = .error failure) :
      Configured setup workspace (.error failure, started workspace level)
  | done {level : Nat} {file : Option Place} (hlevel : levelNamed setup.level = .ok level)
      (hopen : setup.opened level workspace.files = .ok file) :
      Configured setup workspace (.ok (), (completed workspace setup level file).report setup.notice)

theorem outcome_openedPlace? (setup : Setup) (level : Nat) (workspace : Workspace) :
    outcome (setup.openedPlace? level) workspace =
      match setup.opened level workspace.files with
      | .error failure => (.error failure, workspace)
      | .ok file => (.ok file, emptied workspace file) := by
  rw [Setup.openedPlace?, Setup.opened]
  cases setup.openedFile? level with
  | none => rfl
  | some file =>
    simp only [map_eq_pure_bind, openFile, outcome_bind, outcome_get]
    cases placeFor workspace.files (settled (Path.ofText file)) (settled (Path.ofText file)).toText <;> rfl

theorem configured (setup : Setup) (workspace : Workspace) :
    Configured setup workspace (outcome (configure setup) workspace) := by
  rw [configure, outcome_bind, outcome_ofExcept]
  cases hlevel : levelNamed setup.level with
  | error failure => exact .refused hlevel
  | ok level =>
    have hstart : ∀ next : Unit → Attempt Unit, outcome
        (modify (fun workspace => { workspace with log := Setup.start level workspace.log }) >>= next) workspace =
          outcome (next ()) (started workspace level) := fun _ => rfl
    simp only [hstart, outcome_bind, outcome_openedPlace?]
    cases hopen : setup.opened level workspace.files with
    | error failure =>
      have hstarted : setup.opened level (started workspace level).files = .error failure := hopen
      rw [hstarted]
      exact .unopened hlevel hopen
    | ok file =>
      have hstarted : setup.opened level (started workspace level).files = .ok file := hopen
      rw [hstarted]
      cases file <;> exact .done hlevel hopen

theorem outcome_configure_done {setup : Setup} {workspace : Workspace} {level : Nat} {file : Option Place}
    (hlevel : levelNamed setup.level = .ok level) (hopen : setup.opened level workspace.files = .ok file) :
    outcome (configure setup) workspace = (.ok (), (completed workspace setup level file).report setup.notice) := by
  have h := configured setup workspace
  generalize outcome (configure setup) workspace = result at h ⊢
  cases h with
  | refused hrefused => rw [hlevel] at hrefused; cases hrefused
  | unopened hlevel' hunopened =>
    cases hlevel.symm.trans hlevel'
    rw [hopen] at hunopened
    cases hunopened
  | done hlevel' hopen' =>
    cases hlevel.symm.trans hlevel'
    cases hopen.symm.trans hopen'
    rfl

/-! ## Which setups succeed -/

/-- The setup makes no error. -/
def Setup.Succeeds (setup : Setup) (workspace : Workspace) : Prop :=
  (outcome (configure setup) workspace).1 = .ok ()

theorem Setup.succeeds_iff {setup : Setup} {workspace : Workspace} :
    setup.Succeeds workspace ↔
      ∃ level file, levelNamed setup.level = .ok level ∧ setup.opened level workspace.files = .ok file := by
  have h := configured setup workspace
  rw [Setup.Succeeds]
  generalize outcome (configure setup) workspace = result at h
  cases h with
  | refused hlevel => simp [hlevel]
  | unopened hlevel hopen => simp [hlevel, hopen]
  | done hlevel hopen => simp [hlevel, hopen]

/-- A workspace that comes later: files were written, and nothing else that setups depend on has changed. -/
structure Later (workspace left : Workspace) : Prop where
  directories : Tree.SameDirectories workspace.files left.files
  time : left.time = workspace.time

theorem Later.refl (workspace : Workspace) : Later workspace workspace := ⟨.refl _, rfl⟩

theorem Later.trans {workspace left last : Workspace} (h : Later workspace left) (h' : Later left last) :
    Later workspace last := ⟨h.directories.trans h'.directories, h'.time.trans h.time⟩

theorem Later.succeeds_iff {workspace left : Workspace} (h : Later workspace left) (setup : Setup) :
    setup.Succeeds left ↔ setup.Succeeds workspace := by
  rw [Setup.succeeds_iff, Setup.succeeds_iff]
  constructor
  · rintro ⟨level, file, hlevel, hopen⟩
    exact ⟨level, file, hlevel, Setup.opened_congr h.directories.symm hopen⟩
  · rintro ⟨level, file, hlevel, hopen⟩
    exact ⟨level, file, hlevel, Setup.opened_congr h.directories hopen⟩

theorem later_report (workspace : Workspace) (notice : Notice) : Later workspace (workspace.report notice) :=
  ⟨(workspace.report_disturbs notice).1.sameDirectories, workspace.report_time notice⟩

theorem later_completed {setup : Setup} {level : Nat} {file : Option Place} {workspace : Workspace}
    (h : setup.opened level workspace.files = .ok file) :
    Later workspace (completed workspace setup level file) := by
  cases file with
  | none => exact ⟨.refl _, rfl⟩
  | some place => exact ⟨Tree.sameDirectories_put (Setup.not_directory_of_opened h) _, rfl⟩

theorem later_configure (setup : Setup) (workspace : Workspace) :
    Later workspace (outcome (configure setup) workspace).2 := by
  have h := configured setup workspace
  generalize outcome (configure setup) workspace = result at h
  cases h with
  | refused => exact .refl _
  | unopened => exact ⟨.refl _, rfl⟩
  | done _ hopen => exact (later_completed hopen).trans (later_report _ _)

/-! ## What a setup that succeeds makes -/

theorem Setup.handlers_cases (setup : Setup) (level : Nat) (file : Option Place) :
    setup.handlers level file = [⟨.nowhere, 0⟩] ∨ setup.handlers level file = [⟨.console, level⟩] ∨
      ∃ place rest, file = some place ∧ setup.handlers level file = ⟨.file place 0, level⟩ :: rest ∧
        placesOf rest = [] := by
  rw [Setup.handlers]
  by_cases hconsole : setup.console = some true
  · rw [if_pos hconsole]
    cases file with
    | none => exact .inr (.inl rfl)
    | some place => exact .inr (.inr ⟨place, [⟨.console, level⟩], rfl, rfl, rfl⟩)
  · rw [if_neg hconsole]
    cases file with
    | none => exact .inl rfl
    | some place => exact .inr (.inr ⟨place, [], rfl, rfl, rfl⟩)

theorem mem_placesOf_handlers {setup : Setup} {level : Nat} {file : Option Place} {place : Place}
    (h : place ∈ placesOf (setup.handlers level file)) : file = some place := by
  rcases setup.handlers_cases level file with heq | heq | ⟨other, rest, hfile, heq, hrest⟩
  · rw [heq] at h
    cases h
  · rw [heq] at h
    cases h
  · have hplaces : placesOf (⟨.file other 0, level⟩ :: rest) = [other] := by
      rw [placesOf] at hrest ⊢
      rw [List.filterMap_cons, hrest]
      rfl
    rw [heq, hplaces] at h
    rw [hfile, List.mem_singleton.1 h]

theorem Setup.handlers_ne_nil (setup : Setup) (level : Nat) (file : Option Place) :
    setup.handlers level file ≠ [] := by
  rcases setup.handlers_cases level file with heq | heq | ⟨_, _, _, heq, _⟩ <;> rw [heq] <;>
    exact List.cons_ne_nil _ _

/-- The configuration that a setup makes on its own. -/
def Setup.own (setup : Setup) (workspace : Workspace) : Configuration :=
  (outcome (configure setup) { workspace with log := {} }).2.log.configuration

theorem length_handle (workspace : Workspace) (notice : Notice) (handlers : List Handler) :
    (workspace.handle notice handlers).2.length = handlers.length := by
  induction handlers generalizing workspace with
  | nil => rfl
  | cons handler rest ih =>
    rw [Workspace.handle_cons, List.length_cons, ih, List.length_cons]

theorem configuration_completed (workspace : Workspace) (setup : Setup) (level : Nat) (file : Option Place) :
    (completed workspace setup level file).log.configuration =
      ⟨level, setup.handlers level file, setup.traceLevel level, setup.traceLevel level⟩ := by
  have hlevel : (Setup.start level workspace.log).ownLevel programLogger = level :=
    congrArg Configuration.level (configuration_start level workspace.log)
  rw [completed, configuration_finish, hlevel]

theorem handlers_completed (workspace : Workspace) (setup : Setup) (level : Nat) (file : Option Place) :
    (completed workspace setup level file).log.handlers = setup.handlers level file :=
  congrArg Configuration.handlers (configuration_completed workspace setup level file)

/-- Nothing is changed but the log file. -/
theorem lookup?_configure {setup : Setup} {workspace : Workspace} {place : Place}
    (h : ∀ level, levelNamed setup.level = .ok level → setup.opened level workspace.files ≠ .ok (some place)) :
    Tree.lookup? (outcome (configure setup) workspace).2.files place = Tree.lookup? workspace.files place := by
  have hc := configured setup workspace
  generalize outcome (configure setup) workspace = result at hc
  cases hc with
  | refused => rfl
  | unopened => rfl
  | @done level file hlevel hopen =>
    have hne : file ≠ some place := by
      rintro rfl
      exact h level hlevel hopen
    obtain ⟨hfiles, -⟩ := (completed workspace setup level file).report_disturbs setup.notice
    rw [hfiles.elsewhere place fun hm => hne (mem_placesOf_handlers (handlers_completed .. ▸ hm))]
    cases file with
    | none => rfl
    | some other => exact Tree.lookup?_put_of_ne _ (fun he => hne (congrArg some he)) _

/-- The log file of a setup is there whatever was there before. -/
theorem alikeAt_completed {setup : Setup} {level : Nat} {file : Option Place} {workspace left : Workspace}
    (h : Later workspace left) (hopen : setup.opened level workspace.files = .ok file) :
    (completed workspace setup level file).AlikeAt (placesOf (setup.handlers level file))
      (completed left setup level file) := by
  refine ⟨?_, fun place hm => ?_⟩
  · cases file <;> exact h.time
  · cases mem_placesOf_handlers hm
    have hne := Tree.names_ne_nil (Setup.not_directory_of_opened hopen)
    have hfile : ∀ workspace, Tree.lookup? (completed workspace setup level (some place)).files place =
        some (.file ByteArray.empty) := fun workspace => Tree.lookup?_put_self _ hne _
    rw [hfile, hfile]

/-- A setup that succeeds makes the same configuration at any later time. -/
theorem configuration_succeeded {setup : Setup} {workspace left : Workspace} (h : Later workspace left)
    (hs : setup.Succeeds workspace) :
    (outcome (configure setup) left).2.log.configuration =
      (outcome (configure setup) workspace).2.log.configuration := by
  obtain ⟨level, file, hlevel, hopen⟩ := Setup.succeeds_iff.1 hs
  rw [outcome_configure_done hlevel (Setup.opened_congr h.directories hopen), outcome_configure_done hlevel hopen]
  refine configuration_report_congr ?_ ?_ setup
  · rw [configuration_completed, configuration_completed]
  · rw [handlers_completed]
    exact alikeAt_completed h hopen

theorem own_eq {setup : Setup} {workspace : Workspace} (h : setup.Succeeds workspace) :
    setup.own workspace = (outcome (configure setup) workspace).2.log.configuration :=
  configuration_succeeded ⟨.refl _, rfl⟩ h

theorem handlers_own_ne_nil {setup : Setup} {workspace : Workspace} (h : setup.Succeeds workspace) :
    (setup.own workspace).handlers ≠ [] := by
  obtain ⟨level, file, hlevel, hopen⟩ := Setup.succeeds_iff.1 h
  have hhandlers : (completed workspace setup level file).log.handlers ≠ [] := by
    rw [handlers_completed]
    exact setup.handlers_ne_nil level file
  rw [own_eq h, outcome_configure_done hlevel hopen]
  show ((completed workspace setup level file).report setup.notice).log.handlers ≠ []
  rw [Workspace.report_log]
  split
  · rw [ne_eq, ← List.length_eq_zero_iff, length_handle, List.length_eq_zero_iff]
    exact hhandlers
  · exact hhandlers

/-! ## One setup after the other -/

/-- Sets up logging again and again, whatever comes of it. -/
def configureAll (setups : List Setup) (workspace : Workspace) : Workspace :=
  setups.foldl (fun workspace setup => (outcome (configure setup) workspace).2) workspace

theorem later_configureAll (setups : List Setup) (workspace : Workspace) :
    Later workspace (configureAll setups workspace) := by
  induction setups generalizing workspace with
  | nil => exact .refl _
  | cons setup rest ih => exact (later_configure setup workspace).trans (ih _)

/-- The levels that setups name. -/
def levelsOf (setups : List Setup) : List Nat :=
  setups.filterMap fun setup => (levelNamed setup.level).toOption

theorem levelsOf_eq_nil_iff {setups : List Setup} :
    levelsOf setups = [] ↔ ∀ setup ∈ setups, ∃ failure, levelNamed setup.level = .error failure := by
  have hnone : ∀ result : Except Failure Nat, result.toOption = none ↔ ∃ failure, result = .error failure := by
    intro result
    cases result <;> simp [Except.toOption]
  simp only [levelsOf, List.filterMap_eq_nil_iff, hnone]

/-- Setups that fail start with the level that they name, and get no further. -/
theorem log_configureAll_failed {setups : List Setup} {workspace : Workspace}
    (h : ∀ setup ∈ setups, ¬ setup.Succeeds workspace) :
    (configureAll setups workspace).log =
      (levelsOf setups).foldl (fun log level => Setup.start level log) workspace.log := by
  induction setups generalizing workspace with
  | nil => rfl
  | cons setup rest ih =>
    rw [List.forall_mem_cons] at h
    have hrest : ∀ other ∈ rest, ¬ other.Succeeds (outcome (configure setup) workspace).2 :=
      fun other hm => mt ((later_configure setup workspace).succeeds_iff other).1 (h.2 other hm)
    have hall : configureAll (setup :: rest) workspace =
      configureAll rest (outcome (configure setup) workspace).2 := rfl
    have hfails := h.1
    have hc := configured setup workspace
    rw [hall, ih hrest]
    rw [Setup.Succeeds] at hfails
    generalize outcome (configure setup) workspace = result at hc hfails
    cases hc with
    | refused hlevel =>
      have hlevels : levelsOf (setup :: rest) = levelsOf rest := by
        rw [levelsOf, List.filterMap_cons, hlevel]
        rfl
      rw [hlevels]
    | unopened hlevel =>
      next level _ =>
      have hlevels : levelsOf (setup :: rest) = level :: levelsOf rest := by
        rw [levelsOf, List.filterMap_cons, hlevel]
        rfl
      rw [hlevels]
      rfl
    | done => exact absurd rfl hfails

theorem configuration_foldl_start (levels : List Nat) (log : Log) :
    (levels.foldl (fun log level => Setup.start level log) log).configuration =
      match levels.getLast? with
      | none => log.configuration
      | some level => { log.configuration with level, handlers := [] } := by
  induction levels generalizing log with
  | nil => rfl
  | cons level rest ih =>
    rw [List.foldl_cons, ih, configuration_start, List.getLast?_cons]
    cases rest.getLast? <;> rfl

/-- The last setup that succeeds determines the configuration, until one comes whose log file cannot be opened:
that one leaves its level and no handlers. Setups that are refused for their level do nothing, and what was set
up earlier does not count. -/
theorem last_setup_counts (workspace : Workspace) :
    (∀ earlier (setup : Setup), setup.Succeeds (configureAll earlier workspace) ↔ setup.Succeeds workspace) ∧
    ∀ earlier (last : Setup) later, last.Succeeds workspace →
      (∀ setup ∈ later, ¬ setup.Succeeds workspace) →
      (last.own workspace).handlers ≠ [] ∧
      (configureAll (earlier ++ last :: later) workspace).log.configuration =
        (match (levelsOf later).getLast? with
        | none => last.own workspace
        | some level => { last.own workspace with level, handlers := [] }) ∧
      ((configureAll (earlier ++ last :: later) workspace).log.configuration = last.own workspace ↔
        ∀ setup ∈ later, ∃ failure, levelNamed setup.level = .error failure) := by
  refine ⟨fun earlier setup => (later_configureAll earlier workspace).succeeds_iff setup, ?_⟩
  intro earlier last later hlast hlater
  have hne := handlers_own_ne_nil hlast
  have hbefore := later_configureAll earlier workspace
  have hconfiguration : (configureAll (earlier ++ last :: later) workspace).log.configuration =
      match (levelsOf later).getLast? with
      | none => last.own workspace
      | some level => { last.own workspace with level, handlers := [] } := by
    have hafter := hbefore.trans (later_configure last (configureAll earlier workspace))
    have hall : configureAll (earlier ++ last :: later) workspace =
        configureAll later (outcome (configure last) (configureAll earlier workspace)).2 := by
      rw [configureAll, List.foldl_append]
      rfl
    rw [hall, log_configureAll_failed fun setup hm => mt (hafter.succeeds_iff setup).1 (hlater setup hm),
      configuration_foldl_start, configuration_succeeded hbefore hlast, own_eq hlast]
  refine ⟨hne, hconfiguration, ?_⟩
  rw [hconfiguration, ← levelsOf_eq_nil_iff, ← List.getLast?_eq_none_iff]
  cases (levelsOf later).getLast? with
  | none => exact ⟨fun _ => rfl, fun _ => rfl⟩
  | some level => exact ⟨fun h => absurd (congrArg Configuration.handlers h).symm hne, nofun⟩

/-- A level name that is refused, since it is taken by something else. -/
def refusedLevel : Setup := { level := "Basic_Format" }

/-- A log file in a directory that is missing. -/
def lostFile : Setup := { level := "DEBUG", file := some (.text "missing/x.log") }

/-- A setup that is refused changes nothing. -/
theorem last_setup_counts_refused :
    (configureAll [lostFile, {}, refusedLevel] { files := [] }).log.configuration =
      ⟨30, [⟨.nowhere, 0⟩], 30, 30⟩ := by
  have hlast : ({} : Setup).Succeeds { files := [] } := rfl
  have hlater : ∀ setup ∈ [refusedLevel], ¬ setup.Succeeds { files := [] } :=
    List.forall_mem_singleton.2 nofun
  have hrefused : ∀ setup ∈ [refusedLevel], ∃ failure, levelNamed setup.level = .error failure :=
    List.forall_mem_singleton.2 ⟨_, rfl⟩
  obtain ⟨-, -, hown⟩ := (last_setup_counts { files := [] }).2 [lostFile] {} [refusedLevel] hlast hlater
  exact hown.2 hrefused

/-- A setup whose log file cannot be opened leaves its own level and no handlers. -/
theorem configuration_lostFile :
    ({} : Setup).own { files := [] } = ⟨30, [⟨.nowhere, 0⟩], 30, 30⟩ ∧
      ({} : Setup).Succeeds { files := [] } ∧
      ¬ lostFile.Succeeds (configureAll [{}] { files := [] }) ∧
      (configureAll [{}, lostFile] { files := [] }).log.configuration = ⟨10, [], 30, 30⟩ :=
  ⟨rfl, rfl, nofun, rfl⟩

end CodeMarkup.Log
