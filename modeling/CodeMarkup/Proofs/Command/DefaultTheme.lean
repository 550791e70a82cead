import CodeMarkup.Proofs.Command.Arguments
import CodeMarkup.Proofs.Command.Survival
import CodeMarkup.Proofs.Settings.Stored
/-!
# The default theme

A run that names no theme goes as if it named the default theme that was stored (`stored_theme_as_named`): what was
stored is loaded as the same text, and from there on the two runs are one. Storing changes no other setting.
-/

namespace CodeMarkup.Command

open CodeMarkup.Files CodeMarkup.Json CodeMarkup.Log CodeMarkup.Text CodeMarkup.Theme

/-! ## The name -/

theorem filled?_attachedValue {name : String} (hempty : name ≠ "") (hmark : name ≠ "--") :
    Taken.attachedValue name.toList = .text name ∧ (Taken.attachedValue name.toList).filled? = some name := by
  have hvalue : Taken.attachedValue name.toList = .text name := by
    rw [Taken.attachedValue, if_neg, String.ofList_toList]
    exact fun h => hmark (String.toList_inj.1 h)
  refine ⟨hvalue, ?_⟩
  rw [hvalue, Given.filled?, if_neg hempty]

theorem filled?_attachedValue_eq_none {name : String} (h : name = "" ∨ name = "--") :
    (Taken.attachedValue name.toList).filled? = none := by
  rcases h with rfl | rfl <;> rfl

/-! ## Where the theme comes from -/

section Named

variable {options : Options} {settings : Settings}

/-- The theme that is stored is the one that would be named. -/
theorem outcome_themeName_orTheme {name : String} {workspace : Workspace} (hname : name ≠ "")
    (hnone : options.theme = none) (hwritten : Settings.Written workspace.files settings)
    (hstored : Keyed.get? (CodePoints.ofString "theme") settings = some (.str name)) :
    outcome (themeName (options.orTheme (.text name))) workspace = outcome (themeName options) workspace := by
  have hnamed : (options.orTheme (.text name)).theme.bind Given.filled? = some name := by
    rw [Options.orTheme, hnone]
    show (Given.text name).filled? = some name
    rw [Given.filled?, if_neg hname]
  have hchars : CodePoints.ofString name ≠ [] := by
    intro hn
    have hstring := CodePoints.string?_ofString name
    rw [hn] at hstring
    exact hname (Option.some.inj hstring).symm
  have hvalue : Name.ofValue (settings.value "theme" .null) = .named name := by
    rw [Settings.value_stored hstored, Name.ofValue, Name.ofText, if_neg hchars]
  rw [themeName, hnamed, themeName, hnone]
  simp only [Option.bind_none]
  rw [outcome_bind, hwritten.outcome_lookup]
  simp only [outcome_pure, hvalue]

/-- The log of a run is not kept in the settings file. It is not unless the options say so
(`sparesSettings_of_level`). -/
def Options.SparesSettings (options : Options) (files : Tree) : Prop :=
  ∀ setup level, options.logging = .ok setup → levelNamed setup.level = .ok level →
    setup.opened level files ≠ .ok (some Settings.filePlace)

/-- There is no log file unless a level is chosen. -/
theorem sparesSettings_of_level (h : options.level = .text "WARNING") (files : Tree) :
    options.SparesSettings files := by
  intro setup level hsetup hlevel
  rw [Options.logging, h] at hsetup
  cases hsetup
  have hwarning : levelNamed "WARNING" = .ok 30 := rfl
  cases hwarning.symm.trans hlevel
  nofun

theorem written_configure {setup : Setup} {workspace : Workspace} (hlogging : options.logging = .ok setup)
    (hspares : options.SparesSettings workspace.files) (h : Settings.Written workspace.files settings) :
    Settings.Written (outcome (configure setup) workspace).2.files settings :=
  h.congr (later_configure setup workspace).directories
    (lookup?_configure fun level hlevel => hspares setup level hlogging hlevel)

end Named

/-! ## Runs with the same theme -/

theorem outcome_fromSettings_written {workspace : Workspace} {settings : Settings}
    (h : Settings.Written workspace.files settings) :
    outcome Library.fromSettings workspace = (.ok (.ofSettings settings), workspace) := by
  rw [Library.fromSettings, outcome_bind, h.outcome_lookup, Library.ofSettings]
  cases settings.value "themes_dir" .null <;> rfl

section Same

variable {host : Host} {options : Options} {theme : Given} {input : ByteArray} {workspace : Workspace}
  {settings : Settings}

theorem outcome_renderSource_orTheme (library : Library)
    (h : outcome (themeName (options.orTheme theme)) workspace = outcome (themeName options) workspace) :
    outcome (renderSource host (options.orTheme theme) library input) workspace =
      outcome (renderSource host options library input) workspace := by
  rw [renderSource, renderSource, outcome_bind, outcome_bind, h]
  rfl

/-- Two runs are the same if they get the same theme from the settings that are there. -/
theorem outcome_perform_orTheme (hwritten : Settings.Written workspace.files settings)
    (hspares : options.SparesSettings workspace.files)
    (h : ∀ left, Settings.Written left.files settings →
      outcome (themeName (options.orTheme theme)) left = outcome (themeName options) left) :
    outcome (perform host (options.orTheme theme) input) workspace =
      outcome (perform host options input) workspace := by
  rw [perform, perform]
  refine outcome_bind_congr fun setup start hlogging => ?_
  rw [outcome_ofExcept] at hlogging
  obtain ⟨hsetup, rfl⟩ := Prod.mk.inj hlogging
  refine outcome_bind_congr fun _ left hconfigure => ?_
  have hleft := written_configure hsetup hspares hwritten
  rw [hconfigure] at hleft
  have hdefault : (options.orTheme theme).defaultTheme = options.defaultTheme := rfl
  have hdirectory : (options.orTheme theme).themesDir = options.themesDir := rfl
  have hlist : (options.orTheme theme).listThemes = options.listThemes := rfl
  have hrender := fun library => @outcome_renderSource_orTheme host _ _ input _ library (h left hleft)
  rw [hdefault, hdirectory]
  cases options.defaultTheme.bind Given.filled? with
  | some name => rfl
  | none =>
    cases options.themesDir.bind Given.filled? with
    | some directory =>
      simp only [pure_bind, hlist]
      split
      · rfl
      · exact hrender _
    | none =>
      refine outcome_bind_congr fun library left' hlibrary => ?_
      cases (outcome_fromSettings_written hleft).symm.trans hlibrary
      simp only [hlist]
      split
      · rfl
      · exact hrender _

/-- A theme without a name is as good as none. -/
theorem perform_orTheme_unfilled (hnone : options.theme = none) (hfilled : theme.filled? = none) :
    perform host (options.orTheme theme) input = perform host options input := by
  have hname : themeName (options.orTheme theme) = themeName options := by
    have hempty : (options.orTheme theme).theme.bind Given.filled? = none := by
      rw [Options.orTheme, hnone]
      exact hfilled
    rw [themeName, themeName, hempty, hnone]
    rfl
  have hrender : ∀ library, renderSource host (options.orTheme theme) library input =
      renderSource host options library input := by
    intro library
    rw [renderSource, renderSource, hname]
    rfl
  rw [perform, perform]
  simp only [hrender]
  rfl

theorem outcome_run_theme {name : String} {rest : List String} (hrest : Options.ofArguments rest = .ok options)
    (h : outcome (perform host (options.orTheme (Taken.attachedValue name.toList)) input) workspace =
      outcome (perform host options input) workspace) :
    outcome (run host (valued "--theme" name :: rest) input) workspace = outcome (run host rest input) workspace := by
  have hanswer : outcome (answer host (valued "--theme" name :: rest) input) workspace =
      outcome (answer host rest input) workspace := by
    rw [answer, answer, ofArguments_theme, hrest]
    exact h
  rw [outcome_run_eq, outcome_run_eq, hanswer]

end Same

/-! ## Runs that write to the standard output -/

theorem keepsFiles_complain (verb path words : String) : KeepsFiles (complain verb path words : Attempt Nat) :=
  fun _ hlog => ⟨hlog, rfl⟩

theorem keepsFiles_deliver (host : Host) {attempt : Attempt CodePoints} (h : KeepsFiles attempt) :
    KeepsFiles (deliver host attempt) := by
  refine h.bind fun markup => ?_
  refine KeepsFiles.bind ((keepsFiles_print (printed markup)).bind fun _ => .pure _) fun written => ?_
  cases written with
  | error words => exact keepsFiles_complain _ _ _
  | ok => exact .pure _

theorem keepsFiles_renderSource (host : Host) (library : Library) (input : ByteArray) :
    KeepsFiles (renderSource host (optionsFor false) library input) := by
  rw [renderSource_optionsFor]
  refine (lookup_onlyReports _ _).keepsFiles.bind fun v => ?_
  cases textOf host.unifiesInput input with
  | error words => exact keepsFiles_complain _ _ _
  | ok source =>
    have hmarkup : markupFor false library (.ofValue v) source =
        highlight (some source) (.ofValue v) (some library) := rfl
    simp only [hmarkup]
    exact keepsFiles_deliver host (highlight_onlyReports _ _ _ _).keepsFiles

/-! ## A run that stores a theme -/

section Storing

variable {host : Host} {input : ByteArray} {workspace left : Workspace}

theorem answer_of_run {arguments : List String} {result : Except Failure Nat}
    (h : outcome (run host arguments input) workspace = (result, left)) :
    ∃ answered, outcome (answer host arguments input) workspace = (result, answered) ∧ left.files = answered.files := by
  rw [outcome_run_eq] at h
  cases h
  exact ⟨_, rfl, rfl⟩

theorem answer_defaultTheme (name : String) :
    answer host [valued "--set-default-theme" name] input =
      perform host { defaultTheme := some (Taken.attachedValue name.toList) } input := by
  rw [answer, ofArguments_defaultTheme]

theorem perform_defaultTheme {theme : Given} {name : String} (h : theme.filled? = some name) :
    perform host { defaultTheme := some theme } input = (do
      configure quiet
      Settings.store "theme" (.str name)
      print ("Default theme set to " ++ name ++ "\n")
      return success) := by
  have hfilled : (some theme).bind Given.filled? = some name := h
  have hlogging : ({ defaultTheme := some theme } : Options).logging = .ok quiet := rfl
  rw [perform, hlogging]
  simp only [hfilled]
  rfl

/-- The settings from before were stored again, with the one name in them. -/
theorem written_of_run {name : String} (hempty : name ≠ "") (hmark : name ≠ "--")
    (h : outcome (run host [valued "--set-default-theme" name] input) workspace = (.ok success, left)) :
    ∃ before after, Settings.found workspace.files = .ok before ∧ Settings.Written left.files after ∧
      Value.Alike (.obj after) (.obj (Keyed.set (CodePoints.ofString "theme") (.str name) before)) := by
  obtain ⟨answered, hanswer, hfiles⟩ := answer_of_run h
  obtain ⟨start, hconfigure, -, hstart⟩ := outcome_configure_quiet workspace
  rw [answer_defaultTheme, perform_defaultTheme (filled?_attachedValue hempty hmark).2, outcome_bind,
    hconfigure] at hanswer
  simp only at hanswer
  obtain ⟨_, stored, hstore, -⟩ := ok_of_bind (congrArg Prod.fst hanswer)
  rw [outcome_bind, hstore] at hanswer
  have hprint : ∀ text : CodePoints, (outcome (do print text; return success) stored).2.files = stored.files := by
    intro text
    rw [print]
    cases encodable text <;> rfl
  have hstored := (congrArg (·.2.files) hanswer).symm.trans (hprint _)
  have hname : (Value.str name).Readable := ⟨.str _, .str (Lexeme.unpaired_ofString name)⟩
  obtain ⟨before, after, hbefore, hafter, halike⟩ := Settings.written_of_store hname hstore
  rw [hstart] at hbefore
  rw [← hstored, ← hfiles] at hafter
  exact ⟨before, after, hbefore, hafter, halike⟩

/-- Where no name is given nothing is stored: it is a run that writes the markup of the input. -/
theorem unchanged_of_run {name : String} (hname : name = "" ∨ name = "--")
    (h : outcome (run host [valued "--set-default-theme" name] input) workspace = (.ok success, left)) :
    (∃ before, Settings.found workspace.files = .ok before) ∧ left.files = workspace.files := by
  obtain ⟨answered, hanswer, hfiles⟩ := answer_of_run h
  obtain ⟨start, hconfigure, hlog, hstart⟩ := outcome_configure_quiet workspace
  have hperform : perform host { defaultTheme := some (Taken.attachedValue name.toList) } input =
      perform host (optionsFor false) input := by
    have hfilled : (some (Taken.attachedValue name.toList)).bind Given.filled? = none :=
      filled?_attachedValue_eq_none hname
    rw [perform, perform]
    simp only [hfilled]
    rfl
  rw [answer_defaultTheme, hperform, perform_optionsFor, outcome_bind, hconfigure] at hanswer
  simp only at hanswer
  obtain ⟨library, settled, hlibrary, -⟩ := ok_of_bind (congrArg Prod.fst hanswer)
  have hkeeps := fromSettings_onlyReports.keepsFiles.bind
    (fun library => keepsFiles_renderSource host library input) start hlog
  rw [hanswer] at hkeeps
  have hfound := Library.outcome_fromSettings start
  rw [hlibrary, hstart] at hfound
  refine ⟨?_, (hfiles.trans hkeeps.2).trans hstart⟩
  cases hbefore : Settings.found workspace.files with
  | ok before => exact ⟨before, rfl⟩
  | error failure =>
    rw [hbefore] at hfound
    cases hfound

/-- Once a default theme is stored, a run that names no theme is the same as the run that names it, whatever its
other options are; only its log must not take the place of the settings. The settings from before are there as they
were, but for the theme. -/
theorem stored_theme_as_named {name : String}
    (h : outcome (run host [valued "--set-default-theme" name] input) workspace = (.ok success, left)) :
    (∀ host' rest options input start, Options.ofArguments rest = .ok options → options.theme = none →
      options.SparesSettings left.files → start.files = left.files →
      outcome (run host' (valued "--theme" name :: rest) input) start = outcome (run host' rest input) start) ∧
    ∃ before after, (outcome Settings.load workspace).1 = .ok before ∧ (outcome Settings.load left).1 = .ok after ∧
      Value.Alike (.obj (Keyed.erase (CodePoints.ofString "theme") after))
        (.obj (Keyed.erase (CodePoints.ofString "theme") before)) ∧
      (name ≠ "" → name ≠ "--" → Keyed.get? (CodePoints.ofString "theme") after = some (.str name)) := by
  simp only [Settings.outcome_load_fst]
  by_cases hname : name = "" ∨ name = "--"
  · obtain ⟨⟨before, hbefore⟩, hfiles⟩ := unchanged_of_run hname h
    rw [hfiles]
    refine ⟨?_, before, before, hbefore, hbefore, ?_, ?_⟩
    · intro host' rest options input start hrest hnone _ _
      apply outcome_run_theme hrest
      rw [perform_orTheme_unfilled hnone (filled?_attachedValue_eq_none hname)]
    · exact (Value.Alike.refl (Settings.found_distinct hbefore)).erase _
    · intro hempty hmark
      exact absurd hname (not_or.2 ⟨hempty, hmark⟩)
  · obtain ⟨hempty, hmark⟩ := not_or.1 hname
    obtain ⟨before, after, hbefore, hafter, halike⟩ := written_of_run hempty hmark h
    have hstored : Keyed.get? (CodePoints.ofString "theme") after = some (.str name) := by
      obtain ⟨v, hv, hsame⟩ := halike.get?_some (by rw [Keyed.get?_set, if_pos rfl])
      cases hsame
      exact hv
    refine ⟨?_, before, after, hbefore, hafter.found, ?_, fun _ _ => hstored⟩
    · intro host' rest options input start hrest hnone hspares hstart
      rw [← hstart] at hafter hspares
      apply outcome_run_theme hrest
      apply outcome_perform_orTheme hafter hspares
      intro later hlater
      rw [(filled?_attachedValue hempty hmark).1]
      exact outcome_themeName_orTheme hempty hnone hlater hstored
    · have herased := halike.erase (CodePoints.ofString "theme")
      rwa [Keyed.erase_set] at herased

end Storing

/-- A theme is stored beside a directory of themes, and prose is converted in it to a file. -/
theorem stored_theme_as_named_dark :
    ∃ left before after,
      outcome (run (.roomy false) [valued "--set-default-theme" "dark"] ByteArray.empty)
        (Settings.withFile directoryText) = (.ok success, left) ∧
      (outcome Settings.load (Settings.withFile directoryText)).1 = .ok before ∧
      (outcome Settings.load left).1 = .ok after ∧
      Value.Alike (.obj (Keyed.erase (CodePoints.ofString "theme") after))
        (.obj (Keyed.erase (CodePoints.ofString "theme") before)) ∧
      Keyed.get? (CodePoints.ofString "theme") after = some (.str "dark") ∧
      outcome (run (.roomy false) [valued "--theme" "dark", "--inline", "-o", "out.html"] ByteArray.empty) left =
        outcome (run (.roomy false) ["--inline", "-o", "out.html"] ByteArray.empty) left := by
  have hstatus : (outcome (run (.roomy false) [valued "--set-default-theme" "dark"] ByteArray.empty)
      (Settings.withFile directoryText)).1 = .ok success := by decide +kernel
  have hrest : Options.ofArguments ["--inline", "-o", "out.html"] =
      .ok { inlineCode := true, output := some (.text "out.html") } := by decide +kernel
  obtain ⟨left, hrun⟩ := exists_left hstatus
  obtain ⟨hsame, before, after, hbefore, hafter, halike, hstored⟩ := stored_theme_as_named hrun
  refine ⟨left, before, after, hrun, hbefore, hafter, halike, hstored (by decide) (by decide), ?_⟩
  exact hsame _ _ _ ByteArray.empty left hrest rfl (sparesSettings_of_level rfl left.files) rfl

end CodeMarkup.Command
