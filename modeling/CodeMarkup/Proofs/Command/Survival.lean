import CodeMarkup.Command.Run
import CodeMarkup.Proofs.Highlight.Blocks
import CodeMarkup.Proofs.Log.Setups
/-!
# Runs with any settings

A run that is given no options takes the theme from the settings, where it may be any value. Such a run answers a
status exactly when the settings can be loaded and nothing keeps the code from being marked up and written
(`run_answers_iff`). `run_numberTheme` is a run that does not.
-/

namespace CodeMarkup.Command

open CodeMarkup.Files CodeMarkup.Json CodeMarkup.Log CodeMarkup.Markup CodeMarkup.Text CodeMarkup.Theme

/-! ## Without options -/

/-- No arguments, or the one that asks for prose. -/
def argumentsFor (inline : Bool) : List String := if inline then ["--inline"] else []

/-- The options of such a run. -/
def optionsFor (inline : Bool) : Options := { inlineCode := inline }

theorem ofArguments_argumentsFor (inline : Bool) :
    Options.ofArguments (argumentsFor inline) = .ok (optionsFor inline) := by
  cases inline <;> rfl

/-- How such a run sets up logging. -/
def quiet : Setup where
  level := "WARNING"
  file := some (.text "/tmp/discussion_formatter.log")

theorem levelNamed_quiet : levelNamed quiet.level = .ok 30 := rfl

theorem logging_optionsFor (inline : Bool) : (optionsFor inline).logging = .ok quiet := rfl

/-- Above the level up to which a log file is used there is none, so the tree stays as it is. -/
theorem outcome_configure_above {setup : Setup} {level : Nat} (hlevel : levelNamed setup.level = .ok level)
    (habove : fileLevel < level) (workspace : Workspace) :
    ∃ left, outcome (configure setup) workspace = (.ok (), left) ∧ left.Unlogged ∧
      left.files = workspace.files ∧ left.output = workspace.output := by
  have hopen : setup.opened level workspace.files = .ok none := by
    rw [Setup.opened, Setup.openedFile?, if_neg (Nat.not_le_of_lt habove)]
  have hready : (completed workspace setup level none).Unlogged := by
    have hhandlers : (completed workspace setup level none).log.handlers = setup.handlers level none := rfl
    rw [Workspace.Unlogged, hhandlers, Setup.handlers]
    by_cases hconsole : setup.console = some true
    · rw [if_pos hconsole]
      rfl
    · rw [if_neg hconsole]
      rfl
  exact ⟨_, outcome_configure_done hlevel hopen, hready.report _, Workspace.report_files hready _,
    Workspace.report_output _ _⟩

theorem outcome_configure_quiet (workspace : Workspace) :
    ∃ left, outcome (configure quiet) workspace = (.ok (), left) ∧ left.Unlogged ∧
      left.files = workspace.files := by
  obtain ⟨left, hconfigure, hlog, hfiles, -⟩ := outcome_configure_above levelNamed_quiet (by decide) workspace
  exact ⟨left, hconfigure, hlog, hfiles⟩

theorem perform_optionsFor (host : Host) (inline : Bool) (input : ByteArray) :
    perform host (optionsFor inline) input =
      (do
        configure quiet
        let library ← Library.fromSettings
        renderSource host (optionsFor inline) library input) := by
  rw [perform, logging_optionsFor]
  rfl

theorem outcome_run_eq (host : Host) (arguments : List String) (input : ByteArray) (workspace : Workspace) :
    outcome (run host arguments input) workspace =
      ((outcome (answer host arguments input) workspace).1,
        { (outcome (answer host arguments input) workspace).2 with
          log := (outcome (answer host arguments input) workspace).2.log.closeFiles }) := rfl

theorem outcome_run (host : Host) (arguments : List String) (input : ByteArray) (workspace : Workspace) :
    (outcome (run host arguments input) workspace).1 = (outcome (answer host arguments input) workspace).1 := rfl

/-! ## Writing -/

theorem encodable_printed {markup : CodePoints} : Encodable (printed markup) ↔ Encodable markup := by
  rw [printed]
  split
  · rfl
  · simp

/-- Markup is made and written to the standard output. -/
def deliver (host : Host) (attempt : Attempt CodePoints) : Attempt Nat := do
  let markup ← attempt
  match ← writeMarkup host none markup with
  | .error words => complain "write" Notice.missing words
  | .ok () => return success

theorem outcome_deliver {host : Host} {attempt : Attempt CodePoints} {workspace : Workspace}
    (h : Delivers attempt workspace) :
    (outcome (deliver host attempt) workspace).1 = .ok success := by
  obtain ⟨markup, hmarkup, hencodable⟩ := h
  obtain ⟨text, htext⟩ := exists_encodable_iff.2 (encodable_printed.2 hencodable)
  rw [deliver, outcome_bind]
  generalize outcome attempt workspace = result at hmarkup ⊢
  obtain ⟨result, left⟩ := result
  cases hmarkup
  simp only [writeMarkup, print, htext]
  rfl

theorem outcome_deliver_error {host : Host} {attempt : Attempt CodePoints} {workspace : Workspace} {failure : Failure}
    (h : (outcome attempt workspace).1 = .error failure) :
    (outcome (deliver host attempt) workspace).1 = .error failure := by
  rw [deliver, outcome_bind]
  generalize outcome attempt workspace = result at h ⊢
  obtain ⟨result, left⟩ := result
  cases h
  rfl

theorem outcome_deliver_fails {host : Host} {attempt : Attempt CodePoints} {workspace : Workspace}
    (h : ¬ Delivers attempt workspace) : ∃ failure, (outcome (deliver host attempt) workspace).1 = .error failure := by
  cases hmarkup : (outcome attempt workspace).1 with
  | error failure => exact ⟨failure, outcome_deliver_error hmarkup⟩
  | ok markup =>
    cases htext : encodable (printed markup) with
    | ok text => exact absurd ⟨markup, hmarkup, encodable_printed.1 (exists_encodable_iff.1 ⟨text, htext⟩)⟩ h
    | error fault =>
      refine ⟨.notEncodable fault, ?_⟩
      rw [deliver, outcome_bind]
      generalize outcome attempt workspace = result at hmarkup ⊢
      obtain ⟨result, left⟩ := result
      cases hmarkup
      simp only [writeMarkup, print, htext]
      rfl

/-! ## Rendering -/

/-- Source or prose as markup. -/
def markupFor (inline : Bool) (library : Library) (name : Name) (source : String) : Attempt CodePoints :=
  if inline then convertProse source name (some library) else highlight (some source) name (some library)

/-- The code that is highlighted: the source, or what stands between fences if a theme is named at all. -/
def highlighted (inline : Bool) (name : Name) (source : String) : List String :=
  (if inline then if name = .missing then [] else fencedCodes source else [source]).filter fun code =>
    !allBlank code

theorem delivers_markupFor_iff (inline : Bool) (library : Library) (name : Name) (source : String)
    {workspace : Workspace} (hlog : workspace.Unlogged) :
    Delivers (markupFor inline library name source) workspace ↔
      ∀ code ∈ highlighted inline name source, Presents workspace.files library name code := by
  cases inline with
  | true =>
    simp only [markupFor, highlighted, if_true]
    rw [delivers_convertProse_iff source name library hlog]
    by_cases hname : name = .missing <;> simp [hname]
  | false =>
    simp only [markupFor, highlighted, Bool.false_eq_true, if_false]
    cases hblank : allBlank source with
    | true => simp [hblank, delivers_highlight_blank hblank]
    | false => simp [hblank, delivers_highlight_iff hblank]

theorem renderSource_optionsFor (host : Host) (inline : Bool) (library : Library) (input : ByteArray) :
    renderSource host (optionsFor inline) library input =
      (do
        let v ← Settings.lookup "theme"
        match textOf host.unifiesInput input with
        | .error words => complain "read" Notice.missing words
        | .ok source => deliver host (markupFor inline library (.ofValue v) source)) := by
  have hname : themeName (optionsFor inline) = (do return .ofValue (← Settings.lookup "theme")) := rfl
  have hsource : readSource host (optionsFor inline).source input = pure (textOf host.unifiesInput input) := rfl
  rw [renderSource, hname, hsource, bind_assoc]
  refine bind_congr fun v => ?_
  rw [pure_bind, pure_bind]
  cases textOf host.unifiesInput input with
  | error words => rfl
  | ok source => cases inline <;> rfl

/-- What a run comes to once the settings are known: the input is no text, or there is code to be delivered. -/
theorem outcome_renderSource (host : Host) (inline : Bool) (library : Library) (input : ByteArray)
    {workspace : Workspace} {settings : Settings} (hlog : workspace.Unlogged) (hfound : Settings.found workspace.files = .ok settings) :
    ∃ left, left.Unlogged ∧ left.files = workspace.files ∧
      (outcome (renderSource host (optionsFor inline) library input) workspace).1 =
        match textOf host.unifiesInput input with
        | .error _ => .ok unusable
        | .ok source =>
          (outcome (deliver host (markupFor inline library (.ofValue (settings.value "theme" .null)) source))
            left).1 := by
  have hlookup := Settings.outcome_lookup "theme" .null workspace
  obtain ⟨hlog', hfiles⟩ := (lookup_onlyReports "theme" .null).files_eq hlog
  rw [hfound] at hlookup
  rw [renderSource_optionsFor, outcome_bind]
  generalize outcome (Settings.lookup "theme") workspace = result at hlookup hlog' hfiles ⊢
  obtain ⟨result, left⟩ := result
  cases hlookup
  refine ⟨left, hlog', hfiles, ?_⟩
  cases textOf host.unifiesInput input <;> rfl

theorem outcome_answer (host : Host) (inline : Bool) (input : ByteArray) (workspace : Workspace) :
    ∃ left, left.Unlogged ∧ left.files = workspace.files ∧
      (outcome (answer host (argumentsFor inline) input) workspace).1 =
        match Settings.found workspace.files with
        | .error failure => .error failure
        | .ok settings => (outcome (renderSource host (optionsFor inline) (.ofSettings settings) input) left).1 := by
  -- Without a log file each step finds the tree that the run started with.
  obtain ⟨start, hconfigure, hlog, hfiles⟩ := outcome_configure_quiet workspace
  have hsettings := Library.outcome_fromSettings start
  obtain ⟨hlog', hfiles'⟩ := fromSettings_onlyReports.files_eq hlog
  rw [answer, ofArguments_argumentsFor]
  simp only
  rw [perform_optionsFor, outcome_bind, hconfigure]
  simp only
  rw [outcome_bind]
  rw [hfiles] at hsettings hfiles'
  generalize outcome Library.fromSettings start = result at hsettings hlog' hfiles' ⊢
  obtain ⟨result, left⟩ := result
  refine ⟨left, hlog', hfiles', ?_⟩
  cases hfound : Settings.found workspace.files with
  | error failure =>
    rw [hfound] at hsettings
    cases hsettings
    rfl
  | ok settings =>
    rw [hfound] at hsettings
    cases hsettings
    rfl

/-! ## Statuses -/

/-- The status of a run that answers: whether its input is text. -/
def statusFor (input : ByteArray) : Nat :=
  match decodeUtf8 input with
  | .ok _ => success
  | .error _ => unusable

theorem statusFor_eq (unified : Bool) (input : ByteArray) :
    statusFor input = match textOf unified input with
      | .ok _ => success
      | .error _ => unusable := by
  rw [statusFor, textOf]
  cases decodeUtf8 input <;> rfl

/-- Nothing keeps a run from answering: the settings can be loaded, and nothing is in the way of the code that is
highlighted. -/
structure Survives (host : Host) (inline : Bool) (files : Tree) (input : ByteArray) : Prop where
  settings : ∀ failure, ¬ Settings.Unloadable files failure
  code : ∀ settings source, Settings.found files = .ok settings → textOf host.unifiesInput input = .ok source →
    ∀ code ∈ highlighted inline (.ofValue (settings.value "theme" .null)) source,
      Presents files (.ofSettings settings) (.ofValue (settings.value "theme" .null)) code

theorem survives_iff {host : Host} {inline : Bool} {files : Tree} {input : ByteArray} {settings : Settings}
    {source : String} (hfound : Settings.found files = .ok settings)
    (htext : textOf host.unifiesInput input = .ok source) :
    Survives host inline files input ↔
      ∀ code ∈ highlighted inline (.ofValue (settings.value "theme" .null)) source,
        Presents files (.ofSettings settings) (.ofValue (settings.value "theme" .null)) code := by
  constructor
  · intro h
    exact h.code settings source hfound htext
  · refine fun h => ⟨Settings.exists_found_iff.1 ⟨settings, hfound⟩, fun settings' source' hfound' htext' => ?_⟩
    cases hfound.symm.trans hfound'
    cases htext.symm.trans htext'
    exact h

/-- A run without options answers a status exactly when nothing keeps it from answering, and then the status tells
whether the input is text. -/
theorem run_answers_iff (host : Host) (inline : Bool) (input : ByteArray) (workspace : Workspace) :
    ((∃ status, (outcome (run host (argumentsFor inline) input) workspace).1 = .ok status) ↔
      Survives host inline workspace.files input) ∧
    ∀ status, (outcome (run host (argumentsFor inline) input) workspace).1 = .ok status →
      status = statusFor input := by
  obtain ⟨left, hlog, hfiles, hanswer⟩ := outcome_answer host inline input workspace
  rw [outcome_run, hanswer, statusFor_eq host.unifiesInput]
  cases hfound : Settings.found workspace.files with
  | error failure =>
    exact ⟨iff_of_false nofun fun h => h.settings failure (Settings.found_eq_error.1 hfound), nofun⟩
  | ok settings =>
    obtain ⟨left', hlog', hfiles', hrender⟩ :=
      outcome_renderSource host inline (.ofSettings settings) input hlog ((congrArg _ hfiles).trans hfound)
    simp only
    rw [hrender]
    cases htext : textOf host.unifiesInput input with
    | error words =>
      -- Nothing is highlighted, so it does not matter what the theme is.
      have hsurvives : Survives host inline workspace.files input :=
        ⟨Settings.exists_found_iff.1 ⟨settings, hfound⟩, fun _ _ _ hs => nomatch htext.symm.trans hs⟩
      exact ⟨iff_of_true ⟨unusable, rfl⟩ hsurvives, fun _ h => (Except.ok.inj h).symm⟩
    | ok source =>
      simp only
      rw [survives_iff hfound htext, ← hfiles, ← hfiles', ← delivers_markupFor_iff inline _ _ _ hlog']
      by_cases hdelivers : Delivers (markupFor inline (.ofSettings settings)
          (.ofValue (settings.value "theme" .null)) source) left'
      · rw [outcome_deliver hdelivers]
        exact ⟨iff_of_true ⟨success, rfl⟩ hdelivers, fun _ h => (Except.ok.inj h).symm⟩
      · obtain ⟨failure, hfails⟩ := outcome_deliver_fails hdelivers
        rw [hfails]
        exact ⟨iff_of_false nofun hdelivers, nofun⟩

/-- A host with room for every output file. -/
def Host.roomy (unifiesInput : Bool) : Host where
  unifiesInput := unifiesInput
  refusal? _ _ := none

/-- Settings in which the theme is a number. -/
def numberTheme : String := "\x7b\"theme\": 5\x7d"

/-- A theme that is a number ends the run, although the input is text. -/
theorem run_numberTheme :
    decodeUtf8 "int x;".toUTF8 = .ok "int x;" ∧
      (outcome (run (.roomy false) (argumentsFor false) "int x;".toUTF8) (Settings.withFile numberTheme)).1 =
        .error (.nameNotText .int) := by
  have hinput := decodeUtf8_toUTF8 "int x;"
  have htext : textOf false "int x;".toUTF8 = .ok "int x;" := by
    rw [textOf, hinput]
    rfl
  have hfound : Settings.found (Settings.withFile numberTheme).files = .ok [("theme", .int 5)] := by
    rw [Settings.found_of_read (Settings.read_withFile numberTheme), Settings.settingsIn, decodeUtf8_toUTF8]
    rfl
  obtain ⟨left, hlog, hfiles, hanswer⟩ :=
    outcome_answer (.roomy false) false "int x;".toUTF8 (Settings.withFile numberTheme)
  rw [hfound] at hanswer
  rw [← hfiles] at hfound
  obtain ⟨left', -, -, hrender⟩ :=
    outcome_renderSource (.roomy false) false (.ofSettings [("theme", .int 5)]) "int x;".toUTF8 hlog hfound
  rw [Host.roomy, htext] at hrender
  refine ⟨hinput, ?_⟩
  rw [outcome_run]
  exact (hanswer.trans hrender).trans (outcome_deliver_error rfl)

end CodeMarkup.Command
