import CodeMarkup.Proofs.Log.Hierarchy
import Mathlib.Algebra.Group.Nat.Even
/-!
# The levels of loggers that are handed out

Setups give levels to three loggers, the program's own and the two that are held back. `obeys_iff`: a logger that
is handed out after a setup that succeeded has the level of that setup, or the one at which it is held back,
exactly when it is below the program's own logger, and the usual level otherwise. Which loggers are below it is a
matter of the dots behind the program's name: a name that goes on without a dot is kept as it is by
`loggerName` although it is not below, and an even number of dots is not passed.
-/

namespace CodeMarkup.Log

open CodeMarkup.Files CodeMarkup.Text

/-! ## Levels that setups give -/

/-- No logger has a level of its own but the three that setups give one. -/
def LevelsOfSetups (log : Log) : Prop :=
  ∀ logger, logger ∉ [programLogger, themeLogger, styleLogger] → log.ownLevel logger = 0

theorem levels_report (workspace : Workspace) (notice : Notice) :
    (workspace.report notice).log.levels = workspace.log.levels := by
  rw [Workspace.report_log]
  split <;> rfl

theorem LevelsOfSetups.start {log : Log} (h : log.LevelsOfSetups) (level : Nat) :
    (Setup.start level log).LevelsOfSetups := by
  intro logger hlogger
  have hown : (Setup.start level log).ownLevel logger = (log.setLevel programLogger level).ownLevel logger :=
    ownLevel_congr rfl logger
  simp only [List.mem_cons, not_or] at hlogger
  rw [hown, ownLevel_setLevel, if_neg (Ne.symm hlogger.1), h]
  simp only [List.mem_cons, not_or]
  exact hlogger

theorem LevelsOfSetups.finish {log : Log} (h : log.LevelsOfSetups) (setup : Setup) (level : Nat)
    (file : Option Place) : (setup.finish level file log).LevelsOfSetups := by
  intro logger hlogger
  have hother : ({ log with handlers := setup.handlers level file } : Log).ownLevel logger = 0 :=
    (ownLevel_congr rfl logger).trans (h logger hlogger)
  simp only [List.mem_cons, not_or] at hlogger
  rw [Setup.finish, ownLevel_setLevel, if_neg (Ne.symm hlogger.2.2.1), ownLevel_setLevel,
    if_neg (Ne.symm hlogger.2.1), hother]

theorem LevelsOfSetups.configure {workspace : Workspace} (h : workspace.log.LevelsOfSetups) (setup : Setup) :
    (outcome (configure setup) workspace).2.log.LevelsOfSetups := by
  have hc := configured setup workspace
  generalize outcome (CodeMarkup.Log.configure setup) workspace = result at hc
  cases hc with
  | refused => exact h
  | unopened => exact h.start _
  | done =>
    intro logger hlogger
    rw [ownLevel_congr (levels_report _ _)]
    exact (h.start _).finish setup _ _ logger hlogger

theorem LevelsOfSetups.configureAll {workspace : Workspace} (h : workspace.log.LevelsOfSetups)
    (setups : List Setup) : (configureAll setups workspace).log.LevelsOfSetups := by
  induction setups generalizing workspace with
  | nil => exact h
  | cons setup rest ih => exact ih (h.configure setup)

/-- What setups leave: the levels of the three loggers that have one. -/
structure Leveled (log : Log) (level trace : Nat) : Prop where
  program : log.ownLevel programLogger = level
  theme : log.ownLevel themeLogger = trace
  style : log.ownLevel styleLogger = trace
  others : log.LevelsOfSetups

theorem leveled_configured {setup : Setup} {workspace : Workspace} {level : Nat}
    (h : workspace.log.LevelsOfSetups) (hs : setup.Succeeds workspace) (hlevel : levelNamed setup.level = .ok level) :
    Leveled (outcome (configure setup) workspace).2.log level (setup.traceLevel level) := by
  have hothers := h.configure setup
  obtain ⟨level', file, hlevel', hopen⟩ := Setup.succeeds_iff.1 hs
  cases hlevel.symm.trans hlevel'
  rw [outcome_configure_done hlevel hopen] at hothers ⊢
  have hown := ownLevel_congr (levels_report (completed workspace setup level file) setup.notice)
  have hmade := configuration_completed workspace setup level file
  exact {
    program := (hown _).trans (congrArg Configuration.level hmade)
    theme := (hown _).trans (congrArg Configuration.themeLevel hmade)
    style := (hown _).trans (congrArg Configuration.styleLevel hmade)
    others := hothers }

theorem ownLevel_handOut (log : Log) (name logger : String) :
    (log.handOut name).2.ownLevel logger = log.ownLevel logger := by
  rw [handOut, ownLevel_setLevel]
  split
  · next h => rw [h]
  · rfl

theorem has_handOut (log : Log) (name logger : String) :
    Keyed.has logger (log.handOut name).2.levels =
      (decide (loggerName name = logger) || Keyed.has logger log.levels) := by
  rw [handOut, setLevel, Keyed.has, Keyed.has, Keyed.get?_set]
  split
  · next h => simp [h]
  · next h => simp [h]

theorem Leveled.handOut {log : Log} {level trace : Nat} (h : log.Leveled level trace) (name : String) :
    (log.handOut name).2.Leveled level trace where
  program := (ownLevel_handOut ..).trans h.program
  theme := (ownLevel_handOut ..).trans h.theme
  style := (ownLevel_handOut ..).trans h.style
  others logger hlogger := (ownLevel_handOut ..).trans (h.others logger hlogger)

/-! ## The level that is found -/

theorem partsOf_programLogger : partsOf programLogger = ["discussion_formatter".toList] := by decide +kernel

theorem partsOf_themeLogger :
    partsOf themeLogger = ["loader".toList, "theme".toList, "discussion_formatter".toList] := by decide +kernel

theorem partsOf_styleLogger :
    partsOf styleLogger = ["resolver".toList, "theme".toList, "discussion_formatter".toList] := by decide +kernel

section Found

variable {log : Log} {level trace : Nat} {parts : List (List Char)}

/-- Names are without a level unless they are those of the three loggers. -/
theorem Leveled.unset (h : log.Leveled level trace) (hdots : ∀ part ∈ parts, '.' ∉ part) (hne : parts ≠ [])
    (hothers : ∀ other ∈ [programLogger, themeLogger, styleLogger], parts ≠ partsOf other) :
    log.ownLevel (nameOf parts) = 0 :=
  h.others _ fun hm => hothers _ hm (partsOf_nameOf hne hdots).symm

theorem Leveled.levelFrom_program (h : log.Leveled level trace) (hset : level ≠ 0) :
    log.levelFrom (partsOf programLogger) = level := by
  have hown : log.ownLevel (nameOf ["discussion_formatter".toList]) = level := by
    rw [← partsOf_programLogger, nameOf_partsOf]
    exact h.program
  rw [partsOf_programLogger, levelFrom_cons, hown, if_neg hset]

/-- A logger that is held back has the level of the program's own logger if it is not held. -/
theorem Leveled.levelFrom_held (h : log.Leveled level trace) (hset : level ≠ 0) {logger : String} {last : List Char}
    (hlogger : log.ownLevel logger = trace) (hlast : last ≠ [])
    (hparts : partsOf logger = [last, "theme".toList, "discussion_formatter".toList]) :
    log.levelFrom (partsOf logger) = if trace = 0 then level else trace := by
  have hown : log.ownLevel (nameOf [last, "theme".toList, "discussion_formatter".toList]) = trace := by
    rw [← hparts, nameOf_partsOf]
    exact hlogger
  have hbetween : log.ownLevel (nameOf ["theme".toList, "discussion_formatter".toList]) = 0 :=
    h.unset (by decide) (List.cons_ne_nil _ _) (by decide +kernel)
  rw [hparts, levelFrom_cons, hown, upwards_of_ne_nil hlast, levelFrom_cons, hbetween, if_pos rfl,
    upwards_of_ne_nil (by decide), ← partsOf_programLogger, h.levelFrom_program hset]

/-- Where the search comes to the program's own logger or to one that is held back, nothing below has a level. -/
theorem Leveled.levelFrom_visits (h : log.Leveled level trace) (hdots : ∀ part ∈ parts, '.' ∉ part)
    {logger : String} (hlogger : Visits log (partsOf logger) parts)
    (hothers : ∀ other ∈ [programLogger, themeLogger, styleLogger], Visits log (partsOf other) parts →
      (partsOf other).length ≤ (partsOf logger).length) :
    log.levelFrom parts = log.levelFrom (partsOf logger) := by
  refine levelFrom_of_visits hlogger fun passed hpassed hlonger => ?_
  have hpositive : passed ≠ [] := List.length_pos_iff.1 (Nat.lt_of_le_of_lt (Nat.zero_le _) hlonger)
  refine h.unset (fun part hm => hdots part (hpassed.suffix.mem hm)) hpositive ?_
  rintro other hother rfl
  exact absurd (hothers other hother hpassed) (Nat.not_le.2 hlonger)

/-- No name on the way has a level when the search does not come to the program's own logger. -/
theorem Leveled.levelFrom_lost (h : log.Leveled level trace) (hdots : ∀ part ∈ parts, '.' ∉ part)
    (hlost : ∀ other ∈ [programLogger, themeLogger, styleLogger], ¬ Visits log (partsOf other) parts) :
    log.levelFrom parts = usualLevel := by
  refine levelFrom_of_unset fun passed hpassed hpositive => ?_
  refine h.unset (fun part hm => hdots part (hpassed.suffix.mem hm)) hpositive ?_
  rintro other hother rfl
  exact hlost other hother hpassed

end Found

/-! ## Loggers that are handed out -/

/-- A logger is below the program's own one and has the level that was set up, unless it is one of those that
are held back, or below one: these are held at `INFO` if the level is lower, unless every lookup and style is
to be noted. -/
structure Obeys (log : Log) (setup : Setup) (level : Nat) (logger : String) : Prop where
  below : log.Below programLogger logger
  held : log.Below themeLogger logger ∨ log.Below styleLogger logger →
    log.level logger = if setup.traceThemes = some true then level else max level Severity.info.level
  free : ¬ (log.Below themeLogger logger ∨ log.Below styleLogger logger) → log.level logger = level

/-- A level at which loggers are held, or that of the program's own logger. -/
theorem traceLevel_or (setup : Setup) (level : Nat) :
    (if setup.traceLevel level = 0 then level else setup.traceLevel level) =
      if setup.traceThemes = some true then level else max level Severity.info.level := by
  rw [Setup.traceLevel]
  by_cases htrace : setup.traceThemes = some true
  · rw [if_pos htrace, if_pos rfl, if_pos htrace]
  · have hpositive : max level Severity.info.level ≠ 0 := by
      rw [Severity.level]
      omega
    rw [if_neg htrace, if_neg hpositive, if_neg htrace]

section HandedOut

variable {log : Log} {setup : Setup} {level : Nat} {logger : String}

/-- Loggers that are held back are below the program's own one, and so is what is below them. -/
theorem below_program (hhas : Keyed.has logger log.levels = true)
    (h : log.Below themeLogger logger ∨ log.Below styleLogger logger) : log.Below programLogger logger := by
  have hheld : ∀ {held : String} {last : List Char}, last ≠ [] →
      partsOf held = [last, "theme".toList, "discussion_formatter".toList] →
      Visits log (partsOf programLogger) (partsOf held) := by
    intro held last hlast hparts
    rw [hparts]
    refine .later ?_
    rw [upwards_of_ne_nil hlast]
    refine .later ?_
    rw [upwards_of_ne_nil (by decide), partsOf_programLogger]
    exact .here
  simp only [← visits_iff_below hhas] at h ⊢
  rcases h with htheme | hstyle
  · exact Visits.trans (hheld (by decide +kernel) partsOf_themeLogger) htheme
  · exact Visits.trans (hheld (by decide +kernel) partsOf_styleLogger) hstyle

theorem Leveled.obeys (h : log.Leveled level (setup.traceLevel level)) (hset : level ≠ 0)
    (hhas : Keyed.has logger log.levels = true) (hbelow : log.Below programLogger logger) :
    log.Obeys setup level logger := by
  have hdots : ∀ part ∈ partsOf logger, '.' ∉ part := fun part => not_mem_partsOf
  have hthree : ∀ other ∈ [programLogger, themeLogger, styleLogger], (partsOf other).length ≤ 3 := by
    decide +kernel
  refine ⟨hbelow, fun hheld => ?_, fun hfree => ?_⟩
  · rw [level_eq_levelFrom hhas, ← traceLevel_or]
    rcases hheld with htheme | hstyle
    · rw [h.levelFrom_visits hdots ((visits_iff_below hhas).2 htheme) fun other hother _ => hthree other hother]
      exact h.levelFrom_held hset h.theme (by decide +kernel) partsOf_themeLogger
    · rw [h.levelFrom_visits hdots ((visits_iff_below hhas).2 hstyle) fun other hother _ => hthree other hother]
      exact h.levelFrom_held hset h.style (by decide +kernel) partsOf_styleLogger
  · rw [not_or, ← visits_iff_below hhas, ← visits_iff_below hhas] at hfree
    rw [level_eq_levelFrom hhas, h.levelFrom_visits hdots ((visits_iff_below hhas).2 hbelow),
      h.levelFrom_program hset]
    intro other hother hvisits
    simp only [List.mem_cons, List.not_mem_nil, or_false] at hother
    rcases hother with rfl | rfl | rfl
    · exact Nat.le_refl _
    · exact absurd hvisits hfree.1
    · exact absurd hvisits hfree.2

theorem Leveled.level_lost {trace : Nat} (h : log.Leveled level trace) (hhas : Keyed.has logger log.levels = true)
    (hlost : ¬ log.Below programLogger logger) : log.level logger = usualLevel := by
  rw [level_eq_levelFrom hhas]
  refine h.levelFrom_lost (fun part => not_mem_partsOf) fun other hother hvisits => hlost ?_
  rw [visits_iff_below hhas] at hvisits
  simp only [List.mem_cons, List.not_mem_nil, or_false] at hother
  rcases hother with rfl | rfl | rfl
  · exact hvisits
  · exact below_program hhas (.inl hvisits)
  · exact below_program hhas (.inr hvisits)

end HandedOut

/-- Without loggers in between, the search gets past dots in pairs. -/
theorem arrives_iff_even {log : Log} {name : String} {dots : Nat}
    (h : ∀ fewer, 0 < fewer → fewer ≤ dots → Keyed.has (dotted name fewer) log.levels = false) :
    log.arrives name dots = true ↔ Even dots := by
  fun_induction arrives log name dots with
  | case1 => exact iff_of_true rfl Even.zero
  | case2 =>
    rw [h 1 Nat.one_pos (Nat.le_refl 1)]
    exact iff_of_false Bool.false_ne_true (by decide)
  | case3 dots hhas _ =>
    rw [h (dots + 2) (Nat.succ_pos _) (Nat.le_refl _)] at hhas
    cases hhas
  | case4 dots _ ih =>
    have htwo : Even 2 := by decide
    have hstep : Even (dots + 2) ↔ Even dots := by rw [Nat.even_add, iff_true_right htwo]
    exact (ih fun fewer hpos hle => h fewer hpos (Nat.le_succ_of_le (Nat.le_succ_of_le hle))).trans hstep.symm

theorem has_handedOut (log : Log) (name : String) :
    Keyed.has (log.handOut name).1 (log.handOut name).2.levels = true := by
  rw [has_handOut, handOut, decide_eq_true rfl, Bool.true_or]

/-- A name that starts with that of the program's own logger is kept, also where it does not go on with a dot. -/
theorem not_below_handedOut {log : Log} {name : String} {c : Char} {rest : List Char}
    (h : name.toList = programLogger.toList ++ c :: rest) (hc : c ≠ '.') :
    ¬ (log.handOut name).2.Below programLogger (log.handOut name).1 := by
  have hstarts : programLogger.toList.isPrefixOf name.toList = true := by
    rw [h, List.isPrefixOf_iff_prefix]
    exact List.prefix_append _ _
  have hkept : (log.handOut name).1 = name := if_pos hstarts
  rw [hkept]
  exact not_below_of_ne_dot h hc

/-- Without loggers that have dots only behind the program's name, those are below it whose names go on after it
with an odd number of dots. -/
theorem below_handedOut_iff {log : Log} {name : String}
    (h : ∀ dots, 0 < dots → Keyed.has (dotted programLogger dots) log.levels = false) :
    (log.handOut name).2.Below programLogger (log.handOut name).1 ↔ (log.handOut name).1 = programLogger ∨
      ∃ dots rest, (log.handOut name).1.toList = programLogger.toList ++ List.replicate (dots + 1) '.' ++ rest ∧
        rest.head? ≠ some '.' ∧ Even dots := by
  refine or_congr_right (exists_congr fun dots => exists_congr fun rest => and_congr_right fun hchars =>
    and_congr_right fun _ => arrives_iff_even fun fewer hpositive hle => ?_)
  -- The logger itself has more dots behind the program's name than those that the search asks for.
  have hother : loggerName name ≠ dotted programLogger fewer := by
    intro hsame
    have hlength := congrArg (·.toList.length) hsame
    have hchars' : (loggerName name).toList.length = _ := congrArg List.length hchars
    simp only [dotted, String.toList_ofList, List.length_append, List.length_replicate] at hlength hchars'
    omega
  rw [has_handOut, h fewer hpositive, decide_eq_false hother, Bool.false_or]

/-- After a setup that succeeded, a logger that is handed out obeys it exactly when it is below the program's own
logger; any other has the usual level, whatever was set up. A name that starts with that of the program's own
logger and goes on with anything but a dot is not below it. As long as no logger is there that has dots only
behind the program's name, those are below it whose names go on after it with an odd number of dots. -/
theorem obeys_iff {workspace : Workspace} (h : workspace.log.LevelsOfSetups) {earlier : List Setup} {last : Setup}
    (hlast : last.Succeeds (configureAll earlier workspace)) {level : Nat}
    (hlevel : levelNamed last.level = .ok level) (hset : level ≠ 0) (name : String) :
    let log := (configureAll (earlier ++ [last]) workspace).log
    let logger := (log.handOut name).1
    let after := (log.handOut name).2
    (after.Obeys last level logger ↔ after.Below programLogger logger) ∧
      (¬ after.Below programLogger logger → after.level logger = usualLevel) ∧
      (∀ c rest, name.toList = programLogger.toList ++ c :: rest → c ≠ '.' →
        ¬ after.Below programLogger logger) ∧
      ((∀ dots, 0 < dots → Keyed.has (dotted programLogger dots) log.levels = false) →
        (after.Below programLogger logger ↔ logger = programLogger ∨
          ∃ dots rest, logger.toList = programLogger.toList ++ List.replicate (dots + 1) '.' ++ rest ∧
            rest.head? ≠ some '.' ∧ Even dots)) := by
  have hall : configureAll (earlier ++ [last]) workspace =
      (outcome (configure last) (configureAll earlier workspace)).2 := List.foldl_append
  have hleveled := (leveled_configured (h.configureAll earlier) hlast hlevel).handOut name
  rw [hall]
  generalize (outcome (configure last) (configureAll earlier workspace)).2.log = log at hleveled
  intro log logger after
  have hhas : Keyed.has logger after.levels = true := has_handedOut log name
  exact ⟨⟨Obeys.below, hleveled.obeys hset hhas⟩, hleveled.level_lost hhas, fun _ _ => not_below_handedOut,
    below_handedOut_iff⟩

/-- A setup for everything there is to note. -/
def loud : Setup := { level := "DEBUG" }

/-- A setup for errors only. -/
def quiet : Setup := { level := "ERROR" }

/-- What is handed out for a name after setups in an empty workspace. -/
def handedOut (setups : List Setup) (name : String) : String × Log :=
  (configureAll setups { files := [] }).log.handOut name

/-- A logger below one that is held back has the level at which that one is held. -/
theorem obeys_iff_held :
    LevelsOfSetups {} ∧ loud.Succeeds (configureAll [lostFile] { files := [] }) ∧ levelNamed loud.level = .ok 10 ∧
      10 ≠ 0 ∧ (handedOut [lostFile, loud] "theme.loader.x").1 = "discussion_formatter.theme.loader.x" ∧
      (handedOut [lostFile, loud] "theme.loader.x").2.level "discussion_formatter.theme.loader.x" = 20 := by
  have hlevels : LevelsOfSetups {} := fun _ _ => rfl
  have hlast : loud.Succeeds (configureAll [lostFile] { files := [] }) := rfl
  have hlevel : levelNamed loud.level = .ok 10 := rfl
  have hset : 10 ≠ 0 := by decide
  have hname : (handedOut [lostFile, loud] "theme.loader.x").1 = "discussion_formatter.theme.loader.x" := by
    decide +kernel
  have hchars : "discussion_formatter.theme.loader.x".toList =
      programLogger.toList ++ '.' :: "theme.loader.x".toList := by decide +kernel
  have hchars' : "discussion_formatter.theme.loader.x".toList = themeLogger.toList ++ '.' :: "x".toList := by
    decide +kernel
  have hobeys := (obeys_iff hlevels hlast hlevel hset "theme.loader.x").1
  have hheld := (hobeys.2 (hname ▸ below_of_dot hchars (by decide))).held
  exact ⟨hlevels, hlast, hlevel, hset, hname, hname ▸ hheld (.inl (hname ▸ below_of_dot hchars' (by decide)))⟩

/-- A logger whose name goes on without a dot does not get the level that was set up. -/
theorem level_prefixed :
    quiet.Succeeds { files := [] } ∧ levelNamed quiet.level = .ok 40 ∧
      (handedOut [quiet] "discussion_formatter2").1 = "discussion_formatter2" ∧
      (handedOut [quiet] "discussion_formatter2").2.level programLogger = 40 ∧
      (handedOut [quiet] "discussion_formatter2").2.level "discussion_formatter2" = 30 ∧
      ¬ (handedOut [quiet] "discussion_formatter2").2.Below programLogger "discussion_formatter2" := by
  have hchars : "discussion_formatter2".toList = programLogger.toList ++ '2' :: [] := by decide +kernel
  exact ⟨rfl, rfl, by decide +kernel, by decide +kernel, by decide +kernel, not_below_of_ne_dot hchars (by decide)⟩

end CodeMarkup.Log
