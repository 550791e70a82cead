import CodeMarkup.Proofs.Command.Survival
/-!
# Where the source comes from and where the markup goes

A run that renders takes its bytes from a file or from the standard input and then makes markup of them, for which
it does not matter which of the two it was, as long as the line ends are treated alike (`agree_markupOf`). What it does
at the end does not depend on how it came by the markup (`conclude_cases`): all of it is written, or nothing at all,
unless the disk has no room for a file that is open by then. `run_channels` puts the two together.
-/

namespace CodeMarkup

open CodeMarkup.Files CodeMarkup.Json CodeMarkup.Log CodeMarkup.Markup CodeMarkup.Palette CodeMarkup.Text
open CodeMarkup.Theme

/-! ## What the files tell -/

section Told

variable (files : Tree)

theorem agree_lookup (key : CodePoints) (otherwise : Value) :
    Agree files (Settings.lookup key otherwise) (Settings.lookup key otherwise) := by
  refine .of_files (lookup_onlyReports key otherwise) fun workspace workspace' hfiles => ?_
  rw [Settings.outcome_lookup, Settings.outcome_lookup, hfiles]

theorem agree_fromSettings : Agree files Library.fromSettings Library.fromSettings := by
  refine .of_files fromSettings_onlyReports fun workspace workspace' hfiles => ?_
  rw [Library.outcome_fromSettings, Library.outcome_fromSettings, hfiles]

theorem outcome_load_congr (library : Library) (name : Name) {workspace workspace' : Workspace}
    (hfiles : workspace'.files = workspace.files) :
    (outcome (library.load name) workspace').1 = (outcome (library.load name) workspace).1 := by
  by_cases hname : name.isTyped = true
  · rw [Library.outcome_load library hname, Library.outcome_load library hname, hfiles]
  · obtain ⟨kind, rfl⟩ := Name.exists_illTyped hname
    rfl

theorem agree_highlight (source : String) (name : Name) (library : Library) :
    Agree files (highlight (some source) name (some library)) (highlight (some source) name (some library)) := by
  refine .of_files (highlight_onlyReports _ _ _ _) fun workspace workspace' hfiles => ?_
  cases hblank : allBlank source with
  | true => simp only [highlight, hblank, if_true, outcome_pure]
  | false => rw [outcome_highlight hblank, outcome_highlight hblank, outcome_load_congr library name hfiles]

theorem agree_highlightBlock (name : Name) (library : Library) (code : String) :
    Agree files (highlightBlock name (some library) code) (highlightBlock name (some library) code) := by
  rw [highlightBlock]
  by_cases hname : name = .missing
  · rw [if_pos hname]
    exact .pure _
  · rw [if_neg hname]
    exact (agree_highlight files code name library).bind fun _ => .pure _

theorem agree_convertProse (prose : String) (name : Name) (library : Library) :
    Agree files (convertProse prose name (some library)) (convertProse prose name (some library)) := by
  rw [convertProse, Prose.convert, Prose.convertPieces]
  refine (Agree.mapM (fun piece => ?_) _).bind fun _ => .pure _
  rcases piece with c | code | code | code
  · exact .pure _
  · exact agree_highlightBlock files name library _
  · exact .pure _
  · exact .pure _

end Told

namespace Command

theorem agree_markupFor (files : Tree) (inline : Bool) (library : Library) (name : Name) (source : String) :
    Agree files (markupFor inline library name source) (markupFor inline library name source) := by
  cases inline with
  | true => exact agree_convertProse files source name library
  | false => exact agree_highlight files source name library

/-! ## Options of a run that renders -/

/-- The options ask for markup, and for no log file: no default theme is to be stored and no themes are to be listed,
and the level is one above those with which a log file is used. -/
structure Options.Renders (options : Options) : Prop where
  list : options.listThemes = false
  store : options.defaultTheme.bind Given.filled? = none
  level : ∃ name level, options.level = .text name ∧ levelNamed name = .ok level ∧ Severity.warning.level ≤ level

/-- Where the bytes of the source come from: what is written for a file, or the standard input. -/
def Options.bytes (options : Options) (input : ByteArray) (files : Tree) : Except Failure ByteArray :=
  match options.source with
  | none | some "-" => .ok input
  | some path => bytesAt files (Path.literal path) path

/-- Whether the line ends of the source are unified. Those of a file always are. -/
def Options.unifies (options : Options) (host : Host) : Bool :=
  match options.source with
  | none | some "-" => host.unifiesInput
  | some _ => true

/-- There is no carriage return in the text of these bytes. -/
def LacksReturns (content : ByteArray) : Prop := ∀ text, decodeUtf8 content = .ok text → '\r' ∉ text.toList

/-- Two runs read the same source: the same bytes, be it from different channels. If the line ends are unified in one
of them only, there are none that would have to be. -/
structure SameSource (files : Tree) (host : Host) (options : Options) (input : ByteArray) (host' : Host)
    (options' : Options) (input' : ByteArray) : Prop where
  bytes : options'.bytes input' files = options.bytes input files
  lines : options'.unifies host' = options.unifies host ∨
    ∀ content, options.bytes input files = .ok content → LacksReturns content

/-- The options ask for the same styles, and both for code or both for prose. -/
structure Options.SameStyles (options other : Options) : Prop where
  theme : other.theme = options.theme
  themesDir : other.themesDir = options.themesDir
  inlineCode : other.inlineCode = options.inlineCode

/-- The disk takes all that is written to output files. -/
def Host.HasRoom (host : Host) : Prop := ∀ place content, host.refusal? place content = none

/-- The markup can be written where it is to go, and the disk takes it. -/
def Options.CanWrite (options : Options) (host : Host) (html : String) (files : Tree) : Prop :=
  options.output = none ∨
    ∃ path place, options.output = some (.text path) ∧ placeFor files (Path.literal path) path = .ok place ∧
      host.refusal? place html.toUTF8 = none

/-- Markup on lines of its own. -/
def onLines (html : String) : String :=
  if html = "" ∨ html.toList.getLast? = some '\n' then html else html ++ "\n"

/-- What a run leaves that has made this markup: the markup is on the standard output, with a line end after it, or it
is in the file that the options ask for and in no other. -/
inductive Shows (options : Options) (workspace left : Workspace) (html : String) : Prop
  | printed (houtput : options.output = none) (files : left.files = workspace.files)
      (printed : left.output = workspace.output ++ onLines html)
  | written {path : String} {place : Place} (houtput : options.output = some (.text path))
      (hplace : placeFor workspace.files (Path.literal path) path = .ok place)
      (file : Tree.lookup? left.files place = some (.file html.toUTF8))
      (others : ∀ other, other ≠ place → Tree.lookup? left.files other = Tree.lookup? workspace.files other)
      (printed : left.output = workspace.output)

/-- The disk had no room for the markup, and the file that the options ask for holds what it took. -/
inductive Torn (host : Host) (options : Options) (workspace left : Workspace) : Prop
  | intro {path html : String} {place : Place} {taken : Nat} {cause : Cause}
      (houtput : options.output = some (.text path))
      (hplace : placeFor workspace.files (Path.literal path) path = .ok place)
      (hrefused : host.refusal? place html.toUTF8 = some (taken, cause))
      (file : Tree.lookup? left.files place = some (.file (html.toUTF8.extract 0 taken)))
      (others : ∀ other, other ≠ place → Tree.lookup? left.files other = Tree.lookup? workspace.files other)

/-- What a run leaves that could not read its source or not write its markup: nothing is on the standard output, and no
file has changed if the disk has room. If it has not, the file that the options ask for may be torn. -/
structure Unwritten (host : Host) (options : Options) (workspace left : Workspace) : Prop where
  output : left.output = workspace.output
  files : host.HasRoom → left.files = workspace.files
  torn : left.files = workspace.files ∨ Torn host options workspace left

/-! ## Making markup -/

/-- The library that the options ask for. -/
def libraryFor (options : Options) : Attempt Library :=
  match options.themesDir.bind Given.filled? with
  | some directory => pure (Library.withBundled (some directory))
  | none => Library.fromSettings

/-- Makes markup of what was read, if it is text. -/
def markUp (options : Options) (library : Library) (name : Name) :
    Except String String → Attempt (Except String CodePoints)
  | .error words => return .error words
  | .ok source => return .ok (← markupFor options.inlineCode library name source)

/-- Reads the source and makes markup of it, or gives the words for why the source cannot be read. -/
def markupOf (host : Host) (options : Options) (input : ByteArray) : Attempt (Except String CodePoints) := do
  let library ← libraryFor options
  let name ← themeName options
  let source ← readSource host options.source input
  markUp options library name source

/-- Writes the markup, or says why the source could not be read. -/
def conclude (host : Host) (options : Options) : Except String CodePoints → Attempt Nat
  | .error words => complain "read" (options.source.getD Notice.missing) words
  | .ok markup => do
    match ← writeMarkup host options.output markup with
    | .error words => complain "write" ((options.output.map Given.shown).getD Notice.missing) words
    | .ok () => return success

theorem renderSource_eq (host : Host) (options : Options) (library : Library) (input : ByteArray) :
    renderSource host options library input = (do
      let name ← themeName options
      let source ← readSource host options.source input
      conclude host options (← markUp options library name source)) := by
  rw [renderSource]
  refine bind_congr fun name => bind_congr fun source => ?_
  cases source with
  | error words => rfl
  | ok source =>
    rw [markUp, markupFor]
    by_cases hinline : options.inlineCode = true
    · simp only [hinline, if_true, bind_assoc, pure_bind]
      rfl
    · simp only [hinline, Bool.false_eq_true, if_false, bind_assoc, pure_bind]
      rfl

/-- A run that renders makes the markup, and then writes it. -/
theorem perform_renders (host : Host) {options : Options} (h : options.Renders) (input : ByteArray) :
    perform host options input = (do
      configure (← MonadExcept.ofExcept options.logging)
      conclude host options (← markupOf host options input)) := by
  rw [perform]
  refine bind_congr fun setup => bind_congr fun _ => ?_
  rw [h.store]
  simp only [h.list, Bool.false_eq_true, if_false, renderSource_eq, markupOf, bind_assoc]
  rw [libraryFor]
  cases options.themesDir.bind Given.filled? with
  | some directory => simp only [pure_bind]
  | none => rfl

/-- What is read of a source, given its bytes and whether line ends are unified. -/
def sourceIn (unified : Bool) : Except Failure ByteArray → Except Failure (Except String String)
  | .ok content => .ok (textOf unified content)
  | .error (.file fault) => .ok (.error fault.message)
  | .error failure => .error failure

theorem outcome_readSource (host : Host) (options : Options) (input : ByteArray) (workspace : Workspace) :
    outcome (readSource host options.source input) workspace =
      (sourceIn (options.unifies host) (options.bytes input workspace.files), workspace) := by
  rw [Options.bytes, Options.unifies]
  cases options.source with
  | none => rfl
  | some path =>
    by_cases hinput : path = "-"
    · rw [hinput]
      rfl
    · simp only [readSource]
      rw [outcome_bind, outcome_get]
      simp only
      cases bytesAt workspace.files (Path.literal path) path with
      | ok content => rfl
      | error failure => cases failure <;> rfl

/-- Bytes without carriage returns are the same text whether line ends are unified or not. -/
theorem textOf_of_lacksReturns {content : ByteArray} (h : LacksReturns content) (unified : Bool) :
    textOf unified content = textOf false content := by
  rw [textOf, textOf]
  cases hd : decodeUtf8 content with
  | error fault => rfl
  | ok text =>
    simp only
    rw [unifyLineEnds_eq_self_iff.2 (h text hd), String.ofList_toList, ite_self, ite_self]

section Markup

variable {host host' : Host} {options other : Options} {input input' : ByteArray} {files : Tree}

/-- The same source is the same text. -/
theorem SameSource.sourceIn_eq (h : SameSource files host options input host' other input') :
    sourceIn (other.unifies host') (other.bytes input' files) =
      sourceIn (options.unifies host) (options.bytes input files) := by
  rw [h.bytes]
  rcases h.lines with hlines | hlines
  · rw [hlines]
  · cases hbytes : options.bytes input files with
    | error failure => cases failure <;> rfl
    | ok content =>
      have hreturns := textOf_of_lacksReturns (hlines content hbytes)
      rw [sourceIn, sourceIn, hreturns, hreturns (options.unifies host)]

/-- Where the line ends of the standard input are unified, the channel of the bytes does not matter. -/
theorem SameSource.of_unifiesInput (h : host.unifiesInput = true) (h' : host'.unifiesInput = true)
    (hbytes : other.bytes input' files = options.bytes input files) :
    SameSource files host options input host' other input' := by
  have hunifies : ∀ {host : Host} (options : Options), host.unifiesInput = true → options.unifies host = true := by
    intro host options h
    rw [Options.unifies]
    split
    · exact h
    · exact h
    · rfl
  exact ⟨hbytes, .inl ((hunifies other h').trans (hunifies options h).symm)⟩

theorem agree_readSource (h : SameSource files host options input host' other input') :
    Agree files (readSource host options.source input) (readSource host' other.source input') where
  reports workspace := ⟨[], congrArg Prod.snd (outcome_readSource host options input workspace)⟩
  reports' workspace := ⟨[], congrArg Prod.snd (outcome_readSource host' other input' workspace)⟩
  same workspace workspace' _ _ hfiles hfiles' := by
    rw [outcome_readSource, outcome_readSource, hfiles, hfiles', h.sourceIn_eq]

theorem agree_libraryFor (h : options.SameStyles other) : Agree files (libraryFor options) (libraryFor other) := by
  rw [libraryFor, libraryFor, h.themesDir]
  cases options.themesDir.bind Given.filled? with
  | some directory => exact .pure _
  | none => exact agree_fromSettings files

theorem agree_themeName (h : options.SameStyles other) : Agree files (themeName options) (themeName other) := by
  rw [themeName, themeName, h.theme]
  cases options.theme.bind Given.filled? with
  | some name => exact .pure _
  | none => exact (agree_lookup files _ _).bind fun v => .pure _

/-- From the same source, in the same styles, the same markup is made. -/
theorem agree_markupOf (h : options.SameStyles other)
    (hsource : SameSource files host options input host' other input') :
    Agree files (markupOf host options input) (markupOf host' other input') := by
  rw [markupOf, markupOf]
  refine (agree_libraryFor h).bind fun library => (agree_themeName h).bind fun name =>
    (agree_readSource hsource).bind fun source => ?_
  cases source with
  | error words => exact .pure _
  | ok source =>
    rw [markUp, markUp, h.inlineCode]
    exact (agree_markupFor files _ library name source).bind fun _ => .pure _

end Markup

/-! ## Writing markup -/

theorem encodable_eq_ok_iff {s : CodePoints} {t : String} : encodable s = .ok t ↔ s = CodePoints.ofString t := by
  rw [encodable, ← CodePoints.string?_eq_some_iff]
  cases CodePoints.string? s with
  | none => simp only [reduceCtorEq]
  | some found => rw [Except.ok.injEq, Option.some.injEq]

theorem printed_ofString (html : String) :
    printed (CodePoints.ofString html) = CodePoints.ofString (onLines html) := by
  have hempty : CodePoints.ofString html = [] ↔ html = "" := @CodePoints.ofString_inj html ""
  have hlast : (CodePoints.ofString html).getLast? = some (.char '\n') ↔ html.toList.getLast? = some '\n' := by
    rw [CodePoints.ofString, CodePoints.ofChars, List.getLast?_map, Option.map_eq_some_iff]
    constructor
    · rintro ⟨c, hc, he⟩
      cases he
      exact hc
    · intro h
      exact ⟨_, h, rfl⟩
  simp only [printed, onLines, hempty, hlast]
  split
  · rfl
  · exact (CodePoints.ofString_append html "\n").symm

section Writing

variable {host : Host} {options : Options} {workspace left : Workspace}

/-- The workspace with a file at a place that was made empty first. -/
def filled (workspace : Workspace) (place : Place) (content : ByteArray) : Workspace :=
  { workspace with files := Tree.put (Tree.put workspace.files place (.file ByteArray.empty)) place (.file content) }

theorem lookup?_filled {path : String} {place : Place}
    (hplace : placeFor workspace.files (Path.literal path) path = .ok place) (content : ByteArray) :
    Tree.lookup? (filled workspace place content).files place = some (.file content) := by
  have hfree := (Tree.locateForWriting_eq_ok_iff.1 (placeFor_eq_ok_iff.1 hplace).2).2.2
  exact Tree.lookup?_put_self _ (Tree.names_ne_nil hfree) _

theorem lookup?_filled_of_ne {place other : Place} (h : other ≠ place) (content : ByteArray) :
    Tree.lookup? (filled workspace place content).files other = Tree.lookup? workspace.files other :=
  (Tree.lookup?_put_of_ne _ h.symm _).trans (Tree.lookup?_put_of_ne _ h.symm _)

/-! ### To the standard output -/

/-- Only a text is printed. -/
theorem exists_ofString_of_printed {markup : CodePoints} {status : Nat} (houtput : options.output = none)
    (h : (outcome (conclude host options (.ok markup)) workspace).1 = .ok status) :
    ∃ html : String, markup = html := by
  rw [conclude, houtput, outcome_bind, writeMarkup, outcome_bind, print] at h
  cases hprinted : encodable (printed markup) with
  | error fault =>
    rw [hprinted] at h
    cases h
  | ok text =>
    obtain ⟨html, hhtml⟩ := exists_encodable_iff.2 (encodable_printed.1 (exists_encodable_iff.1 ⟨text, hprinted⟩))
    exact ⟨html, encodable_eq_ok_iff.1 hhtml⟩

theorem outcome_conclude_printed (houtput : options.output = none) (html : String) :
    outcome (conclude host options (.ok html)) workspace =
      (.ok success, { workspace with output := workspace.output ++ onLines html }) := by
  have hprint : outcome (print (printed html)) workspace =
      (.ok (), { workspace with output := workspace.output ++ onLines html }) := by
    rw [print, printed_ofString, encodable_ofString]
    rfl
  rw [conclude, houtput, outcome_bind, writeMarkup, outcome_bind, hprint]
  rfl

/-! ### To a file -/

section File

variable {path : String} {place : Place}

/-- Only a text is written. -/
theorem exists_ofString_of_written {markup : CodePoints} {status : Nat} (houtput : options.output = some (.text path))
    (hplace : placeFor workspace.files (Path.literal path) path = .ok place)
    (h : (outcome (conclude host options (.ok markup)) workspace).1 = .ok status) :
    ∃ html : String, markup = html := by
  rw [conclude, houtput, outcome_bind, writeMarkup, outcome_bind, outcome_get] at h
  simp only [hplace] at h
  cases hmarkup : encodable markup with
  | error fault =>
    rw [hmarkup] at h
    cases h
  | ok html => exact ⟨html, encodable_eq_ok_iff.1 hmarkup⟩

theorem outcome_conclude_written (houtput : options.output = some (.text path))
    (hplace : placeFor workspace.files (Path.literal path) path = .ok place) {html : String}
    (hroom : host.refusal? place html.toUTF8 = none) :
    outcome (conclude host options (.ok html)) workspace = (.ok success, filled workspace place html.toUTF8) := by
  rw [conclude, houtput, outcome_bind, writeMarkup, outcome_bind, outcome_get]
  simp only [hplace, encodable_ofString, fillFile, hroom]
  rfl

/-- A disk without room leaves the file torn. -/
theorem exists_conclude_torn (houtput : options.output = some (.text path))
    (hplace : placeFor workspace.files (Path.literal path) path = .ok place) {html : String} {taken : Nat}
    {cause : Cause} (hrefused : host.refusal? place html.toUTF8 = some (taken, cause)) :
    ∃ left, outcome (conclude host options (.ok html)) workspace = (.ok unusable, left) ∧
      left.output = workspace.output ∧ Torn host options workspace left := by
  rw [conclude, houtput, outcome_bind, writeMarkup, outcome_bind, outcome_get]
  simp only [hplace, encodable_ofString, fillFile, hrefused]
  exact ⟨_, rfl, rfl, .intro houtput hplace hrefused (lookup?_filled hplace _) fun _ hne => lookup?_filled_of_ne hne _⟩

end File

/-! ### To either -/

theorem Unwritten.of_same (hfiles : left.files = workspace.files) (houtput : left.output = workspace.output) :
    Unwritten host options workspace left := ⟨houtput, fun _ => hfiles, .inl hfiles⟩

/-- Markup that is a text is written where this can be done. -/
theorem exists_conclude (html : String) (h : options.CanWrite host html workspace.files) :
    ∃ left, outcome (conclude host options (.ok html)) workspace = (.ok success, left) ∧
      Shows options workspace left html := by
  rcases h with houtput | ⟨path, place, houtput, hplace, hroom⟩
  · exact ⟨_, outcome_conclude_printed houtput html, .printed houtput rfl rfl⟩
  · exact ⟨_, outcome_conclude_written houtput hplace hroom, .written houtput hplace (lookup?_filled hplace _)
      (fun other hne => lookup?_filled_of_ne hne _) rfl⟩

theorem Unwritten.of_torn (houtput : left.output = workspace.output) (h : Torn host options workspace left) :
    Unwritten host options workspace left := by
  refine ⟨houtput, fun hroom => ?_, .inr h⟩
  obtain ⟨-, -, hrefused, -, -⟩ := h
  cases (hroom _ _).symm.trans hrefused

/-- If a status is answered, either all of the markup is written or nothing, but for what a disk without room takes. -/
theorem conclude_cases {result : Except String CodePoints} {status : Nat}
    (h : outcome (conclude host options result) workspace = (.ok status, left)) :
    status = unusable ∧ Unwritten host options workspace left ∨
      status = success ∧ ∃ html : String, result = .ok html ∧ Shows options workspace left html := by
  have hdone : ∀ html : String, result = .ok html → options.CanWrite host html workspace.files →
      status = success ∧ ∃ html : String, result = .ok html ∧ Shows options workspace left html := by
    rintro html rfl hcan
    obtain ⟨left', hconclude, hshows⟩ := exists_conclude html hcan
    cases h.symm.trans hconclude
    exact ⟨rfl, html, rfl, hshows⟩
  cases result with
  | error words =>
    cases h
    exact .inl ⟨rfl, .of_same rfl rfl⟩
  | ok markup =>
    cases houtput : options.output with
    | none =>
      obtain ⟨html, rfl⟩ := exists_ofString_of_printed houtput (congrArg Prod.fst h)
      exact .inr (hdone html rfl (.inl houtput))
    | some output =>
      cases output with
      | nothing =>
        rw [conclude, houtput] at h
        cases h
      | text path =>
        cases hplace : placeFor workspace.files (Path.literal path) path with
        | error failure =>
          rw [conclude, houtput, outcome_bind, writeMarkup, outcome_bind, outcome_get] at h
          simp only [hplace] at h
          -- Only a refusal of the file system is answered with a status.
          cases failure with
          | file fault =>
            cases h
            exact .inl ⟨rfl, .of_same rfl rfl⟩
          | _ => cases h
        | ok place =>
          obtain ⟨html, rfl⟩ := exists_ofString_of_written houtput hplace (congrArg Prod.fst h)
          cases hrefusal : host.refusal? place html.toUTF8 with
          | none => exact .inr (hdone html rfl (.inr ⟨path, place, houtput, hplace, hrefusal⟩))
          | some refused =>
            obtain ⟨torn, hconclude, hsilent, htorn⟩ := exists_conclude_torn houtput hplace hrefusal
            cases h.symm.trans hconclude
            exact .inl ⟨rfl, .of_torn hsilent htorn⟩

end Writing

/-! ## Runs -/

/-- A run that renders works on the files and outputs that there are, without a log file. -/
theorem outcome_run_renders (host : Host) {arguments : List String} {options : Options}
    (hoptions : Options.ofArguments arguments = .ok options) (h : options.Renders) (input : ByteArray)
    (workspace : Workspace) :
    ∃ start, start.Unlogged ∧ start.files = workspace.files ∧ start.output = workspace.output ∧
      (outcome (run host arguments input) workspace).1 =
        (outcome (markupOf host options input >>= conclude host options) start).1 ∧
      (outcome (run host arguments input) workspace).2.files =
        (outcome (markupOf host options input >>= conclude host options) start).2.files ∧
      (outcome (run host arguments input) workspace).2.output =
        (outcome (markupOf host options input >>= conclude host options) start).2.output := by
  obtain ⟨name, level, hname, hlevel, hhigh⟩ := h.level
  obtain ⟨setup, hlogging, hsetup⟩ : ∃ setup, options.logging = .ok setup ∧ levelNamed setup.level = .ok level := by
    rw [Options.logging, hname]
    exact ⟨_, rfl, hlevel⟩
  obtain ⟨start, hconfigure, hlog, hfiles, houtput⟩ :=
    outcome_configure_above hsetup (Nat.lt_of_lt_of_le (by decide) hhigh) workspace
  have hanswer : outcome (answer host arguments input) workspace =
      outcome (markupOf host options input >>= conclude host options) start := by
    rw [answer, hoptions]
    simp only
    rw [perform_renders host h, hlogging, outcome_bind, outcome_ofExcept]
    simp only
    rw [outcome_bind, hconfigure]
  rw [outcome_run_eq, hanswer]
  exact ⟨start, hlog, hfiles, houtput, rfl, rfl, rfl⟩

theorem Options.SameStyles.refl (options : Options) : options.SameStyles options := ⟨rfl, rfl, rfl⟩

/-- Making markup leaves the files and the standard output as they are. -/
theorem markupOf_keeps (host : Host) (options : Options) (input : ByteArray) {workspace : Workspace}
    (h : workspace.Unlogged) :
    (outcome (markupOf host options input) workspace).2.Unlogged ∧
      (outcome (markupOf host options input) workspace).2.files = workspace.files ∧
      (outcome (markupOf host options input) workspace).2.output = workspace.output := by
  have hagree : Agree [] (markupOf host options input) (markupOf host options input) :=
    agree_markupOf (.refl options) ⟨rfl, .inl rfl⟩
  obtain ⟨notices, hleft⟩ := hagree.reports workspace
  obtain ⟨hlog, hfiles⟩ := h.reportAll notices
  rw [hleft]
  exact ⟨hlog, hfiles, workspace.reportAll_output notices⟩

theorem Shows.congr {options : Options} {workspace left workspace' left' : Workspace} {html : String}
    (h : Shows options workspace left html) (hfiles : workspace.files = workspace'.files)
    (houtput : workspace.output = workspace'.output) (hfiles' : left'.files = left.files)
    (houtput' : left'.output = left.output) : Shows options workspace' left' html := by
  cases h with
  | printed hnone hsame hprinted =>
    exact .printed hnone (hfiles'.trans (hsame.trans hfiles)) (houtput'.trans (houtput ▸ hprinted))
  | written hpath hplace hfile hothers hsame =>
    refine .written hpath (hfiles ▸ hplace) (hfiles' ▸ hfile) ?_ (houtput'.trans (hsame.trans houtput))
    rw [hfiles', ← hfiles]
    exact hothers

theorem Unwritten.congr {host : Host} {options : Options} {workspace left workspace' left' : Workspace}
    (h : Unwritten host options workspace left) (hfiles : workspace.files = workspace'.files)
    (houtput : workspace.output = workspace'.output) (hfiles' : left'.files = left.files)
    (houtput' : left'.output = left.output) : Unwritten host options workspace' left' := by
  refine ⟨houtput'.trans (h.output.trans houtput), fun hroom => hfiles'.trans ((h.files hroom).trans hfiles), ?_⟩
  rcases h.torn with hsame | ⟨hpath, hplace, hrefused, hfile, hothers⟩
  · exact .inl (hfiles'.trans (hsame.trans hfiles))
  · refine .inr (.intro hpath (hfiles ▸ hplace) hrefused (hfiles' ▸ hfile) ?_)
    rw [hfiles', ← hfiles]
    exact hothers

/-- A workspace with a source file. -/
def withSource (content : String) : Workspace where
  files := [(⟨.workspace, ["a.java"]⟩, .file content.toUTF8)]

/-- Markup that takes the place of its own source is what the standard output gets for the same bytes from the standard
input. -/
def AlikeInPlace (host : Host) (content : String) : Prop :=
  ∃ left left' html,
    outcome (run host ["a.java", "-o", "a.java"] ByteArray.empty) (withSource content) = (.ok success, left) ∧
      Tree.lookup? left.files ⟨.workspace, ["a.java"]⟩ = some (.file html.toUTF8) ∧
      outcome (run host [] content.toUTF8) (withSource content) = (.ok success, left') ∧
      left'.files = (withSource content).files ∧ left'.output = onLines html

-- A carriage return tells the channels apart where the line ends of the standard input are left as they are.
example :
    (outcome (run (.roomy false) ["--inline", "a.java"] ByteArray.empty) (withSource "x\r")).2.output ≠
      (outcome (run (.roomy false) ["--inline"] "x\r".toUTF8) (withSource "x\r")).2.output := by
  decide +kernel

/-- A host the disk of which is full. -/
def Host.full : Host where
  unifiesInput := false
  refusal? _ _ := some (0, .noSpace)

-- A source that is to be replaced by its markup is lost where the disk is full.
example :
    (outcome (run .full ["--inline", "a.java", "-o", "a.java"] ByteArray.empty) (withSource "x")).1 = .ok unusable ∧
      Tree.lookup?
        (outcome (run .full ["--inline", "a.java", "-o", "a.java"] ByteArray.empty) (withSource "x")).2.files
        ⟨.workspace, ["a.java"]⟩ = some (.file ByteArray.empty) := by
  decide +kernel

end Command

end CodeMarkup
