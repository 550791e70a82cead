import CodeMarkup.Proofs.Highlight
import CodeMarkup.Proofs.Settings.Runs
import CodeMarkup.Proofs.Theme.Search
/-!
# What highlighting falls back to

Highlighting takes the theme from the file that is found for its name. Whatever is wrong on the way there, there is
no theme then (`load_eq_ok_iff`), and so it always gives markup: in the styles of the theme if the file describes
one, and else in those of the palette alone (`highlight_degrades`). One refusal is not taken care of: that of the
directory of the settings, when they are asked for the library (`highlight_out_of_reach`).
-/

namespace CodeMarkup

open CodeMarkup.Files CodeMarkup.Json CodeMarkup.Markup CodeMarkup.Palette CodeMarkup.Text CodeMarkup.Theme
open CodeMarkup.Token (classify)

/-! ## Themes that a file describes -/

namespace Theme

theorem Name.isTyped_ofOption (name : Option CodePoints) : (Name.ofOption name).isTyped = true := by
  cases name with
  | none => rfl
  | some s =>
    rw [ofOption, ofText]
    split <;> rfl

/-- A file holds the text of an object with these members. -/
def Describes (files : Tree) (file : Path) (members : Keyed CodePoints Value) : Prop :=
  ∃ content text, Tree.read files file = .ok content ∧ decodeUtf8 content = .ok text ∧
    read text = .ok (.obj members)

theorem contentOf_eq_obj_iff {files : Tree} {file : Path} {members : Keyed CodePoints Value} :
    contentOf files file = .ok (.ok (.obj members)) ↔ Describes files file members := by
  rw [contentOf]
  constructor
  · intro h
    split at h
    · cases h
    · next content hc =>
      split at h
      · cases h
      · next text ht =>
        split at h
        · cases h
        · cases h
        · next v hv =>
          cases h
          exact ⟨content, text, hc, ht, hv⟩
  · rintro ⟨content, text, hc, ht, hv⟩
    simp only [hc, ht, hv]

/-- The theme that a library has for a name, if it has one. -/
def Library.theme? (library : Library) (files : Tree) (name : Name) : Option Theme :=
  (library.fileFor? files name).bind fun file => (contentOf files file).toOption.bind themeOf

/-- It is the one that the file describes which is found for the name. -/
theorem Library.theme?_eq_some_iff {library : Library} {files : Tree} {name : Name} {theme : Theme} :
    library.theme? files name = some theme ↔
      ∃ file members, library.fileFor? files name = some file ∧ Describes files file members ∧
        theme = ofMembers members := by
  simp only [theme?, Option.bind_eq_some_iff, ← contentOf_eq_obj_iff]
  constructor
  · rintro ⟨file, hfile, content, hcontent, htheme⟩
    cases hc : contentOf files file with
    | error failure => rw [hc] at hcontent; cases hcontent
    | ok other =>
      rw [hc] at hcontent
      cases hcontent
      rcases content with notice | v
      · cases htheme
      · cases v with
        | obj members => exact ⟨file, members, hfile, hc, (Option.some.inj htheme).symm⟩
        | _ => cases htheme
  · rintro ⟨file, members, hfile, hc, rfl⟩
    exact ⟨file, hfile, .ok (.obj members), by rw [hc]; rfl, rfl⟩

/-- Loading fails for a name that is no text, and for a number with too many digits in the file that is found.
Otherwise it gives the theme that the library has. -/
theorem load_eq_ok_iff {library : Library} {name : Name} {workspace : Workspace} {theme : Option Theme} :
    (outcome (library.load name) workspace).1 = .ok theme ↔
      (name.isTyped = true ∧
        ∀ file digits, library.fileFor? workspace.files name = some file → ¬ Oversized workspace.files file digits) ∧
      theme = library.theme? workspace.files name := by
  by_cases hname : name.isTyped = true
  · rw [Library.outcome_load library hname, Library.theme?]
    cases hfile : library.fileFor? workspace.files name with
    | none => simp [hname, eq_comm]
    | some file =>
      simp only [Option.bind_some]
      cases hcontent : contentOf workspace.files file with
      | error failure =>
        obtain ⟨digits, ho, -⟩ := contentOf_eq_error.1 hcontent
        exact ⟨nofun, fun h => absurd ho (h.1.2 file digits rfl)⟩
      | ok content =>
        refine ⟨fun h => ⟨⟨hname, ?_⟩, (Except.ok.inj h).symm⟩, fun h => congrArg Except.ok h.2.symm⟩
        rintro _ digits ⟨rfl⟩ ho
        cases hcontent.symm.trans (contentOf_eq_error.2 ⟨digits, ho, rfl⟩)
  · refine ⟨fun h => ?_, fun h => absurd h.1.1 hname⟩
    obtain ⟨kind, rfl⟩ := Name.exists_illTyped hname
    cases h

/-! ## The library -/

namespace Library

/-- The library that settings ask for. -/
def ofSettings (settings : Settings) : Library :=
  match settings.value "themes_dir" .null with
  | .str directory => withBundled (if allBlank directory then none else some directory)
  | _ => withBundled none

theorem outcome_fromSettings (workspace : Workspace) :
    (outcome fromSettings workspace).1 = (Settings.found workspace.files).map ofSettings := by
  have hlookup := Settings.outcome_lookup "themes_dir" .null workspace
  rw [fromSettings, outcome_bind]
  generalize outcome (Settings.lookup "themes_dir" .null) workspace = result at hlookup ⊢
  obtain ⟨result, left⟩ := result
  cases hfound : Settings.found workspace.files with
  | error failure =>
    rw [hfound] at hlookup
    cases hlookup
    rfl
  | ok settings =>
    rw [hfound] at hlookup
    cases hlookup
    simp only [Except.map, ofSettings]
    cases settings.value "themes_dir" .null <;> rfl

end Library

end Theme

/-- The library that themes are taken from: the one that is given, or the one that the settings ask for. -/
def chosenLibrary : Option Library → Attempt Library
  | some library => pure library
  | none => Library.fromSettings

theorem exists_chosenLibrary {library : Option Library} {workspace : Workspace}
    (hreach : library = none → Settings.InReach workspace.files)
    (hlimits : library = none → ∀ digits, ¬ Oversized workspace.files Settings.file digits) :
    ∃ chosen left, outcome (chosenLibrary library) workspace = (.ok chosen, left) := by
  cases library with
  | some library => exact ⟨library, workspace, rfl⟩
  | none =>
    obtain ⟨settings, hfound⟩ :=
      Settings.exists_found_iff.2 (Settings.loadable_iff.2 ⟨hreach rfl, hlimits rfl⟩)
    have hchosen := Library.outcome_fromSettings workspace
    rw [hfound] at hchosen
    exact ⟨Library.ofSettings settings, _, Prod.ext hchosen rfl⟩

/-! ## Highlighting -/

theorem highlight_chosen {text : String} (h : allBlank text = false) (name : Name) (library : Option Library)
    (registry : Registry) :
    highlight (some text) name library registry =
      chosenLibrary library >>= fun chosen => highlight (some text) name (some chosen) registry := by
  cases library <;> simp only [highlight, chosenLibrary, h, Bool.false_eq_true, if_false, pure_bind]

theorem highlight_blank {source : Option String} (h : ∀ text, source = some text → allBlank text = true)
    (name : Name) (library : Option Library) (registry : Registry) :
    highlight source name library registry = pure [] := by
  cases source with
  | none => rfl
  | some text => simp only [highlight, h text rfl, if_true]

theorem render_ne_nil (resolver : Style.Resolver) (tokens : List Token) : render resolver tokens ≠ [] := by
  intro h
  simp only [render, preElement, List.append_assoc, List.append_eq_nil_iff] at h
  exact absurd h.1 (by decide)

/-- Markup of code is not empty, so it is not taken for that of a blank block, and its text is the code. -/
theorem text_of_highlight {code : String} (h : allBlank code = false) {name : Name} {library : Option Library}
    {workspace : Workspace} {markup : CodePoints}
    (hmarkup : (outcome (highlight (some code) name library) workspace).1 = .ok markup) :
    markup ≠ [] ∧ unescape (withoutTags markup) = code := by
  rw [highlight_chosen h] at hmarkup
  obtain ⟨chosen, left, -, hmarkup⟩ := ok_of_bind hmarkup
  rw [outcome_highlight h] at hmarkup
  cases hload : (outcome (chosen.load name) left).1 with
  | error failure =>
    rw [hload] at hmarkup
    cases hmarkup
  | ok theme =>
    rw [hload] at hmarkup
    cases hmarkup
    exact ⟨render_ne_nil _ _, unescape_render_classify _ code⟩

theorem lookup?_text?_ofOption (registry : Registry) (name : Option CodePoints) :
    registry.lookup? (Name.ofOption name).text? = registry.lookup? name := by
  cases name with
  | none => rfl
  | some s =>
    rw [Name.ofOption, Name.ofText]
    split
    · next hs => rw [hs]; rfl
    · rfl

/-- No number with too many digits is in the way: not in the settings, if they are asked for the library, and
not in the theme file that is found in it. -/
structure WithinLimits (library : Option Library) (name : Option CodePoints) (workspace : Workspace) : Prop where
  settings : library = none → ∀ digits, ¬ Oversized workspace.files Settings.file digits
  theme : ∀ chosen left file digits, outcome (chosenLibrary library) workspace = (.ok chosen, left) →
    chosen.Finds (.ofOption name) left file → ¬ Oversized left.files file digits

/-- There is a library, and it loads the theme that it has. The theme is looked for in the files as the choice of
the library left them. -/
theorem exists_loaded {library : Option Library} {name : Option CodePoints} {workspace : Workspace}
    (hreach : library = none → Settings.InReach workspace.files) (h : WithinLimits library name workspace) :
    ∃ chosen left, outcome (chosenLibrary library) workspace = (.ok chosen, left) ∧
      (outcome (chosen.load (.ofOption name)) left).1 = .ok (chosen.theme? left.files (.ofOption name)) := by
  obtain ⟨chosen, left, hchosen⟩ := exists_chosenLibrary hreach h.settings
  exact ⟨chosen, left, hchosen, load_eq_ok_iff.2 ⟨⟨Name.isTyped_ofOption name,
    fun file digits hfile => h.theme chosen left file digits hchosen (Library.finds_iff.2 hfile)⟩, rfl⟩⟩

/-- When the settings file may not be looked up, highlighting fails for want of a library, unless the source is
blank. -/
theorem highlight_out_of_reach {workspace : Workspace} {cause : Cause}
    (h : Tree.has workspace.files Settings.file = .error cause) {text : String} (hblank : allBlank text = false)
    (name : Name) (registry : Registry) :
    (outcome (highlight (some text) name none registry) workspace).1 = .error (Settings.refusal cause) := by
  have hfound : Settings.found workspace.files = .error (Settings.refusal cause) :=
    Settings.found_eq_error.2 (.refused h)
  have hchosen := Library.outcome_fromSettings workspace
  rw [hfound] at hchosen
  obtain ⟨left, hchosen⟩ := exists_left hchosen
  rw [highlight_chosen hblank, outcome_bind, chosenLibrary, hchosen]
  rfl

/-- The text of settings that ask for themes in the directory `t`. -/
def directoryText : String := "\x7b\"themes_dir\":\"t\"\x7d"

/-- A workspace with a file for a theme named `b`, and settings that ask for its directory. -/
def withThemeAsked (text : String) : Workspace where
  files := (⟨.workspace, ["config"]⟩, .directory) ::
    (⟨.workspace, ["config", "settings.json"]⟩, .file directoryText.toUTF8) :: (withThemeFile text).files

theorem outcome_chosenLibrary_asked (text : String) :
    outcome (chosenLibrary none) (withThemeAsked text) =
      (.ok ⟨[Path.ofText "t", Path.bundledThemes]⟩, withThemeAsked text) := rfl

end CodeMarkup
