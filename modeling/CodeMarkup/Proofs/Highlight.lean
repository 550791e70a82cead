import CodeMarkup.Highlight
import CodeMarkup.Proofs.Json.WholeNumber
import CodeMarkup.Proofs.Markup.Reading
import CodeMarkup.Proofs.Theme.Loading
/-!
# Highlighted source

`highlight_keeps_source`: whatever the theme is, the source can be read back from its markup. There is no
markup in one case, and `highlight_long_number` is an instance of it: where the theme file that is found
holds a whole number with more digits than are read.
-/

namespace CodeMarkup

open CodeMarkup.Files CodeMarkup.Json CodeMarkup.Markup CodeMarkup.Palette CodeMarkup.Text CodeMarkup.Theme

/-- Highlighting gives the tokens in the styles of the theme that is loaded, and fails where loading it
does. -/
theorem outcome_highlight {source : String} (h : allBlank source = false) (name : Name) (library : Library)
    (registry : Registry) (workspace : Workspace) :
    (outcome (highlight (some source) name (some library) registry) workspace).1 =
      (outcome (library.load name) workspace).1.map fun theme =>
        render ⟨some (registry.lookup? name.text?), theme⟩ (Token.classify source) := by
  simp only [highlight, h, Bool.false_eq_true, if_false]
  rw [pure_bind, outcome_bind]
  generalize outcome (library.load name) workspace = loaded
  obtain ⟨failure | theme, left⟩ := loaded
  · rfl
  · simp only
    cases unknown? name theme registry <;> rfl

/-- The markup of a source is read back as the source. -/
theorem unescape_render_classify (resolver : Style.Resolver) (source : String) :
    unescape (withoutTags (render resolver (Token.classify source))) = source := by
  rw [unescape_render, Token.classify, Token.charsOf_ofChars, CodePoints.ofString]

/-! ## A theme in one file -/

/-- A workspace with a file for a theme named `b` in the directory `t`. -/
def withThemeFile (text : String) : Workspace where
  files := [(⟨.workspace, ["t"]⟩, .directory), (⟨.workspace, ["t", "b.json"]⟩, .file text.toUTF8)]

theorem find_withThemeFile (text : String) :
    (outcome (Library.find ⟨[Path.ofText "t"]⟩ (.ofOption (some "b"))) (withThemeFile text)).1 =
      .ok (some ⟨.here, ["t", "b.json"]⟩) := rfl

theorem oversized_withThemeFile {text : String} {digits : Nat} :
    Oversized (withThemeFile text).files ⟨.here, ["t", "b.json"]⟩ digits ↔
      read text = .error (.oversized digits) := by
  have hread : Tree.read (withThemeFile text).files ⟨.here, ["t", "b.json"]⟩ = .ok text.toUTF8 := rfl
  constructor
  · rintro ⟨content, text', hc, ht, hr⟩
    cases hread.symm.trans hc
    cases (decodeUtf8_toUTF8 text).symm.trans ht
    exact hr
  · exact fun hr => ⟨text.toUTF8, text, hread, decodeUtf8_toUTF8 text, hr⟩

/-! ## Keeping the source -/

/-- Highlighting keeps the source, unless the theme file that is found holds a whole number with more
digits than are read; then it fails. -/
theorem highlight_keeps_source {source : String} (h : allBlank source = false) (name : Option CodePoints)
    (library : Library) (registry : Registry) (workspace : Workspace) :
    ((∃ markup, (outcome (highlight (some source) (.ofOption name) (some library) registry) workspace).1 =
        .ok markup ∧ unescape (withoutTags markup) = source) ↔
      ∀ file digits, library.Finds (.ofOption name) workspace file →
        ¬ Oversized workspace.files file digits) ∧
    ∀ file digits, library.Finds (.ofOption name) workspace file → Oversized workspace.files file digits →
      (outcome (highlight (some source) (.ofOption name) (some library) registry) workspace).1 =
        .error (.tooManyDigits digitLimit digits) := by
  have hfails : ∀ file digits, library.Finds (.ofOption name) workspace file →
      Oversized workspace.files file digits →
      (outcome (highlight (some source) (.ofOption name) (some library) registry) workspace).1 =
        .error (.tooManyDigits digitLimit digits) := by
    intro file digits hf ho
    rw [outcome_highlight h, load_oversized hf ho]
    rfl
  refine ⟨⟨?_, fun hn => ?_⟩, hfails⟩
  · rintro ⟨markup, hm, -⟩ file digits hf ho
    rw [hfails file digits hf ho] at hm
    cases hm
  · obtain ⟨theme, ht⟩ := load_ofOption hn
    have hm := outcome_highlight h (.ofOption name) library registry workspace
    rw [ht] at hm
    exact ⟨_, hm, unescape_render_classify _ source⟩

/-- The text of a theme with markup in its styles. -/
def hostileText : String :=
  "\x7b\"background\":\"\\\"></pre><b>\",\"styles\":\x7b\"keyword\":\"</span>&lt;\"\x7d\x7d"

/-- Markup in a theme makes no tags. -/
theorem highlight_keeps_source_hostile :
    allBlank "if (a < b) </span> &lt;" = false ∧
      ∃ markup, (outcome (highlight (some "if (a < b) </span> &lt;") (.ofOption (some "b"))
          (some ⟨[Path.ofText "t"]⟩)) (withThemeFile hostileText)).1 = .ok markup ∧
        unescape (withoutTags markup) = "if (a < b) </span> &lt;" := by
  have h : allBlank "if (a < b) </span> &lt;" = false := by decide
  refine ⟨h, (highlight_keeps_source h (some "b") _ _ _).1.2 fun file digits hf ho => ?_⟩
  cases (find_withThemeFile _).symm.trans hf
  have hok : (Json.read hostileText).toOption.isSome = true := by decide +kernel
  rw [oversized_withThemeFile.1 ho] at hok
  cases hok

/-- The theme file found holds a number of 4301 digits, and there is no markup. -/
theorem highlight_long_number :
    allBlank "int x;" = false ∧
      (outcome (highlight (some "int x;") (.ofOption (some "b")) (some ⟨[Path.ofText "t"]⟩))
        (withThemeFile (memberText (List.replicate 4301 '7')))).1 =
          .error (.tooManyDigits digitLimit 4301) := by
  have h : allBlank "int x;" = false := by decide
  refine ⟨h, ?_⟩
  have hr := read_sevens (by decide : digitLimit < 4301)
  rw [outcome_highlight h, load_oversized (find_withThemeFile _) (oversized_withThemeFile.2 hr)]
  rfl

end CodeMarkup
