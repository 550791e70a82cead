import CodeMarkup.Proofs.Highlight.Blocks
import CodeMarkup.Proofs.Markup.Document
import CodeMarkup.Proofs.Prose.Pass
/-!
# Prose with and without a theme

Converting prose comes to converting its snippets one after the other and putting the texts between them back
(`Passes.convertPieces`). The name of a theme is asked for by blocks of code only, those that are not blank
(`blockCode?`), and what a block gives then is the markup of its code. `Replaced` says so snippet by snippet, each
in the workspace that the ones before it leave, and `convertProse_themed` says that conversion does just this, as
long as no file is in the way (`Clear`).
-/

namespace CodeMarkup

open CodeMarkup.Files CodeMarkup.Json CodeMarkup.Markup CodeMarkup.Prose CodeMarkup.Text CodeMarkup.Theme

/-! ## Markup of code -/

/-- Nothing is in the way of highlighting: the settings can be looked up, if they are asked for the library, and no
number with too many digits is met. -/
structure Clear (library : Option Library) (name : Option CodePoints) (workspace : Workspace) : Prop where
  reach : library = none → Settings.InReach workspace.files
  limits : WithinLimits library name workspace

/-- Code that is not blank has markup exactly when nothing is in the way. -/
theorem exists_highlight_iff {code : String} (h : allBlank code = false) {name : Option CodePoints}
    {library : Option Library} {workspace : Workspace} :
    (∃ markup left, outcome (highlight (some code) (.ofOption name) library) workspace = (.ok markup, left)) ↔
      Clear library name workspace := by
  rw [highlight_chosen h]
  constructor
  · rintro ⟨markup, left, hmarkup⟩
    obtain ⟨chosen, middle, hchosen, hmarkup⟩ := ok_of_bind (congrArg Prod.fst hmarkup)
    have hsettings : library = none →
        Settings.InReach workspace.files ∧ ∀ digits, ¬ Oversized workspace.files Settings.file digits := by
      rintro rfl
      have hchoice := Library.outcome_fromSettings workspace
      rw [chosenLibrary] at hchosen
      rw [hchosen] at hchoice
      refine Settings.loadable_iff.1 (Settings.exists_found_iff.1 ?_)
      cases hfound : Settings.found workspace.files with
      | ok settings => exact ⟨settings, rfl⟩
      | error failure =>
        rw [hfound] at hchoice
        cases hchoice
    refine ⟨fun hnone => (hsettings hnone).1, fun hnone => (hsettings hnone).2, ?_⟩
    intro other middle' file digits hother hfile ho
    cases hchosen.symm.trans hother
    rw [outcome_highlight h, load_oversized hfile ho] at hmarkup
    cases hmarkup
  · intro hclear
    obtain ⟨chosen, left, hchosen, hload⟩ := exists_loaded hclear.reach hclear.limits
    have hmarkup := outcome_highlight h (.ofOption name) chosen .builtIn left
    rw [hload] at hmarkup
    rw [outcome_bind, hchosen]
    exact ⟨_, exists_left hmarkup⟩

/-! ## Blocks -/

/-- The code between the fences of a snippet, if there is any but white space. -/
def blockCode? (snippet : Snippet) : Option String :=
  (fencedCode? (.snippet snippet)).filter fun code => !allBlank code

theorem blockCode?_eq_some {snippet : Snippet} {code : String} (h : blockCode? snippet = some code) :
    ∃ inside, snippet = .fenced inside ∧ code = String.ofList (dropLineEnd inside) ∧ allBlank code = false := by
  obtain ⟨hcode, hblank⟩ := Option.filter_eq_some_iff.1 h
  rw [Bool.not_eq_true'] at hblank
  cases snippet with
  | fenced inside =>
    cases hcode
    exact ⟨inside, rfl, rfl, hblank⟩
  | _ => cases hcode

theorem allBlank_of_blockCode?_eq_none {inside : List Char} (h : blockCode? (.fenced inside) = none) :
    allBlank (String.ofList (dropLineEnd inside)) = true := by
  rw [blockCode?, Option.filter_eq_none_iff] at h
  simpa using h _ rfl

theorem ofOption_ne_missing (name : CodePoints) : Name.ofOption (some name) ≠ .missing := by
  rw [Name.ofOption, Name.ofText]
  split <;> rintro ⟨⟩

/-- The text of a block that is not highlighted is its code. -/
theorem text_of_converted {snippet : Snippet} {code : String} (h : blockCode? snippet = some code) :
    unescape (withoutTags (converted snippet)) = code := by
  obtain ⟨inside, rfl, rfl, -⟩ := blockCode?_eq_some h
  have helement := @withoutTags_element "<pre style=\"" "</pre>" blockStyle _ _ (by decide) (by decide)
    (by decide +kernel) (withoutTags_escape (CodePoints.ofChars (dropLineEnd inside))) []
  have htags : withoutTags (converted (.fenced inside)) = escape (CodePoints.ofChars (dropLineEnd inside)) := by
    simpa [converted, preElement, tagEnd] using helement
  rw [htags, unescape_escape_self, CodePoints.ofString_ofList]

section Snippets

variable {library : Option Library} {name : CodePoints}

/-- What stands for a snippet where a theme is named. -/
def themed (name : CodePoints) (library : Option Library) (snippet : Snippet) : Attempt CodePoints :=
  convertPiece (highlightBlock (.ofOption (some name)) library) (.snippet snippet)

theorem outcome_themed_kept {snippet : Snippet} (h : blockCode? snippet = none) (workspace : Workspace) :
    outcome (themed name library snippet) workspace = (.ok (converted snippet), workspace) := by
  cases snippet with
  | fenced inside =>
    have hblank := allBlank_of_blockCode?_eq_none h
    have hnothing := highlight_blank (fun text htext => Option.some.inj htext ▸ hblank) (.ofOption (some name))
      library .builtIn
    rw [themed, convertPiece, highlightBlock, if_neg (ofOption_ne_missing name), hnothing, pure_bind, if_pos rfl,
      outcome_pure, converted, blockElement, CodePoints.ofString_ofList]
  | _ => rfl

theorem outcome_themed_block {snippet : Snippet} {code : String} (h : blockCode? snippet = some code)
    (workspace : Workspace) :
    outcome (themed name library snippet) workspace =
      outcome (highlight (some code) (.ofOption (some name)) library) workspace := by
  obtain ⟨inside, rfl, rfl, hblank⟩ := blockCode?_eq_some h
  rw [themed, convertPiece, highlightBlock, if_neg (ofOption_ne_missing name), outcome_bind]
  cases hmarkup : outcome (highlight (some (String.ofList (dropLineEnd inside))) (.ofOption (some name)) library)
      workspace with
  | mk result left =>
    cases result with
    | error failure => rfl
    | ok markup =>
      simp only [(text_of_highlight hblank (congrArg Prod.fst hmarkup)).1, if_false]
      rfl

/-! ## Snippets one after the other -/

/-- Snippets are replaced one after the other, each in the workspace that the ones before it leave. Blocks of code
that are not blank give way to their markup, and the text of that is the code, as it is without a theme. Any other
snippet gives way to what stands for it without a theme. -/
inductive Replaced (name : CodePoints) (library : Option Library) :
    Workspace → List Snippet → List CodePoints → Workspace → Prop
  | none {workspace : Workspace} : Replaced name library workspace [] [] workspace
  | kept {workspace left : Workspace} {snippet : Snippet} {rest : List Snippet} {images : List CodePoints}
      (h : blockCode? snippet = none) (hrest : Replaced name library workspace rest images left) :
      Replaced name library workspace (snippet :: rest) (converted snippet :: images) left
  | block {workspace middle left : Workspace} {snippet : Snippet} {rest : List Snippet} {images : List CodePoints}
      {code : String} {markup : CodePoints} (h : blockCode? snippet = some code)
      (hmarkup : outcome (highlight (some code) (.ofOption (some name)) library) workspace = (.ok markup, middle))
      (htext : unescape (withoutTags markup) = code) (hplain : unescape (withoutTags (converted snippet)) = code)
      (hrest : Replaced name library middle rest images left) :
      Replaced name library workspace (snippet :: rest) (markup :: images) left

/-- Replacing the snippets is what converting them gives. -/
theorem outcome_mapM_themed_iff {snippets : List Snippet} {images : List CodePoints} {workspace left : Workspace} :
    outcome (snippets.mapM (themed name library)) workspace = (.ok images, left) ↔
      Replaced name library workspace snippets images left := by
  induction snippets generalizing images workspace with
  | nil =>
    rw [List.mapM_nil, outcome_pure]
    constructor
    · intro h
      cases h
      exact .none
    · rintro ⟨⟩
      rfl
  | cons snippet rest ih =>
    rw [outcome_mapM_cons_iff]
    constructor
    · rintro ⟨image, middle, others, himage, hrest, rfl⟩
      cases hcode : blockCode? snippet with
      | none =>
        rw [outcome_themed_kept hcode] at himage
        cases himage
        exact .kept hcode (ih.1 hrest)
      | some code =>
        rw [outcome_themed_block hcode] at himage
        obtain ⟨-, -, -, hblank⟩ := blockCode?_eq_some hcode
        have htext := (text_of_highlight hblank (congrArg Prod.fst himage)).2
        exact .block hcode himage htext (text_of_converted hcode) (ih.1 hrest)
    · intro h
      cases h with
      | kept hcode hrest => exact ⟨_, _, _, outcome_themed_kept hcode workspace, ih.2 hrest, rfl⟩
      | block hcode hmarkup _ _ hrest =>
        exact ⟨_, _, _, (outcome_themed_block hcode workspace).trans hmarkup, ih.2 hrest, rfl⟩

theorem replaced_cons_iff {snippet : Snippet} {rest : List Snippet} {images : List CodePoints}
    {workspace left : Workspace} :
    Replaced name library workspace (snippet :: rest) images left ↔
      ∃ image middle others, outcome (themed name library snippet) workspace = (.ok image, middle) ∧
        Replaced name library middle rest others left ∧ images = image :: others := by
  simp only [← outcome_mapM_themed_iff, outcome_mapM_cons_iff]

/-- What comes before a block leaves nothing in its way, if the block is replaced. -/
theorem Replaced.clear {before after : List Snippet} {snippet : Snippet} {code : String}
    {images others : List CodePoints} {workspace middle left : Workspace} (hcode : blockCode? snippet = some code)
    (h : Replaced name library workspace (before ++ snippet :: after) images left)
    (hbefore : Replaced name library workspace before others middle) : Clear library (some name) middle := by
  induction before generalizing images others workspace with
  | nil =>
    cases hbefore
    obtain ⟨image, next, -, himage, -⟩ := replaced_cons_iff.1 h
    obtain ⟨-, -, -, hblank⟩ := blockCode?_eq_some hcode
    rw [outcome_themed_block hcode] at himage
    exact (exists_highlight_iff hblank).1 ⟨image, next, himage⟩
  | cons first before ih =>
    obtain ⟨_, _, _, hfirst, hrest, -⟩ := replaced_cons_iff.1 h
    obtain ⟨_, _, _, hfirst', hbefore, -⟩ := replaced_cons_iff.1 hbefore
    -- The first snippet leaves one workspace.
    cases hfirst.symm.trans hfirst'
    exact ih hrest hbefore

theorem exists_replaced {snippets : List Snippet} {workspace : Workspace}
    (h : ∀ before snippet after code images left, snippets = before ++ snippet :: after →
      blockCode? snippet = some code → Replaced name library workspace before images left →
        Clear library (some name) left) :
    ∃ images left, Replaced name library workspace snippets images left := by
  induction snippets generalizing workspace with
  | nil => exact ⟨[], workspace, .none⟩
  | cons first rest ih =>
    obtain ⟨image, middle, himage⟩ :
        ∃ image middle, outcome (themed name library first) workspace = (.ok image, middle) := by
      cases hcode : blockCode? first with
      | none => exact ⟨_, _, outcome_themed_kept hcode workspace⟩
      | some code =>
        obtain ⟨-, -, -, hblank⟩ := blockCode?_eq_some hcode
        rw [outcome_themed_block hcode]
        exact (exists_highlight_iff hblank).2 (h [] first rest code [] workspace rfl hcode .none)
    obtain ⟨images, left, hrest⟩ := @ih middle fun before snippet after code images left he hcode hbefore =>
      h (first :: before) snippet after code (image :: images) left (by rw [he, List.cons_append]) hcode
        (replaced_cons_iff.2 ⟨image, middle, images, himage, hbefore, rfl⟩)
    exact ⟨image :: images, left, replaced_cons_iff.2 ⟨image, middle, images, himage, hrest, rfl⟩⟩

/-- All snippets can be replaced exactly when nothing is in the way of any block, as the ones before it leave the
workspace. -/
theorem exists_replaced_iff {snippets : List Snippet} {workspace : Workspace} :
    (∃ images left, Replaced name library workspace snippets images left) ↔
      ∀ before snippet after code images left, snippets = before ++ snippet :: after →
        blockCode? snippet = some code → Replaced name library workspace before images left →
          Clear library (some name) left := by
  refine ⟨?_, exists_replaced⟩
  rintro ⟨images, left, h⟩ before snippet after code others middle rfl hcode hbefore
  exact h.clear hcode hbefore

end Snippets

/-! ## Prose -/

namespace Prose

/-- The texts between snippets, with images in the places of the snippets. -/
def assembled (parts : List (List Char × Snippet)) (images : List CodePoints) (last : List Char) : CodePoints :=
  ((parts.zip images).flatMap fun entry => CodePoints.ofChars entry.1.1 ++ entry.2) ++ CodePoints.ofChars last

theorem convertPieces_plain {m : Type → Type} [Monad m] [LawfulMonad m] (block : String → m CodePoints)
    (text : List Char) (rest : List Piece) :
    convertPieces block (text.map .plain ++ rest) =
      (CodePoints.ofChars text ++ ·) <$> convertPieces block rest := by
  induction text with
  | nil => simp [CodePoints.ofChars]
  | cons c text ih =>
    rw [List.map_cons, List.cons_append, convertPieces_cons, ih, convertPiece]
    simp [CodePoints.ofChars]

/-- Conversion is the conversion of the snippets one after the other. -/
theorem Passes.convertPieces {m : Type → Type} [Monad m] [LawfulMonad m] (block : String → m CodePoints)
    {s last : List Char} {parts : List (List Char × Snippet)} (h : Passes s parts last) :
    convertPieces block (pieces s) =
      (assembled parts · last) <$> (parts.map (·.2)).mapM fun snippet => convertPiece block (.snippet snippet) := by
  induction h with
  | @last text hfree =>
    have hplain := @pieces_free text [] (by rwa [List.append_nil])
    rw [List.append_nil] at hplain
    rw [hplain, convertPieces_plain, pieces, convertPieces_nil]
    simp [assembled]
  | next hfree hat hrest ih =>
    rw [pieces_free hfree, pieces_at hat, convertPieces_plain, convertPieces_cons, ih, List.map_cons, List.mapM_cons]
    simp [assembled]

/-- Without a theme every snippet is converted by itself. -/
theorem assembled_converted (parts : List (List Char × Snippet)) (last : List Char) :
    assembled parts (parts.map fun part => converted part.2) last =
      (parts.flatMap fun part => CodePoints.ofChars part.1 ++ converted part.2) ++ CodePoints.ofChars last := by
  induction parts with
  | nil => rfl
  | cons part parts ih =>
    rw [assembled] at ih ⊢
    rw [List.map_cons, List.zip_cons_cons, List.flatMap_cons, List.flatMap_cons, List.append_assoc, ih]
    simp only [List.append_assoc]

end Prose

/-- Conversion with the name of a theme gives what is assembled when the snippets are replaced. -/
theorem outcome_convertProse_themed {prose : String} {parts : List (List Char × Snippet)} {last : List Char}
    (h : Passes prose.toList parts last) (name : CodePoints) (library : Option Library)
    {workspace left : Workspace} {markup : CodePoints} :
    outcome (convertProse prose (.ofOption (some name)) library) workspace = (.ok markup, left) ↔
      ∃ images, Replaced name library workspace (parts.map (·.2)) images left ∧
        markup = assembled parts images last := by
  have hsnippets : (fun snippet => convertPiece (highlightBlock (.ofOption (some name)) library) (.snippet snippet)) =
      themed name library := rfl
  rw [convertProse, convert, h.convertPieces, hsnippets, map_eq_pure_bind, outcome_bind_eq_ok_iff]
  constructor
  · rintro ⟨images, middle, himages, hmarkup⟩
    cases hmarkup
    exact ⟨images, outcome_mapM_themed_iff.1 himages, rfl⟩
  · rintro ⟨images, himages, rfl⟩
    exact ⟨images, left, outcome_mapM_themed_iff.2 himages, rfl⟩

/-- Prose is taken apart in one way, whether a theme is named or not. The texts are copied either way. Without a
name every snippet is converted by itself, and with one only the blocks of code that are not blank give way to
something else, which is their markup, with the same text. There is a result exactly when nothing is in the way of
any of these blocks, in the workspace that the snippets before it leave. -/
theorem convertProse_themed (prose : String) (name : CodePoints) (library : Option Library) (workspace : Workspace) :
    ∃ parts last, Passes prose.toList parts last ∧
      outcome (convertProse prose .missing library) workspace =
        (.ok (assembled parts (parts.map fun part => converted part.2) last), workspace) ∧
      (∀ markup left,
        outcome (convertProse prose (.ofOption (some name)) library) workspace = (.ok markup, left) ↔
          ∃ images, Replaced name library workspace (parts.map (·.2)) images left ∧
            markup = assembled parts images last) ∧
      ((∃ markup left,
        outcome (convertProse prose (.ofOption (some name)) library) workspace = (.ok markup, left)) ↔
          ∀ before snippet after code images left, parts.map (·.2) = before ++ snippet :: after →
            blockCode? snippet = some code → Replaced name library workspace before images left →
              Clear library (some name) left) := by
  obtain ⟨parts, last, h⟩ := exists_passes prose.toList
  have hplain := h.plain
  rw [String.ofList_toList, ← assembled_converted] at hplain
  refine ⟨parts, last, h, ?_, fun markup left => outcome_convertProse_themed h name library, ?_⟩
  · rw [outcome_convertProse, hplain]
  · rw [← exists_replaced_iff]
    constructor
    · rintro ⟨markup, left, hmarkup⟩
      obtain ⟨images, himages, -⟩ := (outcome_convertProse_themed h name library).1 hmarkup
      exact ⟨images, left, himages⟩
    · rintro ⟨images, left, himages⟩
      exact ⟨_, left, (outcome_convertProse_themed h name library).2 ⟨images, himages, rfl⟩⟩

/-- The theme file found for a block holds a number of 4301 digits, and the prose is not converted. -/
theorem convertProse_long_number :
    (outcome (convertProse "```int x;```" (.ofOption (some "b")) (some ⟨[Path.ofText "t"]⟩))
      (withThemeFile (memberText (List.replicate 4301 '7')))).1 = .error (.tooManyDigits digitLimit 4301) := by
  have hcode : blockCode? (.fenced "int x;".toList) = some "int x;" := by decide +kernel
  have hpieces : pieces "```int x;```".toList = [.snippet (.fenced "int x;".toList)] := by
    have hat : (Snippet.fenced "int x;".toList).At ((Snippet.fenced "int x;".toList).written ++ []) :=
      snippet?_eq_some_iff.1 (by decide +kernel)
    have hwritten : "```int x;```".toList = (Snippet.fenced "int x;".toList).written ++ [] := by decide +kernel
    rw [hwritten, pieces_at hat, pieces]
  -- The one block of the prose fails where its code does.
  have hblock : ∀ {workspace : Workspace} {failure : Failure},
      (outcome (highlight (some "int x;") (.ofOption (some "b")) (some ⟨[Path.ofText "t"]⟩)) workspace).1 =
        .error failure →
      (outcome (convertProse "```int x;```" (.ofOption (some "b")) (some ⟨[Path.ofText "t"]⟩)) workspace).1 =
        .error failure := by
    intro workspace failure hfails
    obtain ⟨left, hfails⟩ := exists_left hfails
    have hthemed := @outcome_themed_block (some ⟨[Path.ofText "t"]⟩) "b" _ _ hcode workspace
    rw [themed, hfails] at hthemed
    rw [convertProse, convert, hpieces, convertPieces_cons, outcome_bind, hthemed]
  have hr := read_sevens (by decide : digitLimit < 4301)
  refine hblock ?_
  rw [outcome_highlight (by decide), load_oversized (find_withThemeFile _) (oversized_withThemeFile.2 hr)]
  rfl

end CodeMarkup
