import CodeMarkup.Proofs.Highlight.Fallback
import CodeMarkup.Proofs.Markup.Encoding
/-!
# Code and prose as markup that can be encoded

When the markup of code can be made and encoded (`delivers_highlight_iff`): its theme has to be named by a text,
the file of the theme must not hold a number with too many digits, and the styles must be free of surrogates.
Prose can be converted when all the code in it can that is highlighted (`delivers_convertProse_iff`). Nothing
but reports is left behind, so that every block finds the same files.
-/

namespace CodeMarkup

open CodeMarkup.Files CodeMarkup.Json CodeMarkup.Log CodeMarkup.Markup CodeMarkup.Palette CodeMarkup.Prose
open CodeMarkup.Style CodeMarkup.Text CodeMarkup.Theme
open CodeMarkup.Token (classify)

/-! ## What is left behind -/

theorem search_reports (name : CodePoints) (directories : List Path) (workspace : Workspace) :
    ∃ notices, (effect (Library.search name directories) workspace).2 = workspace.reportAll notices := by
  induction directories with
  | nil => exact ⟨[], rfl⟩
  | cons directory rest ih =>
    rw [Library.search, effect_bind, effect_get]
    simp only
    cases Tree.isFile workspace.files (directory.child (name ++ suffix)) with
    | error cause => exact ⟨[.failedLookup name directory], rfl⟩
    | ok found =>
      cases found with
      | true => exact ⟨[], rfl⟩
      | false => exact ih

theorem findNamed_reports (library : Library) (name : CodePoints) (workspace : Workspace) :
    ∃ notices, (effect (library.findNamed name) workspace).2 = workspace.reportAll notices := by
  rw [Library.findNamed]
  by_cases hn : strip name = []
  · simp only [hn, if_true]
    exact ⟨[], rfl⟩
  · by_cases hl : leadsElsewhere (strip name) = true
    · simp only [hn, hl, if_true, if_false]
      exact ⟨[.rejectedName (strip name)], rfl⟩
    · simp only [hn, hl, if_false]
      exact search_reports _ _ _

theorem find_onlyReports (library : Library) (name : Name) : OnlyReports (library.find name) := by
  cases name with
  | missing => exact .pure none
  | nothing shown => exact .pure none
  | named name => exact .lift (findNamed_reports library name)
  | illTyped kind => exact .throw _

theorem loadFile_onlyReports (file : Path) : OnlyReports (loadFile file) := by
  unfold loadFile
  refine OnlyReports.get.bind fun workspace => (OnlyReports.ofExcept _).bind fun content => ?_
  cases content with
  | error notice => exact (OnlyReports.report _).bind fun _ => .pure _
  | ok v => cases v <;> exact (OnlyReports.report _).bind fun _ => .pure _

theorem load_onlyReports (library : Library) (name : Name) : OnlyReports (library.load name) := by
  unfold Library.load
  refine (find_onlyReports library name).bind fun found => ?_
  cases found with
  | none => exact (OnlyReports.report _).bind fun _ => .pure _
  | some file => exact loadFile_onlyReports file

theorem lookup_onlyReports (key : CodePoints) (otherwise : Value) :
    OnlyReports (Settings.lookup key otherwise) := by
  refine OnlyReports.bind (fun workspace => ?_) fun _ => .pure _
  obtain ⟨left, hload, rfl | rfl⟩ := Settings.outcome_load workspace
  · exact ⟨[], by rw [hload]; rfl⟩
  · exact ⟨[.unreadableSettings Settings.file], by rw [hload]; rfl⟩

theorem fromSettings_onlyReports : OnlyReports Library.fromSettings := by
  unfold Library.fromSettings
  refine (lookup_onlyReports _ _).bind fun v => ?_
  cases v <;> exact .pure _

theorem effect_reportColors (resolver : Resolver) (styles : List CodePoints) (workspace : Workspace) :
    effect (reportColors resolver styles) workspace =
      ((), workspace.reportAll (styles.map (.addedColor · resolver.textColor))) := by
  induction styles generalizing workspace with
  | nil => rfl
  | cons style rest ih => exact ih (workspace.report (.addedColor style resolver.textColor))

theorem highlight_onlyReports (source : Option String) (name : Name) (library : Library)
    (registry : Registry) : OnlyReports (highlight source name (some library) registry) := by
  cases source with
  | none => exact .pure []
  | some code =>
    cases hblank : allBlank code with
    | true => simp only [highlight, hblank, if_true]; exact .pure []
    | false =>
      simp only [highlight, hblank, Bool.false_eq_true, if_false, pure_bind]
      refine (load_onlyReports library name).bind fun theme => ?_
      have hrender := OnlyReports.lift fun workspace => ⟨_, congrArg Prod.snd (effect_reportColors
        ⟨some (registry.lookup? name.text?), theme⟩
        (progressOf ⟨some (registry.lookup? name.text?), theme⟩ (classify code)).colorless workspace)⟩
      cases unknown? name theme registry with
      | none => exact hrender.bind fun _ => .pure _
      | some unknown => exact (OnlyReports.report _).bind fun _ => hrender.bind fun _ => .pure _

theorem highlightBlock_onlyReports (name : Name) (library : Library) (code : String) :
    OnlyReports (highlightBlock name (some library) code) := by
  rw [highlightBlock]
  by_cases hname : name = .missing
  · rw [if_pos hname]
    exact .pure _
  · rw [if_neg hname]
    exact (highlight_onlyReports _ _ _ _).bind fun _ => .pure _

/-! ## Code -/

/-- What the styles of code are taken from. -/
def resolverFor (files : Tree) (library : Library) (name : Name) : Resolver :=
  ⟨some (Registry.builtIn.lookup? name.text?), library.theme? files name⟩

/-- Nothing keeps code from being marked up and written: the theme is named by a text, or by a value that counts
as nothing, its file has no number with too many digits, and there are no surrogates in the styles. -/
structure Presents (files : Tree) (library : Library) (name : Name) (code : String) : Prop where
  typed : name.isTyped = true
  limits : ∀ file digits, library.fileFor? files name = some file → ¬ Oversized files file digits
  background : Encodable (resolverFor files library name).background
  styles : ∀ token ∈ classify code, token.isStyled = true →
    Encodable ((resolverFor files library name).style token.kind)

/-- An attempt gives markup that can be encoded. -/
def Delivers (attempt : Attempt CodePoints) (workspace : Workspace) : Prop :=
  ∃ markup, (outcome attempt workspace).1 = .ok markup ∧ Encodable markup

/-- Markup of code is delivered exactly when nothing keeps the code from being marked up and written. -/
theorem delivers_highlight_iff {code : String} (h : allBlank code = false) (name : Name) (library : Library)
    (workspace : Workspace) :
    Delivers (highlight (some code) name (some library)) workspace ↔
      Presents workspace.files library name code := by
  rw [Delivers, outcome_highlight h]
  constructor
  · rintro ⟨markup, hmarkup, hencodable⟩
    cases hload : (outcome (library.load name) workspace).1 with
    | error failure => rw [hload] at hmarkup; cases hmarkup
    | ok theme =>
      rw [hload] at hmarkup
      cases hmarkup
      obtain ⟨⟨htyped, hlimits⟩, rfl⟩ := load_eq_ok_iff.1 hload
      obtain ⟨hbackground, hstyles⟩ := encodable_render_iff.1 hencodable
      exact ⟨htyped, hlimits, hbackground, hstyles⟩
  · intro hp
    rw [load_eq_ok_iff.2 ⟨⟨hp.typed, hp.limits⟩, rfl⟩]
    exact ⟨_, rfl, encodable_render_iff.2 ⟨hp.background, hp.styles⟩⟩

theorem delivers_highlight_blank {code : String} (h : allBlank code = true) (name : Name) (library : Library)
    (workspace : Workspace) : Delivers (highlight (some code) name (some library)) workspace := by
  rw [highlight_blank fun _ hs => Option.some.inj hs ▸ h]
  exact ⟨[], rfl, Encodable.nil⟩

/-- A block of code is delivered even if it is blank or there is no name, as it is not highlighted then. -/
theorem delivers_highlightBlock_iff (name : Name) (library : Library) (code : String) (workspace : Workspace) :
    Delivers (highlightBlock name (some library) code) workspace ↔
      (name ≠ .missing → allBlank code = false → Presents workspace.files library name code) := by
  rw [highlightBlock]
  by_cases hname : name = .missing
  · rw [if_pos hname]
    exact iff_of_true ⟨_, rfl, encodable_blockElement code⟩ fun h => absurd hname h
  rw [if_neg hname, Delivers, outcome_bind]
  cases hblank : allBlank code with
  | true =>
    rw [highlight_blank fun _ hs => Option.some.inj hs ▸ hblank]
    exact iff_of_true ⟨_, rfl, encodable_blockElement code⟩ nofun
  | false =>
    rw [← delivers_highlight_iff hblank, Delivers]
    simp only [ne_eq, hname, not_false_eq_true, forall_const]
    have hfilled : ∀ markup, (outcome (highlight (some code) name (some library)) workspace).1 = .ok markup →
        markup ≠ [] := fun _ hmarkup => (text_of_highlight hblank hmarkup).1
    generalize outcome (highlight (some code) name (some library)) workspace = result at hfilled ⊢
    obtain ⟨failure | markup, left⟩ := result
    · exact iff_of_false nofun nofun
    · simp only [hfilled markup rfl, if_false]
      rfl

/-! ## Prose -/

/-- The code of a piece that stands between fences. -/
def fencedCode? : Piece → Option String
  | .snippet (.fenced code) => some (String.ofList (dropLineEnd code))
  | _ => none

/-- The code between fences in prose. -/
def fencedCodes (prose : String) : List String := (pieces prose.toList).filterMap fencedCode?

theorem delivers_append {first rest : Attempt CodePoints} {workspace : Workspace} :
    Delivers (do let markup ← first; return markup ++ (← rest)) workspace ↔
      Delivers first workspace ∧ Delivers rest (outcome first workspace).2 := by
  rw [Delivers, Delivers, Delivers, outcome_bind]
  generalize outcome first workspace = result
  obtain ⟨failure | markup, left⟩ := result
  · exact iff_of_false nofun nofun
  · simp only [outcome_bind, Except.ok.injEq, exists_eq_left']
    generalize outcome rest left = result
    obtain ⟨failure | later, left'⟩ := result
    · exact iff_of_false nofun nofun
    · simp

section Pieces

variable {block : String → Attempt CodePoints} {files : Tree} {P : String → Prop}

theorem convertPiece_onlyReports (h : ∀ code, OnlyReports (block code)) (piece : Piece) :
    OnlyReports (convertPiece block piece) := by
  rcases piece with c | code | code | code
  · exact .pure _
  · exact h _
  · exact .pure _
  · exact .pure _

theorem delivers_convertPiece_iff {workspace : Workspace}
    (h : ∀ code, Delivers (block code) workspace ↔ P code) (piece : Piece) :
    Delivers (convertPiece block piece) workspace ↔ ∀ code, fencedCode? piece = some code → P code := by
  rcases piece with c | code | code | code
  · exact iff_of_true ⟨_, rfl, Encodable.ofChars [c]⟩ nofun
  · simp only [convertPiece, fencedCode?, Option.some.injEq, forall_eq', h]
  · exact iff_of_true ⟨_, rfl, encodable_inlineElement code⟩ nofun
  · exact iff_of_true ⟨_, rfl, encodable_inlineElement code⟩ nofun

/-- No block changes the files, so that it does not matter for the others. -/
theorem delivers_convertPieces_iff (hreports : ∀ code, OnlyReports (block code))
    (hblock : ∀ code workspace, workspace.files = files → (Delivers (block code) workspace ↔ P code))
    (list : List Piece) {workspace : Workspace} (hlog : workspace.Unlogged) (hfiles : workspace.files = files) :
    Delivers (convertPieces block list) workspace ↔ ∀ code ∈ list.filterMap fencedCode?, P code := by
  induction list generalizing workspace with
  | nil =>
    rw [convertPieces_nil]
    exact iff_of_true ⟨[], rfl, Encodable.nil⟩ nofun
  | cons piece rest ih =>
    obtain ⟨hlog', hfiles'⟩ := (convertPiece_onlyReports hreports piece).files_eq hlog
    rw [convertPieces_cons, delivers_append, ih hlog' (hfiles'.trans hfiles),
      delivers_convertPiece_iff (hblock · workspace hfiles)]
    cases hcode : fencedCode? piece with
    | none => simp [hcode]
    | some code => simp [hcode]

end Pieces

/-- Prose is delivered exactly when all the code in it can be marked up and written that is highlighted. -/
theorem delivers_convertProse_iff (prose : String) (name : Name) (library : Library) {workspace : Workspace}
    (hlog : workspace.Unlogged) :
    Delivers (convertProse prose name (some library)) workspace ↔
      ∀ code ∈ fencedCodes prose, name ≠ .missing → allBlank code = false →
        Presents workspace.files library name code := by
  refine delivers_convertPieces_iff (highlightBlock_onlyReports name library) (fun code other hfiles => ?_) _
    hlog rfl
  rw [delivers_highlightBlock_iff, hfiles]

end CodeMarkup
