import CodeMarkup.Proofs.Runs
import CodeMarkup.Theme.Library
/-!
# Loading themes

What a library gives for a name, by what is in the files. Looking for the file of a theme changes nothing
if there is one, so it is read as it was found. Reading it fails in one case only: when it holds a whole
number with more digits than are read.
-/

namespace CodeMarkup.Theme

open CodeMarkup.Files CodeMarkup.Json CodeMarkup.Log CodeMarkup.Text

/-- The library has this file for a name. -/
def Library.Finds (library : Library) (name : Name) (workspace : Workspace) (file : Path) : Prop :=
  (outcome (library.find name) workspace).1 = .ok (some file)

/-- A file holds JSON text in which a whole number has this many digits, which is more than are read. -/
def Oversized (files : Tree) (file : Path) (digits : Nat) : Prop :=
  ∃ content text, Tree.read files file = .ok content ∧ decodeUtf8 content = .ok text ∧
    read text = .error (.oversized digits)

/-! ## One file -/

/-- The theme that the content of a file is, if it is one. -/
def themeOf : Except Notice Value → Option Theme
  | .ok (.obj members) => some (ofMembers members)
  | _ => none

theorem contentOf_eq_error {files : Tree} {file : Path} {failure : Failure} :
    contentOf files file = .error failure ↔
      ∃ digits, Oversized files file digits ∧ failure = .tooManyDigits digitLimit digits := by
  rw [contentOf]
  constructor
  · intro h
    split at h
    · cases h
    · next content hc =>
      split at h
      · cases h
      · next text ht =>
        split at h
        · cases h
        · next digits hd =>
          cases h
          exact ⟨digits, ⟨content, text, hc, ht, hd⟩, rfl⟩
        · cases h
  · rintro ⟨digits, ⟨content, text, hc, ht, hd⟩, rfl⟩
    simp only [hc, ht, hd]

theorem outcome_loadFile (file : Path) (workspace : Workspace) :
    (outcome (loadFile file) workspace).1 = (contentOf workspace.files file).map themeOf := by
  rw [loadFile, outcome_bind, outcome_get]
  simp only
  rw [outcome_bind, outcome_ofExcept]
  cases contentOf workspace.files file with
  | error failure => rfl
  | ok content =>
    cases content with
    | error notice => rfl
    | ok v => cases v <;> rfl

/-! ## Names -/

theorem search_unchanged {name : CodePoints} {directories : List Path} {workspace : Workspace} {file : Path}
    (h : (effect (Library.search name directories) workspace).1 = some file) :
    (effect (Library.search name directories) workspace).2 = workspace := by
  induction directories with
  | nil => rfl
  | cons directory rest ih =>
    rw [Library.search] at h ⊢
    cases hf : Tree.isFile workspace.files (directory.child (name ++ suffix)) with
    | error cause =>
      simp only [effect_bind, effect_get, hf] at h
      cases h
    | ok found =>
      simp only [effect_bind, effect_get, hf] at h ⊢
      cases found with
      | true => rfl
      | false => exact ih h

theorem findNamed_unchanged {library : Library} {name : CodePoints} {workspace : Workspace} {file : Path}
    (h : (effect (library.findNamed name) workspace).1 = some file) :
    (effect (library.findNamed name) workspace).2 = workspace := by
  rw [Library.findNamed] at h ⊢
  by_cases hn : strip name = []
  · simp only [hn, if_true] at h
    cases h
  · by_cases hl : leadsElsewhere (strip name) = true
    · simp only [hn, hl, if_true, if_false] at h
      cases h
    · simp only [hn, hl, if_false] at h ⊢
      exact search_unchanged h

/-- Looking for the file of a theme changes nothing if there is one. -/
theorem find_unchanged {library : Library} {name : Name} {workspace : Workspace} {file : Path}
    (h : library.Finds name workspace file) : (outcome (library.find name) workspace).2 = workspace := by
  rw [Library.Finds] at h
  cases name with
  | missing => rfl
  | nothing => rfl
  | illTyped kind => cases h
  | named name =>
    rw [Library.find, outcome_lift] at h ⊢
    exact findNamed_unchanged (Except.ok.inj h)

/-! ## Libraries -/

theorem load_found {library : Library} {name : Name} {workspace : Workspace} {file : Path}
    (h : library.Finds name workspace file) :
    (outcome (library.load name) workspace).1 = (contentOf workspace.files file).map themeOf := by
  have hf : outcome (library.find name) workspace = (.ok (some file), workspace) :=
    Prod.ext h (find_unchanged h)
  rw [Library.load, outcome_bind, hf]
  exact outcome_loadFile file workspace

theorem load_notFound {library : Library} {name : Name} {workspace : Workspace}
    (h : (outcome (library.find name) workspace).1 = .ok none) :
    (outcome (library.load name) workspace).1 = .ok none := by
  have hf : outcome (library.find name) workspace =
      (.ok none, (outcome (library.find name) workspace).2) := Prod.ext h rfl
  rw [Library.load, outcome_bind, hf]
  rfl

/-- Looking for the file of a theme does not fail for a text, nor without a name. -/
theorem find_ofOption (library : Library) (name : Option CodePoints) (workspace : Workspace) :
    ∃ found, (outcome (library.find (.ofOption name)) workspace).1 = .ok found := by
  cases name with
  | none => exact ⟨none, rfl⟩
  | some name =>
    rw [Name.ofOption, Name.ofText]
    split
    · exact ⟨none, rfl⟩
    · exact ⟨_, rfl⟩

/-- Loading a theme fails if the library has a file for its name that holds such a number. -/
theorem load_oversized {library : Library} {name : Name} {workspace : Workspace} {file : Path} {digits : Nat}
    (hf : library.Finds name workspace file) (ho : Oversized workspace.files file digits) :
    (outcome (library.load name) workspace).1 = .error (.tooManyDigits digitLimit digits) := by
  rw [load_found hf, contentOf_eq_error.2 ⟨digits, ho, rfl⟩]
  rfl

/-- Otherwise it does not fail for a text, nor without a name. -/
theorem load_ofOption {library : Library} {name : Option CodePoints} {workspace : Workspace}
    (h : ∀ file digits, library.Finds (.ofOption name) workspace file →
      ¬ Oversized workspace.files file digits) :
    ∃ theme, (outcome (library.load (.ofOption name)) workspace).1 = .ok theme := by
  obtain ⟨found, hfound⟩ := find_ofOption library name workspace
  cases found with
  | none => exact ⟨none, load_notFound hfound⟩
  | some file =>
    rw [load_found hfound]
    cases hc : contentOf workspace.files file with
    | ok content => exact ⟨themeOf content, rfl⟩
    | error failure =>
      obtain ⟨digits, ho, -⟩ := contentOf_eq_error.1 hc
      exact absurd ho (h file digits hfound)

end CodeMarkup.Theme
