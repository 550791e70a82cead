import CodeMarkup.Proofs.Files.Child
import CodeMarkup.Proofs.Theme.Search
/-!
# Files of themes stay in the search directories

`find_confined`: whatever name is given, a file that is found stands right in one of the search directories and is
called like the stripped name, with the suffix of theme files after it. Names that could lead elsewhere find
nothing (`Refused`). If every directory can be looked into, the first one counts that has the file.
-/

namespace CodeMarkup.Theme

open CodeMarkup.Files CodeMarkup.Text

/-! ## Names -/

/-- Names under which no file is looked for: they are empty, they could lead out of a directory, or they could
lead to a hidden file. -/
def Refused (name : CodePoints) : Prop :=
  name = [] ∨ .char '/' ∈ name ∨ .char '\\' ∈ name ∨ name.head? = some (.char '.')

instance (name : CodePoints) : Decidable (Refused name) := inferInstanceAs (Decidable (_ ∨ _))

theorem refused_iff (name : CodePoints) : name = [] ∨ leadsElsewhere name = true ↔ Refused name := by
  simp [Refused, leadsElsewhere, or_assoc]

/-- A text is looked for under its stripped form, unless that is refused. -/
theorem Name.sought?_ofText (name : CodePoints) :
    (Name.ofText name).sought? = if Refused (strip name) then none else some (strip name) := by
  by_cases hname : name = []
  · subst hname
    rfl
  · rw [ofText, if_neg hname, sought?]
    simp only [refused_iff]

theorem Name.isTyped_ofText (name : CodePoints) : (Name.ofText name).isTyped = true := by
  rw [ofText]
  split <;> rfl

/-- A name that is not refused is, with the suffix, a name for something in a directory. -/
theorem isName_append_suffix {name : CodePoints} (h : ¬ Refused name) : IsName (name ++ suffix) := by
  have hslash : .char '/' ∉ name := fun hm => h (.inr (.inl hm))
  have hsuffix : .char '/' ∉ CodePoints.ofString suffix := by decide
  -- The suffix alone is longer than the names that lead back or nowhere.
  have hlong : 5 ≤ (name ++ CodePoints.ofString suffix).length := by
    rw [List.length_append]
    exact Nat.le_add_left 5 _
  refine ⟨?_, ?_, ?_⟩
  · rw [List.mem_append, not_or]
    exact ⟨hslash, hsuffix⟩
  · rw [Path.staysHere, Bool.or_eq_false_iff, decide_eq_false_iff_not, decide_eq_false_iff_not]
    constructor <;> intro he <;> rw [he] at hlong <;> exact absurd hlong (by decide)
  · intro he
    rw [he] at hlong
    exact absurd hlong (by decide)

/-! ## The first directory with a file -/

/-- The file is that of the first directory that has one under this name. -/
def IsFirstFile (files : Tree) (name : CodePoints) (directories : List Path) (file : Path) : Prop :=
  ∃ (i : Nat) (_ : i < directories.length), file = directories[i].joined name ∧ Tree.LeadsToFile files file ∧
    ∀ (j : Nat) (_ : j < i), ¬ Tree.LeadsToFile files (directories[j].joined name)

section Search

variable {files : Tree} {sought : CodePoints} {directories : List Path}

/-- Where nothing fails, the search is one for the first directory with the file. -/
theorem fileIn_eq_find? (h : ∀ directory ∈ directories, ∀ cause, look files sought directory ≠ .error cause) :
    fileIn files sought directories =
      (directories.find? fun directory => (look files sought directory).toOption = some true).map
        (·.child (sought ++ suffix)) := by
  induction directories with
  | nil => rfl
  | cons directory rest ih =>
    rw [List.forall_mem_cons] at h
    rw [fileIn, List.find?_cons]
    cases hlook : look files sought directory with
    | error cause => exact absurd hlook (h.1 cause)
    | ok found =>
      cases found with
      | true => rfl
      | false => exact ih h.2

theorem look_eq_true_iff (hname : ¬ Refused sought) (directory : Path) :
    (look files sought directory).toOption = some true ↔
      Tree.LeadsToFile files (directory.joined (sought ++ suffix)) := by
  rw [Path.joined_name (isName_append_suffix hname), ← Tree.isFile_eq_true_iff, ← look]
  cases look files sought directory <;> simp [Except.toOption]

theorem fileIn_eq_some_iff (hname : ¬ Refused sought)
    (h : ∀ directory ∈ directories, ∀ cause, look files sought directory ≠ .error cause) (file : Path) :
    fileIn files sought directories = some file ↔ IsFirstFile files (sought ++ suffix) directories file := by
  have hjoined := Path.joined_name (isName_append_suffix hname)
  rw [fileIn_eq_find? h, Option.map_eq_some_iff]
  constructor
  · rintro ⟨directory, hfound, rfl⟩
    obtain ⟨htrue, i, hi, rfl, hbefore⟩ := List.find?_eq_some_iff_getElem.1 hfound
    rw [decide_eq_true_eq, look_eq_true_iff hname, hjoined] at htrue
    refine ⟨i, hi, (hjoined _).symm, htrue, fun j hj hfile => ?_⟩
    have hlook := hbefore j hj
    rw [Bool.not_eq_true', decide_eq_false_iff_not, look_eq_true_iff hname] at hlook
    exact hlook hfile
  · rintro ⟨i, hi, rfl, hfile, hbefore⟩
    refine ⟨directories[i], List.find?_eq_some_iff_getElem.2 ⟨?_, i, hi, rfl, fun j hj => ?_⟩, (hjoined _).symm⟩
    · rwa [decide_eq_true_eq, look_eq_true_iff hname]
    · rw [Bool.not_eq_true', decide_eq_false_iff_not, look_eq_true_iff hname]
      exact hbefore j hj

theorem fileIn_eq_none_iff (hname : ¬ Refused sought)
    (h : ∀ directory ∈ directories, ∀ cause, look files sought directory ≠ .error cause) :
    fileIn files sought directories = none ↔
      ∀ directory ∈ directories, ¬ Tree.LeadsToFile files (directory.joined (sought ++ suffix)) := by
  rw [fileIn_eq_find? h, Option.map_eq_none_iff, List.find?_eq_none]
  simp only [decide_eq_true_eq, look_eq_true_iff hname]

/-- Whatever fails on the way, a file that is found is in one of the directories. -/
theorem directlyIn_of_fileIn (hname : ¬ Refused sought) {file : Path}
    (h : fileIn files sought directories = some file) :
    ∃ directory ∈ directories, Tree.DirectlyIn files directory (sought ++ suffix) file := by
  induction directories with
  | nil => cases h
  | cons directory rest ih =>
    rw [fileIn] at h
    cases hlook : look files sought directory with
    | error cause =>
      rw [hlook] at h
      cases h
    | ok found =>
      rw [hlook] at h
      cases found with
      | true =>
        cases h
        exact ⟨directory, List.mem_cons_self,
          (Tree.isFile_eq_true_iff.1 hlook).child (isName_append_suffix hname)⟩
      | false =>
        obtain ⟨other, hm, hin⟩ := ih h
        exact ⟨other, List.mem_cons_of_mem _ hm, hin⟩

end Search

/-- Looking for a theme never leaves the search directories. The stripped name decides: if it is refused nothing is
found. Otherwise, and if no look-up fails, it is the file of the first directory that has one, and nothing
exactly if none has. Every file found stands right in a search directory under the name with the suffix. -/
theorem find_confined (name : CodePoints) (library : Library) (workspace : Workspace) :
    ∃ found, (outcome (library.find (.ofText name)) workspace).1 = .ok found ∧
      (Refused (strip name) → found = none) ∧
      (¬ Refused (strip name) →
        (∀ directory ∈ library.directories, ¬ Fails workspace.files (.ofText name) directory) →
          (∀ file, found = some file ↔
            IsFirstFile workspace.files (strip name ++ suffix) library.directories file) ∧
          (found = none ↔ ∀ directory ∈ library.directories,
            ¬ Tree.LeadsToFile workspace.files (directory.joined (strip name ++ suffix)))) ∧
      ∀ file, found = some file → ¬ Refused (strip name) ∧
        ∃ directory ∈ library.directories,
          Tree.DirectlyIn workspace.files directory (strip name ++ suffix) file := by
  refine ⟨_, library.outcome_find (Name.isTyped_ofText name) workspace, ?_⟩
  have hsought := Name.sought?_ofText name
  by_cases hname : Refused (strip name)
  · rw [if_pos hname] at hsought
    have hnone : library.fileFor? workspace.files (.ofText name) = none := by
      rw [Library.fileFor?, hsought, Option.bind_none]
    rw [hnone]
    refine ⟨fun _ => rfl, fun h => absurd hname h, ?_⟩
    rintro file ⟨⟩
  · rw [if_neg hname] at hsought
    have hfile : library.fileFor? workspace.files (.ofText name) =
        fileIn workspace.files (strip name) library.directories := by
      rw [Library.fileFor?, hsought, Option.bind_some]
    rw [hfile]
    refine ⟨fun h => absurd h hname, fun _ hnone => ?_, fun file h => ⟨hname, directlyIn_of_fileIn hname h⟩⟩
    have hlook : ∀ directory ∈ library.directories, ∀ cause,
        look workspace.files (strip name) directory ≠ .error cause := by
      intro directory hm cause hlook
      exact hnone directory hm ⟨strip name, cause, hsought, hlook⟩
    exact ⟨fileIn_eq_some_iff hname hlook, fileIn_eq_none_iff hname hlook⟩

/-- White space of any kind around a name does not count, and a directory that is missing is passed over. -/
theorem find_confined_padded :
    let library : Library := ⟨[⟨.here, ["missing"]⟩, Path.bundledThemes]⟩
    ¬ Refused (strip "\u2003vscode-dark\u0085") ∧
    (∀ directory ∈ library.directories, ¬ Fails bareTree (.ofText "\u2003vscode-dark\u0085") directory) ∧
    (outcome (library.find (.ofText "\u2003vscode-dark\u0085")) { files := bareTree }).1 =
      .ok (some (Path.bundledThemes.child "vscode-dark.json")) := by
  intro library
  have hstrip : strip "\u2003vscode-dark\u0085" = "vscode-dark" := by decide +kernel
  have hname : ¬ Refused (strip "\u2003vscode-dark\u0085") := by
    rw [hstrip]
    decide
  have hmissing : look bareTree "vscode-dark" ⟨.here, ["missing"]⟩ = .ok false := rfl
  have hbundled : look bareTree "vscode-dark" Path.bundledThemes = .ok true := rfl
  have hlook : ∀ directory ∈ library.directories,
      ¬ Fails bareTree (.ofText "\u2003vscode-dark\u0085") directory := by
    rintro directory hm ⟨sought, cause, hsought, hlook⟩
    rw [Name.sought?_ofText, if_neg hname, hstrip] at hsought
    cases hsought
    rcases List.mem_cons.1 hm with rfl | hm
    · cases hmissing.symm.trans hlook
    · cases List.mem_singleton.1 hm
      cases hbundled.symm.trans hlook
  obtain ⟨found, hfound, -, hfirst, -⟩ :=
    find_confined "\u2003vscode-dark\u0085" library { files := bareTree }
  refine ⟨hname, hlook, ?_⟩
  rw [hfound, Except.ok.injEq, (hfirst hname hlook).1, hstrip]
  have hfile : Tree.LeadsToFile bareTree (Path.bundledThemes.child "vscode-dark.json") :=
    Tree.isFile_eq_true_iff.1 hbundled
  refine ⟨1, by decide, rfl, hfile, fun j hj => ?_⟩
  cases Nat.lt_one_iff.1 hj
  intro hother
  cases (Tree.isFile_eq_true_iff.2 hother).symm.trans hmissing

end CodeMarkup.Theme
