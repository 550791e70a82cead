import CodeMarkup.Proofs.Reports
import CodeMarkup.Proofs.Theme.Loading
import CodeMarkup.Theme.Bundled
/-!
# Searching directories

A library looks into its directories one after the other. A directory that is missing is passed over, but one
that cannot be looked into ends the search for a theme (`fileIn_append`), and no names are listed at all
(`namesFrom_barred`). So such a directory hides the themes of those after it: `failing_directory` says exactly
when that makes a difference, and `bundled_hidden` is an instance of it.
-/

namespace CodeMarkup.Theme

open CodeMarkup.Files CodeMarkup.Json CodeMarkup.Log CodeMarkup.Text

/-! ## Where the file of a theme is -/

/-- The name that the file of a theme is looked for under, if it is looked for at all. -/
def Name.sought? : Name → Option CodePoints
  | .named name =>
    if strip name = [] ∨ leadsElsewhere (strip name) = true then none else some (strip name)
  | _ => none

/-- Whether this can be looked up: a value that counts as something has to be a text. -/
def Name.isTyped : Name → Bool
  | .illTyped _ => false
  | _ => true

theorem Name.exists_illTyped {name : Name} (h : ¬ name.isTyped = true) : ∃ kind, name = .illTyped kind := by
  cases name with
  | illTyped kind => exact ⟨kind, rfl⟩
  | _ => exact absurd rfl h

/-- Whether a directory has a file for a name, or why that cannot be told. -/
def look (files : Tree) (sought : CodePoints) (directory : Path) : Except Cause Bool :=
  Tree.isFile files (directory.child (sought ++ suffix))

/-- The file in the first of the directories that has one. What cannot be looked into ends the search. -/
def fileIn (files : Tree) (sought : CodePoints) : List Path → Option Path
  | [] => none
  | directory :: rest =>
    match look files sought directory with
    | .ok true => some (directory.child (sought ++ suffix))
    | .ok false => fileIn files sought rest
    | .error _ => none

namespace Library

/-- The file that a library has for a theme. -/
def fileFor? (library : Library) (files : Tree) (name : Name) : Option Path :=
  name.sought?.bind (fileIn files · library.directories)

theorem effect_search (name : CodePoints) (directories : List Path) (workspace : Workspace) :
    (effect (search name directories) workspace).1 = fileIn workspace.files name directories := by
  induction directories with
  | nil => rfl
  | cons directory rest ih =>
    rw [search, fileIn, look, effect_bind, effect_get]
    simp only
    cases Tree.isFile workspace.files (directory.child (name ++ suffix)) with
    | error cause => rfl
    | ok found =>
      cases found with
      | true => rfl
      | false => exact ih

theorem effect_findNamed (library : Library) (name : CodePoints) (workspace : Workspace) :
    (effect (library.findNamed name) workspace).1 = library.fileFor? workspace.files (.named name) := by
  rw [findNamed, fileFor?, Name.sought?]
  by_cases hn : strip name = []
  · simp only [hn, if_true, true_or]
    rfl
  · by_cases hl : leadsElsewhere (strip name) = true
    · simp only [hn, hl, if_true, if_false, or_true]
      rfl
    · simp only [hn, hl, if_false]
      exact effect_search _ _ _

/-- What a library finds is told by the files alone. -/
theorem outcome_find (library : Library) {name : Name} (h : name.isTyped = true)
    (workspace : Workspace) :
    (outcome (library.find name) workspace).1 = .ok (library.fileFor? workspace.files name) := by
  cases name with
  | missing => rfl
  | nothing => rfl
  | illTyped kind => cases h
  | named name =>
    rw [find, outcome_lift]
    exact congrArg Except.ok (effect_findNamed library name workspace)

theorem outcome_find_illTyped (library : Library) (kind : Kind) (workspace : Workspace) :
    (outcome (library.find (.illTyped kind)) workspace).1 = .error (.nameNotText kind) := rfl

theorem finds_iff {library : Library} {name : Name} {workspace : Workspace} {file : Path} :
    library.Finds name workspace file ↔ library.fileFor? workspace.files name = some file := by
  rw [Finds]
  by_cases hname : name.isTyped = true
  · rw [outcome_find library hname, Except.ok.injEq]
  · obtain ⟨kind, rfl⟩ := Name.exists_illTyped hname
    rw [outcome_find_illTyped]
    constructor <;> intro h <;> cases h

/-- What a library loads is told by the files alone. -/
theorem outcome_load (library : Library) {name : Name} (h : name.isTyped = true)
    (workspace : Workspace) :
    (outcome (library.load name) workspace).1 =
      match library.fileFor? workspace.files name with
      | none => .ok none
      | some file => (contentOf workspace.files file).map themeOf := by
  have hfind := outcome_find library h workspace
  cases hfile : library.fileFor? workspace.files name with
  | none =>
    rw [hfile] at hfind
    exact load_notFound hfind
  | some file => exact load_found (finds_iff.2 hfile)

end Library

/-! ## A directory that cannot be looked into -/

/-- Looking into a directory for the file of this theme fails. -/
def Fails (files : Tree) (name : Name) (directory : Path) : Prop :=
  ∃ sought cause, name.sought? = some sought ∧ look files sought directory = .error cause

/-- A directory can be looked into for the file of this theme, and does not have it. -/
def Lacks (files : Tree) (name : Name) (directory : Path) : Prop :=
  ∀ sought, name.sought? = some sought → look files sought directory = .ok false

/-- A directory cannot be looked into at all. -/
def Barred (files : Tree) (directory : Path) : Prop := ∃ cause, Tree.isDirectory files directory = .error cause

section Search

variable {files : Tree} {sought : CodePoints} {before after : List Path}

theorem fileIn_append (h : ∀ directory ∈ before, look files sought directory = .ok false) :
    fileIn files sought (before ++ after) = fileIn files sought after := by
  induction before with
  | nil => rfl
  | cons directory rest ih =>
    rw [List.forall_mem_cons] at h
    rw [List.cons_append, fileIn, h.1]
    exact ih h.2

/-- Beyond a directory that has the file or cannot be looked into nothing is searched. -/
theorem fileIn_stops {directory : Path} (hm : directory ∈ before)
    (h : look files sought directory ≠ .ok false) (after : List Path) :
    fileIn files sought (before ++ after) = fileIn files sought before := by
  induction before with
  | nil => cases hm
  | cons first rest ih =>
    rw [List.cons_append, fileIn, fileIn]
    cases hfirst : look files sought first with
    | error cause => rfl
    | ok found =>
      cases found with
      | true => rfl
      | false =>
        rcases List.mem_cons.1 hm with rfl | hm
        · exact absurd hfirst h
        · exact ih hm

theorem fileIn_failing {directory : Path} {cause : Cause} (h : look files sought directory = .error cause)
    (after : List Path) : fileIn files sought (directory :: after) = none := by
  rw [fileIn, h]

end Search

theorem fileIn_eq_none {files : Tree} {sought : CodePoints} {directories : List Path}
    (h : ∀ directory ∈ directories, look files sought directory = .ok false) :
    fileIn files sought directories = none := by
  rw [← List.append_nil directories, fileIn_append h]
  rfl

/-- A directory that cannot be looked into cannot be looked into for the file of a theme, unless no file can
have that name. -/
theorem look_of_barred {files : Tree} {directory : Path} (h : Barred files directory) (sought : CodePoints) :
    (∃ cause, look files sought directory = .error cause) ∨ ∀ other, look files sought other = .ok false := by
  obtain ⟨cause, h⟩ := h
  by_cases hname : Tree.Writable (sought ++ suffix)
  · exact .inl (Tree.holds_child_error h hname _)
  · exact .inr fun other => Tree.holds_child_of_not_writable hname files _ other

/-- The directories before this one do not have the theme, and the first of those after it that has it has
this file. -/
def Hides (files : Tree) (name : Name) (before after : List Path) (file : Path) : Prop :=
  (∀ directory ∈ before, Lacks files name directory) ∧ Library.fileFor? ⟨after⟩ files name = some file

section Failing

variable {files : Tree} {name : Name} {directory : Path}

/-- What a directory does that cannot be looked into: nothing, or it hides a file. -/
theorem failing_cases (h : Fails files name directory ∨ Barred files directory) (before after : List Path) :
    (Library.fileFor? ⟨before ++ directory :: after⟩ files name =
        Library.fileFor? ⟨before ++ after⟩ files name ∧
      ∀ file, ¬ Hides files name before after file) ∨
    ∃ file, Hides files name before after file ∧
      Library.fileFor? ⟨before ++ after⟩ files name = some file ∧
      Library.fileFor? ⟨before ++ directory :: after⟩ files name = none := by
  unfold Hides Lacks Library.fileFor?
  cases hs : name.sought? with
  | none => exact .inl ⟨rfl, nofun⟩
  | some sought =>
    have hlook : (∃ cause, look files sought directory = .error cause) ∨
        ∀ other, look files sought other = .ok false := by
      rcases h with ⟨sought', cause, hs', hlook⟩ | h
      · cases hs.symm.trans hs'
        exact .inl ⟨cause, hlook⟩
      · exact look_of_barred h sought
    simp only [Option.bind_some, Option.some.injEq, forall_eq']
    rcases hlook with ⟨cause, hlook⟩ | hnone
    · by_cases hbefore : ∀ earlier ∈ before, look files sought earlier = .ok false
      · rw [fileIn_append hbefore, fileIn_append hbefore, fileIn_failing hlook]
        cases fileIn files sought after with
        | none => exact .inl ⟨rfl, nofun⟩
        | some file => exact .inr ⟨file, ⟨hbefore, rfl⟩, rfl, rfl⟩
      · refine .inl ⟨?_, fun file hhides => hbefore hhides.1⟩
        simp only [not_forall] at hbefore
        obtain ⟨earlier, hm, hearlier⟩ := hbefore
        rw [fileIn_stops hm hearlier, fileIn_stops hm hearlier]
    · -- No file can have this name, so there is none to be hidden.
      rw [fileIn_eq_none fun _ _ => hnone _, fileIn_eq_none fun _ _ => hnone _,
        fileIn_eq_none fun _ _ => hnone _]
      exact .inl ⟨rfl, nofun⟩

theorem not_hides_illTyped (kind : Kind) (before after : List Path) (file : Path) :
    ¬ Hides files (.illTyped kind) before after file := fun h => nomatch h.2

theorem find_failing {workspace : Workspace}
    (h : Fails workspace.files name directory ∨ Barred workspace.files directory) (before after : List Path) :
    (outcome (Library.find ⟨before ++ directory :: after⟩ name) workspace).1 =
        (outcome (Library.find ⟨before ++ after⟩ name) workspace).1 ↔
      ∀ file, ¬ Hides workspace.files name before after file := by
  by_cases hname : name.isTyped = true
  · rw [Library.outcome_find _ hname, Library.outcome_find _ hname, Except.ok.injEq]
    rcases failing_cases h before after with ⟨hsame, hnone⟩ | ⟨file, hhides, hfound, hlost⟩
    · exact ⟨fun _ => hnone, fun _ => hsame⟩
    · rw [hfound, hlost]
      exact ⟨nofun, fun hnone => absurd hhides (hnone file)⟩
  · obtain ⟨kind, rfl⟩ := Name.exists_illTyped hname
    exact ⟨fun _ => not_hides_illTyped kind before after, fun _ => rfl⟩

theorem load_failing {workspace : Workspace}
    (h : Fails workspace.files name directory ∨ Barred workspace.files directory) (before after : List Path) :
    (outcome (Library.load ⟨before ++ directory :: after⟩ name) workspace).1 =
        (outcome (Library.load ⟨before ++ after⟩ name) workspace).1 ↔
      ∀ file, Hides workspace.files name before after file →
        (outcome (loadFile file) workspace).1 = .ok none := by
  by_cases hname : name.isTyped = true
  · rw [Library.outcome_load _ hname, Library.outcome_load _ hname]
    rcases failing_cases h before after with ⟨hsame, hnone⟩ | ⟨file, hhides, hfound, hlost⟩
    · rw [hsame]
      exact ⟨fun _ file hhides => absurd hhides (hnone file), fun _ => rfl⟩
    · rw [hfound, hlost]
      simp only [← outcome_loadFile]
      constructor
      · intro hload other hother
        cases hhides.2.symm.trans hother.2
        exact hload.symm
      · intro hload
        exact (hload file hhides).symm
  · obtain ⟨kind, rfl⟩ := Name.exists_illTyped hname
    exact ⟨fun _ file hhides => absurd hhides (not_hides_illTyped kind before after file), fun _ => rfl⟩

end Failing

/-! ## Listing themes -/

theorem Barred.of_sameKinds {files files' : Tree} (h : Tree.SameKinds files files') (directory : Path) :
    Barred files' directory ↔ Barred files directory := by
  rw [Barred, Barred, Tree.isDirectory, Tree.isDirectory, h.holds not]

theorem displayName_onlyReports (file : Path) : OnlyReports (Library.displayName file) := by
  unfold Library.displayName
  refine OnlyReports.get.bind fun workspace => (OnlyReports.ofExcept _).bind fun content => ?_
  cases content with
  | error notice => exact (OnlyReports.report _).bind fun _ => .pure _
  | ok v => exact .pure _

/-- No names are listed if one of the directories cannot be looked into. -/
theorem namesFrom_barred {directories : List Path} {directory : Path} (hm : directory ∈ directories)
    {workspace : Workspace} (h : Barred workspace.files directory) (names : List CodePoints) :
    (outcome (Library.namesFrom directories) workspace).1 ≠ .ok names := by
  induction directories generalizing workspace names with
  | nil => cases hm
  | cons first rest ih =>
    intro hlisted
    rw [Library.namesFrom] at hlisted
    obtain ⟨_, _, hget, hlisted⟩ := ok_of_bind hlisted
    cases hget
    cases hfirst : Tree.isDirectory workspace.files first with
    | error cause =>
      simp only [hfirst] at hlisted
      cases hlisted
    | ok found =>
      simp only [hfirst] at hlisted
      have hrest : directory ∈ rest := by
        rcases List.mem_cons.1 hm with rfl | hm
        · obtain ⟨cause, hcause⟩ := h
          cases hfirst.symm.trans hcause
        · exact hm
      cases found with
      | false => exact ih hrest h names hlisted
      | true =>
        obtain ⟨_, _, hget, hlisted⟩ := ok_of_bind hlisted
        cases hget
        obtain ⟨listed, left, hfiles, hlisted⟩ := ok_of_bind hlisted
        obtain ⟨later, _, hlater, -⟩ := ok_of_bind hlisted
        -- Reading the files has at most been reported, so the directory still cannot be looked into.
        obtain ⟨notices, hleft⟩ := OnlyReports.mapM displayName_onlyReports _ workspace
        rw [hfiles] at hleft
        subst hleft
        refine ih hrest ?_ later (congrArg Prod.fst hlater)
        exact (Barred.of_sameKinds (workspace.reportAll_kinds notices) directory).2 h

/-- A name cannot be told if its file holds a number with too many digits, and for no other reason. -/
theorem displayName_error {file : Path} {workspace : Workspace} {failure : Failure}
    (h : (outcome (Library.displayName file) workspace).1 = .error failure) :
    ∃ digits, failure = .tooManyDigits digitLimit digits := by
  unfold Library.displayName at h
  rcases error_of_bind h with h | ⟨_, left, hget, h⟩
  · cases h
  · cases hget
    rcases error_of_bind h with h | ⟨content, left, hcontent, h⟩
    · rw [outcome_ofExcept] at h
      obtain ⟨digits, -, hfailure⟩ := contentOf_eq_error.1 h
      exact ⟨digits, hfailure⟩
    · cases content <;> cases h

theorem mapM_displayName_error {files : List Path} {workspace : Workspace} {failure : Failure}
    (h : (outcome (files.mapM Library.displayName) workspace).1 = .error failure) :
    ∃ digits, failure = .tooManyDigits digitLimit digits := by
  induction files generalizing workspace with
  | nil => cases h
  | cons file rest ih =>
    rw [List.mapM_cons] at h
    rcases error_of_bind h with h | ⟨name, left, hname, h⟩
    · exact displayName_error h
    · rcases error_of_bind h with h | ⟨names, left', hnames, h⟩
      · exact ih h
      · cases h

/-- Otherwise listing fails only for the numbers in theme files. -/
theorem namesFrom_error {directories : List Path} {workspace : Workspace} {failure : Failure}
    (h : (outcome (Library.namesFrom directories) workspace).1 = .error failure)
    (hnone : ∀ directory ∈ directories, ¬ Barred workspace.files directory) :
    ∃ digits, failure = .tooManyDigits digitLimit digits := by
  induction directories generalizing workspace with
  | nil => cases h
  | cons first rest ih =>
    rw [List.forall_mem_cons] at hnone
    rw [Library.namesFrom] at h
    rcases error_of_bind h with h | ⟨_, _, hget, h⟩
    · cases h
    cases hget
    cases hfirst : Tree.isDirectory workspace.files first with
    | error cause => exact absurd ⟨cause, hfirst⟩ hnone.1
    | ok found =>
      simp only [hfirst] at h
      cases found with
      | false => exact ih h hnone.2
      | true =>
        rcases error_of_bind h with h | ⟨_, _, hget, h⟩
        · cases h
        cases hget
        rcases error_of_bind h with h | ⟨listed, left, hfiles, h⟩
        · exact mapM_displayName_error h
        rcases error_of_bind h with h | ⟨later, _, hlater, h⟩
        · obtain ⟨notices, hleft⟩ := OnlyReports.mapM displayName_onlyReports _ workspace
          rw [hfiles] at hleft
          subst hleft
          refine ih h fun directory hm hbarred => hnone.2 directory hm ?_
          exact (Barred.of_sameKinds (workspace.reportAll_kinds notices) directory).1 hbarred
        · cases h

theorem outcome_names (library : Library) (workspace : Workspace) :
    (outcome library.names workspace).1 =
      (outcome (Library.namesFrom library.directories) workspace).1.map fun names =>
        names.eraseDups.mergeSort foldedLe := by
  rw [Library.names, outcome_bind]
  generalize outcome (Library.namesFrom library.directories) workspace = listed
  obtain ⟨failure | names, left⟩ := listed <;> rfl

/-- A directory that cannot be looked into, in one way or the other. Leaving it out gives another result
exactly when it hides the theme: none of the directories before it has the theme or fails too, and one after it
has the theme. Listing fails in any case, and without such a directory only for the numbers in theme files. -/
theorem failing_directory (before after : List Path) (directory : Path) (name : Name) (workspace : Workspace) :
    (Fails workspace.files name directory ∨ Barred workspace.files directory →
      ((outcome (Library.find ⟨before ++ directory :: after⟩ name) workspace).1 =
          (outcome (Library.find ⟨before ++ after⟩ name) workspace).1 ↔
        ∀ file, ¬ Hides workspace.files name before after file) ∧
      ((outcome (Library.load ⟨before ++ directory :: after⟩ name) workspace).1 =
          (outcome (Library.load ⟨before ++ after⟩ name) workspace).1 ↔
        ∀ file, Hides workspace.files name before after file →
          (outcome (loadFile file) workspace).1 = .ok none)) ∧
    (Barred workspace.files directory →
      ∃ failure, (outcome (Library.names ⟨before ++ directory :: after⟩) workspace).1 = .error failure) ∧
    ((∀ other ∈ before ++ directory :: after, ¬ Barred workspace.files other) →
      ∀ failure, (outcome (Library.names ⟨before ++ directory :: after⟩) workspace).1 = .error failure →
        ∃ digits, failure = .tooManyDigits digitLimit digits) := by
  refine ⟨fun h => ⟨find_failing h before after, load_failing h before after⟩, fun h => ?_,
    fun hnone failure h => ?_⟩
  · have hm : directory ∈ before ++ directory :: after := List.mem_append_right before List.mem_cons_self
    have hnever := namesFrom_barred hm h
    rw [outcome_names]
    cases hlisted : (outcome (Library.namesFrom (before ++ directory :: after)) workspace).1 with
    | error failure => exact ⟨failure, rfl⟩
    | ok names => exact absurd hlisted (hnever names)
  · rw [outcome_names] at h
    cases hlisted : (outcome (Library.namesFrom (before ++ directory :: after)) workspace).1 with
    | error other =>
      rw [hlisted] at h
      cases h
      exact namesFrom_error hlisted hnone
    | ok names =>
      rw [hlisted] at h
      cases h

/-- A directory whose name is longer than the file system takes. -/
def overlong : Path := ⟨.here, [List.replicate 256 (.char 'a')]⟩

/-- In front of the bundled themes it hides them all. -/
theorem bundled_hidden :
    let workspace : Workspace := { files := bareTree }
    Barred workspace.files overlong ∧
    (outcome (Library.find ⟨[overlong, Path.bundledThemes]⟩ (.named "vscode-dark")) workspace).1 = .ok none ∧
    (outcome (Library.find ⟨[Path.bundledThemes]⟩ (.named "vscode-dark")) workspace).1 =
      .ok (some (Path.bundledThemes.child "vscode-dark.json")) ∧
    (outcome (Library.names ⟨[overlong, Path.bundledThemes]⟩) workspace).1 =
      .error (.file { cause := .nameTooLong, path := overlong.toText }) := by
  have hbarred : Tree.isDirectory bareTree overlong = .error .nameTooLong := by
    exact Tree.isDirectory_overlong bareTree (by decide +kernel) (by decide +kernel)
  have hhidden : Library.fileFor? ⟨[overlong, Path.bundledThemes]⟩ bareTree (.named "vscode-dark") = none := by
    decide +kernel
  have hfound : Library.fileFor? ⟨[Path.bundledThemes]⟩ bareTree (.named "vscode-dark") =
      some (Path.bundledThemes.child "vscode-dark.json") := by
    decide +kernel
  refine ⟨⟨_, hbarred⟩, ?_, ?_, ?_⟩
  · rw [Library.outcome_find _ rfl, hhidden]
  · rw [Library.outcome_find _ rfl, hfound]
  · rw [outcome_names, Library.namesFrom, outcome_bind, outcome_get]
    simp only [hbarred]
    rfl

end CodeMarkup.Theme
