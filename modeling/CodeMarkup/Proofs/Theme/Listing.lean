import CodeMarkup.Proofs.Highlight.Fallback
import CodeMarkup.Proofs.Keyed
import CodeMarkup.Proofs.Text.Order
/-!
# The names of all themes

A theme file shows one name (`nameIn_eq_ok_iff`), and reading the files one after the other comes to reading them all
as they were at the start (`outcome_namesFrom`), since nothing but reports is left in between. So the names of all
themes are a set (`mem_names_iff`). If no two of them fold alike there is one way to put them in order, in which
neither the order of the directories nor how often one is given counts (`names_sorted`). There are no names in one
case, and `names_long_number` is an instance of it.
-/

namespace CodeMarkup.Theme

open CodeMarkup.Files CodeMarkup.Json CodeMarkup.Log CodeMarkup.Text

/-! ## Theme files -/

/-- A theme file of directories: an entry of one that is there and may be listed, with a name that ends like those of
theme files. -/
def IsThemeFile (files : Tree) (directories : List Path) (file : Path) : Prop :=
  ∃ directory ∈ directories, Tree.isDirectory files directory = .ok true ∧
    ∃ (place : Place) (name : String), Tree.locate files directory = .ok place ∧
      Tree.lookup? files place ≠ some .closed ∧
      (Tree.lookup? files (place.child name)).isSome = true ∧ suffix.toList <:+ name.toList ∧
      file = directory.child name

/-- The theme files of directories, in the order in which they are read. -/
def themeFiles (files : Tree) (directories : List Path) : List Path :=
  directories.flatMap fun directory =>
    if Tree.isDirectory files directory = .ok true then Library.filesIn files directory else []

/-- Only the places of a tree count for the names in a directory that may be listed. -/
theorem namesIn_eq {files : Tree} {place : Place} (h : Tree.lookup? files place ≠ some .closed) :
    Tree.namesIn files place = (Keyed.keys files).filterMap fun other =>
      other.names.getLast?.bind fun name => if other = place.child name then some name else none := by
  rw [Tree.namesIn, if_neg h, Keyed.keys, List.filterMap_map]
  refine List.filterMap_congr ?_
  rintro ⟨other, entry⟩ -
  rw [Function.comp_apply]
  simp only
  cases other.names.getLast? <;> rfl

theorem mem_namesIn_iff {files : Tree} {place : Place} {name : String} :
    name ∈ Tree.namesIn files place ↔
      Tree.lookup? files place ≠ some .closed ∧ (Tree.lookup? files (place.child name)).isSome = true := by
  by_cases hclosed : Tree.lookup? files place = some .closed
  · rw [Tree.namesIn, if_pos hclosed]
    exact iff_of_false List.not_mem_nil fun h => h.1 hclosed
  rw [and_iff_right hclosed]
  have hlookup : Tree.lookup? files (place.child name) = Keyed.get? (place.child name) files :=
    if_neg (List.append_ne_nil_of_right_ne_nil _ (List.cons_ne_nil _ _))
  have hlast : (place.child name).names.getLast? = some name := List.getLast?_concat
  rw [hlookup, ← Keyed.has, Keyed.has_iff_mem_keys, namesIn_eq hclosed, List.mem_filterMap]
  constructor
  · rintro ⟨other, hm, hname⟩
    obtain ⟨found, -, hfound⟩ := Option.bind_eq_some_iff.1 hname
    obtain ⟨rfl, hn⟩ := Option.ite_none_right_eq_some.1 hfound
    cases hn
    exact hm
  · intro hm
    refine ⟨_, hm, ?_⟩
    rw [hlast, Option.bind_some, if_pos rfl]

theorem mem_themeFiles_iff {files : Tree} {directories : List Path} {file : Path} :
    file ∈ themeFiles files directories ↔ IsThemeFile files directories file := by
  rw [themeFiles, List.mem_flatMap, IsThemeFile]
  refine exists_congr fun directory => and_congr_right fun _ => ?_
  rw [List.mem_ite_nil_right]
  refine and_congr_right fun _ => ?_
  rw [Library.filesIn]
  cases Tree.locate files directory with
  | error cause => simp
  | ok place =>
    simp only [List.mem_map, List.mem_filter, mem_namesIn_iff, List.isSuffixOf_iff_suffix, Except.ok.injEq]
    constructor
    · rintro ⟨name, ⟨⟨hopen, hsome⟩, hsuffix⟩, rfl⟩
      exact ⟨place, name, rfl, hopen, hsome, hsuffix, rfl⟩
    · rintro ⟨_, name, rfl, hopen, hsome, hsuffix, rfl⟩
      exact ⟨name, ⟨⟨hopen, hsome⟩, hsuffix⟩, rfl⟩

/-! ## The name of one file -/

/-- A file gives itself a name: it holds an object in which there is a text that is not blank for it. -/
def OwnName (files : Tree) (file : Path) (name : CodePoints) : Prop :=
  ∃ members text, Describes files file members ∧ Keyed.get? (CodePoints.ofString "name") members = some (.str text) ∧
    allBlank text = false ∧ name = strip text

/-- The name that is shown for a file: the one that it gives itself, and else the stem of the file, whatever stands
there. -/
inductive Displays (files : Tree) (file : Path) : CodePoints → Prop
  | own {name : CodePoints} (h : OwnName files file name) : Displays files file name
  | stem (h : ∀ name, ¬ OwnName files file name) : Displays files file (stemOf file)

theorem exists_displays (files : Tree) (file : Path) : ∃ name, Displays files file name := by
  by_cases h : ∃ name, OwnName files file name
  · obtain ⟨name, h⟩ := h
    exact ⟨name, .own h⟩
  · exact ⟨_, .stem (not_exists.1 h)⟩

/-- What is read of the name of a file. -/
def nameIn (files : Tree) (file : Path) : Except Failure CodePoints :=
  (contentOf files file).map fun content =>
    (content.toOption.bind fun v => v.members?.bind (usableAt? "name")).getD (stemOf file)

theorem ownName_iff {files : Tree} {file : Path} {name : CodePoints} :
    OwnName files file name ↔ ∃ members, Describes files file members ∧ usableAt? "name" members = some name := by
  rw [OwnName]
  refine exists_congr fun members => ?_
  rw [usableAt?]
  constructor
  · rintro ⟨text, hd, hget, hfilled, rfl⟩
    refine ⟨hd, ?_⟩
    rw [hget, Option.bind_some, usable?, hfilled]
    rfl
  · rintro ⟨hd, hname⟩
    obtain ⟨v, hget, hv⟩ := Option.bind_eq_some_iff.1 hname
    cases v with
    | str text =>
      obtain ⟨hfilled, he⟩ := Option.ite_none_left_eq_some.1 hv
      exact ⟨text, hd, hget, Bool.eq_false_iff.2 hfilled, (Option.some.inj he).symm⟩
    | _ => cases hv

/-- The name can be read, and is the one that is shown, unless the file holds a number with too many digits. -/
theorem nameIn_eq_ok_iff {files : Tree} {file : Path} {name : CodePoints} :
    nameIn files file = .ok name ↔ (∀ digits, ¬ Oversized files file digits) ∧ Displays files file name := by
  rw [nameIn]
  cases hcontent : contentOf files file with
  | error failure =>
    obtain ⟨digits, ho, -⟩ := contentOf_eq_error.1 hcontent
    exact iff_of_false nofun fun h => h.1 digits ho
  | ok content =>
    have hlimits : ∀ digits, ¬ Oversized files file digits := by
      intro digits ho
      cases hcontent.symm.trans (contentOf_eq_error.2 ⟨digits, ho, rfl⟩)
    have hown : ∀ other, OwnName files file other ↔
        (content.toOption.bind fun v => v.members?.bind (usableAt? "name")) = some other := by
      intro other
      simp only [ownName_iff, ← contentOf_eq_obj_iff, hcontent, Except.ok.injEq]
      rcases content with notice | v
      · simp [Except.toOption]
      · cases v <;> simp [Except.toOption, Value.members?]
    rw [and_iff_right hlimits]
    simp only [Except.map, Except.ok.injEq]
    cases hread : content.toOption.bind fun v => v.members?.bind (usableAt? "name") with
    | none =>
      have hnone : ∀ other, ¬ OwnName files file other := by
        intro other h
        cases hread.symm.trans ((hown other).1 h)
      constructor
      · rintro rfl
        exact .stem hnone
      · rintro (h | -)
        · exact absurd h (hnone name)
        · rfl
    | some own =>
      have hsome : OwnName files file own := (hown own).2 hread
      constructor
      · rintro rfl
        exact .own hsome
      · rintro (h | h)
        · exact Option.some.inj (hread.symm.trans ((hown name).1 h))
        · exact absurd hsome (h own)

theorem outcome_displayName (file : Path) (workspace : Workspace) :
    (outcome (Library.displayName file) workspace).1 = nameIn workspace.files file := by
  rw [Library.displayName, nameIn, outcome_bind, outcome_get]
  simp only
  rw [outcome_bind, outcome_ofExcept]
  rcases contentOf workspace.files file with failure | notice | v <;> rfl

/-! ## All names -/

/-- Whether all steps give something, and what they give. -/
theorem exists_mapM_iff {α β : Type} {f : α → Except Failure β} {list : List α} :
    (∃ results, list.mapM f = .ok results) ↔ ∀ a ∈ list, ∃ b, f a = .ok b := by
  induction list with
  | nil => exact iff_of_true ⟨[], rfl⟩ nofun
  | cons a rest ih =>
    rw [List.mapM_cons, List.forall_mem_cons, ← ih]
    rcases f a with failure | b
    · exact iff_of_false nofun nofun
    · rcases rest.mapM f with failure | others
      · exact iff_of_false nofun nofun
      · exact iff_of_true ⟨_, rfl⟩ ⟨⟨_, rfl⟩, _, rfl⟩

theorem mem_of_mapM {α β : Type} {f : α → Except Failure β} {list : List α} {results : List β}
    (h : list.mapM f = .ok results) (b : β) : b ∈ results ↔ ∃ a ∈ list, f a = .ok b := by
  induction list generalizing results with
  | nil =>
    cases h
    exact iff_of_false nofun nofun
  | cons a rest ih =>
    rw [List.mapM_cons] at h
    cases hfirst : f a with
    | error failure => rw [hfirst] at h; cases h
    | ok first =>
      cases hrest : rest.mapM f with
      | error failure => rw [hfirst, hrest] at h; cases h
      | ok others =>
        rw [hfirst, hrest] at h
        cases h
        rw [List.mem_cons, ih hrest, @eq_comm _ b]
        simp [hfirst]

/-- No log file is one of the theme files. -/
def LogsElsewhere (workspace : Workspace) (directories : List Path) : Prop :=
  ∀ file place, IsThemeFile workspace.files directories file → Tree.locate workspace.files file = .ok place →
    place ∉ placesOf workspace.log.handlers

theorem logsElsewhere_of_unlogged {workspace : Workspace} (h : workspace.Unlogged) (directories : List Path) :
    LogsElsewhere workspace directories := by
  intro file place _ _
  rw [h]
  exact List.not_mem_nil

theorem contentOf_congr {files other : Tree} (hkinds : Tree.SameKinds files other) {file : Path}
    (h : ∀ place, Tree.locate files file = .ok place → Tree.lookup? other place = Tree.lookup? files place) :
    contentOf other file = contentOf files file := by
  have hread : Tree.read other file = Tree.read files file := by
    rw [Tree.read, Tree.read, hkinds.locate]
    cases hplace : Tree.locate files file with
    | error cause => rfl
    | ok place =>
      simp only [bind, Except.bind]
      rw [h place hplace]
  rw [contentOf, contentOf, hread]

theorem filesIn_congr {files other : Tree} (hkinds : Tree.SameKinds files other)
    (hentries : Keyed.keys other = Keyed.keys files) (directory : Path) :
    Library.filesIn other directory = Library.filesIn files directory := by
  rw [Library.filesIn, Library.filesIn, hkinds.locate]
  cases Tree.locate files directory with
  | error cause => rfl
  | ok place =>
    have hclosed := hkinds.sameDirectories place .closed rfl
    simp only
    by_cases hopen : Tree.lookup? files place = some .closed
    · rw [Tree.namesIn, Tree.namesIn, if_pos hopen, if_pos (hclosed.2 hopen)]
    · rw [namesIn_eq hopen, namesIn_eq (mt hclosed.1 hopen), hentries]

theorem nameIn_reportAll {directories : List Path} {workspace : Workspace} (hlog : LogsElsewhere workspace directories)
    {file : Path} (h : IsThemeFile workspace.files directories file) (notices : List Notice) :
    nameIn (workspace.reportAll notices).files file = nameIn workspace.files file := by
  have hdisturbs := workspace.reportAll_disturbs notices
  rw [nameIn, nameIn, contentOf_congr (workspace.reportAll_kinds notices) fun place hplace =>
    hdisturbs.elsewhere place (hlog file place h hplace)]

theorem outcome_displayNames {directories : List Path} {workspace : Workspace}
    (hlog : LogsElsewhere workspace directories) {list : List Path}
    (h : ∀ file ∈ list, IsThemeFile workspace.files directories file) (notices : List Notice) :
    (outcome (list.mapM Library.displayName) (workspace.reportAll notices)).1 =
      list.mapM (nameIn workspace.files) := by
  refine OnlyReports.outcome_mapM displayName_onlyReports (fun file hm notices => ?_) notices
  rw [outcome_displayName, nameIn_reportAll hlog (h file hm)]

/-- Reading the names of theme files, whatever has been reported, gives those that were there at the start. -/
theorem outcome_namesFrom {directories : List Path} {workspace : Workspace}
    (hnone : ∀ directory ∈ directories, ¬ Barred workspace.files directory)
    (hlog : LogsElsewhere workspace directories) (notices : List Notice) :
    (outcome (Library.namesFrom directories) (workspace.reportAll notices)).1 =
      (themeFiles workspace.files directories).mapM (nameIn workspace.files) := by
  induction directories generalizing notices with
  | nil => rfl
  | cons directory rest ih =>
    rw [List.forall_mem_cons] at hnone
    have hrest := fun later => ih hnone.2
      (fun file place ⟨other, hm, h⟩ => hlog file place ⟨other, List.mem_cons_of_mem _ hm, h⟩) later
    have hkinds := workspace.reportAll_kinds notices
    have hsame : Tree.isDirectory (workspace.reportAll notices).files directory =
        Tree.isDirectory workspace.files directory := hkinds.holds not directory
    rw [Library.namesFrom, outcome_bind, outcome_get, themeFiles, List.flatMap_cons, ← themeFiles]
    simp only [hsame]
    cases hdirectory : Tree.isDirectory workspace.files directory with
    | error cause => exact absurd ⟨cause, hdirectory⟩ hnone.1
    | ok found =>
      cases found with
      | false => exact hrest notices
      | true =>
        simp only [if_true]
        rw [outcome_bind, outcome_get]
        simp only
        rw [filesIn_congr hkinds (workspace.reportAll_entries notices), List.mapM_append, outcome_bind]
        have hfiles : ∀ file ∈ Library.filesIn workspace.files directory,
            IsThemeFile workspace.files (directory :: rest) file := by
          intro file hm
          rw [← mem_themeFiles_iff, themeFiles, List.flatMap_cons, if_pos hdirectory]
          exact List.mem_append_left _ hm
        have hlisted := outcome_displayNames hlog hfiles notices
        obtain ⟨later, hleft⟩ := OnlyReports.mapM displayName_onlyReports
          (Library.filesIn workspace.files directory) (workspace.reportAll notices)
        rw [← Workspace.reportAll_append] at hleft
        rw [← hlisted, ← hrest (notices ++ later), ← hleft]
        generalize outcome ((Library.filesIn workspace.files directory).mapM Library.displayName)
          (workspace.reportAll notices) = result
        obtain ⟨failure | names, left⟩ := result
        · rfl
        · simp only
          rw [outcome_bind]
          generalize outcome (Library.namesFrom rest) left = result
          obtain ⟨failure | others, last⟩ := result <;> rfl

/-! ## The names in order -/

/-- A theme file of the directories shows this name. -/
def Displayed (files : Tree) (directories : List Path) (name : CodePoints) : Prop :=
  ∃ file, IsThemeFile files directories file ∧ Displays files file name

/-- No two of these names fold alike. -/
def FoldApart (names : CodePoints → Prop) : Prop :=
  ∀ name other, names name → names other → caseFold name = caseFold other → name = other

section Names

variable {library : Library} {workspace : Workspace}

theorem outcome_names_themeFiles (hnone : ∀ directory ∈ library.directories, ¬ Barred workspace.files directory)
    (hlog : LogsElsewhere workspace library.directories) :
    (outcome library.names workspace).1 =
      ((themeFiles workspace.files library.directories).mapM (nameIn workspace.files)).map fun names =>
        names.eraseDups.mergeSort foldedLe := by
  rw [outcome_names]
  exact congrArg _ (outcome_namesFrom hnone hlog [])

theorem exists_names_iff (hnone : ∀ directory ∈ library.directories, ¬ Barred workspace.files directory)
    (hlog : LogsElsewhere workspace library.directories) :
    (∃ names, (outcome library.names workspace).1 = .ok names) ↔
      ∀ file digits, IsThemeFile workspace.files library.directories file →
        ¬ Oversized workspace.files file digits := by
  have hread : ∀ file, (∃ name, nameIn workspace.files file = .ok name) ↔
      ∀ digits, ¬ Oversized workspace.files file digits := by
    intro file
    simp only [nameIn_eq_ok_iff, exists_and_left, and_iff_left_iff_imp]
    exact fun _ => exists_displays workspace.files file
  have hmap : ∀ {result : Except Failure (List CodePoints)} {f : List CodePoints → List CodePoints},
      (∃ names, result.map f = .ok names) ↔ ∃ names, result = .ok names := by
    intro result f
    rcases result with failure | names
    · exact iff_of_false nofun nofun
    · exact iff_of_true ⟨_, rfl⟩ ⟨_, rfl⟩
  rw [outcome_names_themeFiles hnone hlog, hmap, exists_mapM_iff]
  simp only [mem_themeFiles_iff, hread]
  exact ⟨fun h file digits hfile => h file hfile digits, fun h file hfile digits => h file digits hfile⟩

variable {names : List CodePoints}

/-- The names that are listed are those that the theme files show, each of them once. -/
theorem mem_names_iff (hnone : ∀ directory ∈ library.directories, ¬ Barred workspace.files directory)
    (hlog : LogsElsewhere workspace library.directories) (h : (outcome library.names workspace).1 = .ok names) :
    (∀ name, name ∈ names ↔ Displayed workspace.files library.directories name) ∧ names.Nodup ∧
      names.Pairwise fun s t => foldedLe s t = true := by
  have hlimits := (exists_names_iff hnone hlog).1 ⟨names, h⟩
  rw [outcome_names_themeFiles hnone hlog] at h
  cases hread : (themeFiles workspace.files library.directories).mapM (nameIn workspace.files) with
  | error failure => rw [hread] at h; cases h
  | ok read =>
    rw [hread] at h
    cases h
    refine ⟨fun name => ?_, ?_, ?_⟩
    · rw [List.mem_mergeSort, List.mem_eraseDups, mem_of_mapM hread]
      refine exists_congr fun file => ?_
      rw [mem_themeFiles_iff, nameIn_eq_ok_iff]
      exact and_congr_right fun hfile => and_iff_right fun digits => hlimits file digits hfile
    · exact (List.mergeSort_perm _ _).nodup_iff.2 (Keyed.nodup_eraseDups read)
    · refine @List.pairwise_mergeSort CodePoints foldedLe (fun s t u => foldedLe_trans) (fun s t => ?_) _
      rw [Bool.or_eq_true]
      exact foldedLe_total s t

/-- Of names that do not fold alike, and come in order, one comes before the other. -/
theorem pairwise_folded (hnodup : names.Nodup) (hordered : names.Pairwise fun s t => foldedLe s t = true)
    (happart : FoldApart (· ∈ names)) :
    names.Pairwise fun s t => foldedLe s t = true ∧ caseFold s ≠ caseFold t :=
  (hnodup.and hordered).imp_of_mem fun hs ht hne => ⟨hne.2, fun he => hne.1 (happart _ _ hs ht he)⟩

/-- Names that do not fold alike can be put in order in one way. -/
theorem eq_of_ordered {others : List CodePoints} (hmem : ∀ name, name ∈ others ↔ name ∈ names)
    (hnodup : names.Nodup) (hnodup' : others.Nodup) (hordered : names.Pairwise fun s t => foldedLe s t = true)
    (hordered' : others.Pairwise fun s t => foldedLe s t = true) (happart : FoldApart (· ∈ names)) :
    others = names := by
  have hperm : others.Perm names := (List.perm_ext_iff_of_nodup hnodup' hnodup).2 hmem
  refine List.Perm.eq_of_pairwise (fun s t hs ht hst hts => ?_) hordered' hordered hperm
  exact happart s t ((hmem s).1 hs) ht (caseFold_eq_of_foldedLe hst hts)

end Names

theorem isThemeFile_congr {files : Tree} {directories others : List Path}
    (h : ∀ directory, directory ∈ others ↔ directory ∈ directories) (file : Path) :
    IsThemeFile files others file ↔ IsThemeFile files directories file :=
  exists_congr fun directory => and_congr_left' (h directory)

/-- The names of all themes, where every directory can be looked into and no log file is a theme file. There are
none exactly if a theme file holds a number with too many digits. Otherwise they are those that the theme files show,
each once; and if no two of them fold alike, they come in the order of their folded forms, and are the same for the
same directories in any other order, given however often. -/
theorem names_sorted {library : Library} {workspace : Workspace}
    (hnone : ∀ directory ∈ library.directories, ¬ Barred workspace.files directory)
    (hlog : LogsElsewhere workspace library.directories) :
    ((∃ names, (outcome library.names workspace).1 = .ok names) ↔
      ∀ file digits, IsThemeFile workspace.files library.directories file →
        ¬ Oversized workspace.files file digits) ∧
    ∀ names, (outcome library.names workspace).1 = .ok names →
      (∀ name, name ∈ names ↔ Displayed workspace.files library.directories name) ∧ names.Nodup ∧
      (FoldApart (Displayed workspace.files library.directories) →
        (names.Pairwise fun s t => foldedLe s t = true ∧ caseFold s ≠ caseFold t) ∧
        ∀ other : Library, (∀ directory, directory ∈ other.directories ↔ directory ∈ library.directories) →
          (outcome other.names workspace).1 = .ok names) := by
  refine ⟨exists_names_iff hnone hlog, fun names h => ?_⟩
  obtain ⟨hmem, hnodup, hordered⟩ := mem_names_iff hnone hlog h
  refine ⟨hmem, hnodup, fun happart => ?_⟩
  have hnames : FoldApart (· ∈ names) :=
    fun name other hname hother => happart name other ((hmem name).1 hname) ((hmem other).1 hother)
  refine ⟨pairwise_folded hnodup hordered hnames, fun other hsame => ?_⟩
  -- The other library has the same theme files, so it lists the same names.
  have hfiles : ∀ file, IsThemeFile workspace.files other.directories file ↔
      IsThemeFile workspace.files library.directories file := isThemeFile_congr hsame
  have hnone' : ∀ directory ∈ other.directories, ¬ Barred workspace.files directory :=
    fun directory hm => hnone directory ((hsame directory).1 hm)
  have hlog' : LogsElsewhere workspace other.directories :=
    fun file place hfile => hlog file place ((hfiles file).1 hfile)
  obtain ⟨others, hothers⟩ := (exists_names_iff hnone' hlog').2 fun file digits hfile =>
    (exists_names_iff hnone hlog).1 ⟨names, h⟩ file digits ((hfiles file).1 hfile)
  obtain ⟨hmem', hnodup', hordered'⟩ := mem_names_iff hnone' hlog' hothers
  have hshown : ∀ name, name ∈ others ↔ name ∈ names := by
    intro name
    rw [hmem', hmem]
    exact exists_congr fun file => and_congr_left' (hfiles file)
  rw [hothers, eq_of_ordered hshown hnodup hnodup' hordered hordered' hnames]

/-- A workspace with the file of a theme named `ocean` in the directory `t`, and a directory that is named like a
theme file. -/
def withOcean : Workspace where
  files := (⟨.workspace, ["t", "c.json"]⟩, .directory) ::
    (withThemeFile "\x7b\"name\":\" ocean \"\x7d").files

theorem nameIn_ocean : nameIn withOcean.files ⟨.here, ["t", "b.json"]⟩ = .ok "ocean" := by
  have hcontent : contentOf withOcean.files ⟨.here, ["t", "b.json"]⟩ = .ok (.ok (.obj [("name", .str " ocean ")])) :=
    contentOf_eq_obj_iff.2 ⟨_, _, rfl, decodeUtf8_toUTF8 _, rfl⟩
  rw [nameIn, hcontent]
  rfl

/-- The directory is named too, and neither a directory that is given twice nor one that is missing counts. -/
theorem names_sorted_ocean :
    let directories := [Path.ofText "t", Path.ofText "u", Path.ofText "t"]
    (∀ directory ∈ directories, ¬ Barred withOcean.files directory) ∧ LogsElsewhere withOcean directories ∧
      (outcome (Library.names ⟨directories⟩) withOcean).1 = .ok ["c", "ocean"] ∧
      (outcome (Library.names ⟨[Path.ofText "u", Path.ofText "t"]⟩) withOcean).1 = .ok ["c", "ocean"] := by
  intro directories
  have hnone : ∀ directory ∈ directories, ¬ Barred withOcean.files directory := by
    rintro directory hm ⟨cause, hcause⟩
    have hall : ∀ directory ∈ directories, (Tree.isDirectory withOcean.files directory).toOption.isSome = true := by
      decide +kernel
    have hsome := hall directory hm
    rw [hcause] at hsome
    cases hsome
  have hlog : LogsElsewhere withOcean directories :=
    logsElsewhere_of_unlogged (show withOcean.Unlogged from rfl) directories
  have hread : (themeFiles withOcean.files directories).mapM (nameIn withOcean.files) =
      .ok ["c", "ocean", "c", "ocean"] := by
    have hfiles : themeFiles withOcean.files directories = [⟨.here, ["t", "c.json"]⟩, ⟨.here, ["t", "b.json"]⟩,
        ⟨.here, ["t", "c.json"]⟩, ⟨.here, ["t", "b.json"]⟩] := rfl
    have hdirectory : nameIn withOcean.files ⟨.here, ["t", "c.json"]⟩ = .ok "c" := rfl
    simp only [hfiles, List.mapM_cons, List.mapM_nil, hdirectory, nameIn_ocean]
    rfl
  have hlisted : (outcome (Library.names ⟨directories⟩) withOcean).1 = .ok ["c", "ocean"] := by
    have hdistinct : [("c" : CodePoints), "ocean", "c", "ocean"].eraseDups = [("c" : CodePoints), "ocean"] := by
      decide +kernel
    rw [outcome_names_themeFiles hnone hlog, hread, Except.map, hdistinct,
      List.mergeSort_of_pairwise (by decide +kernel)]
  obtain ⟨hmem, -, hsame⟩ := (names_sorted hnone hlog).2 _ hlisted
  have happart : FoldApart (Displayed withOcean.files directories) := by
    have hall : ∀ name ∈ [("c" : CodePoints), "ocean"], ∀ other ∈ [("c" : CodePoints), "ocean"],
        caseFold name = caseFold other → name = other := by
      decide +kernel
    intro name other hname hother
    exact hall name ((hmem name).2 hname) other ((hmem other).2 hother)
  refine ⟨hnone, hlog, hlisted, (hsame happart).2 _ fun directory => ?_⟩
  simp [or_comm]

/-- A theme file holds a number of 4301 digits, and there are no names. -/
theorem names_long_number :
    (outcome (Library.names ⟨[Path.ofText "t"]⟩)
      (withThemeFile (memberText (List.replicate 4301 '7')))).1 = .error (.tooManyDigits digitLimit 4301) := by
  have hnone : ∀ text, ∀ directory ∈ [Path.ofText "t"], ¬ Barred (withThemeFile text).files directory := by
    rintro text directory hm ⟨cause, hcause⟩
    cases List.mem_singleton.1 hm
    cases (show Tree.isDirectory (withThemeFile text).files (Path.ofText "t") = .ok true from rfl).symm.trans hcause
  have hfiles : ∀ text, themeFiles (withThemeFile text).files [Path.ofText "t"] = [⟨.here, ["t", "b.json"]⟩] :=
    fun _ => rfl
  have hoversized := contentOf_eq_error.2
    ⟨_, oversized_withThemeFile.2 (read_sevens (by decide : digitLimit < 4301)), rfl⟩
  have hunlogged : ∀ text, (withThemeFile text).Unlogged := fun _ => rfl
  rw [outcome_names_themeFiles (hnone _) (logsElsewhere_of_unlogged (hunlogged _) _), hfiles, List.mapM_cons, nameIn,
    hoversized]
  rfl

end CodeMarkup.Theme
