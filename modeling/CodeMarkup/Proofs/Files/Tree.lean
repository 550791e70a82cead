import CodeMarkup.Files.Tree
import Mathlib.Logic.Basic
/-!
# The file tree

What stands where after an entry is put or taken away, and how a path is followed by a name.
-/

namespace CodeMarkup.Files

open CodeMarkup.Text

/-- An entry with nothing in it, which tells of what kind it is. -/
def Entry.emptied : Entry → Entry
  | file _ => file ByteArray.empty
  | entry => entry

namespace Tree

/-- Whether a directory stands at a place, be it one that may be entered or not. -/
def directoryAt (tree : Tree) (place : Place) : Bool := (lookup? tree place).any (!·.isFile)

/-- Whatever stands in the tree stands in a directory. -/
def Rooted (tree : Tree) : Prop :=
  ∀ place, (lookup? tree place).isSome = true → directoryAt tree place.parent = true

theorem directoryAt_of_directory {tree : Tree} {place : Place} (h : lookup? tree place = some .directory) :
    directoryAt tree place = true := by
  rw [directoryAt, h]
  rfl

/-! ## Changes -/

theorem lookup?_anchor (tree : Tree) {place : Place} (h : place.names = []) :
    lookup? tree place = some .directory := if_pos h

/-- Where there is no directory there is no anchor. -/
theorem names_ne_nil {tree : Tree} {place : Place} (h : directoryAt tree place = false) : place.names ≠ [] := by
  intro hn
  rw [directoryAt_of_directory (lookup?_anchor tree hn)] at h
  cases h

theorem lookup?_put_self (tree : Tree) {place : Place} (h : place.names ≠ []) (entry : Entry) :
    lookup? (put tree place entry) place = some entry := by
  rw [lookup?_put, if_neg h, if_pos rfl]

theorem lookup?_put_of_ne (tree : Tree) {place other : Place} (h : place ≠ other) (entry : Entry) :
    lookup? (put tree place entry) other = lookup? tree other := by
  rw [lookup?_put, if_neg h]
  split
  · next hn => rw [lookup?_anchor tree hn]
  · rfl

/-- Where there is a file, putting an entry adds none. -/
theorem keys_put {tree : Tree} {place : Place} {content : ByteArray}
    (h : lookup? tree place = some (.file content)) (entry : Entry) :
    Keyed.keys (put tree place entry) = Keyed.keys tree := by
  rw [lookup?] at h
  split at h
  · cases h
  · rw [put, Keyed.keys_set, if_pos ((Keyed.has_iff_mem_keys place tree).1 (by rw [Keyed.has, h]; rfl))]

theorem lookup?_erase_of_ne (tree : Tree) {place other : Place} (h : place ≠ other) :
    lookup? (Keyed.erase place tree) other = lookup? tree other := by
  rw [lookup?, lookup?, Keyed.get?_erase, if_neg h]

theorem rooted_of_forall_mem {tree : Tree}
    (h : ∀ row ∈ tree, lookup? tree row.1.parent = some .directory) : Rooted tree := by
  intro place hsome
  rw [lookup?] at hsome
  split at hsome
  · next hn =>
    -- An anchor lies in itself.
    rw [Place.parent, hn]
    exact directoryAt_of_directory (lookup?_anchor tree rfl)
  · obtain ⟨entry, hentry⟩ := Option.isSome_iff_exists.1 hsome
    exact directoryAt_of_directory (h _ (Keyed.mem_of_get? hentry))

/-! ## Paths -/

/-- A name for something in a directory, short enough for the file system. -/
structure Ordinary (name : String) : Prop where
  stays : Path.staysHere name = false
  climbs : CodePoints.ofString name ≠ ".."
  size : nameSize name ≤ Path.nameByteLimit

theorem walk_name {name : String} (h : Ordinary name) {tree : Tree} {place : Place}
    (hd : lookup? tree place = some .directory) (rest : List CodePoints) :
    walk tree place (name :: rest) = walk tree (place.child name) rest := by
  have hname : nameString? name = some name := by
    rw [nameString?, CodePoints.string?_ofString]
  rw [walk, hd]
  simp only [h.stays, h.climbs, Nat.not_lt.2 h.size, hname, Bool.false_eq_true, if_false]

theorem read_of_locate {tree : Tree} {path : Path} {place : Place} {content : ByteArray}
    (hp : locate tree path = .ok place) (hf : lookup? tree place = some (.file content)) :
    read tree path = .ok content := by
  rw [read, hp]
  simp only [bind, Except.bind, hf]

/-- A file may be written at a place unless a directory stands there. -/
theorem locateForWriting_of_locate {tree : Tree} {path : Path} {place : Place}
    (hsize : ¬ Path.byteLimit < path.size)
    (hslash : ¬ (1 < path.names.length ∧ path.names.getLast? = some [])) (hp : locate tree path = .ok place) :
    locateForWriting tree path =
      if directoryAt tree place then .error .isDirectory else .ok place := by
  rw [locateForWriting, if_neg hsize, if_neg hslash, hp, directoryAt]
  simp only [bind, Except.bind]
  rcases lookup? tree place with _ | _ | _ | content <;> rfl

/-! ## Paths that cannot be followed -/

/-- Names are followed on from where those before them lead. -/
theorem walk_append (tree : Tree) (place : Place) (names more : List CodePoints) :
    walk tree place (names ++ more) = (walk tree place names).bind (walk tree · more) := by
  fun_induction walk tree place names with
  | case1 => rfl
  | case8 | case9 => simp_all [walk, Except.bind, Nat.not_lt_of_le]
  | _ => simp_all [walk, Except.bind]

/-- What cannot be followed so far cannot be followed further. -/
theorem walk_append_error {tree : Tree} {place : Place} {names : List CodePoints} {cause : Cause}
    (h : walk tree place names = .error cause) (more : List CodePoints) :
    walk tree place (names ++ more) = .error cause := by
  rw [walk_append, h]
  rfl

theorem intercalate_append_singleton {separator name : CodePoints} {names : List CodePoints} (h : names ≠ []) :
    separator.intercalate (names ++ [name]) = separator.intercalate names ++ (separator ++ name) := by
  induction names with
  | nil => exact absurd rfl h
  | cons first rest ih =>
    cases rest with
    | nil => simp [List.intercalate]
    | cons second rest =>
      have hlater := ih (List.cons_ne_nil second rest)
      rw [List.cons_append] at hlater
      rw [List.cons_append, List.cons_append, List.intercalate_cons_cons, List.intercalate_cons_cons, hlater,
        List.append_assoc _ _ (separator ++ name)]

/-- Beyond the start, a further name is written after a slash. -/
theorem toText_child {path : Path} (h : path.names ≠ []) (name : CodePoints) :
    (path.child name).toText = path.toText ++ (Path.separator ++ name) := by
  obtain ⟨start, names⟩ := path
  obtain ⟨first, rest, rfl⟩ := List.exists_cons_of_ne_nil h
  have htext := @intercalate_append_singleton Path.separator name (first :: rest) h
  cases start <;> simp only [Path.child, Path.toText, List.cons_append, List.append_assoc] at htext ⊢ <;>
    rw [htext]

theorem nameBytes?_append {s t : CodePoints} {bytes more : List UInt8} (hs : nameBytes? s = some bytes)
    (ht : nameBytes? t = some more) : nameBytes? (s ++ t) = some (bytes ++ more) := by
  obtain ⟨parts, hparts, rfl⟩ := Option.map_eq_some_iff.1 hs
  obtain ⟨later, hlater, rfl⟩ := Option.map_eq_some_iff.1 ht
  rw [nameBytes?, List.mapM_append, hparts, hlater]
  simp

/-- A path that is too long stays so. -/
theorem size_child {path : Path} {name : CodePoints} (hname : (nameBytes? name).isSome)
    (h : Path.byteLimit < path.size) : Path.byteLimit < (path.child name).size := by
  have hnames : path.names ≠ [] := by
    intro hn
    obtain ⟨start, names⟩ := path
    cases hn
    cases start <;> exact absurd h (by decide)
  obtain ⟨more, hmore⟩ := Option.isSome_iff_exists.1 hname
  rw [Path.size, nameSize] at h ⊢
  cases hb : nameBytes? path.toText with
  | none =>
    rw [hb] at h
    exact absurd h (by decide)
  | some bytes =>
    have hslash : nameBytes? Path.separator = some [47] := by decide
    rw [toText_child hnames, nameBytes?_append hb (nameBytes?_append hslash hmore)]
    rw [hb] at h
    simp only [Option.getD_some, List.length_append] at h ⊢
    omega

theorem hasNul_child (path : Path) (name : CodePoints) :
    (path.child name).hasNul = (path.hasNul || name.contains (.char '\x00')) := by
  rw [Path.hasNul, Path.child, List.any_append, List.any_cons, List.any_nil, Bool.or_false]
  rfl

theorem hasBytes_child (path : Path) (name : CodePoints) :
    (path.child name).hasBytes = (path.hasBytes && (nameBytes? name).isSome) := by
  rw [Path.hasBytes, Path.child, List.all_append, List.all_cons, List.all_nil, Bool.and_true]
  rfl

/-- A name that a file can have. -/
def Writable (name : CodePoints) : Prop :=
  name.contains (.char '\x00') = false ∧ (nameBytes? name).isSome = true

instance (name : CodePoints) : Decidable (Writable name) := inferInstanceAs (Decidable (_ ∧ _))

theorem holds_child_of_not_writable {name : CodePoints} (h : ¬ Writable name) (tree : Tree)
    (property : Entry → Bool) (path : Path) : holds tree property (path.child name) = .ok false := by
  refine if_pos ?_
  rw [hasNul_child, hasBytes_child]
  rw [Writable, not_and_or, Bool.not_eq_false, Bool.not_eq_true] at h
  rcases h with h | h
  · rw [h, Bool.or_true, Bool.true_or]
  · rw [h, Bool.and_false, Bool.not_false, Bool.or_true]

/-- A question fails when the path cannot be followed, for another reason than that nothing is there. -/
theorem holds_eq_error_iff {tree : Tree} {property : Entry → Bool} {path : Path} {cause : Cause} :
    holds tree property path = .error cause ↔
      (path.hasNul = false ∧ path.hasBytes = true) ∧ locate tree path = .error cause ∧
        cause ≠ .notFound ∧ cause ≠ .notDirectory := by
  have hguard : (path.hasNul || !path.hasBytes) = false ↔ path.hasNul = false ∧ path.hasBytes = true := by
    rw [Bool.or_eq_false_iff, Bool.not_eq_false']
  rw [holds, ← hguard]
  cases path.hasNul || !path.hasBytes with
  | true => exact ⟨nofun, nofun⟩
  | false =>
    rw [if_neg Bool.false_ne_true]
    cases locate tree path with
    | ok place => exact ⟨nofun, nofun⟩
    | error other => cases other <;> cases cause <;> simp

theorem locate_child_error {tree : Tree} {path : Path} {name : CodePoints} {cause : Cause}
    (h : locate tree path = .error cause) (hname : (nameBytes? name).isSome) :
    locate tree (path.child name) = .error .nameTooLong ∨ locate tree (path.child name) = .error cause := by
  rw [locate] at h ⊢
  by_cases hsize : Path.byteLimit < (path.child name).size
  · exact .inl (if_pos hsize)
  · rw [if_neg fun hpath => hsize (size_child hname hpath)] at h
    rw [if_neg hsize]
    exact .inr (walk_append_error h [name])

/-- When a question about a path fails, so does one about what lies there. -/
theorem holds_child_error {tree : Tree} {property : Entry → Bool} {path : Path} {cause : Cause}
    (h : holds tree property path = .error cause) {name : CodePoints} (hname : Writable name)
    (property' : Entry → Bool) : ∃ cause', holds tree property' (path.child name) = .error cause' := by
  obtain ⟨hpath, hlocate, hcause⟩ := holds_eq_error_iff.1 h
  have hchild : (path.child name).hasNul = false ∧ (path.child name).hasBytes = true := by
    rw [hasNul_child, hasBytes_child, hpath.1, hpath.2, hname.1, hname.2]
    exact ⟨rfl, rfl⟩
  rcases locate_child_error hlocate hname.2 with hlong | hsame
  · exact ⟨_, holds_eq_error_iff.2 ⟨hchild, hlong, nofun, nofun⟩⟩
  · exact ⟨_, holds_eq_error_iff.2 ⟨hchild, hsame, hcause⟩⟩

/-- A name that is too long is an error, whatever is there. -/
theorem isDirectory_overlong (tree : Tree) {name : CodePoints} (hname : Writable name)
    (h : Path.nameByteLimit < nameSize name) :
    isDirectory tree ⟨.here, [name]⟩ = .error .nameTooLong := by
  refine holds_eq_error_iff.2 ⟨?_, ?_, nofun, nofun⟩
  · have hnul := hasNul_child ⟨.here, []⟩ name
    have hbytes := hasBytes_child ⟨.here, []⟩ name
    rw [hname.1] at hnul
    rw [hname.2] at hbytes
    exact ⟨hnul, hbytes⟩
  · have hstays : Path.staysHere name = false := by
      rw [Path.staysHere, Bool.or_eq_false_iff, decide_eq_false_iff_not, decide_eq_false_iff_not]
      constructor <;> rintro rfl <;> exact absurd h (by decide)
    have hclimbs : name ≠ CodePoints.ofString ".." := by
      rintro rfl
      exact absurd h (by decide)
    rw [locate]
    split
    · rfl
    · rw [walk, lookup?_anchor tree rfl]
      simp [hstays, hclimbs, h]

/-! ## Trees with files and directories at the same places -/

/-- Where one tree has a file, a directory or nothing the other one has too. -/
def SameKinds (tree other : Tree) : Prop :=
  ∀ place, (lookup? other place).map Entry.emptied = (lookup? tree place).map Entry.emptied

theorem SameKinds.walk {tree other : Tree} (h : SameKinds tree other) (place : Place)
    (names : List CodePoints) : Tree.walk other place names = Tree.walk tree place names := by
  induction names generalizing place with
  | nil => rfl
  | cons name rest ih =>
    have hkind := h place
    simp only [Tree.walk, ih]
    generalize lookup? tree place = entry at hkind
    generalize lookup? other place = entry' at hkind
    rcases entry with _ | _ | _ | _ <;> rcases entry' with _ | _ | _ | _ <;> simp [Entry.emptied] at hkind ⊢

theorem SameKinds.locate {tree other : Tree} (h : SameKinds tree other) (path : Path) :
    Tree.locate other path = Tree.locate tree path := by
  rw [Tree.locate, Tree.locate, h.walk]

/-- A question about files and directories has the same answer. -/
theorem SameKinds.holds {tree other : Tree} (h : SameKinds tree other) (property : Bool → Bool) (path : Path) :
    Tree.holds other (property ·.isFile) path = Tree.holds tree (property ·.isFile) path := by
  have hany : ∀ place, (lookup? other place).any (property ·.isFile) =
      (lookup? tree place).any (property ·.isFile) := by
    intro place
    have hmap : ∀ files, (lookup? files place).any (property ·.isFile) =
        ((lookup? files place).map Entry.emptied).any (property ·.isFile) := by
      intro files
      rcases lookup? files place with _ | _ | _ | content <;> rfl
    rw [hmap, hmap, h place]
  simp only [Tree.holds, h.locate, hany]

/-! ## Trees with the same directories -/

/-- The trees differ in their files only. -/
def SameDirectories (tree other : Tree) : Prop :=
  ∀ place entry, entry.isFile = false → (lookup? other place = some entry ↔ lookup? tree place = some entry)

/-- Trees with files and directories at the same places differ in the content of files at most. -/
theorem SameKinds.sameDirectories {tree other : Tree} (h : SameKinds tree other) : SameDirectories tree other := by
  intro place entry hentry
  have hemptied : ∀ found : Option Entry, found = some entry ↔ found.map Entry.emptied = some entry := by
    intro found
    rcases found with _ | _ | _ | _ <;> cases entry <;> simp [Entry.emptied, Entry.isFile] at hentry ⊢
  rw [hemptied, hemptied (lookup? tree place), h place]

theorem SameDirectories.refl (tree : Tree) : SameDirectories tree tree := fun _ _ _ => Iff.rfl

theorem SameDirectories.symm {tree other : Tree} (h : SameDirectories tree other) : SameDirectories other tree :=
  fun place entry hentry => (h place entry hentry).symm

theorem SameDirectories.trans {tree other last : Tree} (h : SameDirectories tree other)
    (h' : SameDirectories other last) : SameDirectories tree last :=
  fun place entry hentry => (h' place entry hentry).trans (h place entry hentry)

theorem directoryAt_iff {tree : Tree} {place : Place} :
    directoryAt tree place = true ↔ ∃ entry, lookup? tree place = some entry ∧ entry.isFile = false := by
  rw [directoryAt, Option.any_eq_true]
  simp only [Bool.not_eq_true']

theorem SameDirectories.directoryAt {tree other : Tree} (h : SameDirectories tree other) (place : Place) :
    Tree.directoryAt other place = Tree.directoryAt tree place := by
  rw [Bool.eq_iff_iff, directoryAt_iff, directoryAt_iff]
  exact exists_congr fun entry => and_congr_left fun hentry => h place entry hentry

/-- A file is put where there is no directory. -/
theorem sameDirectories_put {tree : Tree} {place : Place} (h : directoryAt tree place = false)
    (content : ByteArray) : SameDirectories tree (put tree place (.file content)) := by
  intro other entry hentry
  by_cases he : place = other
  · rw [← he, lookup?_put_self tree (names_ne_nil h)]
    refine iff_of_false ?_ fun hd => ?_
    · rintro ⟨⟩
      cases hentry
    · rw [directoryAt_iff.2 ⟨entry, hd, hentry⟩] at h
      cases h
  · rw [lookup?_put_of_ne tree he]

theorem directory_of_walk {tree : Tree} {place target : Place} {name : CodePoints} {rest : List CodePoints}
    (h : walk tree place (name :: rest) = .ok target) : lookup? tree place = some .directory := by
  rw [walk] at h
  split at h
  · cases h
  · cases h
  · cases h
  · assumption

theorem SameDirectories.walk {tree other : Tree} (h : SameDirectories tree other) {place target : Place}
    {names : List CodePoints} (hw : Tree.walk tree place names = .ok target) :
    Tree.walk other place names = .ok target := by
  induction names generalizing place with
  | nil => exact hw
  | cons name rest ih =>
    have hd := directory_of_walk hw
    rw [Tree.walk, hd] at hw
    rw [Tree.walk, (h place _ rfl).2 hd]
    simp only at hw ⊢
    split
    · next hstays =>
      rw [if_pos hstays] at hw
      exact ih hw
    · next hstays =>
      rw [if_neg hstays] at hw
      split
      · next hclimbs =>
        rw [if_pos hclimbs] at hw
        exact ih hw
      · next hclimbs =>
        rw [if_neg hclimbs] at hw
        split
        · next hlong =>
          rw [if_pos hlong] at hw
          cases hw
        · next hlong =>
          rw [if_neg hlong] at hw
          split at hw
          · cases hw
          · exact ih hw

theorem SameDirectories.locate {tree other : Tree} (h : SameDirectories tree other) {path : Path} {place : Place}
    (hl : Tree.locate tree path = .ok place) : Tree.locate other path = .ok place := by
  rw [Tree.locate] at hl ⊢
  split at hl
  · cases hl
  · next hsize =>
    rw [if_neg hsize]
    exact h.walk hl

/-- A file can be written at a place that a path leads to, unless there is a directory. -/
theorem locateForWriting_eq_ok_iff {tree : Tree} {path : Path} {place : Place} :
    locateForWriting tree path = .ok place ↔
      ¬ (1 < path.names.length ∧ path.names.getLast? = some []) ∧ locate tree path = .ok place ∧
        directoryAt tree place = false := by
  by_cases hsize : Path.byteLimit < path.size
  · rw [locateForWriting, locate, if_pos hsize, if_pos hsize]
    exact ⟨nofun, nofun⟩
  by_cases hslash : 1 < path.names.length ∧ path.names.getLast? = some []
  · refine ⟨fun h => ?_, fun h => absurd hslash h.1⟩
    rw [locateForWriting, if_neg hsize, if_pos hslash] at h
    simp only [bind, Except.bind] at h
    split at h <;> cases h
  cases hl : locate tree path with
  | error =>
    rw [locateForWriting, if_neg hsize, if_neg hslash, hl]
    exact ⟨nofun, nofun⟩
  | ok found =>
    rw [locateForWriting_of_locate hsize hslash hl]
    constructor
    · intro h
      split at h
      · cases h
      · next hd =>
        cases h
        exact ⟨hslash, rfl, Bool.eq_false_iff.2 hd⟩
    · rintro ⟨-, ⟨⟩, hd⟩
      rw [hd]
      rfl

end Tree

end CodeMarkup.Files
