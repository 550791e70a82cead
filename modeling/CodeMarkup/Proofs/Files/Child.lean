import CodeMarkup.Proofs.Files.Tree
/-!
# Files right in a directory

A text joined to the path of a directory can lead anywhere: it may climb, start anew at the root, or go through
several directories. If it is the name of something in a directory (`IsName`) it goes one step down
(`joined_name`), and so does what it leads to in the tree (`LeadsToFile.child`).
-/

namespace CodeMarkup.Files

open CodeMarkup.Text

/-! ## Paths joined -/

/-- The path that a text gives seen from a directory. A text that starts with a slash starts anew. -/
def Path.joined (path : Path) (text : CodePoints) : Path :=
  if Path.startOf text = .here then ⟨path.start, path.names ++ (Path.ofText text).names⟩ else Path.ofText text

/-- A text that names something in a directory: it is one name, and leads neither back nor nowhere. -/
structure IsName (text : CodePoints) : Prop where
  single : .char '/' ∉ text
  stays : Path.staysHere text = false
  climbs : text ≠ ".."

theorem startOf_of_not_mem {text : CodePoints} (h : .char '/' ∉ text) : Path.startOf text = .here := by
  unfold Path.startOf
  split <;> simp_all

/-- A single name is joined as it is. -/
theorem Path.joined_name {text : CodePoints} (h : IsName text) (path : Path) : path.joined text = path.child text := by
  have hnames : (Path.ofText text).names = [text] := by
    rw [Path.ofText, Path.namesOf, splitOn_of_not_mem h.single, List.filter_cons_of_pos (by rw [h.stays]; rfl)]
    rfl
  rw [Path.joined, if_pos (startOf_of_not_mem h.single), hnames, Path.child]

namespace Tree

/-! ## Paths of files -/

/-- A file stands where a path leads, and the path is one that can be followed. -/
def LeadsToFile (tree : Tree) (path : Path) : Prop :=
  (path.hasNul = false ∧ path.hasBytes = true) ∧
    ∃ place content, locate tree path = .ok place ∧ lookup? tree place = some (.file content)

theorem isFile_eq_true_iff {tree : Tree} {path : Path} : isFile tree path = .ok true ↔ LeadsToFile tree path := by
  rw [isFile, holds, LeadsToFile]
  by_cases hpath : path.hasNul = false ∧ path.hasBytes = true
  · rw [if_neg (by simp [hpath])]
    cases locate tree path with
    | error cause => cases cause <;> simp
    | ok place =>
      rcases hentry : lookup? tree place with _ | _ | content <;> simp [hpath, hentry, Entry.isFile]
  · rw [if_pos (by simpa [Classical.or_iff_not_imp_left] using hpath)]
    refine iff_of_false ?_ fun h => hpath h.1
    rintro ⟨⟩

/-- A name by itself leads one step down, if it leads anywhere. -/
theorem walk_singleton {tree : Tree} {place target : Place} {name : CodePoints} (hname : IsName name)
    (h : walk tree place [name] = .ok target) :
    lookup? tree place = some .directory ∧
      ∃ string, nameString? name = some string ∧ target = place.child string := by
  have hd := directory_of_walk h
  rw [walk, hd] at h
  simp only [hname.stays, hname.climbs, Bool.false_eq_true, if_false] at h
  split at h
  · cases h
  split at h
  · cases h
  · next string hs =>
    cases h
    exact ⟨hd, string, hs, rfl⟩

/-- What a name leads to lies right in the directory that the path before it leads to. -/
theorem locate_child {tree : Tree} {path : Path} {name : CodePoints} {target : Place} (hname : IsName name)
    (hbytes : (nameBytes? name).isSome = true) (h : locate tree (path.child name) = .ok target) :
    ∃ place string, locate tree path = .ok place ∧ lookup? tree place = some .directory ∧
      nameString? name = some string ∧ target = place.child string := by
  rw [locate] at h
  split at h
  · cases h
  · next hsize =>
    rw [Path.child, walk_append] at h
    cases hplace : walk tree path.start.place path.names with
    | error cause =>
      rw [hplace] at h
      cases h
    | ok place =>
      rw [hplace] at h
      obtain ⟨hd, string, hs, rfl⟩ := walk_singleton hname h
      -- A path is no longer than those below it.
      refine ⟨place, string, ?_, hd, hs, rfl⟩
      rw [locate, if_neg fun hlong => hsize (size_child hbytes hlong), hplace]

/-- The file that a path leads to stands right in a directory, and under this name. -/
structure DirectlyIn (tree : Tree) (directory : Path) (name : CodePoints) (file : Path) : Prop where
  /-- The path is that of the directory with the name after it. -/
  path : file = directory.child name
  /-- The name is one that a file can have. -/
  writable : Writable name
  /-- The directory is there and holds a file of this name, which is where the path leads. -/
  place : ∃ place string content, locate tree directory = .ok place ∧ lookup? tree place = some .directory ∧
    nameString? name = some string ∧ locate tree file = .ok (place.child string) ∧
    lookup? tree (place.child string) = some (.file content)

theorem LeadsToFile.child {tree : Tree} {directory : Path} {name : CodePoints} (hname : IsName name)
    (h : LeadsToFile tree (directory.child name)) : DirectlyIn tree directory name (directory.child name) := by
  obtain ⟨⟨hnul, hbytes⟩, target, content, htarget, hfile⟩ := h
  rw [hasNul_child, Bool.or_eq_false_iff] at hnul
  rw [hasBytes_child, Bool.and_eq_true] at hbytes
  obtain ⟨place, string, hplace, hd, hs, rfl⟩ := locate_child hname hbytes.2 htarget
  exact ⟨rfl, ⟨hnul.2, hbytes.2⟩, place, string, content, hplace, hd, hs, htarget, hfile⟩

end Tree

end CodeMarkup.Files
