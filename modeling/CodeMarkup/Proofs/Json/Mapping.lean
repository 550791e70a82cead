import CodeMarkup.Json.Value
import CodeMarkup.Proofs.Keyed
import Mathlib.Data.List.Basic
/-!
# JSON values as mappings

Objects are compared by what they have under each key, at every level (`Value.Alike`), so the order of members
does not count. `Value.Distinct` says that no object repeats a key, and `Value.Plain` that there are only whole
numbers and no surrogates. Sorting the members at every level gives a value that is alike
(`Value.alike_sorted`).
-/

namespace CodeMarkup

namespace Json.Value

open CodeMarkup.Text

/-! ## Kinds of values -/

/-- Only whole numbers, and no surrogates. -/
inductive Plain : Value → Prop
  | null : Plain .null
  | bool (b : Bool) : Plain (.bool b)
  | int (n : Int) : Plain (.int n)
  | str (s : String) : Plain (.str s)
  | arr {items : List Value} (h : ∀ v ∈ items, Plain v) : Plain (.arr items)
  | obj {members : List (CodePoints × Value)} (hkeys : ∀ entry ∈ members, ∃ key : String, entry.1 = key)
      (h : ∀ entry ∈ members, Plain entry.2) : Plain (.obj members)

/-- No object repeats a key. -/
inductive Distinct : Value → Prop
  | null : Distinct .null
  | bool (b : Bool) : Distinct (.bool b)
  | int (n : Int) : Distinct (.int n)
  | real (x : Decimal.Binary64) : Distinct (.real x)
  | str (s : CodePoints) : Distinct (.str s)
  | arr {items : List Value} (h : ∀ v ∈ items, Distinct v) : Distinct (.arr items)
  | obj {members : List (CodePoints × Value)} (hkeys : (Keyed.keys members).Nodup)
      (h : ∀ entry ∈ members, Distinct entry.2) : Distinct (.obj members)

/-- Equal but for the order of members. -/
inductive Alike : Value → Value → Prop
  | null : Alike .null .null
  | bool (b : Bool) : Alike (.bool b) (.bool b)
  | int (n : Int) : Alike (.int n) (.int n)
  | real (x : Decimal.Binary64) : Alike (.real x) (.real x)
  | str (s : CodePoints) : Alike (.str s) (.str s)
  | arr {items items' : List Value} (hlength : items.length = items'.length)
      (h : ∀ i (hi : i < items.length) (hi' : i < items'.length), Alike items[i] items'[i]) :
      Alike (.arr items) (.arr items')
  | obj {members members' : List (CodePoints × Value)}
      (hkeys : ∀ key, (Keyed.get? key members).isSome = (Keyed.get? key members').isSome)
      (h : ∀ key v v', Keyed.get? key members = some v → Keyed.get? key members' = some v' → Alike v v') :
      Alike (.obj members) (.obj members')

theorem Alike.get?_none {members members' : Keyed CodePoints Value}
    (h : Alike (.obj members) (.obj members')) {key : CodePoints} (hn : Keyed.get? key members' = none) :
    Keyed.get? key members = none := by
  cases h with
  | obj hkeys _ =>
    have hsome := hkeys key
    rwa [hn, Option.isSome_none, Option.isSome_eq_false_iff, Option.isNone_iff_eq_none] at hsome

theorem Alike.get?_some {members members' : Keyed CodePoints Value}
    (h : Alike (.obj members) (.obj members')) {key : CodePoints} {v' : Value}
    (hv : Keyed.get? key members' = some v') : ∃ v, Keyed.get? key members = some v ∧ Alike v v' := by
  cases h with
  | obj hkeys h =>
    have hsome := hkeys key
    rw [hv, Option.isSome_some, Option.isSome_iff_exists] at hsome
    obtain ⟨v, hsome⟩ := hsome
    exact ⟨v, hsome, h key v v' hsome hv⟩

theorem Alike.refl {v : Value} (h : v.Distinct) : Alike v v := by
  induction h with
  | null => exact .null
  | bool b => exact .bool b
  | int n => exact .int n
  | real x => exact .real x
  | str s => exact .str s
  | arr _ ih => exact .arr rfl fun i hi _ => ih _ (List.getElem_mem hi)
  | obj _ _ ih =>
    refine .obj (fun _ => rfl) fun key v v' hv hv' => ?_
    cases hv.symm.trans hv'
    exact ih (key, v) (Keyed.mem_of_get? hv)

theorem Alike.trans {u v w : Value} (h : Alike u v) (h' : Alike v w) : Alike u w := by
  induction h generalizing w with
  | null => exact h'
  | bool b => exact h'
  | int n => exact h'
  | real x => exact h'
  | str s => exact h'
  | arr hlength _ ih =>
    cases h' with
    | arr hlength' h' =>
      refine .arr (hlength.trans hlength') fun i hi hi' => ?_
      exact ih i hi (hlength ▸ hi) (h' i (hlength ▸ hi) hi')
  | obj hkeys _ ih =>
    cases h' with
    | obj hkeys' h' =>
      refine .obj (fun key => (hkeys key).trans (hkeys' key)) fun key a c ha hc => ?_
      have hsome := hkeys key
      rw [ha, Option.isSome_some, eq_comm, Option.isSome_iff_exists] at hsome
      obtain ⟨b, hb⟩ := hsome
      exact ih key a b ha hb (h' key b c hb hc)

/-- Setting the same key in mappings that are alike. -/
theorem Alike.set {members members' : Keyed CodePoints Value} {v v' : Value}
    (h : Alike (.obj members) (.obj members')) (hv : Alike v v') (key : CodePoints) :
    Alike (.obj (Keyed.set key v members)) (.obj (Keyed.set key v' members')) := by
  cases h with
  | obj hkeys h =>
    refine .obj (fun other => ?_) fun other a a' ha ha' => ?_
    · rw [Keyed.get?_set, Keyed.get?_set]
      split
      · rfl
      · exact hkeys other
    · rw [Keyed.get?_set] at ha ha'
      split at ha
      · next he =>
        rw [if_pos he] at ha'
        cases ha
        cases ha'
        exact hv
      · next he =>
        rw [if_neg he] at ha'
        exact h other a a' ha ha'

/-- Leaving out the same key of mappings that are alike. -/
theorem Alike.erase {members members' : Keyed CodePoints Value} (h : Alike (.obj members) (.obj members'))
    (key : CodePoints) : Alike (.obj (Keyed.erase key members)) (.obj (Keyed.erase key members')) := by
  cases h with
  | obj hkeys h =>
    refine .obj (fun other => ?_) fun other a a' ha ha' => ?_
    · rw [Keyed.get?_erase, Keyed.get?_erase]
      split
      · rfl
      · exact hkeys other
    · rw [Keyed.get?_erase] at ha ha'
      split at ha
      · cases ha
      · next he =>
        rw [if_neg he] at ha'
        exact h other a a' ha ha'

/-! ## Sorted members -/

/-- Members in the order of their keys. -/
def sortKeys (members : List (CodePoints × Value)) : List (CodePoints × Value) :=
  members.mergeSort fun a b => CodePoints.le a.1 b.1

mutual

/-- A value with the members of its objects in the order of their keys. -/
def sorted : Value → Value
  | .null => .null
  | .bool b => .bool b
  | .int n => .int n
  | .real x => .real x
  | .str s => .str s
  | .arr items => .arr (sortedItems items)
  | .obj members => .obj (sortKeys (sortedMembers members))

/-- Items with sorted members. -/
def sortedItems : List Value → List Value
  | [] => []
  | v :: rest => v.sorted :: sortedItems rest

/-- Members whose values have sorted members. -/
def sortedMembers : List (CodePoints × Value) → List (CodePoints × Value)
  | [] => []
  | (key, v) :: rest => (key, v.sorted) :: sortedMembers rest

end

theorem sortedItems_eq_map (items : List Value) : sortedItems items = items.map sorted := by
  induction items with
  | nil => rfl
  | cons v rest ih => rw [sortedItems, ih, List.map_cons]

theorem sortedMembers_eq_map (members : List (CodePoints × Value)) :
    sortedMembers members = members.map fun entry => (entry.1, entry.2.sorted) := by
  induction members with
  | nil => rfl
  | cons entry rest ih => rw [sortedMembers, ih, List.map_cons]

theorem sorted_arr (items : List Value) : (Value.arr items).sorted = .arr (items.map sorted) := by
  rw [sorted, sortedItems_eq_map]

theorem sorted_obj (members : List (CodePoints × Value)) :
    (Value.obj members).sorted =
      .obj (sortKeys (members.map fun entry => (entry.1, entry.2.sorted))) := by
  rw [sorted, sortedMembers_eq_map]

theorem keys_map_sorted (members : List (CodePoints × Value)) :
    Keyed.keys (members.map fun entry => (entry.1, entry.2.sorted)) = Keyed.keys members := by
  rw [Keyed.keys, List.map_map]
  rfl

theorem mem_sortKeys {members : List (CodePoints × Value)} {entry : CodePoints × Value} :
    entry ∈ sortKeys (members.map fun entry => (entry.1, entry.2.sorted)) ↔
      ∃ member ∈ members, (member.1, member.2.sorted) = entry := by
  rw [sortKeys, List.mem_mergeSort, List.mem_map]

theorem Distinct.sorted {v : Value} (h : v.Distinct) : v.sorted.Distinct := by
  induction h with
  | null => exact .null
  | bool b => exact .bool b
  | int n => exact .int n
  | real x => exact .real x
  | str s => exact .str s
  | arr _ ih =>
    rw [sorted_arr]
    refine .arr fun w hw => ?_
    obtain ⟨v, hv, rfl⟩ := List.mem_map.1 hw
    exact ih v hv
  | @obj members hkeys _ ih =>
    rw [sorted_obj]
    refine .obj ?_ fun entry hm => ?_
    · rw [← keys_map_sorted] at hkeys
      exact (List.Perm.map Prod.fst (List.mergeSort_perm _ _)).nodup_iff.2 hkeys
    · obtain ⟨member, hmember, rfl⟩ := mem_sortKeys.1 hm
      exact ih member hmember

theorem Plain.sorted {v : Value} (h : v.Plain) : v.sorted.Plain := by
  induction h with
  | null => exact .null
  | bool b => exact .bool b
  | int n => exact .int n
  | str s => exact .str s
  | arr _ ih =>
    rw [sorted_arr]
    refine .arr fun w hw => ?_
    obtain ⟨v, hv, rfl⟩ := List.mem_map.1 hw
    exact ih v hv
  | obj hkeys _ ih =>
    rw [sorted_obj]
    refine .obj (fun entry hm => ?_) fun entry hm => ?_
    · obtain ⟨member, hmember, rfl⟩ := mem_sortKeys.1 hm
      exact hkeys member hmember
    · obtain ⟨member, hmember, rfl⟩ := mem_sortKeys.1 hm
      exact ih member hmember

/-- Sorting the members changes nothing but their order. -/
theorem alike_sorted {v : Value} (h : v.Distinct) : Alike v.sorted v := by
  induction h with
  | null => exact .null
  | bool b => exact .bool b
  | int n => exact .int n
  | real x => exact .real x
  | str s => exact .str s
  | arr _ ih =>
    rw [sorted_arr]
    refine .arr (List.length_map _) fun i hi hi' => ?_
    rw [List.getElem_map]
    exact ih _ (List.getElem_mem hi')
  | @obj members hkeys _ ih =>
    have hget : ∀ key, Keyed.get? key (sortKeys (members.map fun entry => (entry.1, entry.2.sorted))) =
        (Keyed.get? key members).map Value.sorted := by
      intro key
      rw [← keys_map_sorted] at hkeys
      rw [← Keyed.get?_map, Keyed.get?_perm (List.mergeSort_perm _ _).symm hkeys]
      rfl
    rw [sorted_obj]
    refine .obj (fun key => ?_) fun key v v' hv hv' => ?_
    · rw [hget, Option.isSome_map]
    · rw [hget, hv'] at hv
      cases hv
      exact ih (key, v') (Keyed.mem_of_get? hv')

/-! ## Setting a key -/

theorem Plain.set {members : Keyed CodePoints Value} {v : Value} (h : (Value.obj members).Plain) (hv : v.Plain)
    (key : String) : (Value.obj (Keyed.set key v members)).Plain := by
  cases h with
  | obj hkeys h =>
    refine .obj (fun entry hm => ?_) fun entry hm => ?_
    · rcases Keyed.mem_set hm with rfl | hm
      · exact ⟨key, rfl⟩
      · exact hkeys entry hm
    · rcases Keyed.mem_set hm with rfl | hm
      · exact hv
      · exact h entry hm

theorem Distinct.set {members : Keyed CodePoints Value} {v : Value} (h : (Value.obj members).Distinct)
    (hv : v.Distinct) (key : CodePoints) : (Value.obj (Keyed.set key v members)).Distinct := by
  cases h with
  | obj hkeys h =>
    refine .obj (Keyed.nodup_keys_set key v hkeys) fun entry hm => ?_
    rcases Keyed.mem_set hm with rfl | hm
    · exact hv
    · exact h entry hm

end Json.Value

end CodeMarkup
