/-!
Values under keys, in the order in which the keys first came. A list built by `set` holds each key
once: a later value takes the place of the earlier one (`nodup_keys_set`). Reading back what was set
is `get?_set`, and what setting does to the keys is `keys_set`.
-/

namespace CodeMarkup

/-- Values under keys, in order. -/
abbrev Keyed (α β : Type) := List (α × β)

namespace Keyed

variable {α β : Type} [DecidableEq α]

/-- The value under a key. -/
def get? (key : α) : Keyed α β → Option β
  | [] => none
  | (k, v) :: rest => if k = key then some v else get? key rest

/-- Puts a value under a key: at the key's place if it has one, else at the end. -/
def set (key : α) (value : β) : Keyed α β → Keyed α β
  | [] => [(key, value)]
  | (k, v) :: rest => if k = key then (k, value) :: rest else (k, v) :: set key value rest

/-- Puts every entry of `extra` into `entries`, in order. -/
def update (entries extra : Keyed α β) : Keyed α β :=
  extra.foldl (fun acc entry => Keyed.set entry.1 entry.2 acc) entries

/-- The entries of a list that may repeat keys: each key at its first place with its last value. -/
def ofList (entries : List (α × β)) : Keyed α β := update [] entries

/-- Leaves out the entry of a key. -/
def erase (key : α) (entries : Keyed α β) : Keyed α β :=
  entries.filter fun entry => entry.1 ≠ key

/-- The keys, in order. -/
def keys (entries : Keyed α β) : List α := entries.map (·.1)

/-- Whether a key has a value. -/
def has (key : α) (entries : Keyed α β) : Bool := (get? key entries).isSome

/-! ## Reading and setting -/

/-- Setting changes the value under the one key. -/
theorem get?_set (key other : α) (value : β) (entries : Keyed α β) :
    get? other (set key value entries) = if key = other then some value else get? other entries := by
  induction entries with
  | nil => simp [set, get?]
  | cons entry rest ih =>
    obtain ⟨k, v⟩ := entry
    by_cases hk : k = key
    · subst hk
      simp only [set, get?, if_true]
      split <;> simp_all
    · simp only [set, get?, hk, if_false, ih]
      split
      · next h => subst h; simp [Ne.symm hk]
      · rfl

theorem get?_erase (key other : α) (entries : Keyed α β) :
    get? other (erase key entries) = if key = other then none else get? other entries := by
  induction entries with
  | nil => simp [erase, get?]
  | cons entry rest ih =>
    obtain ⟨k, v⟩ := entry
    by_cases hk : k = key
    · subst hk
      rw [erase, List.filter_cons_of_neg (by simp), ← erase, ih, get?]
      split <;> rfl
    · rw [erase, List.filter_cons_of_pos (by simpa using hk), ← erase, get?, ih, get?]
      split
      · next h => rw [if_neg (h ▸ Ne.symm hk)]
      · rfl

theorem erase_cons_self (key : α) (value : β) (entries : Keyed α β) :
    erase key ((key, value) :: entries) = erase key entries :=
  List.filter_cons_of_neg (by simp)

theorem erase_cons_of_ne {key other : α} (h : other ≠ key) (value : β) (entries : Keyed α β) :
    erase key ((other, value) :: entries) = (other, value) :: erase key entries :=
  List.filter_cons_of_pos (by simpa using h)

theorem erase_set (key : α) (value : β) (entries : Keyed α β) :
    erase key (set key value entries) = erase key entries := by
  induction entries with
  | nil => simp [set, erase]
  | cons entry rest ih =>
    obtain ⟨k, v⟩ := entry
    by_cases hk : k = key
    · subst hk
      rw [set, if_pos rfl, erase_cons_self, erase_cons_self]
    · rw [set, if_neg hk, erase_cons_of_ne hk, erase_cons_of_ne hk, ih]

theorem erase_set_of_ne {key other : α} (h : other ≠ key) (value : β) (entries : Keyed α β) :
    erase key (set other value entries) = set other value (erase key entries) := by
  induction entries with
  | nil => rw [set, erase_cons_of_ne h]; rfl
  | cons entry rest ih =>
    obtain ⟨k, v⟩ := entry
    by_cases hk : k = other
    · subst hk
      rw [set, if_pos rfl, erase_cons_of_ne h, erase_cons_of_ne h, set, if_pos rfl]
    · rw [set, if_neg hk]
      by_cases he : k = key
      · subst he
        rw [erase_cons_self, erase_cons_self, ih]
      · rw [erase_cons_of_ne he, erase_cons_of_ne he, set, if_neg hk, ih]

/-- An update looks a key up among the new entries first. -/
theorem get?_update (key : α) (entries extra : Keyed α β) :
    get? key (update entries extra) = (get? key (ofList extra)).or (get? key entries) := by
  induction extra generalizing entries with
  | nil => rfl
  | cons entry extra ih =>
    have hstep : ∀ entries, update entries (entry :: extra) = update (set entry.1 entry.2 entries) extra :=
      fun _ => rfl
    rw [ofList, hstep, hstep, ih, ih, get?_set, get?_set, Option.or_assoc]
    split <;> rfl

/-- Of entries with the same key the last one counts. -/
theorem get?_ofList_append (key : α) (entries extra : List (α × β)) :
    get? key (ofList (entries ++ extra)) =
      (get? key (ofList extra)).or (get? key (ofList entries)) := by
  rw [ofList, update, List.foldl_append]
  exact get?_update key (ofList entries) extra

theorem mem_of_get? {key : α} {value : β} {entries : Keyed α β} (h : get? key entries = some value) :
    (key, value) ∈ entries := by
  induction entries with
  | nil => cases h
  | cons entry rest ih =>
    obtain ⟨k, v⟩ := entry
    rw [get?] at h
    split at h
    · next hk =>
      cases h
      rw [hk]
      exact List.mem_cons_self
    · exact List.mem_cons_of_mem _ (ih h)

/-- Setting adds a key at the end, unless it is there already. -/
theorem keys_set (key : α) (value : β) (entries : Keyed α β) :
    keys (set key value entries) =
      if key ∈ keys entries then keys entries else keys entries ++ [key] := by
  induction entries with
  | nil => simp [set, keys]
  | cons entry rest ih =>
    obtain ⟨k, v⟩ := entry
    by_cases hk : k = key
    · simp [set, keys, hk]
    · simp only [keys, set, hk, if_false, List.map_cons, List.mem_cons] at ih ⊢
      have hk' : key ≠ k := fun h => hk h.symm
      rw [ih]
      by_cases hm : key ∈ List.map (·.1) rest <;> simp [hm, hk']

/-- A list that holds each key once still does after setting. -/
theorem nodup_keys_set (key : α) (value : β) {entries : Keyed α β} (h : (keys entries).Nodup) :
    (keys (set key value entries)).Nodup := by
  rw [keys_set]
  split
  · exact h
  · next hk =>
    rw [List.nodup_append]
    refine ⟨h, by simp, ?_⟩
    rintro a ha b hb rfl
    exact hk (List.mem_singleton.1 hb ▸ ha)

theorem set_of_not_mem {key : α} {entries : Keyed α β} (h : key ∉ keys entries) (value : β) :
    set key value entries = entries ++ [(key, value)] := by
  induction entries with
  | nil => rfl
  | cons entry rest ih =>
    obtain ⟨k, v⟩ := entry
    rw [keys, List.map_cons, List.mem_cons, not_or] at h
    rw [set, if_neg (Ne.symm h.1), ih h.2, List.cons_append]

/-- New keys go to the end in their order. -/
theorem update_of_nodup {entries extra : Keyed α β} (h : (keys (entries ++ extra)).Nodup) :
    update entries extra = entries ++ extra := by
  induction extra generalizing entries with
  | nil => exact (List.append_nil entries).symm
  | cons entry extra ih =>
    have hnew : entry.1 ∉ keys entries := by
      intro hm
      rw [keys, List.map_append, List.nodup_append] at h
      exact h.2.2 _ hm _ List.mem_cons_self rfl
    have hset : Keyed.set entry.1 entry.2 entries = entries ++ [entry] := set_of_not_mem hnew entry.2
    show update (Keyed.set entry.1 entry.2 entries) extra = _
    rw [List.append_cons] at h ⊢
    rw [hset]
    exact ih h

/-- The keys are those under which there is a value. -/
theorem has_iff_mem_keys (key : α) (entries : Keyed α β) : has key entries = true ↔ key ∈ keys entries := by
  induction entries with
  | nil => simp [has, get?, keys]
  | cons entry rest ih =>
    obtain ⟨k, v⟩ := entry
    simp only [has, get?, keys, List.map_cons, List.mem_cons] at ih ⊢
    by_cases hk : k = key
    · simp [hk]
    · simp [hk, ih, Ne.symm hk]

end Keyed

end CodeMarkup
