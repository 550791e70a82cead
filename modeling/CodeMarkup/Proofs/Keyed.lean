import CodeMarkup.Keyed
import Mathlib.Data.List.Induction
/-!
# Updates of keyed values

Updating with entries, or first putting the entries in order and then updating with them, comes to the same
(`update_ofList`), since a key that has a place keeps it whatever is set before or after (`set_comm`). Leaving
out a key can be done before an update or after it (`erase_update`). The keys of entries in order are those that
were given, each where it first came (`keys_ofList`).
-/

namespace CodeMarkup.Keyed

/-! ## Lists without repetition -/

section EraseDups

variable {α : Type} [BEq α] [LawfulBEq α]

/-- Of a list without repetition only new elements make a longer one. -/
theorem eraseDups_concat (list : List α) (a : α) :
    (list ++ [a]).eraseDups = if a ∈ list then list.eraseDups else list.eraseDups ++ [a] := by
  rw [List.eraseDups_append, List.removeAll]
  split
  · next hm => rw [List.filter_cons_of_neg (by simpa using hm)]; simp
  · next hm => rw [List.filter_cons_of_pos (by simpa using hm)]; rfl

theorem nodup_eraseDups (list : List α) : list.eraseDups.Nodup := by
  induction list using List.reverseRecOn with
  | nil => exact List.nodup_nil
  | append_singleton list a ih =>
    rw [eraseDups_concat]
    split
    · exact ih
    · next hm =>
      rw [List.nodup_append]
      refine ⟨ih, by simp, ?_⟩
      rintro b hb c hc rfl
      exact hm (List.mem_eraseDups.1 (List.mem_singleton.1 hc ▸ hb))

end EraseDups

variable {α β γ : Type} [DecidableEq α]

/-! ## Reading -/

theorem get?_of_mem {entries : Keyed α β} (h : (keys entries).Nodup) {key : α} {value : β}
    (hm : (key, value) ∈ entries) : get? key entries = some value := by
  induction entries with
  | nil => cases hm
  | cons entry rest ih =>
    obtain ⟨k, v⟩ := entry
    rw [keys, List.map_cons, List.nodup_cons] at h
    rcases List.mem_cons.1 hm with he | hm
    · cases he
      rw [get?, if_pos rfl]
    · have hk : k ≠ key := by
        rintro rfl
        exact h.1 (List.mem_map.2 ⟨_, hm, rfl⟩)
      rw [get?, if_neg hk]
      exact ih h.2 hm

/-- The order of entries with distinct keys does not count. -/
theorem get?_perm {entries entries' : Keyed α β} (hp : entries.Perm entries') (h : (keys entries).Nodup)
    (key : α) : get? key entries = get? key entries' := by
  have h' : (keys entries').Nodup := (List.Perm.map Prod.fst hp).nodup_iff.1 h
  cases hg : get? key entries with
  | some value => exact (get?_of_mem h' (hp.subset (mem_of_get? hg))).symm
  | none =>
    cases hg' : get? key entries' with
    | none => rfl
    | some value =>
      rw [get?_of_mem h (hp.symm.subset (mem_of_get? hg'))] at hg
      cases hg

theorem get?_map (f : β → γ) (key : α) (entries : Keyed α β) :
    get? key (entries.map fun entry => (entry.1, f entry.2)) = (get? key entries).map f := by
  induction entries with
  | nil => rfl
  | cons entry rest ih =>
    rw [List.map_cons, get?, get?, ih]
    split <;> rfl

/-- An entry under a new key changes only what is read of it. -/
theorem get?_bind_insert {f : β → Option γ} {before after : Keyed α β} {key other : α} {value : β}
    (hkey : key ∉ keys (before ++ after)) (h : key = other → f value = none) :
    (get? other (before ++ (key, value) :: after)).bind f = (get? other (before ++ after)).bind f := by
  induction before with
  | nil =>
    rw [List.nil_append, List.nil_append, get?]
    split
    · next hk =>
      have hnone : get? other after = none := by
        rw [← Option.not_isSome_iff_eq_none, ← has, has_iff_mem_keys]
        exact hk ▸ hkey
      rw [hnone, Option.bind_some, h hk, Option.bind_none]
    · rfl
  | cons entry before ih =>
    obtain ⟨k, v⟩ := entry
    rw [List.cons_append, keys, List.map_cons, List.mem_cons, not_or] at hkey
    rw [List.cons_append, List.cons_append, get?, get?]
    split
    · rfl
    · exact ih hkey.2

/-- There is one entry under a key at most, the one that is read. -/
theorem filterMap_key (f : β → Option γ) {entries : Keyed α β} (h : (keys entries).Nodup) (key : α) :
    entries.filterMap (fun entry => if entry.1 = key then f entry.2 else none) =
      ((get? key entries).bind f).toList := by
  induction entries with
  | nil => rfl
  | cons entry rest ih =>
    obtain ⟨k, v⟩ := entry
    rw [keys, List.map_cons, List.nodup_cons] at h
    rw [List.filterMap_cons, ih h.2, get?]
    by_cases hk : k = key
    · have hnone : get? key rest = none := by
        rw [← Option.not_isSome_iff_eq_none, ← has, has_iff_mem_keys]
        exact hk ▸ h.1
      rw [hnone, if_pos hk, if_pos hk, Option.bind_some]
      cases f v <;> rfl
    · rw [if_neg hk, if_neg hk]

/-! ## Setting twice -/

theorem mem_set {entries : Keyed α β} {key : α} {value : β} {entry : α × β}
    (h : entry ∈ set key value entries) : entry = (key, value) ∨ entry ∈ entries := by
  induction entries with
  | nil => exact .inl (List.mem_singleton.1 h)
  | cons first rest ih =>
    obtain ⟨k, v⟩ := first
    rw [set] at h
    split at h
    · next hk =>
      rcases List.mem_cons.1 h with rfl | hm
      · exact .inl (by rw [hk])
      · exact .inr (List.mem_cons_of_mem _ hm)
    · rcases List.mem_cons.1 h with rfl | hm
      · exact .inr List.mem_cons_self
      · exact (ih hm).imp id (List.mem_cons_of_mem _)

theorem mem_keys_set {key other : α} {value : β} {entries : Keyed α β} :
    other ∈ keys (set key value entries) ↔ other = key ∨ other ∈ keys entries := by
  rw [keys_set]
  split
  · next hk => exact ⟨.inr, fun h => h.elim (· ▸ hk) id⟩
  · rw [List.mem_append, List.mem_singleton, or_comm]

/-- Of two values that are set under one key the second is left. -/
theorem set_set (key : α) (first second : β) (entries : Keyed α β) :
    set key second (set key first entries) = set key second entries := by
  induction entries with
  | nil => simp [set]
  | cons entry rest ih =>
    obtain ⟨k, v⟩ := entry
    by_cases hk : k = key
    · simp [set, hk]
    · simp only [set, hk, if_false, ih]

/-- A key that has its place already may be set before or after another one. -/
theorem set_comm {key other : α} (hne : key ≠ other) (value new : β) {entries : Keyed α β}
    (h : key ∈ keys entries) :
    set key value (set other new entries) = set other new (set key value entries) := by
  induction entries with
  | nil => cases h
  | cons entry rest ih =>
    obtain ⟨k, v⟩ := entry
    rw [keys, List.map_cons, List.mem_cons] at h
    by_cases hk : k = key
    · simp only [set, hk, hne, if_true, if_false]
    · have hrest : key ∈ keys rest := h.resolve_left (Ne.symm hk)
      by_cases hother : k = other
      · simp only [set, hother, Ne.symm hne, if_true, if_false]
      · simp only [set, hk, hother, if_false, ih hrest]

/-! ## Updating twice -/

theorem update_cons (entries : Keyed α β) (entry : α × β) (extra : List (α × β)) :
    update entries (entry :: extra) = update (set entry.1 entry.2 entries) extra := rfl

theorem update_append (entries : Keyed α β) (extra more : List (α × β)) :
    update entries (extra ++ more) = update (update entries extra) more := by
  rw [update, update, update, List.foldl_append]

theorem nodup_keys_update {entries : Keyed α β} (h : (keys entries).Nodup) (extra : List (α × β)) :
    (keys (update entries extra)).Nodup := by
  induction extra generalizing entries with
  | nil => exact h
  | cons entry extra ih => exact ih (nodup_keys_set entry.1 entry.2 h)

/-- No entries that were put in order repeat a key. -/
theorem nodup_keys_ofList (entries : List (α × β)) : (keys (ofList entries)).Nodup :=
  @nodup_keys_update α β _ [] List.nodup_nil entries

theorem set_update {key : α} (value : β) {entries : Keyed α β} (h : key ∈ keys entries)
    {extra : Keyed α β} (hextra : key ∉ keys extra) :
    set key value (update entries extra) = update (set key value entries) extra := by
  induction extra generalizing entries with
  | nil => rfl
  | cons entry extra ih =>
    rw [keys, List.map_cons, List.mem_cons, not_or] at hextra
    rw [update_cons, update_cons, ih (mem_keys_set.2 (.inr h)) hextra.2, set_comm hextra.1 value entry.2 h]

theorem mem_update {entries extra : Keyed α β} {entry : α × β} (h : entry ∈ update entries extra) :
    entry ∈ entries ∨ entry ∈ extra := by
  induction extra generalizing entries with
  | nil => exact .inl h
  | cons first extra ih =>
    rcases ih h with h | h
    · exact (mem_set h).elim (fun he => .inr (he ▸ List.mem_cons_self)) .inl
    · exact .inr (List.mem_cons_of_mem _ h)

theorem mem_of_mem_ofList {entries : List (α × β)} {entry : α × β} (h : entry ∈ ofList entries) :
    entry ∈ entries :=
  (mem_update h).resolve_left List.not_mem_nil

/-- The keys of an update are those there were, and after them the new ones. -/
theorem keys_update (entries : Keyed α β) {extra : Keyed α β} (h : (keys extra).Nodup) :
    keys (update entries extra) = keys entries ++ (keys extra).filter fun key => !has key entries := by
  induction extra generalizing entries with
  | nil => exact (List.append_nil _).symm
  | cons entry extra ih =>
    rw [keys, List.map_cons, List.nodup_cons] at h
    have hkeys : keys (entry :: extra) = entry.1 :: keys extra := rfl
    -- The key that comes in first is none of those that come in later.
    have hlater : (keys extra).filter (fun key => !has key (set entry.1 entry.2 entries)) =
        (keys extra).filter fun key => !has key entries := by
      refine List.filter_congr fun key hkey => ?_
      have hne : entry.1 ≠ key := fun he => h.1 (he ▸ hkey)
      rw [has, get?_set, if_neg hne, has]
    rw [update_cons, ih _ h.2, keys_set, hkeys, hlater]
    split
    · next hm => rw [List.filter_cons_of_neg (by simpa using (has_iff_mem_keys _ _).2 hm)]
    · next hm =>
      rw [List.filter_cons_of_pos (by simpa using mt (has_iff_mem_keys _ _).1 hm), List.append_assoc,
        List.singleton_append]

/-- What is set in the new entries is set by the update. -/
theorem update_set {extra : Keyed α β} (h : (keys extra).Nodup) (key : α) (value : β) (entries : Keyed α β) :
    update entries (set key value extra) = set key value (update entries extra) := by
  induction extra generalizing entries with
  | nil => rfl
  | cons entry extra ih =>
    obtain ⟨k, v⟩ := entry
    rw [keys, List.map_cons, List.nodup_cons] at h
    by_cases hk : k = key
    · subst hk
      rw [set, if_pos rfl, update_cons, update_cons, set_update value (mem_keys_set.2 (.inl rfl)) h.1,
        set_set]
    · rw [set, if_neg hk, update_cons, update_cons, ih h.2]

/-- Two updates in a row are one update with the updated entries. -/
theorem update_update {extra : Keyed α β} (h : (keys extra).Nodup) (entries : Keyed α β)
    (more : List (α × β)) :
    update entries (update extra more) = update (update entries extra) more := by
  induction more generalizing extra with
  | nil => rfl
  | cons entry more ih =>
    rw [update_cons, update_cons, ih (nodup_keys_set entry.1 entry.2 h), update_set h]

/-- Entries that repeat keys may be put in order before they go into others. -/
theorem update_ofList (entries : Keyed α β) (extra : List (α × β)) :
    update entries (ofList extra) = update entries extra :=
  @update_update α β _ [] List.nodup_nil entries extra

theorem ofList_append (entries extra : List (α × β)) :
    ofList (entries ++ extra) = update (ofList entries) (ofList extra) := by
  rw [update_ofList, ofList, update_append, ← ofList]

theorem ofList_of_nodup {entries : Keyed α β} (h : (keys entries).Nodup) : ofList entries = entries :=
  @update_of_nodup α β _ [] entries h

/-! ## The order of the keys -/

/-- Keys are kept in the order in which they first come. -/
theorem keys_ofList (entries : List (α × β)) : keys (ofList entries) = (keys entries).eraseDups := by
  induction entries using List.reverseRecOn with
  | nil => rfl
  | append_singleton entries entry ih =>
    have hkeys : keys (entries ++ [entry]) = keys entries ++ [entry.1] := List.map_append
    have hmem : entry.1 ∈ keys (ofList entries) ↔ entry.1 ∈ keys entries := by
      rw [ih, List.mem_eraseDups]
    rw [ofList, update_append, ← ofList, update_cons, hkeys, eraseDups_concat]
    show keys (set entry.1 entry.2 (ofList entries)) = _
    rw [keys_set, ih]
    simp only [← ih, hmem]

/-! ## Leaving out a key -/

/-- A key may be left out before an update or after it. -/
theorem erase_update (key : α) (entries extra : Keyed α β) :
    erase key (update entries extra) = update (erase key entries) (erase key extra) := by
  induction extra generalizing entries with
  | nil => rfl
  | cons entry extra ih =>
    obtain ⟨k, v⟩ := entry
    rw [update_cons, ih]
    by_cases hk : k = key
    · subst hk
      rw [erase_set, erase_cons_self]
    · rw [erase_set_of_ne hk, erase_cons_of_ne hk, update_cons]

theorem nodup_keys_erase (key : α) {entries : Keyed α β} (h : (keys entries).Nodup) :
    (keys (erase key entries)).Nodup :=
  (List.filter_sublist.map _).nodup h

/-! ## The last value -/

/-- Of all the values under a key the last one counts. -/
theorem get?_ofList (key : α) (entries : List (α × β)) :
    get? key (ofList entries) = ((entries.filter fun entry => entry.1 = key).getLast?).map (·.2) := by
  induction entries with
  | nil => rfl
  | cons entry entries ih =>
    rw [← List.singleton_append, get?_ofList_append, ih]
    by_cases hk : entry.1 = key
    · rw [List.filter_append, List.filter_cons_of_pos (by simpa using hk), List.getLast?_append]
      cases (entries.filter fun entry => entry.1 = key).getLast? <;> simp [ofList, update, set, get?, hk]
    · rw [List.filter_append, List.filter_cons_of_neg (by simpa using hk)]
      simp [ofList, update, set, get?, hk]

end CodeMarkup.Keyed
