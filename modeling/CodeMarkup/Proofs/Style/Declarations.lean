import CodeMarkup.Proofs.Style.Color
import CodeMarkup.Proofs.Text.LowerCase
/-!
# Declarations read and written

The declarations of a style are in a normal form (`IsEntry`): taken apart at the colons and semicolons, stripped,
and the properties in lower case, they stay so when all this is done again. So a style that is written from
declarations declares just them (`declarations_written`), and what follows a semicolon updates what came before
(`declarations_append`). `declarations_canonical` states both, for every style.
-/

namespace CodeMarkup.Style

open CodeMarkup.Text

/-! ## Entries -/

/-- What a declaration comes to: it is read again as it is. -/
structure IsEntry (property value : CodePoints) : Prop where
  property_ne_nil : property ≠ []
  colon_not_mem_property : .char ':' ∉ property
  semicolon_not_mem_property : .char ';' ∉ property
  strip_property : strip property = property
  lower_property : lower property = property
  semicolon_not_mem_value : .char ';' ∉ value
  strip_value : strip value = value

theorem isEntry_of_declaration? {part property value : CodePoints} (hpart : .char ';' ∉ part)
    (h : declaration? part = some (property, value)) : IsEntry property value := by
  by_cases hcolon : .char ':' ∈ part
  · obtain ⟨before, after, rfl, hbefore⟩ := List.eq_append_cons_of_mem hcolon
    rw [List.mem_append, List.mem_cons, not_or, not_or] at hpart
    rw [declaration?_append hbefore, Option.ite_none_left_eq_some] at h
    obtain ⟨hne, h⟩ := h
    cases h
    -- What is left of a text when it is stripped has no mark that the text has not.
    have hstrip : ∀ {mark : CodePoint} {s : CodePoints}, mark ∉ s → mark ∉ strip s :=
      fun hmark hm => hmark ((strip_sublist _).mem hm)
    exact {
      property_ne_nil := hne
      colon_not_mem_property := not_mem_lower (.inl rfl) (hstrip hbefore)
      semicolon_not_mem_property := not_mem_lower (.inr rfl) (hstrip hpart.1)
      strip_property := (trimmed_strip before).lower.strip_eq
      lower_property := lower_lower _
      semicolon_not_mem_value := hstrip hpart.2.2
      strip_value := strip_strip after }
  · rw [declaration?_eq_none hcolon] at h
    cases h

theorem isEntry_of_mem {style : CodePoints} {entry : CodePoints × CodePoints} (h : entry ∈ declarations style) :
    IsEntry entry.1 entry.2 := by
  obtain ⟨part, hpart, hentry⟩ := List.mem_filterMap.1 (Keyed.mem_of_mem_ofList h)
  exact isEntry_of_declaration? (not_mem_of_mem_splitOn hpart) hentry

/-- An entry is read as it is written. -/
theorem IsEntry.declaration?_eq {property value : CodePoints} (h : IsEntry property value) :
    declaration? (property ++ .char ':' :: value) = some (property, value) := by
  rw [declaration?_append h.colon_not_mem_property, h.strip_property, h.lower_property, h.strip_value,
    if_neg h.property_ne_nil]

/-! ## Writing -/

/-- The style that is written from declarations, each with a semicolon after it. -/
def written : Declarations → CodePoints
  | [] => []
  | (property, value) :: rest => (property ++ .char ':' :: value) ++ .char ';' :: written rest

/-- The declarations of a written style, one by one, are those it was written from. -/
theorem filterMap_declaration?_written {entries : Declarations} (h : ∀ entry ∈ entries, IsEntry entry.1 entry.2) :
    (splitOn (.char ';') (written entries)).filterMap declaration? = entries := by
  induction entries with
  | nil => rfl
  | cons entry rest ih =>
    obtain ⟨property, value⟩ := entry
    rw [List.forall_mem_cons] at h
    have hpart : .char ';' ∉ property ++ .char ':' :: value := by
      rw [List.mem_append, List.mem_cons, not_or, not_or]
      exact ⟨h.1.semicolon_not_mem_property, by decide, h.1.semicolon_not_mem_value⟩
    rw [written, splitOn_append, splitOn_of_not_mem hpart, List.singleton_append, List.filterMap_cons,
      h.1.declaration?_eq, ih h.2]

theorem declarations_written {entries : Declarations} (h : ∀ entry ∈ entries, IsEntry entry.1 entry.2)
    (hnodup : (Keyed.keys entries).Nodup) : declarations (written entries) = entries := by
  rw [declarations, filterMap_declaration?_written h, Keyed.ofList_of_nodup hnodup]

/-- The declarations of two styles with a semicolon between them are those of the first, updated with those of
the second: a property keeps the place where it came first and has the value that came last. The declarations of a
style are in normal form, and all declarations in normal form that differ in their properties are read as they are
written, so those of a style are the same in the same order. -/
theorem declarations_canonical :
    (∀ style rest : CodePoints,
      declarations (style ++ .char ';' :: rest) = Keyed.update (declarations style) (declarations rest) ∧
      Keyed.keys (declarations (style ++ .char ';' :: rest)) =
        Keyed.keys (declarations style) ++
          (Keyed.keys (declarations rest)).filter (fun property => !Keyed.has property (declarations style)) ∧
      ∀ property, Keyed.get? property (declarations (style ++ .char ';' :: rest)) =
        (Keyed.get? property (declarations rest)).or (Keyed.get? property (declarations style))) ∧
    (∀ style : CodePoints,
      declarations (written (declarations style)) = declarations style ∧
      ∀ entry ∈ declarations style, IsEntry entry.1 entry.2) ∧
    ∀ entries : Declarations, (∀ entry ∈ entries, IsEntry entry.1 entry.2) → (Keyed.keys entries).Nodup →
      declarations (written entries) = entries := by
  refine ⟨?_, ?_, fun entries h hnodup => declarations_written h hnodup⟩
  · intro style rest
    rw [declarations_append]
    refine ⟨rfl, Keyed.keys_update _ (nodup_declarations rest), fun property => ?_⟩
    rw [Keyed.get?_update, Keyed.ofList_of_nodup (nodup_declarations rest)]
  · intro style
    have hentries : ∀ entry ∈ declarations style, IsEntry entry.1 entry.2 := fun _ => isEntry_of_mem
    exact ⟨declarations_written hentries (nodup_declarations style), hentries⟩

/-- A value may hold colons, a part without one declares nothing, and the last value of a property counts. -/
example : declarations "Color: a:b ; junk;color:c;x:" =
    [(CodePoints.ofString "color", CodePoints.ofString "c"), (CodePoints.ofString "x", [])] := by
  decide +kernel

end CodeMarkup.Style
