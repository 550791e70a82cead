import CodeMarkup.Proofs.Highlight.Styles
import CodeMarkup.Proofs.Text.Blank
/-!
# Looking up palettes

Blanks around a name do not count where its palette is looked up, but they do where a registry is asked whether it
has the name, and ids keep theirs. So the two agree on a name that has none, and on any other only if both forms of
it are ids or neither (`contains_iff_found`). A palette is found under its own id if that has no blanks around it
(`lookup_own_id`). Highlighting warns of a name by the second answer and takes the palette by the first
(`lookup_and_contains`), and `padded_name` is a case in which they differ.
-/

namespace CodeMarkup

open CodeMarkup.Log CodeMarkup.Markup CodeMarkup.Palette CodeMarkup.Style CodeMarkup.Text CodeMarkup.Theme
open CodeMarkup.Token (classify)

namespace Palette

/-- The palette that counts of those with an id: the last one. -/
def lastWith? (palettes : List Palette) (id : String) : Option Palette :=
  (palettes.filter (·.id = id)).getLast?

theorem id_of_lastWith? {palettes : List Palette} {id : String} {palette : Palette}
    (h : lastWith? palettes id = some palette) : palette.id = id := by
  have hm := List.mem_of_getLast? h
  exact of_decide_eq_true (List.mem_filter.1 hm).2

namespace Registry

/-- A name is an id. -/
def IsId (registry : Registry) (name : CodePoints) : Prop :=
  ∃ id ∈ registry.ids, name = CodePoints.ofString id

/-- The palette that is found for a name, before the default one takes the place of a missing one. An empty name is
not looked for. -/
def found? (registry : Registry) (name : CodePoints) : Option Palette :=
  if name = [] then none else registry.find? (strip name)

theorem lookup_eq (registry : Registry) (name : CodePoints) :
    registry.lookup name = (registry.found? name).getD registry.default := by
  rw [lookup, found?]
  split <;> rfl

theorem isSome_find?_iff {registry : Registry} {name : CodePoints} :
    (registry.find? name).isSome = true ↔ registry.IsId name := by
  constructor
  · intro h
    obtain ⟨palette, hfind⟩ := Option.isSome_iff_exists.1 h
    obtain ⟨id, hname, hget⟩ := Option.bind_eq_some_iff.1 hfind
    refine ⟨id, ?_, CodePoints.string?_eq_some_iff.1 hname⟩
    rw [ids, ← Keyed.has_iff_mem_keys, Keyed.has, hget]
    rfl
  · rintro ⟨id, hid, rfl⟩
    rw [find?, CodePoints.string?_ofString]
    exact (Keyed.has_iff_mem_keys id registry.palettes).2 hid

/-- A palette is found for a name that is not empty if it is an id without the blanks around it. -/
theorem isSome_found?_iff {registry : Registry} {name : CodePoints} :
    (registry.found? name).isSome = true ↔ name ≠ [] ∧ registry.IsId (strip name) := by
  rw [found?]
  split
  · next hname => exact ⟨nofun, fun h => absurd hname h.1⟩
  · next hname => rw [isSome_find?_iff, and_iff_right hname]

/-- Blanks around a name make no difference to whether it is an id, and it is not an id that is empty. -/
structure Settles (registry : Registry) (name : CodePoints) : Prop where
  filled : name = [] → ¬ registry.IsId []
  alike : registry.IsId name ↔ registry.IsId (strip name)

/-- What a registry has and what is found in it is the same for exactly these names. -/
theorem contains_iff_found {registry : Registry} {name : CodePoints} :
    (registry.contains name = true ↔ (registry.found? name).isSome = true) ↔ registry.Settles name := by
  rw [contains, isSome_find?_iff, isSome_found?_iff]
  by_cases hname : name = []
  · subst hname
    exact ⟨fun h => ⟨fun _ hid => (h.1 hid).1 rfl, Iff.rfl⟩,
      fun h => iff_of_false (h.filled rfl) fun hid => hid.1 rfl⟩
  · rw [and_iff_right hname]
    exact ⟨fun h => ⟨fun hn => absurd hn hname, h⟩, Settles.alike⟩

theorem settles_of_trimmed (registry : Registry) {name : CodePoints} (hname : name ≠ []) (h : Trimmed name) :
    registry.Settles name :=
  ⟨fun hn => absurd hn hname, by rw [h.strip_eq]⟩

/-! ## Registries of palettes in a list -/

section OfList

variable {palettes : List Palette} {defaultId : String} {registry : Registry}

theorem get?_ofList (h : ofList palettes defaultId = .ok registry) (id : String) :
    Keyed.get? id registry.palettes = lastWith? palettes id := by
  rw [ofList] at h
  split at h
  · cases h
    show Keyed.get? id (Keyed.ofList _) = _
    rw [Keyed.get?_ofList, lastWith?, List.filter_map, List.getLast?_map, Option.map_map]
    exact Option.map_id'
  · cases h

theorem defaultId_ofList (h : ofList palettes defaultId = .ok registry) : registry.defaultId = defaultId := by
  rw [ofList] at h
  split at h
  · cases h
    rfl
  · cases h

/-- The ids are those of the palettes, in the order in which they first come. -/
theorem ids_ofList (h : ofList palettes defaultId = .ok registry) :
    registry.ids = (palettes.map (·.id)).eraseDups := by
  rw [ofList] at h
  split at h
  · cases h
    show Keyed.keys (Keyed.ofList _) = _
    rw [Keyed.keys_ofList, Keyed.keys, List.map_map]
    rfl
  · cases h

theorem exists_lastWith? (h : ofList palettes defaultId = .ok registry) {id : String} (hid : id ∈ registry.ids) :
    ∃ palette, lastWith? palettes id = some palette ∧ Keyed.get? id registry.palettes = some palette := by
  rw [ids, ← Keyed.has_iff_mem_keys] at hid
  obtain ⟨palette, hget⟩ := Option.isSome_iff_exists.1 hid
  exact ⟨palette, (get?_ofList h id).symm.trans hget, hget⟩

theorem default_ofList (h : ofList palettes defaultId = .ok registry) :
    lastWith? palettes defaultId = some registry.default := by
  rw [← get?_ofList h, ← defaultId_ofList h]
  exact (Option.some_get registry.default_registered).symm

/-- There is such a registry if the default is one of the palettes. -/
theorem exists_ofList (h : defaultId ∈ palettes.map (·.id)) :
    ∃ registry, ofList palettes defaultId = .ok registry := by
  have hkeys : defaultId ∈ Keyed.keys (Keyed.ofList (palettes.map fun palette => (palette.id, palette))) := by
    rw [Keyed.keys_ofList, List.mem_eraseDups, Keyed.keys, List.map_map]
    exact h
  rw [ofList]
  exact ⟨_, dif_pos ((Keyed.has_iff_mem_keys _ _).2 hkeys)⟩

/-- A palette is found under its own id if the id is not empty and has no blanks around it. Else it is the default
palette, if it is the one that takes the place of a missing one. -/
theorem lookup_own_id (h : ofList palettes defaultId = .ok registry) {id : String} {palette : Palette}
    (hlast : lastWith? palettes id = some palette) (hid : id ∈ registry.ids) :
    registry.lookup id = palette ↔
      ((id : CodePoints) ≠ [] ∧ strip id = id) ∨
        (id = defaultId ∧ ((id : CodePoints) = [] ∨ ¬ registry.IsId (strip id))) := by
  -- Palettes carry their ids, so the default palette is another one's only under the same id.
  have hdefault : registry.default = palette ↔ id = defaultId := by
    constructor
    · intro he
      rw [← id_of_lastWith? hlast, ← he, id_of_lastWith? (default_ofList h)]
    · rintro rfl
      exact Option.some.inj ((default_ofList h).symm.trans hlast)
  rw [lookup_eq, found?]
  by_cases hempty : CodePoints.ofString id = []
  · rw [if_pos hempty, Option.getD_none, hdefault]
    simp [hempty]
  rw [if_neg hempty]
  by_cases hstripped : registry.IsId (strip id)
  · have ⟨other, hother, hname⟩ := hstripped
    obtain ⟨instead, hinstead, hget⟩ := exists_lastWith? h hother
    have hfound : registry.find? (strip id) = some instead := by
      rw [hname, find?, CodePoints.string?_ofString]
      exact hget
    have hsame : instead = palette ↔ strip id = CodePoints.ofString id := by
      rw [hname, CodePoints.ofString_inj]
      constructor
      · intro he
        rw [← id_of_lastWith? hlast, ← he, id_of_lastWith? hinstead]
      · rintro rfl
        exact Option.some.inj (hinstead.symm.trans hlast)
    rw [hfound, Option.getD_some, hsame]
    simp [hempty, hstripped]
  · have hnone : registry.find? (strip id) = none := by
      rw [← Option.not_isSome_iff_eq_none, isSome_find?_iff]
      exact hstripped
    have hpadded : strip id ≠ CodePoints.ofString id := fun he => hstripped ⟨id, hid, he⟩
    rw [hnone, Option.getD_none, hdefault]
    simp [hpadded, hstripped]

end OfList

end Registry

end Palette

/-! ## Warnings -/

/-- What is noted while source is highlighted in the styles of a theme: an unknown name first, and then the styles
without a colour. -/
def highlightNotices (registry : Registry) (name : Name) (theme : Option Theme) (tokens : List Token) : List Notice :=
  ((unknown? name theme registry).map (.unknownTheme · registry.default.id)).toList ++
    colorNotices ⟨some (registry.lookup? name.text?), theme⟩ tokens

theorem outcome_highlight_loaded {source : String} (h : allBlank source = false) {name : Name}
    {library : Library} {registry : Registry} {workspace left : Workspace} {theme : Option Theme}
    (hload : outcome (library.load name) workspace = (.ok theme, left)) :
    outcome (highlight (some source) name (some library) registry) workspace =
      (.ok (render ⟨some (registry.lookup? name.text?), theme⟩ (classify source)),
        left.reportAll (highlightNotices registry name theme (classify source))) := by
  simp only [highlight, h, Bool.false_eq_true, if_false]
  rw [pure_bind, outcome_bind, hload]
  simp only
  rw [highlightNotices, Workspace.reportAll_append]
  have hrender := fun last : Workspace => outcome_lift (renderTokens
    ⟨some (registry.lookup? name.text?), theme⟩ (classify source)) last
  simp only [effect_renderTokens] at hrender
  cases unknown? name theme registry with
  | none => exact hrender left
  | some unknown => exact hrender (left.report (.unknownTheme unknown registry.default.id))

/-- One of the notices says that a theme is unknown. -/
def Warns (notices : List Notice) : Prop := ∃ name id, Notice.unknownTheme name id ∈ notices

/-- Highlighting warns of a name that is not empty when there is no theme and the registry does not have it. -/
theorem warns_highlightNotices_iff {registry : Registry} {name : Option CodePoints} {theme : Option Theme}
    {tokens : List Token} :
    Warns (highlightNotices registry (.ofOption name) theme tokens) ↔
      theme = none ∧ ∃ text, name = some text ∧ text ≠ [] ∧ registry.contains text = false := by
  have hcolors : ∀ text id, Notice.unknownTheme text id ∉
      colorNotices ⟨some (registry.lookup? (Name.ofOption name).text?), theme⟩ tokens := by
    intro text id hm
    obtain ⟨style, -, he⟩ := List.mem_map.1 hm
    cases he
  have hwarns : Warns (highlightNotices registry (.ofOption name) theme tokens) ↔
      ∃ text, unknown? (.ofOption name) theme registry = some text := by
    simp [Warns, highlightNotices, hcolors]
  rw [hwarns, unknown?]
  cases theme with
  | some theme => simp
  | none =>
    cases name with
    | none => simp [Name.ofOption, Name.text?]
    | some text =>
      by_cases hempty : text = []
      · simp [Name.ofOption, Name.ofText, Name.text?, hempty]
      · simp [Name.ofOption, Name.ofText, Name.text?, hempty]

/-- Of palettes with the same id the last one counts, and its id has the place of the first one. Looked up by its
id it is found if there are no blanks around the id, and the registry has the names for which a palette is found, as
far as blanks around them make no difference. While source is highlighted that name is noted as unknown which the
registry does not have, if there is no theme: so it is where the default palette takes the place of a missing one, as
far as blanks around the name make no difference. -/
theorem lookup_and_contains {palettes : List Palette} {defaultId : String}
    (h : defaultId ∈ palettes.map (·.id)) :
    ∃ registry, Registry.ofList palettes defaultId = .ok registry ∧
      registry.ids = (palettes.map (·.id)).eraseDups ∧
      (∀ id ∈ registry.ids, ∃ palette, lastWith? palettes id = some palette ∧
        (registry.lookup id = palette ↔
          ((id : CodePoints) ≠ [] ∧ strip id = id) ∨
            (id = defaultId ∧ ((id : CodePoints) = [] ∨ ¬ registry.IsId (strip id))))) ∧
      (∀ name, registry.lookup name = (registry.found? name).getD registry.default ∧
        ((registry.contains name = true ↔ (registry.found? name).isSome = true) ↔ registry.Settles name)) ∧
      ∀ (source : String) (name : Option CodePoints) (library : Library) (workspace left : Workspace)
        (theme : Option Theme), allBlank source = false →
        outcome (library.load (.ofOption name)) workspace = (.ok theme, left) →
        let notices := highlightNotices registry (.ofOption name) theme (classify source)
        outcome (highlight (some source) (.ofOption name) (some library) registry) workspace =
            (.ok (render ⟨some (registry.lookup? name), theme⟩ (classify source)), left.reportAll notices) ∧
          (Warns notices → theme = none ∧ ∃ text, name = some text ∧ text ≠ []) ∧
          ∀ text, theme = none → name = some text → text ≠ [] →
            ((Warns notices ↔ registry.found? text = none) ↔ registry.Settles text) := by
  obtain ⟨registry, hregistry⟩ := Registry.exists_ofList h
  refine ⟨registry, hregistry, Registry.ids_ofList hregistry, fun id hid => ?_,
    fun name => ⟨registry.lookup_eq name, Registry.contains_iff_found⟩, ?_⟩
  · obtain ⟨palette, hlast, -⟩ := Registry.exists_lastWith? hregistry hid
    exact ⟨palette, hlast, Registry.lookup_own_id hregistry hlast hid⟩
  · intro source name library workspace left theme hsource hload notices
    refine ⟨?_, fun hwarns => ?_, ?_⟩
    · rw [outcome_highlight_loaded hsource hload, lookup?_text?_ofOption]
    · obtain ⟨htheme, text, hname, hfilled, -⟩ := warns_highlightNotices_iff.1 hwarns
      exact ⟨htheme, text, hname, hfilled⟩
    · rintro text rfl rfl hfilled
      have hwarns : Warns notices ↔ ¬ registry.contains text = true := by
        rw [warns_highlightNotices_iff, Bool.not_eq_true]
        simp [hfilled]
      rw [hwarns, ← Registry.contains_iff_found, ← Option.not_isSome_iff_eq_none, not_iff_not]

/-- Dark colours, and light ones under the same id. -/
def repainted : List Palette := [.dark, .tango, { Palette.light with id := "dark" }]

/-- The light colours count. -/
theorem lookup_and_contains_repainted :
    "tango" ∈ repainted.map (·.id) ∧
      ∃ registry, Registry.ofList repainted "tango" = .ok registry ∧ registry.ids = ["dark", "tango"] ∧
        registry.lookup "dark" = { Palette.light with id := "dark" } ∧ registry.contains "dark" = true := by
  have hdefault : "tango" ∈ repainted.map (·.id) := by decide
  obtain ⟨registry, hregistry, hids, hown, hnames, -⟩ := lookup_and_contains hdefault
  have hlist : registry.ids = ["dark", "tango"] := hids.trans (by decide)
  have hdark : "dark" ∈ registry.ids := by
    rw [hlist]
    exact List.mem_cons_self
  have htrimmed : Trimmed "dark" := trimmed_strip "dark"
  obtain ⟨palette, hlast, hlookup⟩ := hown "dark" hdark
  cases (show lastWith? repainted "dark" = some { Palette.light with id := "dark" } by decide).symm.trans hlast
  refine ⟨hdefault, registry, hregistry, hlist, hlookup.2 (.inl ⟨by decide, htrimmed.strip_eq⟩), ?_⟩
  rw [(hnames "dark").2.2 (registry.settles_of_trimmed (by decide) htrimmed), Registry.isSome_found?_iff]
  exact ⟨by decide, "dark", hdark, htrimmed.strip_eq⟩

/-- The palette of a name with blanks around it is found, but the registry does not have the name: highlighting says
that the default palette is taken, and takes the other one. -/
theorem padded_name :
    let workspace : Workspace := { files := [], log := { levels := [(programLogger, Severity.info.level)] } }
    let result := outcome (highlight (some "int x;") (.ofOption (some " dark ")) (some ⟨[]⟩)) workspace
    Registry.builtIn.lookup " dark " = .dark ∧ Registry.builtIn.contains " dark " = false ∧
      result.1 = .ok (render ⟨some .dark, none⟩ (classify "int x;")) ∧
      result.2.notices = [.unknownTheme " dark " "default"] := by
  refine ⟨by decide, by decide, rfl, ?_⟩
  decide +kernel

end CodeMarkup
