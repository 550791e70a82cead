import CodeMarkup.Proofs.Keyed
import CodeMarkup.Proofs.Text.Blank
import CodeMarkup.Theme
/-!
# The normal form of themes

The fold over the styles of a theme file comes to two lists (`foldl_addStyle`): the styles of kinds, of which the
last one counts for each kind, and the default styles, of which the last one counts. An entry that adds to neither
can stand anywhere. As the keys of an object differ, at most one entry is left for each kind but identifiers,
which have two names (`get?_styles_own`, `get?_styles_identifier`), and so the order of entries counts only for
these. `ofMembers_canonical` puts the laws together.
-/

namespace CodeMarkup.Token.Kind

theorem ofKey?_key (kind : Kind) : ofKey? kind.key = some kind := by
  cases kind <;> decide

/-- Identifiers have a second name. Every other kind has only its own. -/
theorem ofKey?_eq_some_iff {name : String} {kind : Kind} :
    ofKey? name = some kind ↔ name = kind.key ∨ kind = .identifier ∧ name = "ident" := by
  constructor
  · intro h
    rw [ofKey?, named?] at h
    split at h
    · next hident => exact .inr ⟨(Option.some.inj h).symm, hident⟩
    · have hfound := List.find?_some h
      exact .inl (of_decide_eq_true hfound).symm
  · rintro (rfl | ⟨rfl, rfl⟩)
    · exact ofKey?_key kind
    · rfl

end CodeMarkup.Token.Kind

namespace CodeMarkup.Theme

open CodeMarkup.Text CodeMarkup.Json

/-! ## Usable texts -/

/-- A text that is taken over as it is. -/
structure IsTidy (text : CodePoints) : Prop where
  ne_nil : text ≠ []
  strip_eq : strip text = text

/-- A value is no text, or a blank one. -/
def IsBlank (v : Value) : Prop := ∀ text, v = .str text → strip text = []

theorem usable?_str (text : CodePoints) :
    usable? (.str text) = if strip text = [] then none else some (strip text) := by
  rw [usable?]
  simp only [strip_eq_nil_iff]

theorem usable?_eq_none_iff {v : Value} : usable? v = none ↔ IsBlank v := by
  cases v with
  | str text =>
    rw [usable?_str, ite_eq_left_iff]
    constructor
    · rintro h _ ⟨⟩
      by_contra hne
      cases h hne
    · intro h hne
      exact absurd (h text rfl) hne
  | _ => exact ⟨by rintro - _ ⟨⟩, fun _ => rfl⟩

theorem isTidy_of_usable? {v : Value} {text : CodePoints} (h : usable? v = some text) : IsTidy text := by
  cases v with
  | str s =>
    rw [usable?_str, Option.ite_none_left_eq_some] at h
    obtain ⟨hne, h⟩ := h
    cases h
    exact ⟨hne, strip_strip s⟩
  | _ => cases h

theorem IsTidy.usable?_eq {text : CodePoints} (h : IsTidy text) : usable? (.str text) = some text := by
  rw [usable?_str, h.strip_eq, if_neg h.ne_nil]

/-! ## The fold over the styles -/

/-- The style that an entry of the styles gives a kind. -/
def kindStyle? (entry : CodePoints × Value) : Option (Token.Kind × Option CodePoints) :=
  ((CodePoints.string? entry.1).bind Token.Kind.ofKey?).bind fun kind =>
    (usable? entry.2).map fun style => (kind, some style)

/-- The default style that an entry of the styles gives. -/
def default? (entry : CodePoints × Value) : Option CodePoints :=
  if entry.1 = CodePoints.ofString "default" then usable? entry.2 else none

theorem kindStyle?_ofString (name : String) (v : Value) :
    kindStyle? (CodePoints.ofString name, v) =
      (Token.Kind.ofKey? name).bind fun kind => (usable? v).map fun style => (kind, some style) := by
  rw [kindStyle?, CodePoints.string?_ofString, Option.bind_some]

theorem kindStyle?_eq_some_iff {entry : CodePoints × Value} {kind : Token.Kind} {style : Option CodePoints} :
    kindStyle? entry = some (kind, style) ↔
      (entry.1 = CodePoints.ofString kind.key ∨ kind = .identifier ∧ entry.1 = CodePoints.ofString "ident") ∧
        (usable? entry.2).map some = some style := by
  have hkey : (CodePoints.string? entry.1).bind Token.Kind.ofKey? = some kind ↔
      entry.1 = CodePoints.ofString kind.key ∨ kind = .identifier ∧ entry.1 = CodePoints.ofString "ident" := by
    simp only [Option.bind_eq_some_iff, CodePoints.string?_eq_some_iff, Token.Kind.ofKey?_eq_some_iff]
    constructor
    · rintro ⟨name, hname, rfl | ⟨hkind, rfl⟩⟩
      · exact .inl hname
      · exact .inr ⟨hkind, hname⟩
    · rintro (h | ⟨hkind, h⟩)
      · exact ⟨_, h, .inl rfl⟩
      · exact ⟨_, h, .inr ⟨hkind, rfl⟩⟩
  rw [← hkey, kindStyle?]
  cases (CodePoints.string? entry.1).bind Token.Kind.ofKey? with
  | none => simp
  | some other =>
    rw [Option.bind_some]
    cases usable? entry.2 <;> simp

theorem addStyle_eq (theme : Theme) (key : CodePoints) (v : Value) :
    theme.addStyle key v =
      { theme with
        styles := Keyed.update theme.styles (kindStyle? (key, v)).toList
        defaultStyle := (default? (key, v)).or theme.defaultStyle } := by
  rw [addStyle, kindStyle?, default?]
  cases usable? v with
  | none =>
    simp only [Option.map_none, Option.bind_fun_none, ite_self, Option.none_or]
    rfl
  | some style =>
    simp only
    split
    · next hdefault =>
      rw [hdefault, CodePoints.string?_ofString]
      rfl
    · rw [Option.none_or]
      cases (CodePoints.string? key).bind Token.Kind.ofKey? <;> rfl

theorem getLast?_toList {γ : Type} (value : Option γ) : value.toList.getLast? = value := by
  cases value <;> rfl

/-- What all entries come to. -/
theorem foldl_addStyle (entries : Keyed CodePoints Value) (theme : Theme) :
    entries.foldl (fun theme entry => theme.addStyle entry.1 entry.2) theme =
      { theme with
        styles := Keyed.update theme.styles (entries.filterMap kindStyle?)
        defaultStyle := (entries.filterMap default?).getLast?.or theme.defaultStyle } := by
  induction entries generalizing theme with
  | nil => rfl
  | cons entry entries ih =>
    have hsplit : ∀ {γ : Type} (f : CodePoints × Value → Option γ),
        (entry :: entries).filterMap f = (f entry).toList ++ entries.filterMap f := by
      intro γ f
      rw [List.filterMap_cons]
      cases f entry <;> rfl
    rw [List.foldl_cons, ih, addStyle_eq, hsplit, hsplit, Keyed.update_append, List.getLast?_append,
      getLast?_toList, Option.or_assoc]

/-- The theme that members describe. -/
theorem ofMembers_eq (members : Keyed CodePoints Value) :
    ofMembers members =
      { name := some ((usableAt? "name" members).getD [])
        description := some ((usableAt? "description" members).getD [])
        background := usableAt? "background" members
        foreground := usableAt? "foreground" members
        styles := Keyed.ofList ((styleMembers members).filterMap kindStyle?)
        defaultStyle := ((styleMembers members).filterMap default?).getLast? } := by
  rw [ofMembers, foldl_addStyle, Option.or_none]
  rfl

/-! ## Normal themes -/

/-- Every text of a theme is tidy, or empty where the theme's file gives none, and no kind has two styles. -/
structure Normal (theme : Theme) : Prop where
  name : ∃ text, theme.name = some text ∧ (text = [] ∨ IsTidy text)
  description : ∃ text, theme.description = some text ∧ (text = [] ∨ IsTidy text)
  background : ∀ text, theme.background = some text → IsTidy text
  foreground : ∀ text, theme.foreground = some text → IsTidy text
  styles : ∀ entry ∈ theme.styles, ∃ style, entry.2 = some style ∧ IsTidy style
  nodup_kinds : (Keyed.keys theme.styles).Nodup
  defaultStyle : ∀ text, theme.defaultStyle = some text → IsTidy text

theorem isTidy_of_usableAt? {key : CodePoints} {members : Keyed CodePoints Value} {text : CodePoints}
    (h : usableAt? key members = some text) : IsTidy text := by
  obtain ⟨v, -, hv⟩ := Option.bind_eq_some_iff.1 h
  exact isTidy_of_usable? hv

theorem normal_ofMembers (members : Keyed CodePoints Value) : (ofMembers members).Normal := by
  have htext : ∀ key, ∃ text,
      some ((usableAt? key members).getD []) = some text ∧ (text = [] ∨ IsTidy text) := by
    intro key
    refine ⟨_, rfl, ?_⟩
    cases h : usableAt? key members with
    | none => exact .inl rfl
    | some text => exact .inr (isTidy_of_usableAt? h)
  rw [ofMembers_eq]
  refine ⟨htext _, htext _, fun _ => isTidy_of_usableAt?, fun _ => isTidy_of_usableAt?, ?_,
    Keyed.nodup_keys_ofList _, ?_⟩
  · rintro ⟨kind, style⟩ hentry
    obtain ⟨entry, -, hstyle⟩ := List.mem_filterMap.1 (Keyed.mem_of_mem_ofList hentry)
    obtain ⟨text, htext, rfl⟩ := Option.map_eq_some_iff.1 (kindStyle?_eq_some_iff.1 hstyle).2
    exact ⟨text, rfl, isTidy_of_usable? htext⟩
  · intro text htext
    obtain ⟨entry, -, hstyle⟩ := List.mem_filterMap.1 (List.mem_of_getLast? htext)
    rw [default?, Option.ite_none_right_eq_some] at hstyle
    exact isTidy_of_usable? hstyle.2

/-! ## Themes written as objects -/

/-- The value that is written for a text. -/
def textValue : Option CodePoints → Value
  | none => .null
  | some text => .str text

/-- The styles of a theme as members, under the kinds' own names, and the default style after them. -/
def styleEntries (theme : Theme) : Keyed CodePoints Value :=
  theme.styles.map (fun entry => (CodePoints.ofString entry.1.key, textValue entry.2)) ++
    [(CodePoints.ofString "default", textValue theme.defaultStyle)]

/-- A theme as the members of an object. -/
def toMembers (theme : Theme) : Keyed CodePoints Value :=
  [("name", textValue theme.name), ("description", textValue theme.description),
   ("background", textValue theme.background), ("foreground", textValue theme.foreground),
   ("styles", .obj theme.styleEntries)]

theorem usable?_textValue {text : Option CodePoints} (h : ∀ s, text = some s → IsTidy s) :
    usable? (textValue text) = text := by
  cases text with
  | none => rfl
  | some s => exact (h s rfl).usable?_eq

theorem usable?_textValue_getD {text : Option CodePoints} (h : ∃ s, text = some s ∧ (s = [] ∨ IsTidy s)) :
    some ((usable? (textValue text)).getD []) = text := by
  obtain ⟨s, rfl, rfl | hs⟩ := h
  · rfl
  · rw [textValue, hs.usable?_eq, Option.getD_some]

/-- What is read from a written theme. -/
theorem read_toMembers (theme : Theme) :
    usableAt? "name" theme.toMembers = usable? (textValue theme.name) ∧
    usableAt? "description" theme.toMembers = usable? (textValue theme.description) ∧
    usableAt? "background" theme.toMembers = usable? (textValue theme.background) ∧
    usableAt? "foreground" theme.toMembers = usable? (textValue theme.foreground) ∧
    styleMembers theme.toMembers = theme.styleEntries := by
  have hnodup : (Keyed.keys theme.toMembers).Nodup := by
    show (["name", "description", "background", "foreground", "styles"].map CodePoints.ofString).Nodup
    decide +kernel
  have hget : ∀ {key v}, (key, v) ∈ theme.toMembers → Keyed.get? key theme.toMembers = some v :=
    fun hm => Keyed.get?_of_mem hnodup hm
  have hread : ∀ {key v}, (key, v) ∈ theme.toMembers → usableAt? key theme.toMembers = usable? v := by
    intro key v hm
    rw [usableAt?, hget hm, Option.bind_some]
  refine ⟨hread ?_, hread ?_, hread ?_, hread ?_, ?_⟩
  · simp [toMembers]
  · simp [toMembers]
  · simp [toMembers]
  · simp [toMembers]
  · have hm : (CodePoints.ofString "styles", .obj theme.styleEntries) ∈ theme.toMembers := by simp [toMembers]
    rw [styleMembers, hget hm]
    rfl

theorem filterMap_kindStyle?_styleEntries {theme : Theme} (h : theme.Normal) :
    theme.styleEntries.filterMap kindStyle? = theme.styles := by
  have hentries : ∀ styles : Keyed Token.Kind (Option CodePoints),
      (∀ entry ∈ styles, ∃ style, entry.2 = some style ∧ IsTidy style) →
      (styles.map fun entry => (CodePoints.ofString entry.1.key, textValue entry.2)).filterMap kindStyle? = styles := by
    intro styles
    induction styles with
    | nil => exact fun _ => rfl
    | cons entry styles ih =>
      obtain ⟨kind, style⟩ := entry
      intro htidy
      rw [List.forall_mem_cons] at htidy
      obtain ⟨⟨text, rfl, htext⟩, htidy⟩ := htidy
      rw [List.map_cons, List.filterMap_cons, kindStyle?_ofString, Token.Kind.ofKey?_key, Option.bind_some,
        textValue, htext.usable?_eq, Option.map_some, ih htidy]
  -- The last entry is for no kind.
  have hdefault : Token.Kind.ofKey? "default" = none := by decide
  rw [styleEntries, List.filterMap_append, hentries _ h.styles, List.filterMap_cons, kindStyle?_ofString, hdefault]
  exact List.append_nil _

theorem filterMap_default?_styleEntries {theme : Theme} (h : theme.Normal) :
    theme.styleEntries.filterMap default? = theme.defaultStyle.toList := by
  have hkind : ∀ kind : Token.Kind, CodePoints.ofString kind.key ≠ CodePoints.ofString "default" := by
    intro kind
    cases kind <;> decide
  have hnone : ∀ entry ∈ theme.styles.map fun entry => (CodePoints.ofString entry.1.key, textValue entry.2),
      default? entry = none := by
    intro entry hentry
    obtain ⟨⟨kind, style⟩, -, rfl⟩ := List.mem_map.1 hentry
    exact if_neg (hkind kind)
  rw [styleEntries, List.filterMap_append, List.filterMap_eq_nil_iff.2 hnone, List.nil_append, List.filterMap_cons,
    default?, if_pos rfl, usable?_textValue h.defaultStyle]
  cases theme.defaultStyle <;> rfl

/-- A normal theme is read as it is written. -/
theorem ofMembers_toMembers {theme : Theme} (h : theme.Normal) : ofMembers theme.toMembers = theme := by
  obtain ⟨hname, hdescription, hbackground, hforeground, hstyles⟩ := read_toMembers theme
  rw [ofMembers_eq, hname, hdescription, hbackground, hforeground, hstyles, usable?_textValue_getD h.name,
    usable?_textValue_getD h.description, usable?_textValue h.background, usable?_textValue h.foreground,
    filterMap_kindStyle?_styleEntries h, filterMap_default?_styleEntries h, getLast?_toList,
    Keyed.ofList_of_nodup h.nodup_kinds]

/-! ## Members of no use -/

/-- The members of a theme file that are texts. -/
def textKeys : List CodePoints := ["name", "description", "background", "foreground"].map CodePoints.ofString

/-- The keys of the styles: the default style, the kinds, and the second name of identifiers. -/
def styleKeys : List CodePoints := ("default" :: "ident" :: Token.Kind.all.map Token.Kind.key).map CodePoints.ofString

/-- A member of a theme file that says nothing. -/
inductive UselessMember : CodePoints → Value → Prop
  | unknown {key : CodePoints} (hkey : key ∉ CodePoints.ofString "styles" :: textKeys) (v : Value) :
      UselessMember key v
  | text {key : CodePoints} (hkey : key ∈ textKeys) {v : Value} (hv : IsBlank v) : UselessMember key v
  | styles {v : Value} (hv : ∀ entries, v ≠ .obj entries) : UselessMember (CodePoints.ofString "styles") v

/-- An entry of the styles that says nothing. -/
inductive UselessStyle : CodePoints → Value → Prop
  | unknown {key : CodePoints} (hkey : key ∉ styleKeys) (v : Value) : UselessStyle key v
  | blank (key : CodePoints) {v : Value} (hv : IsBlank v) : UselessStyle key v

theorem UselessMember.usable?_eq_none {key : CodePoints} {v : Value} (h : UselessMember key v)
    (hkey : key ∈ textKeys) : usable? v = none := by
  cases h with
  | unknown hunknown => exact absurd (List.mem_cons_of_mem _ hkey) hunknown
  | text _ hv => exact usable?_eq_none_iff.2 hv
  | styles => exact absurd hkey (by decide +kernel)

theorem UselessMember.members?_eq_none {key : CodePoints} {v : Value} (h : UselessMember key v)
    (hkey : key = CodePoints.ofString "styles") : v.members? = none := by
  cases h with
  | unknown hunknown => exact absurd (hkey ▸ List.mem_cons_self) hunknown
  | text htext => exact absurd (hkey ▸ htext) (by decide +kernel)
  | styles hv =>
    cases v with
    | obj entries => exact absurd rfl (hv entries)
    | _ => rfl

theorem UselessStyle.kindStyle?_eq_none {key : CodePoints} {v : Value} (h : UselessStyle key v) :
    kindStyle? (key, v) = none := by
  rw [Option.eq_none_iff_forall_ne_some]
  rintro ⟨kind, style⟩ hstyle
  obtain ⟨hkey, hv⟩ := kindStyle?_eq_some_iff.1 hstyle
  simp only at hkey hv
  cases h with
  | unknown hunknown =>
    refine hunknown ?_
    rcases hkey with hkey | ⟨-, hkey⟩
    · have hall : ∀ kind : Token.Kind, CodePoints.ofString kind.key ∈ styleKeys := by
        intro kind
        cases kind <;> decide +kernel
      exact hkey ▸ hall kind
    · rw [hkey]
      decide +kernel
  | blank hblank =>
    rw [usable?_eq_none_iff.2 hblank] at hv
    cases hv

theorem UselessStyle.default?_eq_none {key : CodePoints} {v : Value} (h : UselessStyle key v) :
    default? (key, v) = none := by
  rw [default?]
  cases h with
  | unknown hunknown =>
    rw [if_neg]
    rintro rfl
    exact hunknown List.mem_cons_self
  | blank hblank => rw [usable?_eq_none_iff.2 hblank, ite_self]

/-- A theme is made of the texts under five keys. -/
theorem ofMembers_congr {members members' : Keyed CodePoints Value}
    (htexts : ∀ key ∈ textKeys, usableAt? key members = usableAt? key members')
    (hstyles : styleMembers members = styleMembers members') : ofMembers members = ofMembers members' := by
  simp only [textKeys, List.forall_mem_map, List.forall_mem_cons] at htexts
  obtain ⟨hname, hdescription, hbackground, hforeground, -⟩ := htexts
  rw [ofMembers_eq, ofMembers_eq, hname, hdescription, hbackground, hforeground, hstyles]

/-- A useless member under a new key changes nothing, wherever it stands. -/
theorem ofMembers_insert {before after : Keyed CodePoints Value} {key : CodePoints} {v : Value}
    (hkey : key ∉ Keyed.keys (before ++ after)) (h : UselessMember key v) :
    ofMembers (before ++ (key, v) :: after) = ofMembers (before ++ after) := by
  refine ofMembers_congr (fun other hother => ?_) ?_
  · exact Keyed.get?_bind_insert hkey fun he => h.usable?_eq_none (he ▸ hother)
  · rw [styleMembers, styleMembers, Keyed.get?_bind_insert hkey h.members?_eq_none]

/-! ## Other styles -/

/-- The members with these styles in the place of theirs. -/
def withStyles (entries members : Keyed CodePoints Value) : Keyed CodePoints Value :=
  Keyed.set "styles" (.obj entries) members

theorem ofMembers_withStyles (entries members : Keyed CodePoints Value) :
    ofMembers (withStyles entries members) =
      { ofMembers members with
        styles := Keyed.ofList (entries.filterMap kindStyle?)
        defaultStyle := (entries.filterMap default?).getLast? } := by
  have hother : ∀ key ∈ textKeys, usableAt? key (withStyles entries members) = usableAt? key members := by
    intro key hkey
    have hne : CodePoints.ofString "styles" ≠ key := by
      rintro rfl
      exact absurd hkey (by decide +kernel)
    rw [usableAt?, withStyles, Keyed.get?_set, if_neg hne, usableAt?]
  have hstyles : styleMembers (withStyles entries members) = entries := by
    rw [styleMembers, withStyles, Keyed.get?_set, if_pos rfl]
    rfl
  simp only [textKeys, List.forall_mem_map, List.forall_mem_cons] at hother
  obtain ⟨hname, hdescription, hbackground, hforeground, -⟩ := hother
  rw [ofMembers_eq, ofMembers_eq, hname, hdescription, hbackground, hforeground, hstyles]

/-- A useless entry of the styles changes nothing, wherever it stands. -/
theorem ofMembers_withStyles_insert (before after : Keyed CodePoints Value) {key : CodePoints} {v : Value}
    (h : UselessStyle key v) (members : Keyed CodePoints Value) :
    ofMembers (withStyles (before ++ (key, v) :: after) members) =
      ofMembers (withStyles (before ++ after) members) := by
  rw [ofMembers_withStyles, ofMembers_withStyles, List.filterMap_append, List.filterMap_append,
    List.filterMap_append, List.filterMap_append, List.filterMap_cons, List.filterMap_cons,
    h.kindStyle?_eq_none, h.default?_eq_none]

/-! ## The order of styles -/

/-- What an entry of the styles says about a kind. -/
def styleFor? (kind : Token.Kind) (entry : CodePoints × Value) : Option (Option CodePoints) :=
  ((kindStyle? entry).filter (·.1 = kind)).map (·.2)

theorem styleFor?_eq (kind : Token.Kind) (entry : CodePoints × Value) :
    styleFor? kind entry =
      if entry.1 = CodePoints.ofString kind.key ∨ kind = .identifier ∧ entry.1 = CodePoints.ofString "ident" then
        (usable? entry.2).map some
      else none := by
  ext style
  rw [Option.ite_none_right_eq_some, ← kindStyle?_eq_some_iff, styleFor?]
  simp only [Option.map_eq_some_iff, Option.filter_eq_some_iff, decide_eq_true_eq]
  constructor
  · rintro ⟨⟨_, _⟩, ⟨hstyle, rfl⟩, rfl⟩
    exact hstyle
  · intro hstyle
    exact ⟨(kind, style), ⟨hstyle, rfl⟩, rfl⟩

/-- Of all that the entries of the styles say about a kind the last counts. -/
theorem get?_styles (entries : Keyed CodePoints Value) (kind : Token.Kind) :
    Keyed.get? kind (Keyed.ofList (entries.filterMap kindStyle?)) =
      (entries.filterMap (styleFor? kind)).getLast? := by
  rw [Keyed.get?_ofList, ← List.getLast?_map, List.filter_filterMap, List.map_filterMap]
  rfl

/-- Where a kind is spoken of under one key only, the style is what stands there. -/
theorem get?_styles_of_key {entries : Keyed CodePoints Value} (h : (Keyed.keys entries).Nodup) {kind : Token.Kind}
    {key : CodePoints}
    (hkey : ∀ entry ∈ entries, styleFor? kind entry = if entry.1 = key then (usable? entry.2).map some else none) :
    Keyed.get? kind (Keyed.ofList (entries.filterMap kindStyle?)) = (usableAt? key entries).map some := by
  rw [get?_styles, List.filterMap_congr hkey, Keyed.filterMap_key (fun v => (usable? v).map some) h, getLast?_toList,
    usableAt?, Option.map_bind]
  rfl

theorem get?_styles_own {entries : Keyed CodePoints Value} (h : (Keyed.keys entries).Nodup) {kind : Token.Kind}
    (hkind : kind ≠ .identifier) :
    Keyed.get? kind (Keyed.ofList (entries.filterMap kindStyle?)) =
      (usableAt? (CodePoints.ofString kind.key) entries).map some := by
  refine get?_styles_of_key h fun entry _ => ?_
  simp only [styleFor?_eq, hkind, false_and, or_false]

/-- The two names of identifiers, in either order. -/
def AreNames (key other : CodePoints) : Prop :=
  key = CodePoints.ofString "identifier" ∧ other = CodePoints.ofString "ident" ∨
    key = CodePoints.ofString "ident" ∧ other = CodePoints.ofString "identifier"

theorem get?_styles_identifier {entries : Keyed CodePoints Value} (h : (Keyed.keys entries).Nodup)
    {key other : CodePoints} (hnames : AreNames key other) (hother : usableAt? other entries = none) :
    Keyed.get? .identifier (Keyed.ofList (entries.filterMap kindStyle?)) = (usableAt? key entries).map some := by
  refine get?_styles_of_key h fun entry hentry => ?_
  -- What stands under the other name is of no use, so one key is left.
  have hnone : entry.1 = other → usable? entry.2 = none := by
    rintro rfl
    rwa [usableAt?, Keyed.get?_of_mem h hentry, Option.bind_some] at hother
  have hkeys : (entry.1 = CodePoints.ofString Token.Kind.identifier.key ∨
      Token.Kind.identifier = .identifier ∧ entry.1 = CodePoints.ofString "ident") ↔
      entry.1 = key ∨ entry.1 = other := by
    rcases hnames with ⟨rfl, rfl⟩ | ⟨rfl, rfl⟩
    · simp [Token.Kind.key]
    · simp [Token.Kind.key, or_comm]
  rw [styleFor?_eq, if_congr hkeys rfl rfl]
  by_cases hkey : entry.1 = key
  · rw [if_pos (.inl hkey), if_pos hkey]
  · rw [if_neg hkey, ite_eq_right_iff]
    intro hor
    rw [hnone (hor.resolve_left hkey), Option.map_none]

/-- The default style stands under one key. -/
theorem getLast?_default {entries : Keyed CodePoints Value} (h : (Keyed.keys entries).Nodup) :
    (entries.filterMap default?).getLast? = usableAt? "default" entries := by
  have hfilter : entries.filterMap default? = _ := Keyed.filterMap_key usable? h (CodePoints.ofString "default")
  rw [hfilter, getLast?_toList, usableAt?]

/-- Two themes are equal but for the order of the styles, and but for the styles of the kinds that are left out. -/
structure AgreeOn (kinds : Token.Kind → Prop) (theme other : Theme) : Prop where
  rest : other = { theme with styles := other.styles }
  styles : ∀ kind, kinds kind → Keyed.get? kind other.styles = Keyed.get? kind theme.styles

/-- There is a usable value under both names of identifiers. -/
def NamesTwice (entries : Keyed CodePoints Value) : Prop :=
  usableAt? "ident" entries ≠ none ∧ usableAt? "identifier" entries ≠ none

/-- The order of the styles does not count, unless identifiers are named twice, and then it counts only for
them. -/
theorem agreeOn_of_perm {entries entries' : Keyed CodePoints Value} (hp : entries.Perm entries')
    (h : (Keyed.keys entries).Nodup) (members : Keyed CodePoints Value) :
    AgreeOn (fun kind => kind = .identifier → ¬ NamesTwice entries) (ofMembers (withStyles entries members))
      (ofMembers (withStyles entries' members)) := by
  have h' : (Keyed.keys entries').Nodup := (List.Perm.map Prod.fst hp).nodup_iff.1 h
  have husable : ∀ key, usableAt? key entries' = usableAt? key entries := by
    intro key
    rw [usableAt?, usableAt?, Keyed.get?_perm hp h]
  rw [ofMembers_withStyles, ofMembers_withStyles, getLast?_default h, getLast?_default h', husable]
  refine ⟨rfl, fun kind hkind => ?_⟩
  show Keyed.get? kind (Keyed.ofList (entries'.filterMap kindStyle?)) =
    Keyed.get? kind (Keyed.ofList (entries.filterMap kindStyle?))
  -- Whichever name is of no use, the style stands under the other one in both.
  have hnamed : ∀ {key other : CodePoints}, AreNames key other → usableAt? other entries = none →
      Keyed.get? .identifier (Keyed.ofList (entries'.filterMap kindStyle?)) =
        Keyed.get? .identifier (Keyed.ofList (entries.filterMap kindStyle?)) := by
    intro key other hnames hother
    rw [get?_styles_identifier h hnames hother, get?_styles_identifier h' hnames (by rw [husable, hother]), husable]
  by_cases hidentifier : kind = .identifier
  · subst hidentifier
    rcases not_and_or.1 (hkind rfl) with hident | hown
    · exact hnamed (.inl ⟨rfl, rfl⟩) (not_not.1 hident)
    · exact hnamed (.inr ⟨rfl, rfl⟩) (not_not.1 hown)
  · rw [get?_styles_own h hidentifier, get?_styles_own h' hidentifier, husable]

/-- Where identifiers are named twice, the later name counts. -/
theorem style?_identifier_later {before between after : Keyed CodePoints Value} {key other : CodePoints}
    (hnames : AreNames key other) {v w : Value}
    (h : (Keyed.keys (before ++ (other, v) :: between ++ (key, w) :: after)).Nodup) {style : CodePoints}
    (hstyle : usable? w = some style) (members : Keyed CodePoints Value) :
    (ofMembers (withStyles (before ++ (other, v) :: between ++ (key, w) :: after) members)).style? .identifier =
      some style := by
  rw [Keyed.keys, List.map_append, List.nodup_append] at h
  obtain ⟨-, hlater, hapart⟩ := h
  -- The other name comes before, so only the later one is left.
  have hother : usableAt? other ((key, w) :: after) = none := by
    have hget : Keyed.get? other ((key, w) :: after) = none := by
      rw [← Option.not_isSome_iff_eq_none, ← Keyed.has, Keyed.has_iff_mem_keys]
      intro hmem
      exact hapart other (by simp) other hmem rfl
    rw [usableAt?, hget, Option.bind_none]
  have hlast := get?_styles_identifier hlater hnames hother
  rw [usableAt?, Keyed.get?, if_pos rfl, Option.bind_some, hstyle, Option.map_some] at hlast
  rw [ofMembers_withStyles, style?]
  simp only
  rw [List.filterMap_append, Keyed.get?_ofList_append, hlast, Option.some_or]
  rfl

/-- What is read from the members of an object is normal, and every normal theme is read as it is written, so what is
read is read again. Members of no use change nothing, at whatever place they come in, and neither do entries of no
use among the styles. The order of the styles counts only where identifiers are named twice, only for them, and
there the later name counts. -/
theorem ofMembers_canonical (members : Keyed CodePoints Value) :
    (ofMembers members).Normal ∧
    ofMembers (ofMembers members).toMembers = ofMembers members ∧
    (∀ theme : Theme, theme.Normal → ofMembers theme.toMembers = theme) ∧
    (∀ before after key v, members = before ++ after → key ∉ Keyed.keys members → UselessMember key v →
      ofMembers (before ++ (key, v) :: after) = ofMembers members) ∧
    (∀ before after key v, UselessStyle key v →
      ofMembers (withStyles (before ++ (key, v) :: after) members) =
        ofMembers (withStyles (before ++ after) members)) ∧
    (∀ entries entries' : Keyed CodePoints Value, entries.Perm entries' → (Keyed.keys entries).Nodup →
      AgreeOn (fun kind => kind = .identifier → ¬ NamesTwice entries) (ofMembers (withStyles entries members))
        (ofMembers (withStyles entries' members))) ∧
    (∀ (before between after : Keyed CodePoints Value) key other v w style, AreNames key other →
      (Keyed.keys (before ++ (other, v) :: between ++ (key, w) :: after)).Nodup → usable? w = some style →
      (ofMembers (withStyles (before ++ (other, v) :: between ++ (key, w) :: after) members)).style? .identifier =
        some style) := by
  refine ⟨normal_ofMembers members, ofMembers_toMembers (normal_ofMembers members),
    fun theme h => ofMembers_toMembers h, ?_, ?_, ?_, ?_⟩
  · rintro before after key v rfl hkey huseless
    exact ofMembers_insert hkey huseless
  · intro before after key v huseless
    exact ofMembers_withStyles_insert before after huseless members
  · intro entries entries' hp h
    exact agreeOn_of_perm hp h members
  · intro before between after key other v w style hnames h hstyle
    exact style?_identifier_later hnames h hstyle members

/-- The second name of identifiers comes last here. -/
example : (ofMembers [("styles", .obj [("identifier", .str "color:#111;"), ("ident", .str " color:#222;")])]).style?
    .identifier = some (CodePoints.ofString "color:#222;") := by
  decide +kernel

end CodeMarkup.Theme
