import CodeMarkup.Command.Options
import Mathlib.Data.List.TakeDrop
/-!
# Arguments and options

A switch that is spelled out may have its value in the same argument, and the value is taken as it is
(`classify_valued`). A theme that is named before all other arguments counts unless one of them names another, and
nothing else comes of it (`ofArguments_theme`).
-/

namespace CodeMarkup.Command

/-- A switch and its value in one argument. -/
def valued (spelling value : String) : String := spelling ++ "=" ++ value

/-! ## What an argument is -/

namespace Argument

theorem toList_valued (spelling value : String) :
    (valued spelling value).toList = spelling.toList ++ '=' :: value.toList := by
  rw [valued, String.toList_append, String.toList_append, List.append_assoc]
  rfl

/-- Every spelling starts with a hyphen and goes on, and none has an equals sign in it. -/
theorem shape_of_mem_table {entry : String × Switch} (h : entry ∈ Switch.table) :
    (entry.1.toList.take 1 = ['-'] ∧ 2 ≤ entry.1.toList.length) ∧ '=' ∉ entry.1.toList := by
  have hall : ∀ entry ∈ Switch.table,
      (entry.1.toList.take 1 = ['-'] ∧ 2 ≤ entry.1.toList.length) ∧ '=' ∉ entry.1.toList := by decide
  exact hall entry h

theorem mem_table {spelling : String} {found : Switch} (h : Switch.spelled? spelling = some found) :
    (spelling, found) ∈ Switch.table := by
  obtain ⟨before, after, htable, -⟩ := List.lookup_eq_some_iff.1 h
  rw [htable]
  exact List.mem_append_right _ List.mem_cons_self

theorem spelled?_valued (spelling value : String) : Switch.spelled? (valued spelling value) = none := by
  rw [Switch.spelled?, List.lookup_eq_none_iff]
  intro entry hm
  rw [bne_iff_ne]
  intro he
  apply (shape_of_mem_table hm).2
  rw [← he, toList_valued]
  exact List.mem_append_right _ List.mem_cons_self

theorem splitEquals_append {s : List Char} (h : '=' ∉ s) (value : List Char) :
    splitEquals (s ++ '=' :: value) = (s, some value) := by
  have hall : ∀ c ∈ s, decide (c ≠ '=') = true := by
    intro c hc
    rw [decide_eq_true_eq]
    rintro rfl
    exact h hc
  rw [splitEquals, List.span_eq_takeWhile_dropWhile, List.takeWhile_append_of_pos hall,
    List.dropWhile_append_of_pos hall]
  simp

/-- A switch that is spelled out takes what follows the equals sign as its value, whatever that is. -/
theorem classify_valued (digit : Char → Bool) {spelling : String} {found : Switch}
    (h : Switch.spelled? spelling = some found) (value : String) :
    classify digit (valued spelling value) =
      .ok (.switch (valued spelling value) (some found) (some value.toList)) := by
  obtain ⟨⟨hfirst, hlong⟩, hequals⟩ := shape_of_mem_table (mem_table h)
  have hout : spelledOut? (valued spelling value) =
      some (.switch (valued spelling value) (some found) (some value.toList)) := by
    rw [spelledOut?, spelled?_valued]
    simp only [toList_valued, splitEquals_append hequals, String.ofList_toList, h, Option.map_some]
  have hshape : ∃ c rest, (valued spelling value).toList = '-' :: c :: rest := by
    rw [toList_valued]
    generalize spelling.toList = s at hfirst hlong
    match s with
    | first :: c :: rest =>
      cases hfirst
      exact ⟨c, rest ++ '=' :: value.toList, rfl⟩
  obtain ⟨c, rest, hshape⟩ := hshape
  rw [classify, hshape]
  simp only [hout]

theorem classifyAll_cons (digit : Char → Bool) {text : String} (h : text ≠ "--") (rest : List String) :
    classifyAll digit (text :: rest) = (do
      let argument ← classify digit text
      let arguments ← classifyAll digit rest
      return argument :: arguments) := by
  rw [classifyAll]
  exact h

theorem valued_ne_mark (spelling value : String) : valued spelling value ≠ "--" := by
  intro h
  have hm : '=' ∈ (valued spelling value).toList := by
    rw [toList_valued]
    exact List.mem_append_right _ List.mem_cons_self
  rw [h] at hm
  exact absurd hm (by decide)

theorem classifyAll_valued (digit : Char → Bool) {spelling : String} {found : Switch}
    (h : Switch.spelled? spelling = some found) (value : String) (rest : List String) :
    classifyAll digit (valued spelling value :: rest) =
      (classifyAll digit rest).map (.switch (valued spelling value) (some found) (some value.toList) :: ·) := by
  rw [classifyAll_cons digit (valued_ne_mark spelling value), classify_valued digit h]
  cases classifyAll digit rest <;> rfl

end Argument

/-! ## A theme for options that name none -/

/-- The options with a theme, unless they name one. -/
def Options.orTheme (options : Options) (theme : Given) : Options :=
  { options with theme := options.theme.or (some theme) }

/-- What was taken, with a theme unless one was named. -/
def Taken.orTheme (taken : Taken) (theme : Given) : Taken :=
  { taken with options := taken.options.orTheme theme }

theorem Options.enable_orTheme (options : Options) (theme : Given) (switch : Switch) :
    (options.orTheme theme).enable switch = (options.enable switch).map (·.orTheme theme) := by
  cases switch <;> rfl

theorem Options.assign_orTheme (options : Options) (theme : Given) (switch : Switch) (value : Given) :
    (options.orTheme theme).assign switch value = (options.assign switch value).map (·.orTheme theme) := by
  cases switch with
  | level =>
    cases value with
    | nothing => rfl
    | text name =>
      simp only [assign]
      split <;> rfl
  | _ => rfl

namespace Taken

section OrTheme

variable (taken : Taken) (theme : Given)

theorem orTheme_putAside (arguments : List String) :
    (taken.orTheme theme).putAside arguments = (taken.putAside arguments).orTheme theme := rfl

theorem orTheme_takeSource (source : String) :
    (taken.orTheme theme).takeSource source = (taken.takeSource source).orTheme theme := rfl

theorem orTheme_mk (options : Options) (extras : List String) :
    (⟨options.orTheme theme, extras⟩ : Taken) = Taken.orTheme ⟨options, extras⟩ theme := rfl

/-- Whatever follows is taken in the same way, since nothing depends on the theme. -/
theorem takeAll_orTheme (arguments : List Argument) :
    (taken.orTheme theme).takeAll arguments = (taken.takeAll arguments).map (·.orTheme theme) := by
  have hsource : ∀ taken : Taken, (taken.orTheme theme).options.source = taken.options.source := fun _ => rfl
  have hextras : ∀ taken : Taken, (taken.orTheme theme).extras = taken.extras := fun _ => rfl
  have hassign : ∀ (taken : Taken) switch value, (taken.orTheme theme).options.assign switch value =
      (taken.options.assign switch value).map (·.orTheme theme) :=
    fun taken => taken.options.assign_orTheme theme
  have henable : ∀ (taken : Taken) switch, (taken.orTheme theme).options.enable switch =
      (taken.options.enable switch).map (·.orTheme theme) :=
    fun taken => taken.options.enable_orTheme theme
  have hok : ∀ {α β : Type} (f : α → β) (a : α), Except.map f (.ok a : Except Stop α) = .ok (f a) :=
    fun _ _ => rfl
  have herror : ∀ {α β : Type} (f : α → β) (stop : Stop), Except.map f (.error stop) = .error stop :=
    fun _ _ => rfl
  fun_induction takeAll taken arguments with
  | case16 taken text switch rest h options he ih =>
    rw [takeAll.eq_def]
    simp only [h, henable, he, hok, hextras, orTheme_mk, ih]
    rfl
  | case17 taken text switch rest h stop he =>
    rw [takeAll.eq_def]
    simp only [h, henable, he, herror]
    rfl
  | _ => simp_all only [takeAll, orTheme_putAside, orTheme_takeSource, orTheme_mk, if_true, if_false,
      Bool.false_eq_true]

end OrTheme

end Taken

/-- A theme that is named first counts if no other argument names one, and the arguments are otherwise taken as they
would be without it. -/
theorem ofArguments_theme (name : String) (rest : List String) :
    Options.ofArguments (valued "--theme" name :: rest) =
      (Options.ofArguments rest).map (·.orTheme (Taken.attachedValue name.toList)) := by
  have hspelled : Switch.spelled? "--theme" = some .theme := by decide
  rw [Options.ofArguments, Options.ofArguments, Argument.classifyAll_valued _ hspelled]
  cases Argument.classifyAll (fun c => (Text.decimalValue? c).isSome) rest with
  | error error => rfl
  | ok arguments =>
    have hcons : ∀ argument, Except.map (argument :: ·) (.ok arguments : Except UsageError (List Argument)) =
        .ok (argument :: arguments) := fun _ => rfl
    have htaken : ∀ text value, Taken.takeAll {} (.switch text (some .theme) (some value) :: arguments) =
        (Taken.takeAll {} arguments).map (·.orTheme (Taken.attachedValue value)) := by
      intro text value
      rw [← Taken.takeAll_orTheme]
      rfl
    simp only [hcons, htaken]
    cases Taken.takeAll {} arguments with
    | error stop => rfl
    | ok taken =>
      have hextras : (taken.orTheme (Taken.attachedValue name.toList)).extras = taken.extras := rfl
      simp only [Except.map, hextras]
      split <;> rfl

/-- The only option that the name of a default theme gives. -/
theorem ofArguments_defaultTheme (name : String) :
    Options.ofArguments [valued "--set-default-theme" name] =
      .ok { defaultTheme := some (Taken.attachedValue name.toList) } := by
  have hspelled : Switch.spelled? "--set-default-theme" = some .defaultTheme := by decide
  rw [Options.ofArguments, Argument.classifyAll_valued _ hspelled]
  rfl

end CodeMarkup.Command
