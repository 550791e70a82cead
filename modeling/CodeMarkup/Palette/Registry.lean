import CodeMarkup.Failure
import CodeMarkup.Keyed
import CodeMarkup.Palette
import CodeMarkup.Text.CharClass
/-!
Registries of palettes. Looking up a palette always gives one: names that are not registered give the
default palette.
-/

namespace CodeMarkup.Palette

open CodeMarkup.Text

/-- Palettes under their ids, one of which is the default. -/
structure Registry where
  palettes : Keyed String Palette
  defaultId : String
  default_registered : (Keyed.get? defaultId palettes).isSome

namespace Registry

/-- A registry of these palettes; of those with equal ids the last one counts. -/
def ofList (palettes : List Palette) (defaultId : String) : Except Failure Registry :=
  let table := Keyed.ofList (palettes.map fun palette => (palette.id, palette))
  if registered : (Keyed.get? defaultId table).isSome then .ok ⟨table, defaultId, registered⟩
  else .error (.defaultNotRegistered defaultId)

/-- The default palette. -/
def default (registry : Registry) : Palette :=
  (Keyed.get? registry.defaultId registry.palettes).get registry.default_registered

/-- The palette registered under this very name. -/
def find? (registry : Registry) (name : CodePoints) : Option Palette :=
  (CodePoints.string? name).bind (Keyed.get? · registry.palettes)

/-- The palette of a name: blanks around the name do not count. -/
def lookup (registry : Registry) (name : CodePoints) : Palette :=
  if name = [] then registry.default else (registry.find? (strip name)).getD registry.default

/-- The palette of a name, or the default one without a name. -/
def lookup? (registry : Registry) (name : Option CodePoints) : Palette :=
  match name with
  | none => registry.default
  | some name => registry.lookup name

/-- Looking up a palette gives one of the registry. -/
theorem lookup?_registered (registry : Registry) (name : Option CodePoints) :
    ∃ id, (id, registry.lookup? name) ∈ registry.palettes := by
  have hdefault : ∃ id, (id, registry.default) ∈ registry.palettes :=
    ⟨_, Keyed.mem_of_get? (Option.some_get registry.default_registered).symm⟩
  cases name with
  | none => exact hdefault
  | some name =>
    show ∃ id, (id, registry.lookup name) ∈ registry.palettes
    rw [lookup]
    split
    · exact hdefault
    · rw [find?]
      cases CodePoints.string? (strip name) with
      | none => exact hdefault
      | some id =>
        show ∃ id', (id', (Keyed.get? id registry.palettes).getD registry.default) ∈ registry.palettes
        cases hg : Keyed.get? id registry.palettes with
        | none => exact hdefault
        | some palette => exact ⟨id, Keyed.mem_of_get? hg⟩

/-- The ids, in order. -/
def ids (registry : Registry) : List String := Keyed.keys registry.palettes

/-- Whether this very name is an id. -/
def contains (registry : Registry) (name : CodePoints) : Bool := (registry.find? name).isSome

/-- The registry of the built-in palettes. -/
def builtIn : Registry where
  palettes := [light, dark, tango, monokai].map fun palette => (palette.id, palette)
  defaultId := "default"
  default_registered := by decide

end Registry

end CodeMarkup.Palette
