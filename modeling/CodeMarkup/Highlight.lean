import CodeMarkup.Markup.Render
import CodeMarkup.Prose
import CodeMarkup.Theme.Library
/-!
Highlighting: source text, or the blocks of code in prose, as markup in the styles of a theme. The
theme's file goes over the built-in palette of the same name.
-/

namespace CodeMarkup

open CodeMarkup.Log CodeMarkup.Markup CodeMarkup.Palette CodeMarkup.Style CodeMarkup.Text

/-- Reports the styles that had to be given a colour. -/
def reportColors (resolver : Resolver) : List CodePoints → Action Unit
  | [] => return ()
  | style :: rest => do
    report (.addedColor style resolver.textColor)
    reportColors resolver rest

/-- Tokens as markup, with the notices of the styles. -/
def renderTokens (resolver : Resolver) (tokens : List Token) : Action CodePoints := do
  reportColors resolver (progressOf resolver tokens).colorless
  return render resolver tokens

/-- Whether a name is given that neither a theme nor a palette has. -/
def unknown? (name : Theme.Name) (theme : Option Theme) (registry : Registry) : Option CodePoints :=
  if theme.isSome then none else name.text?.filter (!registry.contains ·)

/-- Source text as markup; nothing for blank text. Without a library it is the one that the settings
ask for. -/
def highlight (source : Option String) (name : Theme.Name) (library : Option Theme.Library)
    (registry : Registry := .builtIn) : Attempt CodePoints := do
  match source with
  | none => return []
  | some source =>
    if allBlank source then return []
    let library ← match library with
      | some library => pure library
      | none => Theme.Library.fromSettings
    let theme ← library.load name
    match unknown? name theme registry with
    | some unknown => report (.unknownTheme unknown registry.default.id)
    | none => pure ()
    renderTokens ⟨some (registry.lookup? name.text?), theme⟩ (Token.classify source)

/-- A block of code in prose: highlighted, unless no theme is named or the code is blank. -/
def highlightBlock (name : Theme.Name) (library : Option Theme.Library) (code : String) :
    Attempt CodePoints := do
  if name = .missing then return Prose.blockElement code
  let highlighted ← highlight (some code) name library
  return if highlighted = [] then Prose.blockElement code else highlighted

/-- Prose with its code as markup. -/
def convertProse (prose : String) (name : Theme.Name) (library : Option Theme.Library) :
    Attempt CodePoints :=
  Prose.convert (highlightBlock name library) prose

end CodeMarkup
