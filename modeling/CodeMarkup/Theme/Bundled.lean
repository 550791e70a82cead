import CodeMarkup.Files.Tree
import CodeMarkup.Json.Writer
/-!
The themes that come with the program, as files in a directory of their own.
-/

namespace CodeMarkup.Theme

open CodeMarkup.Files CodeMarkup.Json CodeMarkup.Text

/-- The members of a theme file. -/
def members (name description background foreground : String) (styles : List (String × String)) :
    Value :=
  .obj [("name", .str name), ("description", .str description), ("background", .str background),
    ("foreground", .str foreground),
    ("styles", .obj (styles.map fun (kind, style) => (CodePoints.ofString kind, .str style)))]

/-- The theme files by their names. -/
def bundledFiles : List (String × Value) :=
  [("high-contrast.json",
    members "high-contrast" "Black on white with bold keywords, for projectors and printouts"
      "#ffffff" "#000000"
      [("keyword", "font-weight:bold;"),
       ("type", "font-weight:bold;text-decoration:underline;"),
       ("comment", "font-style:italic;"),
       ("string", "color:#000000;background-color:#eeeeee;")]),
   ("solarized-light.json",
    members "solarized-light" "Solarized light by Ethan Schoonover" "#fdf6e3" "#657b83"
      [("keyword", "color:#859900;"),
       ("type", "color:#b58900;"),
       ("string", "color:#2aa198;"),
       ("comment", "color:#93a1a1;font-style:italic;"),
       ("number", "color:#d33682;"),
       ("annotation", "color:#6c71c4;")]),
   ("vscode-dark.json",
    members "vscode-dark" "Dark+ colors from Visual Studio Code" "#1e1e1e" "#d4d4d4"
      [("keyword", "color:#569cd6;font-weight:bold;"),
       ("type", "color:#4ec9b0;"),
       ("string", "color:#ce9178;"),
       ("char", "color:#ce9178;"),
       ("comment", "color:#6a9955;font-style:italic;"),
       ("number", "color:#b5cea8;"),
       ("annotation", "color:#dcdcaa;"),
       ("default", "color:#d4d4d4;")])]

/-- The file tree before anything is put into the workspace: the bundled themes and a directory for
temporary files. -/
def bareTree : Tree :=
  (⟨.root, ["tmp"]⟩, .directory) ::
    bundledFiles.map fun (name, v) => (⟨.bundled, [name]⟩, .file v.toText.toUTF8)

end CodeMarkup.Theme
