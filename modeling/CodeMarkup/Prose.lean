import CodeMarkup.Markup.Render
import CodeMarkup.Text.CharClass
/-!
Prose with code in it. One pass from left to right finds the snippets: text between two fences of
three backticks, between two backticks, or in a `code` element. What a snippet or its conversion holds
is not looked at again.
-/

namespace CodeMarkup.Prose

open CodeMarkup.Text CodeMarkup.Markup

/-- Code in prose. -/
inductive Snippet
  /-- Between fences of three backticks. -/
  | fenced (code : List Char)
  /-- Between single backticks. -/
  | spanned (code : List Char)
  /-- In a `code` element. -/
  | tagged (code : List Char)
  deriving DecidableEq, Repr

/-- A fence. -/
def fence : List Char := ['`', '`', '`']

/-- The start of a `code` element. -/
def openTag : List Char := "<code>".toList

/-- The end of a `code` element. -/
def closeTag : List Char := "</code>".toList

namespace Snippet

/-- The snippet as it stands in prose. -/
def written : Snippet → List Char
  | fenced code => fence ++ code ++ fence
  | spanned code => ['`'] ++ code ++ ['`']
  | tagged code => openTag ++ code ++ closeTag

end Snippet

/-- The characters before the first fence, if there is one. -/
def beforeFence? : List Char → Option (List Char)
  | '`' :: '`' :: '`' :: _ => some []
  | c :: rest => (beforeFence? rest).map (c :: ·)
  | [] => none

/-- A fenced snippet at the start: it ends at the nearest fence. -/
def fenced? (s : List Char) : Option Snippet :=
  if fence.isPrefixOf s then (beforeFence? (s.drop 3)).map .fenced else none

/-- A snippet between single backticks at the start. -/
def inline? (s : List Char) : Option Snippet :=
  match s with
  | '`' :: rest =>
    let code := rest.takeWhile (· ≠ '`')
    if code ≠ [] ∧ (rest.drop code.length).head? = some '`' then some (.spanned code) else none
  | _ => none

/-- A `code` element without other markup at the start. -/
def tagged? (s : List Char) : Option Snippet :=
  if openTag.isPrefixOf s then
    let code := (s.drop openTag.length).takeWhile (· ≠ '<')
    if code ≠ [] ∧ closeTag.isPrefixOf (s.drop (openTag.length + code.length)) then
      some (.tagged code)
    else none
  else none

/-- The snippet at the start; of several forms the first counts. -/
def snippet? (s : List Char) : Option Snippet := fenced? s <|> inline? s <|> tagged? s

/-- A part of prose: a character outside snippets, or a snippet. -/
inductive Piece
  | plain (c : Char)
  | snippet (s : Snippet)
  deriving DecidableEq, Repr

/-- The pieces of prose. -/
def pieces : List Char → List Piece
  | [] => []
  | c :: cs =>
    match snippet? (c :: cs) with
    | some s => .snippet s :: pieces (cs.drop (s.written.length - 1))
    | none => .plain c :: pieces cs
  termination_by cs => cs.length
  decreasing_by all_goals simp only [List.length_cons, List.length_drop]; omega

/-! ## Conversion -/

/-- The style of code inside a line. -/
def inlineStyle : String :=
  "background:#f1f1f1;padding:2px 4px;border-radius:3px;font-family:'Courier New',monospace;"

/-- The style of a block of code that is not highlighted. -/
def blockStyle : String :=
  "background:#f5f5f5;padding:1em;border:1px solid #ccc;overflow:auto;" ++
    "font-family:'Courier New',monospace;"

/-- Code inside a line, without the blanks around it. -/
def inlineElement (code : CodePoints) : CodePoints :=
  "<code style=\"" ++ inlineStyle ++ "\">" ++ escape (strip code) ++ "</code>"

/-- A block of code that is not highlighted. -/
def blockElement (code : String) : CodePoints := preElement blockStyle (escape code)

/-- Characters without one line end at the end. -/
def dropLineEnd (code : List Char) : List Char :=
  if code.getLast? = some '\n' then code.dropLast else code

/-- A piece converted, where `block` converts the code between fences. -/
def convertPiece {m : Type → Type} [Monad m] (block : String → m CodePoints) : Piece → m CodePoints
  | .plain c => pure [.char c]
  | .snippet (.fenced code) => block (String.ofList (dropLineEnd code))
  | .snippet (.spanned code) => pure (inlineElement (CodePoints.ofChars code))
  | .snippet (.tagged code) => pure (inlineElement (CodePoints.ofChars code))

/-- Pieces converted one after the other. -/
def convertPieces {m : Type → Type} [Monad m] (block : String → m CodePoints)
    (pieces : List Piece) : m CodePoints :=
  return (← pieces.mapM (convertPiece block)).flatten

@[simp] theorem convertPieces_nil {m : Type → Type} [Monad m] [LawfulMonad m]
    (block : String → m CodePoints) : convertPieces block [] = pure [] := by
  simp [convertPieces]

/-- The first piece is converted before the others, and its conversion comes first. -/
theorem convertPieces_cons {m : Type → Type} [Monad m] [LawfulMonad m]
    (block : String → m CodePoints) (piece : Piece) (rest : List Piece) :
    convertPieces block (piece :: rest) = do
      let converted ← convertPiece block piece
      return converted ++ (← convertPieces block rest) := by
  simp [convertPieces, List.mapM_cons]

/-- Prose converted, where `block` converts the code between fences. -/
def convert {m : Type → Type} [Monad m] (block : String → m CodePoints) (prose : String) :
    m CodePoints :=
  convertPieces block (pieces prose.toList)

/-- Prose converted without highlighting. -/
def plain (prose : String) : CodePoints :=
  Id.run (convert (fun code => pure (blockElement code)) prose)

end CodeMarkup.Prose
