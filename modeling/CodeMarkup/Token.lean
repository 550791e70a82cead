import CodeMarkup.Token.Scan
/-!
Source text as tokens. Every character belongs to exactly one token, so the texts of the tokens put
together are the source.
-/

namespace CodeMarkup

/-- A piece of source text and its lexical kind. -/
structure Token where
  kind : Token.Kind
  text : String
  deriving DecidableEq, Repr

namespace Token

/-- Whether the token is marked up. -/
def isStyled (token : Token) : Bool := token.kind.isStyled

/-- The tokens of characters. -/
def ofChars : List Char → List Token
  | [] => []
  | c :: cs =>
    let first := scan (c :: cs)
    ⟨first.1, String.ofList ((c :: cs).take first.2)⟩ :: ofChars ((c :: cs).drop first.2)
  termination_by cs => cs.length
  decreasing_by
    have := scan_bounds (List.cons_ne_nil c cs)
    simp only [List.length_cons, List.length_drop]
    omega

@[simp] theorem ofChars_nil : ofChars [] = [] := by rw [ofChars]

/-- The first token is the scanned one, and the others are those of what it leaves. -/
theorem ofChars_eq {cs : List Char} (h : cs ≠ []) :
    ofChars cs =
      ⟨(scan cs).1, String.ofList (cs.take (scan cs).2)⟩ :: ofChars (cs.drop (scan cs).2) := by
  cases cs with
  | nil => contradiction
  | cons c cs => rw [ofChars]

/-- Where there is a first token, it is the scanned one, and the others are those of what it leaves. -/
theorem of_ofChars_eq_cons {cs : List Char} {token : Token} {tokens : List Token}
    (h : ofChars cs = token :: tokens) :
    cs ≠ [] ∧ token = ⟨(scan cs).1, String.ofList (cs.take (scan cs).2)⟩ ∧
      ofChars (cs.drop (scan cs).2) = tokens := by
  have hcs : cs ≠ [] := by
    rintro rfl
    rw [ofChars_nil] at h
    cases h
  rw [ofChars_eq hcs, List.cons.injEq] at h
  exact ⟨hcs, h.1.symm, h.2⟩

/-- The tokens of a source text. -/
def classify (source : String) : List Token := ofChars source.toList

end Token

end CodeMarkup
