/-!
Code points: the characters, and the surrogates, which stand for no character but can be named by the
escapes of JSON text. Text that comes out of JSON is a list of code points; every string is one, and a
list without surrogates is a string again (`string?_ofString`).
-/

namespace CodeMarkup.Text

/-- A code point. -/
inductive CodePoint
  | char (c : Char)
  /-- The surrogate that lies this far above U+D800. -/
  | surrogate (offset : Fin 0x800)
  deriving DecidableEq, Repr

/-- Text that may hold surrogates. -/
abbrev CodePoints := List CodePoint

namespace CodePoint

/-- The number of a code point. -/
def toNat : CodePoint → Nat
  | char c => c.toNat
  | surrogate offset => 0xD800 + offset.val

/-- The code point with a number. -/
def ofNat (n : Nat) : CodePoint :=
  if h : 0xD800 ≤ n ∧ n < 0xE000 then surrogate ⟨n - 0xD800, by omega⟩ else char (Char.ofNat n)

/-- The character, if the code point is one. -/
def char? : CodePoint → Option Char
  | char c => some c
  | surrogate _ => none

/-- Whether a code point is a character with this property. -/
def has (property : Char → Bool) : CodePoint → Bool
  | char c => property c
  | surrogate _ => false

/-- What a code point becomes where every character gives way to others. Surrogates stay. -/
def expand (image : Char → List Char) : CodePoint → CodePoints
  | char c => (image c).map char
  | surrogate offset => [surrogate offset]

instance : Coe Char CodePoint := ⟨char⟩

end CodePoint

namespace CodePoints

/-- Characters as code points. -/
def ofChars (s : List Char) : CodePoints := s.map .char

/-- A string as code points. -/
def ofString (s : String) : CodePoints := ofChars s.toList

instance : Coe String CodePoints := ⟨ofString⟩

/-- The characters, if there are no surrogates. -/
def chars? (s : CodePoints) : Option (List Char) := s.mapM CodePoint.char?

/-- The string, if there are no surrogates. -/
def string? (s : CodePoints) : Option String := (chars? s).map String.ofList

theorem chars?_ofChars (s : List Char) : chars? (ofChars s) = some s := by
  induction s with
  | nil => rfl
  | cons c rest ih =>
    simp only [chars?, ofChars, List.map_cons, List.mapM_cons, CodePoint.char?] at ih ⊢
    simp [ih]

theorem chars?_eq_some_iff {s : CodePoints} {chars : List Char} : chars? s = some chars ↔ s = ofChars chars := by
  constructor
  · intro h
    induction s generalizing chars with
    | nil => cases h; rfl
    | cons point rest ih =>
      rw [chars?, List.mapM_cons] at h
      cases point with
      | surrogate offset => cases h
      | char c =>
        obtain ⟨first, hfirst, h⟩ := Option.bind_eq_some_iff.1 h
        obtain ⟨others, hrest, he⟩ := Option.bind_eq_some_iff.1 h
        cases hfirst
        cases he
        rw [ih hrest]
        rfl
  · rintro rfl
    exact chars?_ofChars chars

/-- A string is its code points. -/
@[simp] theorem string?_ofString (s : String) : string? (ofString s) = some s := by
  simp [string?, ofString, chars?_ofChars, String.ofList_toList]

/-- Code points that make a string are those of the string. -/
theorem string?_eq_some_iff {s : CodePoints} {t : String} : string? s = some t ↔ s = ofString t := by
  constructor
  · intro h
    obtain ⟨chars, hchars, rfl⟩ := Option.map_eq_some_iff.1 h
    rw [chars?_eq_some_iff.1 hchars, ofString, String.toList_ofList]
  · rintro rfl
    exact string?_ofString t

theorem ofString_inj {s t : String} : ofString s = ofString t ↔ s = t := by
  constructor
  · intro h
    rw [← string?_eq_some_iff, string?_ofString, Option.some.injEq] at h
    exact h
  · exact congrArg ofString

theorem ofString_ofList (s : List Char) : ofString (String.ofList s) = ofChars s := by
  rw [ofString, String.toList_ofList]

/-- The code points of strings in a row are those of the one after those of the other. -/
theorem ofString_append (s t : String) : ofString (s ++ t) = ofString s ++ ofString t := by
  simp [ofString, ofChars]

/-- Whether code points come, in the order of their numbers, no later than others. -/
def le : CodePoints → CodePoints → Bool
  | [], _ => true
  | _ :: _, [] => false
  | a :: as, b :: bs => a.toNat < b.toNat || (a == b && le as bs)

end CodePoints

end CodeMarkup.Text
