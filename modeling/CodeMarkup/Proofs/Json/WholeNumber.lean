import CodeMarkup.Json.Reader
import Mathlib.Data.List.TakeDrop
/-!
# Whole numbers in JSON text

Digits that do not start with zero are one whole number, up to what follows them (`next_digits`). The
reader refuses it when it has more digits than are read.
-/

namespace CodeMarkup.Json

open CodeMarkup.Text

namespace Lexeme

/-- What may follow a whole number: nothing that would go on with it or make it another one. -/
def EndsNumber (rest : List Char) : Prop :=
  ∀ c, rest.head? = some c → isDigit c = false ∧ c ≠ '.' ∧ c ≠ 'e' ∧ c ≠ 'E'

/-- What may follow digits: anything but a digit. -/
def EndsDigits (rest : List Char) : Prop := ∀ c, rest.head? = some c → isDigit c = false

theorem EndsNumber.endsDigits {rest : List Char} (h : EndsNumber rest) : EndsDigits rest :=
  fun c hc => (h c hc).1

theorem endsDigits_cons {c : Char} (h : isDigit c = false) (rest : List Char) : EndsDigits (c :: rest) := by
  rintro _ ⟨⟩
  exact h

theorem digits?_append {digits rest : List Char} (hne : digits ≠ []) (hd : ∀ c ∈ digits, isDigit c = true)
    (hr : EndsDigits rest) : digits? (digits ++ rest) = some (digits, rest) := by
  have htake : rest.takeWhile isDigit = [] := by
    cases rest with
    | nil => rfl
    | cons c rest => simp [hr c rfl]
  have hdrop : rest.dropWhile isDigit = rest := by
    cases rest with
    | nil => rfl
    | cons c rest => simp [hr c rfl]
  rw [digits?, List.span_eq_takeWhile_dropWhile, List.takeWhile_append_of_pos hd,
    List.dropWhile_append_of_pos hd, htake, hdrop, List.append_nil]
  cases digits with
  | nil => contradiction
  | cons => rfl

theorem whole?_digits {c : Char} {digits rest : List Char} (h0 : c ≠ '0')
    (hd : ∀ d ∈ c :: digits, isDigit d = true) (hr : EndsDigits rest) :
    whole? (c :: (digits ++ rest)) = some (c :: digits, rest) := by
  rw [whole?]
  · exact digits?_append (List.cons_ne_nil c digits) hd hr
  · rintro _ h
    exact h0 (List.cons.inj h).1

/-- A whole part is a whole number, up to what follows it. -/
theorem unsigned?_whole (negative : Bool) {s digits rest : List Char} (hw : whole? s = some (digits, rest))
    (hr : EndsNumber rest) : unsigned? negative s = some (wholeNumber negative digits, rest) := by
  have hf : fraction rest = ([], rest) := by
    cases rest with
    | nil => rfl
    | cons e rest =>
      rw [fraction]
      rintro _ h
      exact (hr e rfl).2.1 (List.cons.inj h).1
  have he : exponent? rest = none := by
    cases rest with
    | nil => rfl
    | cons e rest => simp [exponent?, (hr e rfl).2.2]
  simp [unsigned?, hw, hf, he]

theorem ne_of_isDigit {c : Char} (h : isDigit c = true) {d : Char} (hd : isDigit d = false) : c ≠ d := by
  rintro rfl
  rw [h] at hd
  cases hd

theorem word?_digit {c : Char} (h : isDigit c = true) (s : List Char) : word? (c :: s) = none := by
  have hne : ∀ e : Char, isDigit e = false → e ≠ c := fun e he => (ne_of_isDigit h he).symm
  simp [word?, words, afterWord?, hne 'n' rfl, hne 't' rfl, hne 'f' rfl, hne 'N' rfl, hne 'I' rfl, hne '-' rfl]

theorem next_unsigned {c : Char} (h : isDigit c = true) {s : List Char} {found : Lexeme × List Char}
    (hu : unsigned? false (c :: s) = some found) : next (c :: s) = found := by
  have hscalar : scalar? (c :: s) = some found := by
    rw [scalar?, word?_digit h]
    · exact hu
    · rintro _ hs
      exact ne_of_isDigit h (d := '-') rfl (List.cons.inj hs).1
  rw [next]
  · rw [hscalar]
    rfl
  all_goals
    rintro _ hs
    exact ne_of_isDigit h rfl (List.cons.inj hs).1

theorem next_negative {c : Char} (h : isDigit c = true) {s : List Char} {found : Lexeme × List Char}
    (hu : unsigned? true (c :: s) = some found) : next ('-' :: c :: s) = found := by
  have hword : word? ('-' :: c :: s) = none := by
    simp [word?, words, afterWord?, (ne_of_isDigit h (d := 'I') rfl).symm]
  have hscalar : scalar? ('-' :: c :: s) = some found := by
    rw [scalar?, hword]
    exact hu
  show (scalar? ('-' :: c :: s)).getD (.stray, []) = found
  rw [hscalar]
  rfl

/-- Digits that do not start with zero are one number. -/
theorem next_digits {c : Char} {digits rest : List Char} (h0 : c ≠ '0')
    (hd : ∀ d ∈ c :: digits, isDigit d = true) (hr : EndsNumber rest) :
    next (c :: (digits ++ rest)) = (wholeNumber false (c :: digits), rest) :=
  next_unsigned (hd c List.mem_cons_self) (unsigned?_whole false (whole?_digits h0 hd hr.endsDigits) hr)

/-! ## Numbers as they are written -/

theorem isDigit_of_mem_toDigits {n : Nat} {c : Char} (h : c ∈ Nat.toDigits 10 n) : isDigit c = true :=
  Nat.isDigit_of_mem_toDigits (by decide) (by decide) h

theorem number_toDigits (n : Nat) : number (Nat.toDigits 10 n) = n :=
  Nat.ofDigitChars_toDigits (by decide) (by decide)

/-- Only zero is written with a zero at the start. -/
theorem toDigits_cases (n : Nat) :
    Nat.toDigits 10 n = ['0'] ∨ ∃ c digits, Nat.toDigits 10 n = c :: digits ∧ c ≠ '0' := by
  induction n using Nat.strongRecOn with
  | ind n ih =>
    rw [Nat.toDigits_eq_if (by decide)]
    split
    · next hn =>
      have hall : ∀ n < 10, [n.digitChar] = ['0'] ∨ ∃ c digits, [n.digitChar] = c :: digits ∧ c ≠ '0' := by
        intro n hn
        cases n with
        | zero => exact .inl rfl
        | succ n =>
          have hne : ∀ n < 9, (n + 1).digitChar ≠ '0' := by decide
          exact .inr ⟨_, [], rfl, hne n (by omega)⟩
      exact hall n hn
    · next hn =>
      rcases ih (n / 10) (by omega) with h | ⟨c, digits, h, hc⟩
      · -- A whole part of zero would be that of a single digit.
        have hz := number_toDigits (n / 10)
        rw [h] at hz
        exact absurd hz (by show (0 : Nat) ≠ _; omega)
      · rw [h]
        exact .inr ⟨c, _, rfl, hc⟩

theorem whole?_toDigits (n : Nat) {rest : List Char} (hr : EndsNumber rest) :
    whole? (Nat.toDigits 10 n ++ rest) = some (Nat.toDigits 10 n, rest) := by
  rcases toDigits_cases n with h | ⟨c, digits, h, hc⟩
  · rw [h]
    rfl
  · have hd : ∀ d ∈ c :: digits, isDigit d = true := fun d hd => isDigit_of_mem_toDigits (h ▸ hd)
    rw [h]
    exact whole?_digits hc hd hr.endsDigits

theorem list_cons {c : Char} (h : isSpace c = false) (steps : Nat) (cs : List Char) :
    list (steps + 1) (c :: cs) = ((next (c :: cs)).1, c :: cs) :: list steps (next (c :: cs)).2 := by
  rw [list]
  simp [h]

end Lexeme

/-! ## Members with a long number -/

/-- The JSON text of an object with one member, a whole number. -/
def memberText (digits : List Char) : String :=
  String.ofList ('\x7b' :: '\"' :: 'n' :: '\"' :: ':' :: (digits ++ ['\x7d']))

/-- A whole number with more digits than are read is refused. -/
theorem read_memberText {c : Char} {digits : List Char} (h0 : c ≠ '0')
    (hd : ∀ d ∈ c :: digits, Lexeme.isDigit d = true) (hl : digitLimit < (c :: digits).length) :
    read (memberText (c :: digits)) = .error (.oversized (c :: digits).length) := by
  have hends : Lexeme.EndsNumber ['\x7d'] := by
    rintro _ ⟨⟩
    decide
  have hnext := Lexeme.next_digits h0 hd hends
  rw [Lexeme.wholeNumber, if_pos hl] at hnext
  have hspace : Lexeme.isSpace c = false := by
    have hc := hd c List.mem_cons_self
    rw [← Bool.not_eq_true]
    intro hs
    simp only [Lexeme.isSpace, Bool.or_eq_true, decide_eq_true_eq] at hs
    rcases hs with ((rfl | rfl) | rfl) | rfl <;> cases hc
  have hlen : ('\x7b' :: '\"' :: 'n' :: '\"' :: ':' :: (c :: digits ++ ['\x7d'])).length =
      digits.length + 3 + 1 + 1 + 1 + 1 := by
    simp
  rw [Json.read, memberText, String.toList_ofList, readChars, if_neg (by simp), Lexeme.ofChars, hlen]
  have hkey : ∀ rest, Lexeme.next ('\"' :: 'n' :: '\"' :: rest) = (.text "n", rest) := fun _ => by
    simp only [Lexeme.next, Lexeme.string]
    rfl
  rw [Lexeme.list_cons (by decide), Lexeme.next, Lexeme.list_cons (by decide), hkey,
    Lexeme.list_cons (by decide), Lexeme.next, List.cons_append, Lexeme.list_cons hspace, hnext]
  rfl

theorem read_sevens {n : Nat} (h : digitLimit < n) :
    read (memberText (List.replicate n '7')) = .error (.oversized n) := by
  have hd : ∀ d ∈ List.replicate n '7', Lexeme.isDigit d = true := by
    intro d hd
    rw [List.eq_of_mem_replicate hd]
    decide
  cases n with
  | zero => cases h
  | succ n =>
    have hr := read_memberText (by decide) hd (by rwa [← List.replicate_succ, List.length_replicate])
    rwa [← List.replicate_succ, List.length_replicate] at hr

end CodeMarkup.Json
