import CodeMarkup.Proofs.Token.Recognition
import Mathlib.Algebra.Group.Nat.Even
/-!
# Closing quotes

Literals are read forwards, a backslash together with the character after it. Seen from a quote this is a matter
of counting backwards: the quote closes the literal when the backslashes right before it pair up.
`quotedStop_parity`: a literal ends with the first quote of this sort, or with the source.
-/

namespace CodeMarkup.Token

/-! ## Backslashes in a row -/

/-- How many backslashes in a row there are at the end of characters. -/
def trailingEscapes (cs : List Char) : Nat := runLength (· = '\\') cs.reverse

theorem trailingEscapes_append (s t : List Char) :
    trailingEscapes (s ++ t) =
      if trailingEscapes t = t.length then t.length + trailingEscapes s else trailingEscapes t := by
  rw [trailingEscapes, runLength, List.reverse_append, List.takeWhile_append]
  by_cases hall : trailingEscapes t = t.length
  · have hrun : (t.reverse.takeWhile (· = '\\')).length = t.reverse.length := hall.trans List.length_reverse.symm
    rw [if_pos hall, if_pos hrun, List.length_append, List.length_reverse]
    rfl
  · have hrun : ¬ (t.reverse.takeWhile (· = '\\')).length = t.reverse.length :=
      fun h => hall (h.trans List.length_reverse)
    rw [if_neg hall, if_neg hrun]
    rfl

/-- A character that is no backslash ends the run. -/
theorem trailingEscapes_cons {c : Char} (h : c ≠ '\\') (cs : List Char) :
    trailingEscapes (c :: cs) = trailingEscapes cs := by
  have hone : trailingEscapes [c] = 0 := by simp [trailingEscapes, runLength, h]
  rw [← List.singleton_append, trailingEscapes_append, hone]
  split
  · next hall => rw [hall, Nat.add_zero]
  · rfl

/-- A backslash and the character after it leave the parity of the run behind them as it is. -/
theorem even_trailingEscapes_pair (c : Char) (cs : List Char) :
    Even (trailingEscapes ('\\' :: c :: cs)) ↔ Even (trailingEscapes cs) := by
  have hpair : Even (trailingEscapes ['\\', c]) := by
    by_cases h : c = '\\'
    · rw [h]
      decide
    · simp [trailingEscapes, runLength, h]
  have hsplit : '\\' :: c :: cs = ['\\', c] ++ cs := rfl
  rw [hsplit, trailingEscapes_append]
  split
  · next hall => rw [hall, Nat.even_add, iff_true_right hpair]
  · rfl

/-! ## Where a quote closes -/

/-- Behind an opening quote, the character at this place is a quote that closes: the backslashes right before
it pair up. -/
def ClosesAt (quote : Char) (cs : List Char) (place : Nat) : Prop :=
  cs[place]? = some quote ∧ Even (trailingEscapes (cs.take place))

theorem Inside.even_trailingEscapes {quote : Char} {body : List Char} (h : Inside quote body) :
    Even (trailingEscapes body) := by
  induction h with
  | nil => exact Even.zero
  | escaped _ ih => exact (even_trailingEscapes_pair _ _).2 ih
  | plain hc _ _ ih => rwa [trailingEscapes_cons hc]

/-- No quote inside a literal closes it. -/
theorem Inside.not_closesAt {quote : Char} {body : List Char} (h : Inside quote body) (hq : quote ≠ '\\')
    (rest : List Char) {place : Nat} (hp : place < body.length) : ¬ ClosesAt quote (body ++ rest) place := by
  induction h generalizing place with
  | nil => exact absurd hp (Nat.not_lt_zero _)
  | @escaped c cs _ ih =>
    rintro ⟨hquote, heven⟩
    match place with
    | 0 => exact hq (Option.some.inj hquote).symm
    | 1 =>
      -- One backslash stands alone before this character.
      have hone : ¬ Even (trailingEscapes ['\\']) := by decide
      exact hone heven
    | place + 2 =>
      have hp' : place < cs.length := by simpa using hp
      exact ih hp' ⟨hquote, (even_trailingEscapes_pair _ _).1 heven⟩
  | @plain c cs hc hne _ ih =>
    rintro ⟨hquote, heven⟩
    cases place with
    | zero => exact hne (Option.some.inj hquote)
    | succ place =>
      rw [List.cons_append, List.take_succ_cons, trailingEscapes_cons hc] at heven
      exact ih (Nat.lt_of_succ_lt_succ hp) ⟨hquote, heven⟩

/-- A literal is read up to and with the first quote that closes it, or to the end. -/
theorem quotedTail_cases {quote : Char} (hq : quote ≠ '\\') (cs : List Char) :
    (∃ place, quotedTail quote cs = place + 1 ∧ ClosesAt quote cs place ∧
        ∀ before < place, ¬ ClosesAt quote cs before) ∨
      quotedTail quote cs = cs.length ∧ ∀ place, ¬ ClosesAt quote cs place := by
  have hending := ending_quotedTail quote cs
  generalize quotedTail quote cs = n at hending
  cases hending with
  | @closed body rest hin =>
    refine .inl ⟨body.length, rfl, ⟨?_, ?_⟩, fun before hb => hin.not_closesAt hq _ hb⟩
    · rw [List.getElem?_append_right (Nat.le_refl _), Nat.sub_self, List.getElem?_cons_zero]
    · rw [List.take_left]
      exact hin.even_trailingEscapes
  | unclosed hin =>
    refine .inr ⟨rfl, fun place hcloses => ?_⟩
    have hplace := (List.getElem?_eq_some_iff.1 hcloses.1).1
    have hnot := hin.not_closesAt hq [] hplace
    rw [List.append_nil] at hnot
    exact hnot hcloses
  | @escaping body hin =>
    refine .inr ⟨by rw [List.length_append, List.length_singleton], fun place hcloses => ?_⟩
    rcases Nat.lt_trichotomy place body.length with hlt | rfl | hgt
    · exact hin.not_closesAt hq _ hlt hcloses
    · have hquote := hcloses.1
      rw [List.getElem?_append_right (Nat.le_refl _), Nat.sub_self, List.getElem?_cons_zero] at hquote
      exact hq (Option.some.inj hquote).symm
    · have hplace := (List.getElem?_eq_some_iff.1 hcloses.1).1
      rw [List.length_append, List.length_singleton] at hplace
      omega

/-! ## Literals in a source -/

/-- Where a literal ends whose opening quote is at `pos`. -/
def quotedStop (source : String) (pos : Nat) (quote : Char) : Nat :=
  pos + 1 + quotedTail quote (source.toList.drop (pos + 1))

/-- At `last` there is a quote that closes the literal that is opened at `pos`: between the two, an even number
of backslashes in a row stands right before it. -/
def ClosingQuote (source : String) (pos : Nat) (quote : Char) (last : Nat) : Prop :=
  pos < last ∧ source.toList[last]? = some quote ∧
    Even (trailingEscapes ((source.toList.take last).drop (pos + 1)))

instance (source : String) (pos : Nat) (quote : Char) (last : Nat) :
    Decidable (ClosingQuote source pos quote last) :=
  inferInstanceAs (Decidable (_ ∧ _ ∧ _))

theorem closingQuote_iff {source : String} {pos : Nat} {quote : Char} {place : Nat} :
    ClosingQuote source pos quote (pos + 1 + place) ↔
      ClosesAt quote (source.toList.drop (pos + 1)) place := by
  rw [ClosingQuote, ClosesAt, List.getElem?_drop, List.drop_take, Nat.add_sub_cancel_left]
  exact and_iff_right (by omega)

theorem ClosingQuote.exists_place {source : String} {pos : Nat} {quote : Char} {last : Nat}
    (h : ClosingQuote source pos quote last) :
    ∃ place, last = pos + 1 + place ∧ ClosesAt quote (source.toList.drop (pos + 1)) place := by
  obtain ⟨place, rfl⟩ := Nat.exists_eq_add_of_le (Nat.succ_le_of_lt h.1)
  exact ⟨place, rfl, closingQuote_iff.1 h⟩

/-- The rule for literals ends its token where the literal ends. -/
theorem stop?_literal {source : String} {pos : Nat} {quote : Char} (hat : source.toList[pos]? = some quote)
    (kind : Kind) : (Rule.literal kind quote).stop? source pos = some (quotedStop source pos quote) := by
  obtain ⟨hpos, hget⟩ := List.getElem?_eq_some_iff.1 hat
  rw [Rule.stop?, List.drop_eq_getElem_cons hpos, hget, Rule.literal, if_pos rfl, Option.map_some, quotedStop,
    Nat.add_assoc]

/-- A literal that is opened at a place ends behind the first quote after it before which the backslashes in a
row pair up, or, where there is none, with the source. This is where the rule for literals ends its token. -/
theorem quotedStop_parity {source : String} {pos : Nat} {quote : Char}
    (hat : source.toList[pos]? = some quote) (hq : quote ≠ '\\') :
    (∀ last, ClosingQuote source pos quote last → (∀ other, ClosingQuote source pos quote other → last ≤ other) →
        quotedStop source pos quote = last + 1) ∧
      ((∀ last, ¬ ClosingQuote source pos quote last) → quotedStop source pos quote = source.length) ∧
      (pos < quotedStop source pos quote ∧ quotedStop source pos quote ≤ source.length) ∧
      ∀ kind, (Rule.literal kind quote).stop? source pos = some (quotedStop source pos quote) := by
  obtain ⟨hpos, -⟩ := List.getElem?_eq_some_iff.1 hat
  have hlength : source.toList.length = source.length := String.length_toList
  have hdrop : (source.toList.drop (pos + 1)).length = source.length - (pos + 1) := by
    rw [List.length_drop, hlength]
  refine ⟨?_, ?_, ?_, stop?_literal hat⟩
  · intro last hlast hleast
    obtain ⟨place, rfl, hplace⟩ := hlast.exists_place
    rcases quotedTail_cases hq (source.toList.drop (pos + 1)) with ⟨first, htail, hfirst, hbefore⟩ | ⟨-, hnone⟩
    · have hle := hleast _ (closingQuote_iff.2 hfirst)
      have hge : ¬ place < first := fun hlt => hbefore place hlt hplace
      rw [quotedStop, htail]
      omega
    · exact absurd hplace (hnone place)
  · intro hnone
    rcases quotedTail_cases hq (source.toList.drop (pos + 1)) with ⟨first, -, hfirst, -⟩ | ⟨htail, -⟩
    · exact absurd (closingQuote_iff.2 hfirst) (hnone _)
    · rw [quotedStop, htail, hdrop]
      omega
  · have hle := quotedTail_le quote (source.toList.drop (pos + 1))
    rw [quotedStop]
    omega

/-- One backslash escapes the quote after it, and two do not. -/
theorem quotedStop_parity_escaped :
    "x \"a\\\"b\\\\\" y".toList[2]? = some '\"' ∧ '\"' ≠ '\\' ∧
      ClosingQuote "x \"a\\\"b\\\\\" y" 2 '\"' 9 ∧ quotedStop "x \"a\\\"b\\\\\" y" 2 '\"' = 10 := by
  have hat : "x \"a\\\"b\\\\\" y".toList[2]? = some '\"' := by decide
  have hq : '\"' ≠ '\\' := by decide
  have hlast : ClosingQuote "x \"a\\\"b\\\\\" y" 2 '\"' 9 := by decide
  have hbefore : ∀ other < 9, ¬ ClosingQuote "x \"a\\\"b\\\\\" y" 2 '\"' other := by decide
  have hstop := (quotedStop_parity hat hq).1 9 hlast fun other h => Nat.le_of_not_lt fun hlt => hbefore other hlt h
  exact ⟨hat, hq, hlast, hstop⟩

end CodeMarkup.Token
