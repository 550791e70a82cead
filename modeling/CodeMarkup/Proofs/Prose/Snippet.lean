import CodeMarkup.Prose
import Mathlib.Data.List.TakeDrop
import Mathlib.Data.List.TakeWhile
import Mathlib.Order.WellFounded
/-!
# Snippets in prose

What a snippet looks like, without a word on how it is found: `Snippet.WellFormed` is about the snippet alone,
and `Snippet.At` says that it stands at the start of a text where no form that goes first fits.
`snippet?_eq_some_iff` ties this to the search. What stands at a start is decided by the snippet alone, so
text after it can be cut off (`Snippet.At.append`) or be put there (`Snippet.Fits.append`).
-/

namespace CodeMarkup.Prose

/-! ## Forms of snippets -/

/-- A fence after the code is the first one: no fence in code and fence ends sooner. -/
def Closes (code : List Char) : Prop :=
  ∀ before after, code ++ fence = before ++ fence ++ after → after = []

namespace Snippet

/-- Code between fences goes up to the nearest fence. Code in a line is not empty and does not hold the
character that its end starts with. -/
inductive WellFormed : Snippet → Prop
  | fenced {code : List Char} (nearest : Closes code) : WellFormed (.fenced code)
  | spanned {code : List Char} (hne : code ≠ []) (h : '`' ∉ code) : WellFormed (.spanned code)
  | tagged {code : List Char} (hne : code ≠ []) (h : '<' ∉ code) : WellFormed (.tagged code)

/-- The place of a snippet's form in the order in which the forms are tried. -/
def rank : Snippet → Nat
  | .fenced _ => 0
  | .spanned _ => 1
  | .tagged _ => 2

/-- A text starts with a snippet of some form. -/
def Fits (snippet : Snippet) (s : List Char) : Prop := snippet.WellFormed ∧ snippet.written <+: s

/-- A text starts with a snippet, and with none of a form that is tried before. -/
def At (snippet : Snippet) (s : List Char) : Prop :=
  snippet.Fits s ∧ ∀ other : Snippet, other.Fits s → snippet.rank ≤ other.rank

theorem written_ne_nil (snippet : Snippet) : snippet.written ≠ [] := by
  cases snippet <;> simp [written, fence, openTag]

theorem Fits.append {snippet : Snippet} {s : List Char} (h : snippet.Fits s) (t : List Char) :
    snippet.Fits (s ++ t) :=
  ⟨h.1, h.2.trans (List.prefix_append s t)⟩

/-- Where some snippet fits, one stands: that of the form tried first. -/
theorem Fits.exists_at {snippet : Snippet} {s : List Char} (h : snippet.Fits s) :
    ∃ first : Snippet, first.At s := by
  obtain ⟨first, hfits, hmin⟩ := WellFounded.has_min (measure rank).wf {other | other.Fits s} ⟨snippet, h⟩
  exact ⟨first, hfits, fun other hother => Nat.le_of_not_lt (hmin other hother)⟩

/-- What stands at the start of a text still does when the text is cut off somewhere after it. -/
theorem At.of_append {snippet : Snippet} {s t : List Char} (h : snippet.At (snippet.written ++ (s ++ t))) :
    snippet.At (snippet.written ++ s) := by
  refine ⟨⟨h.1.1, List.prefix_append _ _⟩, fun other hother => h.2 other ?_⟩
  rw [← List.append_assoc]
  exact hother.append t

end Snippet

/-! ## The nearest fence -/

theorem closes_nil : Closes [] := by
  intro before after he
  have hl := congrArg List.length he
  simp only [List.length_append, List.length_nil] at hl
  exact List.eq_nil_of_length_eq_zero (by omega)

theorem closes_cons {c : Char} {code : List Char} :
    Closes (c :: code) ↔ ¬ fence <+: c :: (code ++ fence) ∧ Closes code := by
  constructor
  · intro h
    refine ⟨?_, ?_⟩
    · rintro ⟨after, ha⟩
      rw [h [] after ha.symm, List.append_nil] at ha
      have hl := congrArg List.length ha
      simp only [List.length_cons, List.length_append] at hl
      omega
    · intro before after he
      exact h (c :: before) after (congrArg (c :: ·) he)
  · rintro ⟨hfence, h⟩ before after he
    cases before with
    | nil => exact absurd ⟨after, he.symm⟩ hfence
    | cons d before => exact h before after (List.cons.inj he).2

theorem beforeFence?_eq_some_iff {s code : List Char} :
    beforeFence? s = some code ↔ Closes code ∧ code ++ fence <+: s := by
  fun_induction beforeFence? s generalizing code with
  | case1 rest =>
    have hs : fence <+: '`' :: '`' :: '`' :: rest := List.prefix_append fence rest
    constructor
    · rintro ⟨⟩
      exact ⟨closes_nil, hs⟩
    · rintro ⟨hclose, hp⟩
      cases code with
      | nil => rfl
      | cons c code =>
        have hl : fence.length ≤ (c :: code ++ fence).length := by
          rw [List.length_append]
          exact Nat.le_add_left _ _
        exact absurd (List.prefix_of_prefix_length_le hs hp hl) (closes_cons.1 hclose).1
  | case2 c rest hc ih =>
    have hs : ¬ fence <+: c :: rest := by
      rintro ⟨after, ha⟩
      obtain ⟨rfl, hr⟩ := List.cons.inj ha
      exact hc after rfl hr.symm
    rw [Option.map_eq_some_iff]
    constructor
    · rintro ⟨later, hlater, rfl⟩
      obtain ⟨hclose, hp⟩ := ih.1 hlater
      have hp' : c :: (later ++ fence) <+: c :: rest := List.cons_prefix_cons.2 ⟨rfl, hp⟩
      exact ⟨closes_cons.2 ⟨fun h => hs (h.trans hp'), hclose⟩, hp'⟩
    · rintro ⟨hclose, hp⟩
      cases code with
      | nil => exact absurd hp hs
      | cons d later =>
        obtain ⟨rfl, hlater⟩ := List.cons_prefix_cons.1 hp
        exact ⟨later, ih.2 ⟨(closes_cons.1 hclose).2, hlater⟩, rfl⟩
  | case3 =>
    constructor
    · rintro ⟨⟩
    · rintro ⟨-, hp⟩
      cases code <;> cases List.prefix_nil.1 hp

/-! ## The search -/

theorem fenced?_eq_some_iff {s : List Char} {snippet : Snippet} :
    fenced? s = some snippet ↔ snippet.rank = 0 ∧ snippet.Fits s := by
  rw [fenced?]
  constructor
  · intro h
    split at h
    · next hopen =>
      obtain ⟨code, hcode, rfl⟩ := Option.map_eq_some_iff.1 h
      obtain ⟨hclose, hp⟩ := beforeFence?_eq_some_iff.1 hcode
      obtain ⟨rest, rfl⟩ := List.isPrefixOf_iff_prefix.1 hopen
      refine ⟨rfl, .fenced hclose, ?_⟩
      rw [Snippet.written, List.append_assoc]
      exact (List.prefix_append_right_inj fence).2 hp
    · cases h
  · rintro ⟨hrank, hwell, hp⟩
    cases hwell with
    | spanned => cases hrank
    | tagged => cases hrank
    | fenced hclose =>
      rw [Snippet.written, List.append_assoc] at hp
      obtain ⟨rest, rfl⟩ := hp
      have hcode := beforeFence?_eq_some_iff.2 ⟨hclose, List.prefix_append _ rest⟩
      rw [List.append_assoc, if_pos (List.isPrefixOf_iff_prefix.2 (List.prefix_append fence _))]
      exact congrArg (Option.map Snippet.fenced) hcode

theorem takeWhile_append_stop {stop : Char} {code : List Char} (h : stop ∉ code) (rest : List Char) :
    (code ++ stop :: rest).takeWhile (· ≠ stop) = code := by
  rw [List.takeWhile_append_of_pos]
  · simp
  · intro c hc
    exact decide_eq_true fun he => h (he ▸ hc)

theorem not_mem_takeWhile (stop : Char) (s : List Char) : stop ∉ s.takeWhile (· ≠ stop) := by
  intro h
  have hstop := List.mem_takeWhile_imp h
  exact of_decide_eq_true hstop rfl

theorem inline?_eq_some_iff {s : List Char} {snippet : Snippet} :
    inline? s = some snippet ↔ snippet.rank = 1 ∧ snippet.Fits s := by
  constructor
  · intro h
    unfold inline? at h
    split at h
    · next rest =>
      simp only [Option.ite_none_right_eq_some, Option.some.injEq] at h
      obtain ⟨⟨hne, hend⟩, rfl⟩ := h
      obtain ⟨after, ha⟩ := List.head?_eq_some_iff.1 hend
      refine ⟨rfl, .spanned hne (not_mem_takeWhile _ _), after, ?_⟩
      rw [Snippet.written, List.append_assoc, List.append_assoc]
      refine congrArg ('`' :: ·) ?_
      show _ ++ '`' :: after = rest
      rw [← ha]
      exact List.prefix_iff_eq_append.1 (List.takeWhile_prefix _)
    · cases h
  · rintro ⟨hrank, hwell, hp⟩
    cases hwell with
    | fenced => cases hrank
    | tagged => cases hrank
    | @spanned code hne hcode =>
      obtain ⟨rest, rfl⟩ := hp
      have htake := takeWhile_append_stop hcode rest
      have hs : (Snippet.spanned code).written ++ rest = '`' :: (code ++ '`' :: rest) := by
        simp [Snippet.written]
      rw [hs, inline?]
      simp only [htake, List.drop_left]
      rw [if_pos ⟨hne, rfl⟩]

theorem tagged?_eq_some_iff {s : List Char} {snippet : Snippet} :
    tagged? s = some snippet ↔ snippet.rank = 2 ∧ snippet.Fits s := by
  constructor
  · intro h
    unfold tagged? at h
    split at h
    · next hopen =>
      obtain ⟨inner, rfl⟩ := List.isPrefixOf_iff_prefix.1 hopen
      simp only [Option.ite_none_right_eq_some, Option.some.injEq, ← List.drop_drop, List.drop_left] at h
      obtain ⟨⟨hne, hend⟩, rfl⟩ := h
      obtain ⟨after, ha⟩ := List.isPrefixOf_iff_prefix.1 hend
      refine ⟨rfl, .tagged hne (not_mem_takeWhile _ _), after, ?_⟩
      rw [Snippet.written, List.append_assoc, List.append_assoc, ha]
      refine congrArg (openTag ++ ·) ?_
      exact List.prefix_iff_eq_append.1 (List.takeWhile_prefix _)
    · cases h
  · rintro ⟨hrank, hwell, hp⟩
    cases hwell with
    | fenced => cases hrank
    | spanned => cases hrank
    | @tagged code hne hcode =>
      obtain ⟨rest, rfl⟩ := hp
      have htake : (code ++ (closeTag ++ rest)).takeWhile (· ≠ '<') = code := takeWhile_append_stop hcode _
      rw [Snippet.written, List.append_assoc, List.append_assoc, tagged?,
        if_pos (List.isPrefixOf_iff_prefix.2 (List.prefix_append openTag _))]
      simp only [← List.drop_drop, List.drop_left, htake]
      rw [if_pos ⟨hne, List.isPrefixOf_iff_prefix.2 (List.prefix_append closeTag rest)⟩]

/-- The search finds the snippet that stands at the start. -/
theorem snippet?_eq_some_iff {s : List Char} {snippet : Snippet} :
    snippet? s = some snippet ↔ snippet.At s := by
  have hrank : ∀ other : Snippet, other.rank = 0 ∨ other.rank = 1 ∨ other.rank = 2 := by
    rintro (_ | _ | _) <;> simp [Snippet.rank]
  have hfound : snippet? s = (fenced? s).or ((inline? s).or (tagged? s)) := by
    unfold snippet?
    cases fenced? s <;> cases inline? s <;> rfl
  rw [hfound, Option.or_eq_some_iff, Option.or_eq_some_iff, fenced?_eq_some_iff, inline?_eq_some_iff,
    tagged?_eq_some_iff]
  have hnone : ∀ {find : List Char → Option Snippet} {n : Nat},
      (∀ other, find s = some other ↔ other.rank = n ∧ other.Fits s) →
        (find s = none ↔ ∀ other : Snippet, other.Fits s → other.rank ≠ n) := by
    intro find n hfind
    rw [Option.eq_none_iff_forall_ne_some]
    exact forall_congr' fun other => by rw [Ne, hfind]; tauto
  rw [hnone fun _ => fenced?_eq_some_iff, hnone fun _ => inline?_eq_some_iff]
  constructor
  · rintro (⟨h0, hfits⟩ | ⟨hfence, ⟨h1, hfits⟩ | ⟨hinline, h2, hfits⟩⟩)
    · exact ⟨hfits, fun other _ => h0 ▸ Nat.zero_le _⟩
    · refine ⟨hfits, fun other hother => ?_⟩
      have := hfence other hother
      omega
    · refine ⟨hfits, fun other hother => ?_⟩
      have := hfence other hother
      have := hinline other hother
      have := hrank other
      omega
  · rintro ⟨hfits, hfirst⟩
    rcases hrank snippet with h | h | h
    · exact .inl ⟨h, hfits⟩
    · refine .inr ⟨fun other hother => ?_, .inl ⟨h, hfits⟩⟩
      have := hfirst other hother
      omega
    · refine .inr ⟨fun other hother => ?_, .inr ⟨fun other hother => ?_, h, hfits⟩⟩
      · have := hfirst other hother
        omega
      · have := hfirst other hother
        omega

theorem Snippet.At.unique {s : List Char} {snippet other : Snippet} (h : snippet.At s) (h' : other.At s) :
    snippet = other :=
  Option.some.inj ((snippet?_eq_some_iff.2 h).symm.trans (snippet?_eq_some_iff.2 h'))

end CodeMarkup.Prose
