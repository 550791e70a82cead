import CodeMarkup.Text.CaseFold
/-!
# The order of texts

Texts are ordered by the numbers of their code points, like words in a dictionary (`le_total`, `le_trans`,
`le_antisymm`), and so they are by their folded forms, except that texts which fold alike have no order.
-/

namespace CodeMarkup.Text

/-- Code points are told apart by their numbers: those of surrogates are the ones that no character has. -/
theorem CodePoint.toNat_inj {a b : CodePoint} : a.toNat = b.toNat ↔ a = b := by
  have hvalid : ∀ c : Char, c.toNat < 0xD800 ∨ 0xDFFF < c.toNat := fun c => c.valid.imp id And.left
  refine ⟨fun h => ?_, congrArg toNat⟩
  cases a with
  | char c =>
    cases b with
    | char d => exact congrArg char (Char.toNat_inj.1 h)
    | surrogate offset =>
      have := hvalid c
      have := offset.isLt
      simp only [toNat] at h
      omega
  | surrogate offset =>
    cases b with
    | char d =>
      have := hvalid d
      have := offset.isLt
      simp only [toNat] at h
      omega
    | surrogate other =>
      simp only [toNat] at h
      exact congrArg surrogate (Fin.ext (by omega))

namespace CodePoints

theorem le_cons_iff {a b : CodePoint} {as bs : CodePoints} :
    le (a :: as) (b :: bs) = true ↔ a.toNat < b.toNat ∨ a = b ∧ le as bs = true := by
  rw [le, Bool.or_eq_true, Bool.and_eq_true, decide_eq_true_iff, beq_iff_eq]

theorem le_total (s t : CodePoints) : le s t = true ∨ le t s = true := by
  induction s generalizing t with
  | nil => exact .inl (by rw [le])
  | cons a as ih =>
    cases t with
    | nil => exact .inr (by rw [le])
    | cons b bs =>
      rw [le_cons_iff, le_cons_iff]
      rcases Nat.lt_trichotomy a.toNat b.toNat with h | h | h
      · exact .inl (.inl h)
      · cases CodePoint.toNat_inj.1 h
        exact (ih bs).imp (fun h => .inr ⟨rfl, h⟩) fun h => .inr ⟨rfl, h⟩
      · exact .inr (.inl h)

theorem le_trans {s t u : CodePoints} (h : le s t = true) (h' : le t u = true) : le s u = true := by
  induction s generalizing t u with
  | nil => rw [le]
  | cons a as ih =>
    cases t with
    | nil => cases h
    | cons b bs =>
      cases u with
      | nil => cases h'
      | cons c cs =>
        rw [le_cons_iff] at h h' ⊢
        rcases h with h | ⟨rfl, h⟩ <;> rcases h' with h' | ⟨rfl, h'⟩
        · exact .inl (Nat.lt_trans h h')
        · exact .inl h
        · exact .inl h'
        · exact .inr ⟨rfl, ih h h'⟩

theorem le_antisymm {s t : CodePoints} (h : le s t = true) (h' : le t s = true) : s = t := by
  induction s generalizing t with
  | nil =>
    cases t with
    | nil => rfl
    | cons b bs => cases h'
  | cons a as ih =>
    cases t with
    | nil => cases h
    | cons b bs =>
      rw [le_cons_iff] at h h'
      rcases h with h | ⟨rfl, h⟩
      · rcases h' with h' | ⟨rfl, -⟩
        · exact absurd h' (Nat.lt_asymm h)
        · exact absurd h (Nat.lt_irrefl _)
      · rcases h' with h' | ⟨-, h'⟩
        · exact absurd h' (Nat.lt_irrefl _)
        · rw [ih h h']

end CodePoints

/-! ## Case folded away -/

theorem foldedLe_total (s t : CodePoints) : foldedLe s t = true ∨ foldedLe t s = true :=
  CodePoints.le_total (caseFold s) (caseFold t)

theorem foldedLe_trans {s t u : CodePoints} (h : foldedLe s t = true) (h' : foldedLe t u = true) :
    foldedLe s u = true := CodePoints.le_trans h h'

theorem caseFold_eq_of_foldedLe {s t : CodePoints} (h : foldedLe s t = true) (h' : foldedLe t s = true) :
    caseFold s = caseFold t := CodePoints.le_antisymm h h'

end CodeMarkup.Text
