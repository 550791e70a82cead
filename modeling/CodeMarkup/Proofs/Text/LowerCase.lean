import CodeMarkup.Proofs.Text.Blank
import CodeMarkup.Text.LowerCase
import Mathlib.Data.List.Basic
/-!
# Text in lower case

What stands in lower case stays as it is when the lower case is taken again (`lower_lower`). The table of the lower
case is looked at once, run by run: nothing that a run gives is held by a run (`apart_lowerRuns`), and nothing
that it gives is white space, a colon or a semicolon (`avoids_lowerRuns`). So the lower case of a text has such
characters only where the text has them (`IsLowered`).
-/

namespace CodeMarkup.Text

/-! ## The table -/

namespace CaseRun

/-- Where the first code point of a run goes. -/
def firstImage (run : CaseRun) : Nat := ((run.first : Int) + run.offset).toNat

/-- Where the last code point of a run goes. -/
def lastImage (run : CaseRun) : Nat := ((run.last : Int) + run.offset).toNat

/-- Whether nothing that the run gives is held by the other one: it lies outside, or between what the other
holds. -/
def apart (run other : CaseRun) : Bool :=
  Nat.blt run.lastImage other.first || Nat.blt other.last run.firstImage ||
    other.step == 2 && (run.step == 2 || run.first == run.last) && (run.firstImage + other.first) % 2 == 1

/-- Nothing that the run gives lies in one of the ranges. -/
def Avoids (run : CaseRun) (ranges : List (Nat × Nat)) : Prop :=
  ∀ range ∈ ranges, run.lastImage < range.1 ∨ range.2 < run.firstImage

instance (run : CaseRun) (ranges : List (Nat × Nat)) : Decidable (run.Avoids ranges) :=
  inferInstanceAs (Decidable (∀ _ ∈ _, _))

theorem image?_eq_some {run : CaseRun} {n m : Nat} (h : run.image? n = some m) :
    (run.first ≤ n ∧ n ≤ run.last) ∧ (n - run.first) % run.step = 0 ∧ m = ((n : Int) + run.offset).toNat := by
  rw [image?, Option.ite_none_right_eq_some, Option.some.injEq] at h
  simp only [Bool.and_eq_true, decide_eq_true_eq, beq_iff_eq] at h
  exact ⟨h.1.1, h.1.2, h.2.symm⟩

theorem image?_eq_none_of_apart {run other : CaseRun} (h : run.apart other = true) (hpositive : 0 < run.firstImage)
    {n m : Nat} (hm : run.image? n = some m) : other.image? m = none := by
  obtain ⟨⟨hfirst, hlast⟩, hstep, rfl⟩ := image?_eq_some hm
  rw [image?, if_neg]
  simp only [Bool.and_eq_true, decide_eq_true_eq, beq_iff_eq]
  rintro ⟨⟨hfirst', hlast'⟩, hstep'⟩
  simp only [apart, Bool.or_eq_true, Bool.and_eq_true, Nat.blt_eq, beq_iff_eq] at h
  rw [firstImage] at hpositive
  rw [firstImage, lastImage] at h
  rcases h with (h | h) | ⟨⟨hother, hrun⟩, h⟩
  · omega
  · omega
  · rw [hother] at hstep'
    rcases hrun with hrun | hrun
    · rw [hrun] at hstep
      omega
    · omega

theorem Avoids.not_mem {run : CaseRun} {ranges : List (Nat × Nat)} (h : run.Avoids ranges)
    (hpositive : 0 < run.firstImage) {n m : Nat} (hm : run.image? n = some m) {range : Nat × Nat}
    (hrange : range ∈ ranges) : ¬ (range.1 ≤ m ∧ m ≤ range.2) := by
  obtain ⟨⟨hfirst, hlast⟩, -, rfl⟩ := image?_eq_some hm
  have := h range hrange
  rw [firstImage] at hpositive
  rw [firstImage, lastImage] at this
  omega

end CaseRun

theorem apart_lowerRuns : (lowerRuns.all fun run => lowerRuns.all run.apart) = true := by decide +kernel

/-- What no run gives: the colon and the semicolon, `İ`, the surrogates, and white space. -/
def unlowered : List (Nat × Nat) := (0x3a, 0x3b) :: (0x130, 0x130) :: (0xd800, 0xdfff) :: blankRanges

theorem avoids_lowerRuns : ∀ run ∈ lowerRuns,
    0 < run.firstImage ∧ run.lastImage < 0x110000 ∧ run.Avoids unlowered := by
  decide +kernel

theorem inRanges_eq_false {ranges : List (Nat × Nat)} {n : Nat}
    (h : ∀ range ∈ ranges, ¬ (range.1 ≤ n ∧ n ≤ range.2)) : inRanges ranges n = false := by
  induction ranges with
  | nil => rfl
  | cons range rest ih =>
    rw [List.forall_mem_cons] at h
    rw [inRanges, ih h.2, Bool.or_false]
    simpa using h.1

/-! ## Single characters -/

/-- What may stand for a character in lower case: it stands for itself, and only the character itself may be white
space or one of the marks that declarations are made of. -/
structure IsLowered (c d : Char) : Prop where
  fixed : lowerChar d = [d]
  plain : d = c ∨ isBlank d = false ∧ d ≠ ':' ∧ d ≠ ';'

/-- What a run gives stands for itself. -/
theorem isLowered_of_image? {run : CaseRun} (hrun : run ∈ lowerRuns) {c : Char} {m : Nat}
    (hm : run.image? c.toNat = some m) : IsLowered c (Char.ofNat m) := by
  obtain ⟨hpositive, hlast, havoids⟩ := avoids_lowerRuns run hrun
  have hnot : ∀ range ∈ unlowered, ¬ (range.1 ≤ m ∧ m ≤ range.2) := fun range => havoids.not_mem hpositive hm
  simp only [unlowered, List.forall_mem_cons] at hnot
  obtain ⟨hmarks, hdotted, hsurrogate, hblank⟩ := hnot
  have hvalid : (Char.ofNat m).toNat = m := by
    have hm' : m.isValidChar := by
      obtain ⟨⟨-, hle⟩, -, rfl⟩ := CaseRun.image?_eq_some hm
      unfold CaseRun.lastImage at hlast
      unfold Nat.isValidChar
      omega
    rw [Char.ofNat, dif_pos hm']
    rfl
  have hne : ∀ d : Char, d.toNat ≠ m → Char.ofNat m ≠ d := by
    rintro d hd rfl
    exact hd hvalid
  refine ⟨?_, .inr ⟨?_, hne _ ?_, hne _ ?_⟩⟩
  · have hnone : lowerRuns.findSome? (·.image? m) = none := by
      rw [List.findSome?_eq_none_iff]
      intro other hother
      have hapart := List.all_eq_true.1 (List.all_eq_true.1 apart_lowerRuns run hrun) other hother
      exact CaseRun.image?_eq_none_of_apart hapart hpositive hm
    rw [lowerChar, if_neg (hne _ ?_), hvalid, hnone]
    show (0x130 : Nat) ≠ m
    omega
  · rw [isBlank, charIn, hvalid]
    exact inRanges_eq_false hblank
  · show (0x3a : Nat) ≠ m
    omega
  · show (0x3b : Nat) ≠ m
    omega

theorem isLowered_of_fixed {d : Char} (h : lowerChar d = [d] ∧ isBlank d = false ∧ d ≠ ':' ∧ d ≠ ';') (c : Char) :
    IsLowered c d :=
  ⟨h.1, .inr h.2⟩

theorem isLowered_of_mem {c d : Char} (h : d ∈ lowerChar c) : IsLowered c d := by
  unfold lowerChar at h
  split at h
  · -- The one character that becomes two.
    rcases List.mem_cons.1 h with rfl | h
    · exact isLowered_of_fixed (by decide +kernel) c
    · cases List.mem_singleton.1 h
      exact isLowered_of_fixed (by decide +kernel) c
  · next hdotted =>
    split at h
    · next m hm =>
      obtain ⟨run, hrun, hm⟩ := List.exists_of_findSome?_eq_some hm
      cases List.mem_singleton.1 h
      exact isLowered_of_image? hrun hm
    · next hnone =>
      cases List.mem_singleton.1 h
      refine ⟨?_, .inl rfl⟩
      rw [lowerChar, if_neg hdotted, hnone]

theorem lowerChar_ne_nil (c : Char) : lowerChar c ≠ [] := by
  unfold lowerChar
  split
  · exact List.cons_ne_nil _ _
  · split <;> exact List.cons_ne_nil _ _

/-! ## Texts -/

/-- What may stand for a code point in lower case. -/
structure Lowers (point image : CodePoint) : Prop where
  fixed : image ≠ 'Σ' ∧ image.expand lowerChar = [image]
  plain : image = point ∨ image.has isBlank = false ∧ image ≠ ':' ∧ image ≠ ';'

theorem IsLowered.lowers {c d : Char} (h : IsLowered c d) : Lowers c d := by
  refine ⟨⟨?_, ?_⟩, ?_⟩
  · have hsigma : lowerChar 'Σ' ≠ ['Σ'] := by decide +kernel
    intro hd
    cases hd
    exact hsigma h.fixed
  · rw [CodePoint.expand, h.fixed, List.map_singleton]
  · rcases h.plain with rfl | ⟨hblank, hcolon, hsemicolon⟩
    · exact .inl rfl
    · exact .inr ⟨hblank, fun he => hcolon (CodePoint.char.inj he), fun he => hsemicolon (CodePoint.char.inj he)⟩

theorem lowers_lowerSigma (before after : CodePoints) : Lowers 'Σ' (lowerSigma before after) := by
  unfold lowerSigma
  split
  · exact (isLowered_of_fixed (by decide +kernel) 'Σ').lowers
  · exact (isLowered_of_fixed (by decide +kernel) 'Σ').lowers

/-- What a code point becomes between others. -/
theorem exists_lowerAfter_cons (before : CodePoints) (point : CodePoint) (after : CodePoints) :
    ∃ images : CodePoints, images ≠ [] ∧ (∀ image ∈ images, Lowers point image) ∧
      lowerAfter before (point :: after) = images ++ lowerAfter (point :: before) after := by
  rw [lowerAfter]
  split
  · next hsigma =>
    refine ⟨_, List.cons_ne_nil _ _, fun image himage => ?_, rfl⟩
    cases List.mem_singleton.1 himage
    exact hsigma ▸ lowers_lowerSigma before after
  · refine ⟨_, ?_, fun image himage => ?_, rfl⟩
    · cases point with
      | char c => exact mt List.map_eq_nil_iff.1 (lowerChar_ne_nil c)
      | surrogate offset => exact List.cons_ne_nil _ _
    · cases point with
      | char c =>
        obtain ⟨d, hd, rfl⟩ := List.mem_map.1 himage
        exact (isLowered_of_mem hd).lowers
      | surrogate offset =>
        cases List.mem_singleton.1 himage
        exact ⟨⟨by rintro ⟨⟩, rfl⟩, .inl rfl⟩

theorem exists_lowers_of_mem {before s : CodePoints} {image : CodePoint} (h : image ∈ lowerAfter before s) :
    ∃ point ∈ s, Lowers point image := by
  induction s generalizing before with
  | nil => cases h
  | cons point after ih =>
    obtain ⟨images, -, himages, he⟩ := exists_lowerAfter_cons before point after
    rw [he, List.mem_append] at h
    rcases h with h | h
    · exact ⟨point, List.mem_cons_self, himages image h⟩
    · obtain ⟨other, hother, hlowers⟩ := ih h
      exact ⟨other, List.mem_cons_of_mem _ hother, hlowers⟩

/-- A text stays as it is where every code point stands for itself. -/
theorem lowerAfter_of_fixed {s : CodePoints} (h : ∀ point ∈ s, point ≠ 'Σ' ∧ point.expand lowerChar = [point])
    (before : CodePoints) : lowerAfter before s = s := by
  induction s generalizing before with
  | nil => rfl
  | cons point after ih =>
    obtain ⟨⟨hsigma, hfixed⟩, hafter⟩ := List.forall_mem_cons.1 h
    rw [lowerAfter, if_neg hsigma, hfixed, ih hafter, List.singleton_append]

/-- The lower case of a text in lower case is the text. -/
theorem lower_lower (s : CodePoints) : lower (lower s) = lower s := by
  refine lowerAfter_of_fixed (fun image himage => ?_) []
  obtain ⟨_, -, hlowers⟩ := exists_lowers_of_mem himage
  exact hlowers.fixed

/-- No colon and no semicolon comes from other characters. -/
theorem not_mem_lower {mark : CodePoint} (hmark : mark = ':' ∨ mark = ';') {s : CodePoints} (h : mark ∉ s) :
    mark ∉ lower s := by
  intro hm
  obtain ⟨point, hpoint, hlowers⟩ := exists_lowers_of_mem hm
  rcases hlowers.plain with rfl | ⟨-, hcolon, hsemicolon⟩
  · exact h hpoint
  · rcases hmark with hmark | hmark
    · exact hcolon hmark
    · exact hsemicolon hmark

/-! ## The ends of a text -/

theorem exists_lowers_of_head? {s : CodePoints} {image : CodePoint} (h : (lower s).head? = some image) :
    ∃ point, s.head? = some point ∧ Lowers point image := by
  cases s with
  | nil => cases h
  | cons point after =>
    obtain ⟨images, hne, himages, he⟩ := exists_lowerAfter_cons [] point after
    rw [lower, he, List.head?_append_of_ne_nil _ hne] at h
    exact ⟨point, rfl, himages image (List.mem_of_mem_head? h)⟩

theorem exists_lowers_of_getLast? {before s : CodePoints} {image : CodePoint}
    (h : (lowerAfter before s).getLast? = some image) : ∃ point, s.getLast? = some point ∧ Lowers point image := by
  induction s generalizing before with
  | nil => cases h
  | cons point after ih =>
    obtain ⟨images, hne, himages, he⟩ := exists_lowerAfter_cons before point after
    rw [he] at h
    cases after with
    | nil =>
      rw [lowerAfter, List.append_nil] at h
      exact ⟨point, rfl, himages image (List.mem_of_getLast? h)⟩
    | cons next after =>
      obtain ⟨others, hothers, -, hnext⟩ := exists_lowerAfter_cons (point :: before) next after
      have hrest : lowerAfter (point :: before) (next :: after) ≠ [] := by
        rw [hnext]
        exact List.append_ne_nil_of_left_ne_nil hothers _
      rw [List.getLast?_append_of_ne_nil _ hrest] at h
      rw [List.getLast?_cons_cons]
      exact ih h

/-- No white space comes to the ends of a text. -/
theorem Trimmed.lower {s : CodePoints} (h : Trimmed s) : Trimmed (lower s) := by
  have hplain : ∀ {point image : CodePoint}, Lowers point image → point.has isBlank = false →
      image.has isBlank = false := by
    intro point image hlowers hpoint
    rcases hlowers.plain with rfl | ⟨hblank, -⟩
    · exact hpoint
    · exact hblank
  constructor
  · intro image himage
    obtain ⟨point, hpoint, hlowers⟩ := exists_lowers_of_head? himage
    exact hplain hlowers (h.start point hpoint)
  · intro image himage
    obtain ⟨point, hpoint, hlowers⟩ := exists_lowers_of_getLast? himage
    exact hplain hlowers (h.finish point hpoint)

end CodeMarkup.Text
