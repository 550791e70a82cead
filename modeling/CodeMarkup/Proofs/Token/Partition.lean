import CodeMarkup.Token
/-!
# Tokens cover the text

`classify_partition`: the texts of the tokens, put together, are the source, and none of them is empty.
Both rest on the bounds of the rules: wherever a rule applies, its token ends after the place it starts
at and not after the end of the source.
-/

namespace CodeMarkup.Token

/-- The characters of tokens, one token after the other. -/
def charsOf (tokens : List Token) : List Char := tokens.flatMap (·.text.toList)

@[simp] theorem charsOf_nil : charsOf [] = [] := rfl

@[simp] theorem charsOf_cons (token : Token) (tokens : List Token) :
    charsOf (token :: tokens) = token.text.toList ++ charsOf tokens := by
  simp [charsOf]

/-- Nothing is lost or repeated. -/
theorem charsOf_ofChars (cs : List Char) : charsOf (ofChars cs) = cs := by
  fun_induction ofChars cs with
  | case1 => rfl
  | case2 c cs first ih =>
    rw [charsOf_cons, ih, String.toList_ofList, List.take_append_drop]

theorem text_ne_empty {cs : List Char} {token : Token} (h : token ∈ ofChars cs) : token.text ≠ "" := by
  fun_induction ofChars cs with
  | case1 => cases h
  | case2 c cs first ih =>
    rcases List.mem_cons.1 h with rfl | h
    · obtain ⟨hpos, -⟩ := scan_bounds (List.cons_ne_nil c cs)
      intro he
      have hnil : (c :: cs).take first.2 = [] := by
        simpa using congrArg String.toList he
      rcases List.take_eq_nil_iff.1 hnil with hz | hz
      · exact Nat.ne_of_gt hpos hz
      · cases hz
    · exact ih h

/-! ## Where tokens end -/

/-- The place where the token of a rule ends that starts at `pos`, if the rule applies there. -/
def Rule.stop? (rule : Rule) (source : String) (pos : Nat) : Option Nat :=
  (rule (source.toList.drop pos)).map (pos + ·.2)

/-- The place where the token ends that starts at `pos`. -/
def stop (source : String) (pos : Nat) : Nat := pos + (scan (source.toList.drop pos)).2

theorem drop_ne_nil {source : String} {pos : Nat} (h : pos < source.length) :
    source.toList.drop pos ≠ [] := by
  rw [ne_eq, List.drop_eq_nil_iff, String.length_toList]
  omega

theorem Rule.stop?_bounds {rule : Rule} (hr : rule ∈ rules) {source : String} {pos last : Nat}
    (hp : pos < source.length) (h : rule.stop? source pos = some last) :
    pos < last ∧ last ≤ source.length := by
  obtain ⟨⟨kind, n⟩, ha, rfl⟩ := Option.map_eq_some_iff.1 h
  obtain ⟨hpos, hle⟩ := bounded_of_mem_rules hr ha
  simp only [List.length_drop, String.length_toList] at hle
  exact ⟨by omega, by omega⟩

theorem stop_bounds {source : String} {pos : Nat} (hp : pos < source.length) :
    pos < stop source pos ∧ stop source pos ≤ source.length := by
  obtain ⟨hpos, hle⟩ := scan_bounds (drop_ne_nil hp)
  simp only [List.length_drop, String.length_toList] at hle
  exact ⟨by rw [stop]; omega, by rw [stop]; omega⟩

/-- The tokens of a source are not empty and make up the source. At every place in it, the token that
starts there ends later and within the source, and so does that of every rule that applies. -/
theorem classify_partition (source : String) :
    String.join ((classify source).map (·.text)) = source ∧
      (∀ token ∈ classify source, token.text ≠ "") ∧
      ∀ pos < source.length,
        (pos < stop source pos ∧ stop source pos ≤ source.length) ∧
        ∀ rule ∈ rules, ∀ last, rule.stop? source pos = some last → pos < last ∧ last ≤ source.length := by
  refine ⟨?_, fun token h => text_ne_empty h, fun pos hp => ⟨stop_bounds hp, ?_⟩⟩
  · rw [← String.toList_inj, String.toList_join, List.flatMap_map]
    exact charsOf_ofChars source.toList
  · intro rule hr last h
    exact Rule.stop?_bounds hr hp h

/-- A literal that ends in a lone backslash ends with the source. -/
theorem classify_partition_lone_escape :
    0 < "\"\\".length ∧ Rule.literal .string '\"' ∈ rules ∧
      (Rule.literal .string '\"').stop? "\"\\" 0 = some 2 ∧ 0 < 2 ∧ 2 ≤ "\"\\".length := by
  have hp : 0 < "\"\\".length := by decide
  have hr : Rule.literal .string '\"' ∈ rules := by simp [rules]
  have hs : (Rule.literal .string '\"').stop? "\"\\" 0 = some 2 := by decide
  exact ⟨hp, hr, hs, ((classify_partition "\"\\").2.2 0 hp).2 _ hr 2 hs⟩

end CodeMarkup.Token
