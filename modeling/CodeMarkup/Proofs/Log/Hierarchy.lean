import CodeMarkup.Proofs.Log.Setups
/-!
# Loggers below one another

The level that counts for a logger is found by a search upwards through its dotted name. This module tells which
loggers the search comes by, in terms of the name alone: a logger is below another one when its name is that of
the other, some dots and more, and the search gets past the dots (`visits_iff_below`). A single dot is always
passed. Where there are more, the parts between them are empty, and the search passes a name over at each of them
that is no logger.
-/

namespace CodeMarkup.Log

open CodeMarkup.Text CodeMarkup.Files

/-! ## Names and their parts -/

/-- The characters of parts with dots between them. -/
def dottedChars (parts : List (List Char)) : List Char := (join "." (parts.map String.ofList)).toList

theorem dottedChars_singleton (part : List Char) : dottedChars [part] = part := String.toList_ofList

theorem dottedChars_cons (part : List Char) {rest : List (List Char)} (h : rest ≠ []) :
    dottedChars (part :: rest) = part ++ '.' :: dottedChars rest := by
  cases rest with
  | nil => contradiction
  | cons next rest =>
    simp only [dottedChars, List.map_cons, join, String.toList_append, String.toList_ofList, List.append_assoc]
    rfl

theorem dottedChars_append {parts rest : List (List Char)} (hp : parts ≠ []) (hr : rest ≠ []) :
    dottedChars (parts ++ rest) = dottedChars parts ++ '.' :: dottedChars rest := by
  induction parts with
  | nil => contradiction
  | cons part parts ih =>
    by_cases h : parts = []
    · rw [h, dottedChars_singleton]
      exact dottedChars_cons part hr
    · rw [List.cons_append, dottedChars_cons part (List.append_ne_nil_of_left_ne_nil h rest), ih h,
        dottedChars_cons part h, List.append_assoc, List.cons_append]

theorem dottedChars_splitOn (cs : List Char) : dottedChars (splitOn '.' cs) = cs := by
  induction cs with
  | nil => exact dottedChars_singleton []
  | cons c cs ih =>
    by_cases hc : c = '.'
    · rw [splitOn, if_pos hc, dottedChars_cons [] (splitOn_ne_nil '.' cs), ih, hc, List.nil_append]
    · obtain ⟨part, parts, hparts⟩ := List.exists_cons_of_ne_nil (splitOn_ne_nil '.' cs)
      rw [hparts] at ih
      rw [splitOn, if_neg hc, hparts]
      show dottedChars ((c :: part) :: parts) = c :: cs
      rw [← ih]
      cases parts with
      | nil => rw [dottedChars_singleton, dottedChars_singleton]
      | cons next parts =>
        rw [dottedChars_cons _ (List.cons_ne_nil _ _), dottedChars_cons _ (List.cons_ne_nil _ _), List.cons_append]

theorem splitOn_dottedChars {parts : List (List Char)} (hne : parts ≠ []) (h : ∀ part ∈ parts, '.' ∉ part) :
    splitOn '.' (dottedChars parts) = parts := by
  induction parts with
  | nil => contradiction
  | cons part parts ih =>
    rw [List.forall_mem_cons] at h
    by_cases hp : parts = []
    · rw [hp, dottedChars_singleton, splitOn_of_not_mem h.1]
    · rw [dottedChars_cons part hp, splitOn_append, splitOn_of_not_mem h.1, ih hp h.2, List.singleton_append]

theorem nameOf_eq (parts : List (List Char)) : nameOf parts = String.ofList (dottedChars parts.reverse) := by
  rw [nameOf, dottedChars, String.ofList_toList]

@[simp] theorem nameOf_partsOf (name : String) : nameOf (partsOf name) = name := by
  rw [nameOf_eq, partsOf, List.reverse_reverse, dottedChars_splitOn, String.ofList_toList]

theorem partsOf_nameOf {parts : List (List Char)} (hne : parts ≠ []) (h : ∀ part ∈ parts, '.' ∉ part) :
    partsOf (nameOf parts) = parts := by
  rw [nameOf_eq, partsOf, String.toList_ofList, splitOn_dottedChars, List.reverse_reverse]
  · exact mt List.reverse_eq_nil_iff.1 hne
  · exact fun part hm => h part (List.mem_reverse.1 hm)

theorem partsOf_ne_nil (name : String) : partsOf name ≠ [] :=
  mt List.reverse_eq_nil_iff.1 (splitOn_ne_nil '.' name.toList)

theorem not_mem_partsOf {name : String} {part : List Char} (h : part ∈ partsOf name) : '.' ∉ part :=
  not_mem_of_mem_splitOn (List.mem_reverse.1 h)

theorem splitOn_replicate (dots : Nat) (rest : List Char) :
    splitOn '.' (List.replicate dots '.' ++ rest) = List.replicate dots [] ++ splitOn '.' rest := by
  induction dots with
  | zero => rfl
  | succ dots ih =>
    rw [List.replicate_succ, List.cons_append, splitOn, if_pos rfl, ih, List.replicate_succ, List.cons_append]

/-- The parts of a name that goes on with dots and more after another one. -/
theorem partsOf_of_dots {top logger : String} {dots : Nat} {rest : List Char}
    (h : logger.toList = top.toList ++ List.replicate (dots + 1) '.' ++ rest) :
    partsOf logger = (splitOn '.' rest).reverse ++ (List.replicate dots [] ++ partsOf top) := by
  rw [partsOf, partsOf, h, List.replicate_succ, List.append_assoc, List.cons_append, splitOn_append,
    splitOn_replicate, List.reverse_append, List.reverse_append, List.reverse_replicate, List.append_assoc]

/-! ## The search for a level -/

/-- The parts of the name at which the search for a level goes on. -/
def upwards (log : Log) : List (List Char) → List (List Char)
  | [] => []
  | part :: rest =>
    if part = [] ∧ Keyed.has (nameOf (part :: rest)) log.levels = false then rest.tail else rest

/-- The search for a level that starts at some parts comes by others. -/
inductive Visits (log : Log) (target : List (List Char)) : List (List Char) → Prop
  | here : Visits log target target
  | later {parts : List (List Char)} : Visits log target (log.upwards parts) → Visits log target parts

theorem upwards_of_has {log : Log} {parts : List (List Char)} (h : Keyed.has (nameOf parts) log.levels = true) :
    log.upwards parts = parts.tail := by
  cases parts with
  | nil => rfl
  | cons part rest =>
    rw [upwards, if_neg]
    · rfl
    · rw [h]
      exact fun hnone => nomatch hnone.2

theorem upwards_of_ne_nil {log : Log} {part : List Char} (h : part ≠ []) (rest : List (List Char)) :
    log.upwards (part :: rest) = rest := by
  rw [upwards, if_neg fun hnone => h hnone.1]

theorem upwards_suffix (log : Log) (parts : List (List Char)) : log.upwards parts <:+ parts.tail := by
  fun_cases upwards log parts with
  | case1 => exact List.suffix_refl _
  | case2 part rest => exact List.tail_suffix rest
  | case3 part rest => exact List.suffix_refl _

theorem Visits.suffix {log : Log} {target parts : List (List Char)} (h : Visits log target parts) :
    target <:+ parts := by
  induction h with
  | here => exact List.suffix_refl _
  | later _ ih => exact ih.trans ((log.upwards_suffix _).trans (List.tail_suffix _))

theorem Visits.trans {log : Log} {target middle parts : List (List Char)} (h : Visits log target middle)
    (h' : Visits log middle parts) : Visits log target parts := by
  induction h' with
  | here => exact h
  | later _ ih => exact .later ih

theorem visits_upwards_iff {log : Log} {target parts : List (List Char)} (h : parts ≠ target) :
    Visits log target parts ↔ Visits log target (log.upwards parts) := by
  constructor
  · intro hvisits
    cases hvisits with
    | here => contradiction
    | later hlater => exact hlater
  · exact .later

theorem levelFrom_cons (log : Log) (part : List Char) (rest : List (List Char)) :
    log.levelFrom (part :: rest) =
      if log.ownLevel (nameOf (part :: rest)) = 0 then log.levelFrom (log.upwards (part :: rest))
      else log.ownLevel (nameOf (part :: rest)) := by
  rw [levelFrom.eq_def, upwards, ownLevel, Keyed.has]
  cases hget : Keyed.get? (nameOf (part :: rest)) log.levels with
  | some level => cases level <;> simp [hget]
  | none => cases part <;> cases rest <;> simp [hget, levelFrom]

/-- The search does not end at names without a level of their own. -/
theorem levelFrom_of_visits {log : Log} {target parts : List (List Char)} (h : Visits log target parts)
    (hbefore : ∀ passed, Visits log passed parts → target.length < passed.length →
      log.ownLevel (nameOf passed) = 0) :
    log.levelFrom parts = log.levelFrom target := by
  induction h with
  | here => rfl
  | @later parts hlater ih =>
    cases parts with
    | nil => rw [List.suffix_nil.1 hlater.suffix]
    | cons part rest =>
      have hshorter : target.length < (part :: rest).length :=
        Nat.lt_succ_of_le (hlater.suffix.trans (log.upwards_suffix _)).length_le
      rw [levelFrom_cons, if_pos (hbefore _ .here hshorter)]
      exact ih fun passed hp => hbefore passed (.later hp)

theorem levelFrom_of_unset {log : Log} {parts : List (List Char)}
    (h : ∀ passed, Visits log passed parts → passed ≠ [] → log.ownLevel (nameOf passed) = 0) :
    log.levelFrom parts = usualLevel := by
  induction hn : parts.length using Nat.strongRecOn generalizing parts with
  | ind n ih =>
    cases parts with
    | nil => rfl
    | cons part rest =>
      have hshorter : (log.upwards (part :: rest)).length < n :=
        hn ▸ Nat.lt_succ_of_le (log.upwards_suffix (part :: rest)).length_le
      rw [levelFrom_cons, if_pos (h _ .here (List.cons_ne_nil _ _))]
      exact ih _ hshorter (fun passed hp => h passed (.later hp)) rfl

/-- For a logger that there is, the search may as well start at its own name. -/
theorem level_eq_levelFrom {log : Log} {logger : String} (h : Keyed.has logger log.levels = true) :
    log.level logger = log.levelFrom (partsOf logger) := by
  obtain ⟨part, rest, hparts⟩ := List.exists_cons_of_ne_nil (partsOf_ne_nil logger)
  have hname : nameOf (part :: rest) = logger := hparts ▸ nameOf_partsOf logger
  have hup : log.upwards (part :: rest) = rest := upwards_of_has (hname ▸ h)
  rw [level, hparts, levelFrom_cons, hname, hup]
  rfl

/-! ## Loggers below others -/

/-- A name with dots after it. -/
def dotted (name : String) (dots : Nat) : String := String.ofList (name.toList ++ List.replicate dots '.')

/-- Whether the search for a level that has come to a name with this many dots after it gets to the name itself:
from a logger it goes on with one dot less, and from where there is none with two less. -/
def arrives (log : Log) (name : String) : Nat → Bool
  | 0 => true
  | 1 => Keyed.has (dotted name 1) log.levels
  | dots + 2 =>
    if Keyed.has (dotted name (dots + 2)) log.levels then arrives log name (dots + 1) else arrives log name dots

/-- The logger is another one or below it: its name goes on after that of the other with dots, which the search
for a level gets past. -/
def Below (log : Log) (top logger : String) : Prop :=
  logger = top ∨ ∃ dots rest, logger.toList = top.toList ++ List.replicate (dots + 1) '.' ++ rest ∧
    rest.head? ≠ some '.' ∧ log.arrives top dots = true

/-- A single dot is always passed. -/
theorem below_of_dot {log : Log} {top logger : String} {rest : List Char}
    (h : logger.toList = top.toList ++ '.' :: rest) (hrest : rest.head? ≠ some '.') : log.Below top logger := by
  refine .inr ⟨0, rest, ?_, hrest, rfl⟩
  rw [h, List.append_assoc]
  rfl

/-- A name that goes on without a dot is not below. -/
theorem not_below_of_ne_dot {log : Log} {top logger : String} {c : Char} {rest : List Char}
    (h : logger.toList = top.toList ++ c :: rest) (hc : c ≠ '.') : ¬ log.Below top logger := by
  rintro (rfl | ⟨dots, more, hchars, -, -⟩)
  · exact absurd (List.append_right_eq_self.1 h.symm) (List.cons_ne_nil _ _)
  · rw [h, List.append_assoc, List.append_cancel_left_eq, List.replicate_succ, List.cons_append] at hchars
    exact hc (List.cons.inj hchars).1

theorem nameOf_dotted (top : String) (dots : Nat) :
    nameOf (List.replicate dots [] ++ partsOf top) = dotted top dots := by
  have hparts : partsOf (dotted top dots) = List.replicate dots [] ++ partsOf top := by
    cases dots with
    | zero => rw [dotted, List.replicate_zero, List.append_nil, String.ofList_toList]; rfl
    | succ dots =>
      have hchars : (dotted top (dots + 1)).toList = top.toList ++ List.replicate (dots + 1) '.' ++ [] := by
        rw [dotted, String.toList_ofList, List.append_nil]
      rw [partsOf_of_dots hchars]
      rfl
  rw [← hparts, nameOf_partsOf]

theorem visits_dots (log : Log) (top : String) (dots : Nat) :
    Visits log (partsOf top) (List.replicate dots [] ++ partsOf top) ↔ log.arrives top dots = true := by
  have hlonger : ∀ dots, List.replicate (dots + 1) [] ++ partsOf top ≠ partsOf top := by
    intro dots h
    have hlength := congrArg List.length h
    rw [List.length_append, List.length_replicate] at hlength
    omega
  fun_induction arrives log top dots with
  | case1 => exact iff_of_true .here rfl
  | case2 =>
    rw [visits_upwards_iff (hlonger 0), ← nameOf_dotted]
    cases hhas : Keyed.has (nameOf (List.replicate 1 [] ++ partsOf top)) log.levels with
    | true =>
      rw [upwards_of_has hhas]
      exact iff_of_true .here rfl
    | false =>
      have hup : log.upwards (List.replicate 1 [] ++ partsOf top) = (partsOf top).tail := if_pos ⟨rfl, hhas⟩
      rw [hup]
      refine iff_of_false (fun h => ?_) Bool.false_ne_true
      have hle := h.suffix.length_le
      have hpos := List.length_pos_iff.2 (partsOf_ne_nil top)
      rw [List.length_tail] at hle
      omega
  | case3 dots hhas ih =>
    rw [← nameOf_dotted] at hhas
    rw [visits_upwards_iff (hlonger (dots + 1)), upwards_of_has hhas]
    exact ih
  | case4 dots hhas ih =>
    rw [← nameOf_dotted, Bool.not_eq_true] at hhas
    have hup : log.upwards (List.replicate (dots + 2) [] ++ partsOf top) =
        List.replicate dots [] ++ partsOf top := if_pos ⟨rfl, hhas⟩
    rw [visits_upwards_iff (hlonger (dots + 1)), hup]
    exact ih

/-- Parts of which the first, in the order of the name, is not empty are always passed. -/
theorem visits_append {log : Log} {target parts : List (List Char)} (hlength : target.length ≤ parts.length)
    {more : List (List Char)} (hmore : more.getLast? ≠ some []) :
    Visits log target (more ++ parts) ↔ Visits log target parts := by
  induction hn : more.length using Nat.strongRecOn generalizing more with
  | ind n ih =>
    match more with
    | [] => rfl
    | part :: more =>
      have hne : part :: more ++ parts ≠ target := by
        rintro rfl
        rw [List.length_append, List.length_cons] at hlength
        omega
      rw [visits_upwards_iff hne, List.cons_append, upwards]
      split
      · next hempty =>
        -- An empty part is not the last one here, so the part that is passed over is one of these.
        cases more with
        | nil => exact absurd (congrArg some hempty.1) hmore
        | cons next more =>
          have hshorter : more.length < n := by
            rw [← hn, List.length_cons, List.length_cons]
            omega
          refine ih _ hshorter (fun hlast => hmore ?_) rfl
          rw [List.getLast?_cons_cons, List.getLast?_cons, hlast, Option.getD_some]
      · have hshorter : more.length < n := by
          rw [← hn, List.length_cons]
          exact Nat.lt_succ_self _
        refine ih _ hshorter (fun hlast => hmore ?_) rfl
        rw [List.getLast?_cons, hlast, Option.getD_some]

/-- The last part of the reversed parts that follow dots is not empty, unless it is all there is. -/
theorem getLast?_tail_parts {rest : List Char} (h : rest.head? ≠ some '.') :
    (splitOn '.' rest).reverse.tail.getLast? ≠ some [] := by
  cases rest with
  | nil => exact (Option.some_ne_none _).symm
  | cons c rest =>
    have hc : c ≠ '.' := fun he => h (congrArg some he)
    obtain ⟨part, parts, hparts⟩ := List.exists_cons_of_ne_nil (splitOn_ne_nil '.' rest)
    have hsplit : splitOn '.' (c :: rest) = (c :: part) :: parts := by
      rw [splitOn, if_neg hc, hparts]
    rw [hsplit, List.reverse_cons]
    cases hreverse : parts.reverse with
    | nil => exact (Option.some_ne_none _).symm
    | cons last others =>
      rw [List.cons_append, List.tail_cons, List.getLast?_concat]
      exact fun hlast => List.cons_ne_nil _ _ (Option.some.inj hlast)

theorem visits_iff_arrives {log : Log} {top logger : String} (hhas : Keyed.has logger log.levels = true)
    {dots : Nat} {rest : List Char} (h : logger.toList = top.toList ++ List.replicate (dots + 1) '.' ++ rest)
    (hrest : rest.head? ≠ some '.') :
    Visits log (partsOf top) (partsOf logger) ↔ log.arrives top dots = true := by
  have hparts := partsOf_of_dots h
  have hne : partsOf logger ≠ partsOf top := by
    intro he
    have hlength := congrArg List.length (he.symm.trans hparts)
    have hpos := List.length_pos_iff.2 (splitOn_ne_nil '.' rest)
    rw [List.length_append, List.length_append, List.length_reverse] at hlength
    omega
  have htail : (partsOf logger).tail =
      (splitOn '.' rest).reverse.tail ++ (List.replicate dots [] ++ partsOf top) := by
    rw [hparts, List.tail_append_of_ne_nil (mt List.reverse_eq_nil_iff.1 (splitOn_ne_nil '.' rest))]
  have hle : (partsOf top).length ≤ (List.replicate dots [] ++ partsOf top).length := by
    rw [List.length_append]
    exact Nat.le_add_left _ _
  rw [visits_upwards_iff hne, upwards_of_has ((nameOf_partsOf logger).symm ▸ hhas), htail,
    visits_append hle (getLast?_tail_parts hrest), visits_dots]

/-- A name whose parts go on from those of another one is that name, dots and more. -/
theorem exists_dots {top logger : String} (h : partsOf top <:+ partsOf logger) (hne : logger ≠ top) :
    ∃ dots rest, logger.toList = top.toList ++ List.replicate (dots + 1) '.' ++ rest ∧ rest.head? ≠ some '.' := by
  obtain ⟨more, hmore⟩ := h
  have hparts : splitOn '.' logger.toList = splitOn '.' top.toList ++ more.reverse := by
    have hreverse := congrArg List.reverse hmore
    rw [partsOf, partsOf, List.reverse_append, List.reverse_reverse, List.reverse_reverse] at hreverse
    exact hreverse.symm
  have hmore : more.reverse ≠ [] := by
    intro hnil
    rw [hnil, List.append_nil] at hparts
    have hchars := congrArg dottedChars hparts
    rw [dottedChars_splitOn, dottedChars_splitOn] at hchars
    exact hne (String.toList_inj.1 hchars)
  have hchars := congrArg dottedChars hparts
  rw [dottedChars_splitOn, dottedChars_append (splitOn_ne_nil _ _) hmore, dottedChars_splitOn] at hchars
  generalize dottedChars more.reverse = text at hchars
  refine ⟨(text.takeWhile (· = '.')).length, text.dropWhile (· = '.'), ?_, ?_⟩
  · have hdots : text.takeWhile (· = '.') = List.replicate (text.takeWhile (· = '.')).length '.' :=
      List.eq_replicate_of_mem fun c hc => by simpa using List.all_eq_true.1 List.all_takeWhile c hc
    rw [hchars, List.replicate_succ, ← hdots, List.append_assoc, List.cons_append, List.takeWhile_append_dropWhile]
  · intro hhead
    have hnot := List.head?_dropWhile_not (· = '.') text
    rw [hhead] at hnot
    simp at hnot

/-- The search from a logger that there is comes by another one exactly when the one is below the other. -/
theorem visits_iff_below {log : Log} {top logger : String} (hhas : Keyed.has logger log.levels = true) :
    Visits log (partsOf top) (partsOf logger) ↔ log.Below top logger := by
  constructor
  · intro hvisits
    by_cases heq : logger = top
    · exact .inl heq
    · obtain ⟨dots, rest, hchars, hrest⟩ := exists_dots hvisits.suffix heq
      exact .inr ⟨dots, rest, hchars, hrest, (visits_iff_arrives hhas hchars hrest).1 hvisits⟩
  · rintro (rfl | ⟨dots, rest, hchars, hrest, harrives⟩)
    · exact .here
    · exact (visits_iff_arrives hhas hchars hrest).2 harrives

end CodeMarkup.Log
