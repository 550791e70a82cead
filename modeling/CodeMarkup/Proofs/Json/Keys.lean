import CodeMarkup.Json.Reader
import CodeMarkup.Proofs.Decimal.Shortest
import CodeMarkup.Proofs.Json.Legible
/-!
# What values that are read are like

Whatever is read, no object in it repeats a key, and all of it would be read back (`readable_of_read`): the
machine puts every member where its key is already, strings have their pairs joined, and of the numbers that are
none there is one word. The machine keeps that of all that is still open.
-/

namespace CodeMarkup.Json

open CodeMarkup.Text

/-! ## Lexemes -/

namespace Lexeme

/-- What the lexeme stands for, a value or a string, would be read back. -/
structure Sound (lexeme : Lexeme) : Prop where
  scalar : ∀ v, lexeme = .scalar v → v.Readable
  text : ∀ s, lexeme = .text s → Unpaired s

theorem sound_scalar {v : Value} (h : v.Readable) : (scalar v).Sound := by
  refine ⟨?_, nofun⟩
  rintro _ ⟨⟩
  exact h

theorem readable_ofDecimal (negative : Bool) (n : Nat) (e : Int) :
    (Value.real (.ofDecimal negative n e)).Readable :=
  ⟨.real _, .real fun h => absurd h (Decimal.not_isNaN_ofDecimal negative n e)⟩

theorem sound_wholeNumber (negative : Bool) (digits : List Char) : (wholeNumber negative digits).Sound := by
  rw [wholeNumber]
  split
  · exact ⟨nofun, nofun⟩
  · exact sound_scalar ⟨.int _, .int _⟩

theorem sound_unsigned? {negative : Bool} {s : List Char} {found : Lexeme × List Char}
    (h : unsigned? negative s = some found) : found.1.Sound := by
  simp only [unsigned?, Option.bind_eq_bind, Option.bind_eq_some_iff] at h
  obtain ⟨⟨whole, rest⟩, -, h⟩ := h
  split at h
  · cases h
    exact sound_scalar (readable_ofDecimal _ _ _)
  · split at h <;> cases h
    · exact sound_wholeNumber negative whole
    · exact sound_scalar (readable_ofDecimal _ _ _)

theorem sound_word? {s : List Char} {found : Lexeme × List Char} (h : word? s = some found) :
    found.1.Sound := by
  have hinfinity : ∀ negative, (Value.real (.infinity negative)).Legible := fun negative => .real fun h => by
    cases negative <;> cases h
  have hwords : ∀ entry ∈ words, entry.2.Readable := by
    intro entry hm
    simp only [words, List.mem_cons, List.not_mem_nil, or_false] at hm
    rcases hm with rfl | rfl | rfl | rfl | rfl | rfl
    · exact ⟨.null, .null⟩
    · exact ⟨.bool _, .bool _⟩
    · exact ⟨.bool _, .bool _⟩
    · exact ⟨.real _, .real fun _ => rfl⟩
    · exact ⟨.real _, hinfinity false⟩
    · exact ⟨.real _, hinfinity true⟩
  obtain ⟨⟨word, v⟩, hm, hv⟩ := List.exists_of_findSome?_eq_some h
  rw [Option.map_eq_some_iff] at hv
  obtain ⟨rest, -, rfl⟩ := hv
  exact sound_scalar (hwords _ hm)

theorem sound_scalar? {s : List Char} {found : Lexeme × List Char} (h : scalar? s = some found) :
    found.1.Sound := by
  rw [scalar?.eq_def] at h
  split at h
  · next hw =>
    cases h
    exact sound_word? hw
  · split at h <;> exact sound_unsigned? h

theorem sound_next (s : List Char) : (next s).1.Sound := by
  unfold next
  split
  case h_7 rest =>
    rw [string]
    split
    · constructor <;> rintro _ ⟨⟩
      exact unpaired_joinUnits _
    · constructor <;> rintro _ ⟨⟩
  case h_8 =>
    cases hs : scalar? s with
    | none => constructor <;> rintro _ ⟨⟩
    | some found => exact sound_scalar? hs
  all_goals constructor <;> rintro _ ⟨⟩

theorem sound_list (steps : Nat) (s : List Char) : ∀ entry ∈ list steps s, entry.1.Sound := by
  induction steps generalizing s with
  | zero =>
    intro entry hm
    rw [list] at hm
    split at hm
    · cases hm
    · cases List.mem_singleton.1 hm
      exact ⟨nofun, nofun⟩
  | succ steps ih =>
    intro entry hm
    rw [list] at hm
    split at hm
    · cases hm
    · rcases List.mem_cons.1 hm with rfl | hm
      · exact sound_next _
      · exact ih _ entry hm

end Lexeme

/-! ## The machine -/

/-- What is open would be read back. -/
inductive Frame.Sound : Frame → Prop
  | items {done : List Value} (h : ∀ v ∈ done, v.Readable) : Sound (.items done)
  | members {done : Keyed CodePoints Value} (h : (Value.obj done).Readable) : Sound (.members done)
  | member {done : Keyed CodePoints Value} (h : (Value.obj done).Readable) {key : CodePoints}
      (hkey : Lexeme.Unpaired key) : Sound (.member done key)

namespace State

/-- What was read so far would be read back. -/
inductive Sound : State → Prop
  | reading {expected : Expected} {stack : List Frame}
      (hkey : ∀ key, expected = .colon key → Lexeme.Unpaired key) (h : ∀ frame ∈ stack, frame.Sound) :
      Sound (.reading expected stack)
  | finished {v : Value} (h : v.Readable) : Sound (.finished v)

variable {stack : List Frame} {next : State}

theorem Sound.push {expected : Expected} {frame : Frame} (hkey : ∀ key, expected ≠ .colon key) (hf : frame.Sound)
    (h : ∀ frame ∈ stack, frame.Sound) : Sound (.reading expected (frame :: stack)) :=
  .reading (fun key he => absurd he (hkey key)) (List.forall_mem_cons.2 ⟨hf, h⟩)

theorem sound_complete {v : Value} (hv : v.Readable) (h : ∀ frame ∈ stack, frame.Sound)
    (hn : complete v stack = some next) : next.Sound := by
  cases stack with
  | nil =>
    cases hn
    exact .finished hv
  | cons frame rest =>
    rw [List.forall_mem_cons] at h
    cases h.1 with
    | items hdone =>
      cases hn
      exact .push nofun (.items (List.forall_mem_cons.2 ⟨hv, hdone⟩)) h.2
    | members => cases hn
    | member hdone hkey =>
      cases hn
      exact .push nofun (.members (hdone.set hkey hv)) h.2

theorem sound_startValue {lexeme : Lexeme} (hl : lexeme.Sound) (h : ∀ frame ∈ stack, frame.Sound)
    (hn : startValue lexeme stack = some next) : next.Sound := by
  cases lexeme with
  | text s => exact sound_complete ⟨.str s, .str (hl.text s rfl)⟩ h hn
  | scalar v => exact sound_complete (hl.scalar v rfl) h hn
  | openArray =>
    cases hn
    exact .push nofun (.items nofun) h
  | openObject =>
    cases hn
    exact .push nofun (.members ⟨.obj List.nodup_nil nofun, .obj nofun nofun⟩) h
  | _ => cases hn

theorem sound_closeArray (h : ∀ frame ∈ stack, frame.Sound) (hn : closeArray stack = some next) :
    next.Sound := by
  cases stack with
  | nil => cases hn
  | cons frame rest =>
    rw [List.forall_mem_cons] at h
    cases h.1 with
    | items hdone =>
      refine sound_complete ⟨.arr fun v hv => ?_, .arr fun v hv => ?_⟩ h.2 hn
      · exact (hdone v (List.mem_reverse.1 hv)).distinct
      · exact (hdone v (List.mem_reverse.1 hv)).legible
    | members => cases hn
    | member => cases hn

theorem sound_closeObject (h : ∀ frame ∈ stack, frame.Sound) (hn : closeObject stack = some next) :
    next.Sound := by
  cases stack with
  | nil => cases hn
  | cons frame rest =>
    rw [List.forall_mem_cons] at h
    cases h.1 with
    | items => cases hn
    | members hdone => exact sound_complete hdone h.2 hn
    | member => cases hn

theorem sound_afterComma (h : ∀ frame ∈ stack, frame.Sound) (hn : afterComma stack = some next) :
    next.Sound := by
  rw [afterComma.eq_def] at hn
  split at hn <;> cases hn <;> exact .reading nofun h

theorem sound_afterColon {key : CodePoints} (hkey : Lexeme.Unpaired key) (h : ∀ frame ∈ stack, frame.Sound)
    (hn : afterColon key stack = some next) : next.Sound := by
  cases stack with
  | nil => cases hn
  | cons frame rest =>
    rw [List.forall_mem_cons] at h
    cases h.1 with
    | items => cases hn
    | members hdone =>
      cases hn
      exact .push nofun (.member hdone hkey) h.2
    | member => cases hn

/-- The step for a key. -/
theorem sound_colon {key : CodePoints} (hl : (Lexeme.text key).Sound) (h : ∀ frame ∈ stack, frame.Sound) :
    Sound (.reading (.colon key) stack) := by
  refine .reading ?_ h
  rintro _ ⟨⟩
  exact hl.text key rfl

/-- What was read so far would still be read back after one lexeme. -/
theorem sound_step {state : State} {lexeme : Lexeme} (hl : lexeme.Sound) (h : state.Sound)
    (hn : state.step lexeme = some next) : next.Sound := by
  cases h with
  | finished => cases hn
  | reading hkey h =>
    rw [step.eq_def] at hn
    split at hn
    · cases hn
    · next he =>
      cases he
      split at hn
      · exact sound_startValue hl h hn
      · exact sound_closeArray h hn
      · exact sound_startValue hl h hn
      · exact sound_closeObject h hn
      · cases hn
        exact sound_colon hl h
      · cases hn
        exact sound_colon hl h
      · exact sound_afterColon (hkey _ rfl) h hn
      · exact sound_afterComma h hn
      · exact sound_closeArray h hn
      · exact sound_closeObject h hn
      · cases hn

theorem readable_of_run {total : Nat} {lexemes : List (Lexeme × List Char)} {state : State} {v : Value}
    (hl : ∀ entry ∈ lexemes, entry.1.Sound) (h : state.Sound) (hr : state.run total lexemes = .ok v) :
    v.Readable := by
  induction lexemes generalizing state with
  | nil =>
    cases h with
    | reading => cases hr
    | finished hv =>
      cases hr
      exact hv
  | cons entry rest ih =>
    rw [List.forall_mem_cons] at hl
    rw [run.eq_def] at hr
    simp only at hr
    split at hr
    · next hn => exact ih hl.2 (sound_step hl.1 h hn) hr
    · cases hr

end State

/-- What is read repeats no key and would be read back. -/
theorem readable_of_read {text : String} {v : Value} (h : read text = .ok v) : v.Readable := by
  rw [read, readChars] at h
  split at h
  · cases h
  · have hstart : State.Sound (.reading .value []) := .reading nofun (List.forall_mem_nil _)
    exact State.readable_of_run (Lexeme.sound_list _ _) hstart h

end CodeMarkup.Json
