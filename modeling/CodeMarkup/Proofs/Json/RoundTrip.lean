import CodeMarkup.Proofs.Json.Legible
import CodeMarkup.Proofs.Json.Real
/-!
# Writing and reading back

What is written over several lines is read back with the members of its objects in the order of their keys
(`read_toText`). The proof goes through the text from the front: `ReadsTo` says what the machine makes of the
text from a state on, and every lemma about it takes one lexeme, or the text of one value, off the front.
-/

namespace CodeMarkup.Json

open CodeMarkup.Text

/-! ## Lexemes -/

namespace Lexeme

theorem wholeNumber_toDigits (negative : Bool) {n : Nat} (h : Value.isOversized n = false) :
    wholeNumber negative (Nat.toDigits 10 n) = .scalar (.int (if negative then -(n : Int) else n)) := by
  have hlength : (Nat.toDigits 10 n).length = (toString n).length := by
    rw [← Nat.toList_repr]
    rfl
  simp only [Value.isOversized, Int.natAbs_natCast, decide_eq_false_iff_not] at h
  rw [wholeNumber, hlength, if_neg h, number_toDigits]

theorem exists_toDigits (n : Nat) : ∃ c digits, Nat.toDigits 10 n = c :: digits ∧ isDigit c = true := by
  obtain ⟨c, digits, h⟩ : ∃ c digits, Nat.toDigits 10 n = c :: digits := by
    rcases toDigits_cases n with h | ⟨c, digits, h, -⟩
    · exact ⟨_, _, h⟩
    · exact ⟨c, digits, h⟩
  exact ⟨c, digits, h, isDigit_of_mem_toDigits (h ▸ List.mem_cons_self)⟩

theorem intChars_ofNat (n : Nat) : intChars n = Nat.toDigits 10 n := Nat.toList_repr

theorem intChars_negSucc (n : Nat) : intChars (Int.negSucc n) = '-' :: Nat.toDigits 10 (n + 1) := by
  show ("-" ++ Nat.repr (n + 1)).toList = _
  rw [String.toList_append, Nat.toList_repr]
  rfl

/-- A whole number is read back unless it has too many digits. -/
theorem next_intChars {n : Int} (h : Value.isOversized n = false) {rest : List Char} (hr : EndsNumber rest) :
    next (intChars n ++ rest) = (.scalar (.int n), rest) := by
  cases n with
  | ofNat m =>
    have hu := unsigned?_whole false (whole?_toDigits m hr) hr
    obtain ⟨c, digits, hm, hc⟩ := exists_toDigits m
    rw [wholeNumber_toDigits false h, hm] at hu
    rw [Int.ofNat_eq_natCast, intChars_ofNat, hm]
    exact next_unsigned hc hu
  | negSucc m =>
    have hu := unsigned?_whole true (whole?_toDigits (m + 1) hr) hr
    obtain ⟨c, digits, hm, hc⟩ := exists_toDigits (m + 1)
    rw [wholeNumber_toDigits true h, hm] at hu
    rw [intChars_negSucc, hm]
    exact next_negative hc hu

/-- No lexeme starts with a space or a byte order mark. -/
theorem next_stray {c : Char} (h : isSpace c = true ∨ c = '\ufeff') (cs : List Char) :
    next (c :: cs) = (.stray, []) := by
  simp only [isSpace, Bool.or_eq_true, decide_eq_true_eq] at h
  rcases h with (((rfl | rfl) | rfl) | rfl) | rfl <;>
    simp [next, scalar?, word?, words, afterWord?, unsigned?, whole?, digits?, List.span_eq_takeWhile_dropWhile,
      isDigit]

end Lexeme

/-! ## What the machine makes of a text -/

/-- From this state on, the machine reads this value. -/
def ReadsTo (state : State) (s : List Char) (v : Value) : Prop :=
  ∀ total steps, s.length ≤ steps → state.run total (Lexeme.list steps s) = .ok v

theorem ReadsTo.finished (v : Value) : ReadsTo (.finished v) [] v := by
  intro total steps _
  cases steps <;> rfl

theorem ReadsTo.space {state : State} {c : Char} {s : List Char} {v : Value} (hc : Lexeme.isSpace c = true)
    (h : ReadsTo state s v) : ReadsTo state (c :: s) v := by
  intro total steps hsteps
  have hlist : Lexeme.list steps (c :: s) = Lexeme.list steps s := by
    rw [Lexeme.list, Lexeme.list, List.dropWhile_cons_of_pos hc]
  rw [hlist]
  exact h total steps (Nat.le_of_succ_le hsteps)

theorem ReadsTo.lexeme {state next : State} {chars rest : List Char} {lexeme : Lexeme} {v : Value}
    (hne : chars ≠ []) (hn : Lexeme.next (chars ++ rest) = (lexeme, rest)) (hs : state.step lexeme = some next)
    (h : ReadsTo next rest v) : ReadsTo state (chars ++ rest) v := by
  obtain ⟨c, cs, rfl⟩ := List.exists_cons_of_ne_nil hne
  -- A space would be a stray lexeme, and no state takes one.
  have hspace : Lexeme.isSpace c = false := by
    rw [← Bool.not_eq_true]
    intro hc
    rw [List.cons_append, Lexeme.next_stray (.inl hc)] at hn
    cases hn
    cases state with
    | finished => cases hs
    | reading expected stack => cases expected <;> cases hs
  intro total steps hsteps
  rw [List.cons_append] at hn hsteps ⊢
  cases steps with
  | zero => cases hsteps
  | succ steps =>
    have hrest : rest.length ≤ steps := by
      simp only [List.length_cons, List.length_append] at hsteps
      omega
    rw [Lexeme.list_cons hspace, hn, State.run.eq_def]
    simp only [hs]
    exact h total steps hrest

/-- A character that is a lexeme by itself. -/
theorem ReadsTo.symbol {state next : State} {c : Char} {rest : List Char} {lexeme : Lexeme} {v : Value}
    (hn : Lexeme.next (c :: rest) = (lexeme, rest)) (hs : state.step lexeme = some next)
    (h : ReadsTo next rest v) : ReadsTo state (c :: rest) v :=
  ReadsTo.lexeme (List.cons_ne_nil c []) hn hs h

theorem ReadsTo.newLine {state : State} {s : List Char} {v : Value} (depth : Nat) (h : ReadsTo state s v) :
    ReadsTo state (Value.newLine depth ++ s) v := by
  have hblanks : ∀ n, ReadsTo state (List.replicate n ' ' ++ s) v := by
    intro n
    induction n with
    | zero => exact h
    | succ n ih => exact ReadsTo.space rfl ih
  exact ReadsTo.space rfl (hblanks (2 * depth))

/-! ## Values -/

/-- Wherever a value may come, before anything that ends a number, these characters are read as this one. -/
def ReadsAs (chars : List Char) (v : Value) : Prop :=
  ∀ {expected : Expected} {stack : List Frame} {next : State} {rest : List Char} {w : Value},
    expected = .value ∨ expected = .firstItem → State.complete v stack = some next →
    Lexeme.EndsNumber rest → ReadsTo next rest w → ReadsTo (.reading expected stack) (chars ++ rest) w

theorem endsNumber_cons {c : Char} (h : Lexeme.isDigit c = false ∧ c ≠ '.' ∧ c ≠ 'e' ∧ c ≠ 'E')
    (rest : List Char) : Lexeme.EndsNumber (c :: rest) := by
  rintro _ ⟨⟩
  exact h

theorem ReadsAs.scalar {chars : List Char} {v : Value}
    (hn : ∀ rest, Lexeme.EndsNumber rest → Lexeme.next (chars ++ rest) = (.scalar v, rest)) :
    ReadsAs chars v := by
  have hne : chars ≠ [] := by
    rintro rfl
    have hnil := hn [] nofun
    cases hnil
  intro expected stack next rest w he hnext hr h
  refine ReadsTo.lexeme hne (hn rest hr) ?_ h
  rcases he with rfl | rfl <;> exact hnext

theorem ReadsAs.str {s : CodePoints} (hs : Lexeme.Unpaired s) : ReadsAs (stringChars s) (.str s) := by
  intro expected stack next rest w he hnext _ h
  refine ReadsTo.lexeme (List.cons_ne_nil _ _) (Lexeme.next_stringChars hs rest) ?_ h
  rcases he with rfl | rfl <;> exact hnext

/-- The items of an array from one of them on, up to its end. -/
theorem ReadsTo.items {depth : Nat} {items : List Value} {v : Value} {expected : Expected} {done : List Value}
    {stack : List Frame} {next : State} {rest : List Char} {w : Value}
    (hread : ∀ u ∈ v :: items, ReadsAs (u.indented (depth + 1)) u.sorted)
    (he : expected = .value ∨ expected = .firstItem)
    (hnext : State.complete (.arr (done.reverse ++ (v :: items).map Value.sorted)) stack = some next)
    (h : ReadsTo next rest w) :
    ReadsTo (.reading expected (.items done :: stack))
      ((',' :: Value.newLine (depth + 1)).intercalate ((v :: items).map (Value.indented (depth + 1))) ++
        (Value.newLine depth ++ ']' :: rest)) w := by
  induction items generalizing v expected done with
  | nil =>
    rw [List.map_singleton, List.intercalate_singleton]
    refine hread v List.mem_cons_self he rfl (endsNumber_cons (by decide) _) ?_
    refine ReadsTo.newLine depth (ReadsTo.symbol rfl ?_ h)
    rw [← hnext, List.map_singleton, ← List.reverse_cons]
    rfl
  | cons u items ih =>
    rw [List.map_cons, List.map_cons, List.intercalate_cons_cons, List.append_assoc, List.append_assoc]
    refine hread v List.mem_cons_self he rfl (endsNumber_cons (by decide) _) ?_
    refine ReadsTo.symbol rfl rfl (ReadsTo.newLine (depth + 1) ?_)
    refine ih (fun u hu => hread u (List.mem_cons_of_mem v hu)) (.inl rfl) ?_
    rw [← hnext, List.map_cons, List.map_cons, List.reverse_cons, List.append_assoc]
    rfl

/-- A member as it is written. -/
def memberChars (depth : Nat) (entry : CodePoints × Value) : List Char :=
  stringChars entry.1 ++ [':', ' '] ++ entry.2.indented depth

/-- A member that can be read back. -/
def ReadsMember (depth : Nat) (entry : CodePoints × Value) : Prop :=
  Lexeme.Unpaired entry.1 ∧ ReadsAs (entry.2.indented depth) entry.2.sorted

theorem ReadsTo.member {depth : Nat} {entry : CodePoints × Value} {expected : Expected}
    {done : Keyed CodePoints Value} {stack : List Frame} {rest : List Char} {w : Value}
    (hread : ReadsMember depth entry) (he : expected = .firstKey ∨ expected = .key)
    (hr : Lexeme.EndsNumber rest)
    (h : ReadsTo (.reading .more (.members (Keyed.set entry.1 entry.2.sorted done) :: stack)) rest w) :
    ReadsTo (.reading expected (.members done :: stack)) (memberChars depth entry ++ rest) w := by
  obtain ⟨key, v⟩ := entry
  obtain ⟨hkey, hv⟩ := hread
  have hcolon : ReadsTo (.reading (.colon key) (.members done :: stack))
      (':' :: ' ' :: (v.indented depth ++ rest)) w :=
    ReadsTo.symbol rfl rfl (ReadsTo.space rfl (hv (.inl rfl) rfl hr h))
  rw [memberChars, List.append_assoc, List.append_assoc]
  refine ReadsTo.lexeme (List.cons_ne_nil _ _) (Lexeme.next_stringChars hkey _) ?_ hcolon
  rcases he with rfl | rfl <;> rfl

/-- The members of an object from one of them on, up to its end. -/
theorem ReadsTo.members {depth : Nat} {members : List (CodePoints × Value)} {entry : CodePoints × Value}
    {expected : Expected} {done : Keyed CodePoints Value} {stack : List Frame} {next : State}
    {rest : List Char} {w : Value} (hread : ∀ e ∈ entry :: members, ReadsMember (depth + 1) e)
    (he : expected = .firstKey ∨ expected = .key)
    (hnext : State.complete
      (.obj (Keyed.update done ((entry :: members).map fun e => (e.1, e.2.sorted)))) stack = some next)
    (h : ReadsTo next rest w) :
    ReadsTo (.reading expected (.members done :: stack))
      ((',' :: Value.newLine (depth + 1)).intercalate ((entry :: members).map (memberChars (depth + 1))) ++
        (Value.newLine depth ++ '\x7d' :: rest)) w := by
  induction members generalizing entry expected done with
  | nil =>
    rw [List.map_singleton, List.intercalate_singleton]
    refine ReadsTo.member (hread entry List.mem_cons_self) he (endsNumber_cons (by decide) _) ?_
    exact ReadsTo.newLine depth (ReadsTo.symbol rfl hnext h)
  | cons e members ih =>
    rw [List.map_cons, List.map_cons, List.intercalate_cons_cons, List.append_assoc, List.append_assoc]
    refine ReadsTo.member (hread entry List.mem_cons_self) he (endsNumber_cons (by decide) _) ?_
    refine ReadsTo.symbol rfl rfl (ReadsTo.newLine (depth + 1) ?_)
    exact ih (fun e he => hread e (List.mem_cons_of_mem entry he)) (.inr rfl) hnext

/-! ## Blocks -/

theorem block_cons (opening closing : Char) (depth : Nat) (item : List Char) (items : List (List Char))
    (rest : List Char) : Value.block opening closing depth (item :: items) ++ rest =
      opening :: (Value.newLine (depth + 1) ++
        ((',' :: Value.newLine (depth + 1)).intercalate (item :: items) ++
          (Value.newLine depth ++ closing :: rest))) := by
  simp [Value.block]

theorem indentedItems_eq_map (depth : Nat) (items : List Value) :
    Value.indentedItems depth items = items.map (Value.indented depth) := by
  induction items with
  | nil => rfl
  | cons v rest ih => rw [Value.indentedItems, ih, List.map_cons]

theorem indentedMembers_eq_map (depth : Nat) (members : List (CodePoints × Value)) :
    Value.indentedMembers depth members = members.map fun entry => (entry.1, memberChars depth entry) := by
  induction members with
  | nil => rfl
  | cons entry rest ih => rw [Value.indentedMembers, ih, List.map_cons, memberChars]

theorem ReadsAs.arr {depth : Nat} {items : List Value}
    (hread : ∀ v ∈ items, ReadsAs (v.indented (depth + 1)) v.sorted) :
    ReadsAs ((Value.arr items).indented depth) (Value.arr items).sorted := by
  intro expected stack next rest w he hnext _ h
  have hopen : (State.reading expected stack).step .openArray =
      some (.reading .firstItem (.items [] :: stack)) := by
    rcases he with rfl | rfl <;> rfl
  rw [Value.sorted_arr] at hnext
  rw [Value.indented, indentedItems_eq_map]
  cases items with
  | nil => exact ReadsTo.symbol rfl hopen (ReadsTo.symbol rfl hnext h)
  | cons v items =>
    rw [List.map_cons, block_cons, ← List.map_cons]
    refine ReadsTo.symbol rfl hopen (ReadsTo.newLine (depth + 1) ?_)
    exact ReadsTo.items hread (.inr rfl) hnext h

/-- Entries may be sorted before anything is made of them. -/
theorem map_sortKeys {β : Type} (f : CodePoints × Value → β) (members : List (CodePoints × Value)) :
    (members.map fun entry => (entry.1, f entry)).mergeSort (fun a b => CodePoints.le a.1 b.1) =
      (Value.sortKeys members).map fun entry => (entry.1, f entry) := by
  rw [Value.sortKeys, List.map_mergeSort]
  rintro a - b -
  rfl

theorem ReadsAs.obj {depth : Nat} {members : List (CodePoints × Value)} (hkeys : (Keyed.keys members).Nodup)
    (hread : ∀ entry ∈ members, ReadsMember (depth + 1) entry) :
    ReadsAs ((Value.obj members).indented depth) (Value.obj members).sorted := by
  intro expected stack next rest w he hnext _ h
  have hopen : (State.reading expected stack).step .openObject =
      some (.reading .firstKey (.members [] :: stack)) := by
    rcases he with rfl | rfl <;> rfl
  have hperm : (Value.sortKeys members).Perm members := List.mergeSort_perm _ _
  -- Both the text and the value have the members in the order of their keys.
  rw [Value.sorted_obj, Value.sortKeys, map_sortKeys] at hnext
  rw [Value.indented, indentedMembers_eq_map, Value.sortMembers, map_sortKeys, List.map_map]
  replace hread : ∀ entry ∈ Value.sortKeys members, ReadsMember (depth + 1) entry :=
    fun entry hm => hread entry (hperm.subset hm)
  replace hkeys : (Keyed.keys (Value.sortKeys members)).Nodup := (hperm.map Prod.fst).nodup_iff.2 hkeys
  generalize Value.sortKeys members = sorted at *
  cases sorted with
  | nil => exact ReadsTo.symbol rfl hopen (ReadsTo.symbol rfl hnext h)
  | cons entry sorted =>
    rw [← Value.keys_map_sorted] at hkeys
    rw [List.map_cons, block_cons, ← List.map_cons]
    refine ReadsTo.symbol rfl hopen (ReadsTo.newLine (depth + 1) ?_)
    refine ReadsTo.members hread (.inl rfl) ?_ h
    rw [Keyed.update_of_nodup hkeys]
    exact hnext

/-! ## Whole texts -/

theorem anyOversized_eq_false {items : List Value} :
    Value.anyOversized items = false ↔ ∀ v ∈ items, v.hasOversized = false := by
  induction items with
  | nil => simp [Value.anyOversized]
  | cons v rest ih => simp [Value.anyOversized, ih]

theorem anyMemberOversized_eq_false {members : List (CodePoints × Value)} :
    Value.anyMemberOversized members = false ↔ ∀ entry ∈ members, entry.2.hasOversized = false := by
  induction members with
  | nil => simp [Value.anyMemberOversized]
  | cons entry rest ih =>
    rw [Value.anyMemberOversized, Bool.or_eq_false_iff, ih, List.forall_mem_cons]

theorem readsAs_indented {v : Value} (hl : v.Legible) (hd : v.Distinct) (ho : v.hasOversized = false)
    (depth : Nat) : ReadsAs (v.indented depth) v.sorted := by
  induction hl generalizing depth with
  | null => exact ReadsAs.scalar fun _ _ => rfl
  | bool b => cases b <;> exact ReadsAs.scalar fun _ _ => rfl
  | int n => exact ReadsAs.scalar fun _ hr => Lexeme.next_intChars ho hr
  | real hx => exact ReadsAs.scalar fun _ hr => Lexeme.next_realChars hx hr
  | str hs => exact ReadsAs.str hs
  | arr _ ih =>
    cases hd with
    | arr hd =>
      rw [Value.hasOversized, anyOversized_eq_false] at ho
      exact ReadsAs.arr fun v hv => ih v hv (hd v hv) (ho v hv) (depth + 1)
  | obj hkeys _ ih =>
    cases hd with
    | obj hnodup hd =>
      rw [Value.hasOversized, anyMemberOversized_eq_false] at ho
      exact ReadsAs.obj hnodup fun entry hm =>
        ⟨hkeys entry hm, ih entry hm (hd entry hm) (ho entry hm) (depth + 1)⟩

/-- What is written over several lines is read back with its members in order. -/
theorem read_toText {v : Value} (hl : v.Legible) (hd : v.Distinct) (ho : v.hasOversized = false) :
    read v.toText = .ok v.sorted := by
  have hread : ReadsTo (.reading .value []) (v.indented 0) v.sorted := by
    rw [← List.append_nil (v.indented 0)]
    exact readsAs_indented hl hd ho 0 (.inl rfl) rfl nofun (ReadsTo.finished v.sorted)
  replace hread := hread (v.indented 0).length _ (Nat.le_refl _)
  rw [Json.read, Value.toText, String.toList_ofList, readChars, if_neg]
  · exact hread
  · -- A text with a byte order mark would not have been read.
    intro hmark
    cases hs : v.indented 0 with
    | nil =>
      rw [hs] at hmark
      cases hmark
    | cons c cs =>
      rw [hs] at hmark hread
      cases hmark
      rw [List.length_cons, Lexeme.list_cons (by decide), Lexeme.next_stray (.inr rfl)] at hread
      cases hread

end CodeMarkup.Json
