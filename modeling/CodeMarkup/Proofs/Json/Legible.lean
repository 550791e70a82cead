import CodeMarkup.Proofs.Json.Mapping
import CodeMarkup.Proofs.Json.Text
/-!
# Values that are read back as they were written

Every text can be written as JSON and most are read back, but two surrogates in a row may come back as one
character, and there is one `NaN` only. `Value.Legible` says that a value holds neither; plain values hold
neither (`Value.Plain.legible`), nor does any that was read.
-/

namespace CodeMarkup.Json.Value

open CodeMarkup.Text Lexeme

/-- No surrogates that would be taken for a pair, and no number that is none but `NaN`. -/
inductive Legible : Value → Prop
  | null : Legible .null
  | bool (b : Bool) : Legible (.bool b)
  | int (n : Int) : Legible (.int n)
  | real {x : Decimal.Binary64} (h : x.isNaN = true → x = .notANumber) : Legible (.real x)
  | str {s : CodePoints} (h : Unpaired s) : Legible (.str s)
  | arr {items : List Value} (h : ∀ v ∈ items, Legible v) : Legible (.arr items)
  | obj {members : List (CodePoints × Value)} (hkeys : ∀ entry ∈ members, Unpaired entry.1)
      (h : ∀ entry ∈ members, Legible entry.2) : Legible (.obj members)

theorem Plain.legible {v : Value} (h : v.Plain) : v.Legible := by
  induction h with
  | null => exact .null
  | bool b => exact .bool b
  | int n => exact .int n
  | str s => exact .str (unpaired_ofString s)
  | arr _ ih => exact .arr ih
  | obj hkeys _ ih =>
    refine .obj (fun entry hm => ?_) ih
    obtain ⟨key, hkey⟩ := hkeys entry hm
    exact hkey ▸ unpaired_ofString key

theorem Legible.set {members : Keyed CodePoints Value} {key : CodePoints} {v : Value}
    (h : (Value.obj members).Legible) (hkey : Unpaired key) (hv : v.Legible) :
    (Value.obj (Keyed.set key v members)).Legible := by
  cases h with
  | obj hkeys h =>
    refine .obj (fun entry hm => ?_) fun entry hm => ?_
    · rcases Keyed.mem_set hm with rfl | hm
      · exact hkey
      · exact hkeys entry hm
    · rcases Keyed.mem_set hm with rfl | hm
      · exact hv
      · exact h entry hm

/-- What the reader gives: no key is repeated, and it would be read back. -/
structure Readable (v : Value) : Prop where
  distinct : v.Distinct
  legible : v.Legible

theorem Readable.set {members : Keyed CodePoints Value} {key : CodePoints} {v : Value}
    (h : (Value.obj members).Readable) (hkey : Unpaired key) (hv : v.Readable) :
    (Value.obj (Keyed.set key v members)).Readable :=
  ⟨h.distinct.set hv.distinct key, h.legible.set hkey hv.legible⟩

end CodeMarkup.Json.Value
