import CodeMarkup.Decimal.Binary64
/-!
The fewest decimal digits that read back as a given number, and of those the ones nearest to it.
-/

namespace CodeMarkup.Decimal

/-- A positive decimal: `digits * 10 ^ exponent`. -/
structure Digits where
  digits : Nat
  exponent : Int
  deriving DecidableEq, Repr

/-- The place of the first digit of `digits * 10 ^ exponent`: the power of ten it counts. -/
def Digits.leading (x : Digits) : Int := ((toString x.digits).length : Int) - 1 + x.exponent

/-- The positive fraction `numerator / denominator` in units of `10 ^ exponent`. -/
def scaleByTen (numerator denominator : Nat) (exponent : Int) : Nat × Nat :=
  if 0 ≤ exponent then (numerator, denominator * Nat.pow 10 exponent.toNat)
  else (numerator * Nat.pow 10 (-exponent).toNat, denominator)

/-- Whether a decimal reads back as a number of this size. -/
def readsBack (magnitude : Nat) (x : Digits) : Bool :=
  (Binary64.ofDecimal false x.digits x.exponent).magnitude == magnitude

/-- The neighbours of a fraction on the grid of multiples of `10 ^ exponent` that read back as a number
of this size, the nearer one first. -/
def onGrid (magnitude numerator denominator : Nat) (exponent : Int) : List Digits :=
  let (n, d) := scaleByTen numerator denominator exponent
  let below := n / d
  let near := roundQuotient n d
  let far := if near = below then below + 1 else below
  [⟨near, exponent⟩, ⟨far, exponent⟩].filter (readsBack magnitude)

/-- The first place, counted in powers of ten, of a positive fraction. -/
def leadingPlace (numerator denominator : Nat) : Int :=
  if denominator ≤ numerator then (toString (numerator / denominator)).length - 1
  else
    let guess : Int := ((toString denominator).length : Int) - (toString numerator).length
    let (n, d) := scaleByTen numerator denominator (-guess)
    if d ≤ n then -guess else -guess - 1

/-- The first hit on the grids of `count`, `count + 1`, … digits, `left` grids in all. -/
def searchGrids (magnitude numerator denominator : Nat) (leading : Int) :
    (left count : Nat) → Option Digits
  | 0, _ => none
  | left + 1, count =>
    match onGrid magnitude numerator denominator (leading - count + 1) with
    | found :: _ => some found
    | [] => searchGrids magnitude numerator denominator leading left (count + 1)

/-- Takes the zeros at the end into the exponent; there are at most `left` of them. -/
def Digits.trim : (left : Nat) → Digits → Digits
  | 0, x => x
  | left + 1, x =>
    if x.digits ≠ 0 ∧ x.digits % 10 = 0 then Digits.trim left ⟨x.digits / 10, x.exponent + 1⟩ else x

/-- All digits of a positive finite number: a half is five tenths, so a power of two below one is a
power of five with that many decimal places. -/
def exactDigits (x : Binary64) : Digits :=
  if 0 ≤ x.exponent then ⟨x.significand <<< x.exponent.toNat, 0⟩
  else ⟨x.significand * Nat.pow 5 (-x.exponent).toNat, x.exponent⟩

/-- The fewest digits that read back as a positive finite number. Seventeen are always enough; where
no grid had a hit, all digits would still read back. -/
def shortest (x : Binary64) : Digits :=
  let (n, d) := scaleByTwo x.significand 1 x.exponent
  ((searchGrids x.magnitude n d (leadingPlace n d) 17 1).getD (exactDigits x)).trim 20

/-- Where positional notation ends and how exponents are written. -/
structure Layout where
  /-- The least place of a first digit that is written positionally. -/
  leastPlace : Int
  /-- The first place of a first digit that is too large for it. -/
  endPlace : Int
  /-- The least number of exponent digits. -/
  exponentDigits : Nat

/-- Characters of a number without sign, in the given layout; a whole number keeps `.0` in
positional notation. -/
def Layout.chars (layout : Layout) (x : Digits) : List Char :=
  let digits := (toString x.digits).toList
  let place := x.leading
  if layout.leastPlace ≤ place ∧ place < layout.endPlace then
    if place < 0 then ['0', '.'] ++ List.replicate (-place - 1).toNat '0' ++ digits
    else
      let whole := digits.take (place.toNat + 1)
      let part := digits.drop (place.toNat + 1)
      whole ++ List.replicate (place.toNat + 1 - whole.length) '0' ++ ['.'] ++
        (if part = [] then ['0'] else part)
  else
    let exponent := (toString place.natAbs).toList
    digits.take 1 ++ (if digits.length ≤ 1 then [] else '.' :: digits.drop 1) ++
      ['e', if place < 0 then '-' else '+'] ++
      List.replicate (layout.exponentDigits - exponent.length) '0' ++ exponent

end CodeMarkup.Decimal
