/-! The shortest decimal for a binary fraction. A value `m · 2^q` owns the real numbers that round
to it; of the decimals among them the result has the fewest digits, and of those it is the nearest.
-/

namespace SchemaScript.Decimal

/-- The number `digits · 10^exponent`. -/
structure Scientific where
  digits : Nat
  exponent : Int
  deriving DecidableEq, Repr

/-- A positive value with the ends of the interval that rounds to it, over one denominator. -/
structure Cell where
  low : Nat
  value : Nat
  high : Nat
  denominator : Nat
  closed : Bool

/-- The cell of `m · 2^q`. Below a power of two the neighbours are twice as dense, which `narrow`
says. The ends round to an even `m` only. -/
def cell (m : Nat) (q : Int) (narrow : Bool) : Cell :=
  let scale := Nat.pow 2 q.toNat
  ⟨(4 * m - if narrow then 1 else 2) * scale, 4 * m * scale, (4 * m + 2) * scale,
    4 * Nat.pow 2 (-q).toNat, m % 2 == 0⟩

/-- Whether `digits · 10^exponent` lies in the cell. -/
def Cell.holds (c : Cell) (digits : Nat) (exponent : Int) : Bool :=
  let left := digits * Nat.pow 10 exponent.toNat * c.denominator
  let unit := Nat.pow 10 (-exponent).toNat
  if c.closed then c.low * unit ≤ left && left ≤ c.high * unit
  else c.low * unit < left && left < c.high * unit

/-- The point of the grid of multiples of `10^exponent` that stands for the cell, if one lies in it:
the nearer of the value's two neighbours, the even one when they are equally near. -/
def Cell.onGrid? (c : Cell) (exponent : Int) : Option Nat :=
  let top := c.value * Nat.pow 10 (-exponent).toNat
  let unit := Nat.pow 10 exponent.toNat * c.denominator
  let below := top / unit
  let twice := 2 * (top % unit)
  match c.holds below exponent, c.holds (below + 1) exponent with
  | true, true =>
    if twice < unit then some below
    else if unit < twice then some (below + 1)
    else some (below + below % 2)
  | true, false => some below
  | false, true => some (below + 1)
  | false, false => none

/-- Without zeros at the end of the digits. -/
def Scientific.normalize (fuel : Nat) (s : Scientific) : Scientific :=
  match fuel with
  | 0 => s
  | fuel + 1 =>
    if s.digits ≠ 0 ∧ s.digits % 10 = 0 then normalize fuel ⟨s.digits / 10, s.exponent + 1⟩ else s

/-- The first of `count` grids, from the given one on and each ten times finer than the one before,
that has a point in the cell. -/
def Cell.search (c : Cell) : (count : Nat) → (exponent : Int) → Scientific
  | 0, exponent => ⟨c.value / c.denominator, exponent⟩
  | count + 1, exponent =>
    match c.onGrid? exponent with
    | some digits => ⟨digits, exponent⟩
    | none => c.search count (exponent - 1)

/-- The exponent of the first digit of `value / denominator`, looked for upwards from a power of ten
that is too small. -/
def leadingExponent (value denominator : Nat) : (fuel : Nat) → (exponent : Int) → Int
  | 0, exponent => exponent
  | fuel + 1, exponent =>
    let next := exponent + 1
    if Nat.pow 10 next.toNat * denominator ≤ value * Nat.pow 10 (-next).toNat then
      leadingExponent value denominator fuel next
    else exponent

/-- The shortest decimal for `m · 2^q` with a positive `m` below `2^53`. -/
def shortest (m : Nat) (q : Int) (narrow : Bool) : Scientific :=
  let c := cell m q narrow
  let first := leadingExponent c.value c.denominator 650 (-325)
  (c.search 18 first).normalize 20

example : shortest 1 (-1074) false = ⟨5, -324⟩ := by decide +kernel
example : shortest 6755399441055744 (-52) false = ⟨15, -1⟩ := by decide +kernel
example : shortest 9007199254740993 1 false = ⟨18014398509481986, 0⟩ := by decide +kernel

end SchemaScript.Decimal
