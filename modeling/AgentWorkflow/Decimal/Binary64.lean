/-
Binary floating-point numbers with 53 significant bits, as exact values.

* `Binary64` — a finite number is a sign, a whole significand and a power of
  two.  Zero keeps its sign.
* `Binary64.ofRatio` — the number nearest to a quotient of natural numbers; a
  tie goes to the even significand, and a quotient beyond the largest number
  has none.
* `Binary64.scale10` — the number that a decimal significand and a power of ten
  stand for, by one rounded conversion and one rounded product or quotient.
* `Binary64.shortest` — the fewest decimal digits that read back as the number.

Design notes: no machine float occurs; rounding is a division with remainder in
the natural numbers, so that every value here can be computed in a proof.  The
significand is below 2^53, and below 2^52 only at the smallest power of two.
-/

namespace AgentWorkflow

/-- The finite number `±significand · 2^power`. -/
structure Binary64 where
  negative : Bool
  significand : Nat
  power : Int
  deriving DecidableEq, Repr, Inhabited

namespace Binary64

/-- The smallest power of two of a significand. -/
def leastPower : Int := -1074

/-- The largest power of two of a significand. -/
def greatestPower : Int := 971

def zero (negative : Bool) : Binary64 := ⟨negative, 0, leastPower⟩

def isZero (x : Binary64) : Bool := x.significand == 0

def negate (x : Binary64) : Binary64 := { x with negative := !x.negative }

/-- A quotient rounded to a whole number, ties to even. -/
def roundDiv (num den : Nat) : Nat :=
  let q := num / den
  let r := num % den
  if 2 * r < den then q
  else if 2 * r == den then (if q % 2 == 0 then q else q + 1)
  else q + 1

/-- `num / den` in units of `2^power`, as a quotient of natural numbers. -/
def inUnits (num den : Nat) (power : Int) : Nat × Nat :=
  if 0 ≤ power then (num, den * Nat.pow 2 power.toNat) else (num * Nat.pow 2 (-power).toNat, den)

/-- The power of two of the significand of `num / den`, for a non-zero
quotient: the quotient counted in units of it has 53 bits, unless the power is
the least one. -/
def powerOf (num den : Nat) : Int :=
  let guess : Int := (Nat.log2 num : Int) - Nat.log2 den - 52
  let (n, d) := inUnits num den guess
  let fitted := if n / d < Nat.pow 2 52 then guess - 1 else guess
  if fitted < leastPower then leastPower else fitted

/-- The number nearest to `num / den`; `none` when that is beyond the largest
number. -/
def ofRatio (negative : Bool) (num den : Nat) : Option Binary64 :=
  if num == 0 then some (zero negative)
  else
    let power := powerOf num den
    let (n, d) := inUnits num den power
    let m := roundDiv n d
    let (m, power) := if m == Nat.pow 2 53 then (Nat.pow 2 52, power + 1) else (m, power)
    if power > greatestPower then none
    else some (if m == 0 then zero negative else ⟨negative, m, power⟩)

def ofNat (n : Nat) : Option Binary64 := ofRatio false n 1

/-- The magnitude as a quotient of natural numbers. -/
def ratio (x : Binary64) : Nat × Nat :=
  if 0 ≤ x.power then (x.significand * Nat.pow 2 x.power.toNat, 1)
  else (x.significand, Nat.pow 2 (-x.power).toNat)

/-- The rounded product of two magnitudes. -/
def times (x y : Binary64) : Option Binary64 :=
  let (a, b) := x.ratio
  let (c, d) := y.ratio
  ofRatio (x.negative != y.negative) (a * c) (b * d)

/-- The rounded quotient of two magnitudes, for a divisor that is not zero. -/
def quotient (x y : Binary64) : Option Binary64 :=
  let (a, b) := x.ratio
  let (c, d) := y.ratio
  ofRatio (x.negative != y.negative) (a * d) (b * c)

/-- A power of ten with exponent at most 308, rounded. -/
def tenTo (k : Nat) : Binary64 := (ofNat (Nat.pow 10 k)).getD (zero false)

/-- The largest exponent with a power of ten among the numbers. -/
def tenLimit : Nat := 308

/-- Divides by the largest power of ten, `steps` times or until nothing is
left. -/
def shrink : Nat → Binary64 → Option Binary64
  | 0, x => some x
  | steps + 1, x => if x.isZero then some x else (x.quotient (tenTo tenLimit)).bind (shrink steps)

/-- Multiplies or divides by a power of ten, rounding once; a negative exponent
beyond the largest power of ten is taken in steps.  `none` when the result is
too large. -/
def scaleBy (x : Binary64) (exponent : Int) : Option Binary64 :=
  if 0 ≤ exponent then
    if exponent.toNat ≤ tenLimit then x.times (tenTo exponent.toNat)
    else if x.isZero then some x
    else none
  else
    let n := (-exponent).toNat
    let steps := (n - 1) / tenLimit
    (shrink steps x).bind fun y => y.quotient (tenTo (n - steps * tenLimit))

/-- The number written as `significand · 10^exponent`. -/
def scale10 (significand : Nat) (exponent : Int) : Option Binary64 :=
  match ofNat significand with
  | none => none
  | some x => scaleBy x exponent

/-! ### Shortest decimal digits -/

/-- Decimal digits and the power of ten of the last digit. -/
structure Digits where
  digits : Nat
  exponent : Int
  deriving DecidableEq, Repr

/-- Whether `n · 10^exponent`, `den` being a power of two, lies among the
reals that round to the number with the given bounds (in units of `1 / den`);
the bounds themselves count when `closed`. -/
def within (low high den : Nat) (closed : Bool) (n : Nat) (exponent : Int) : Bool :=
  let (a, b) := if 0 ≤ exponent then (n * Nat.pow 10 exponent.toNat * den, 1)
    else (n * den, Nat.pow 10 (-exponent).toNat)
  if closed then low * b ≤ a && a ≤ high * b else low * b < a && a < high * b

/-- The two neighbours of the magnitude on the grid of multiples of
`10^exponent`, the nearer first (of equally near ones the even one). -/
def neighbours (num den : Nat) (exponent : Int) : Nat × Nat :=
  let (n, d) := if 0 ≤ exponent then (num, den * Nat.pow 10 exponent.toNat)
    else (num * Nat.pow 10 (-exponent).toNat, den)
  let q := n / d
  let r := n % d
  if 2 * r < d || (2 * r == d && q % 2 == 0) then (q, q + 1) else (q + 1, q)

/-- Tries grids from coarse to fine. -/
def searchGrid (num den low high bden : Nat) (closed : Bool) : Nat → Int → Option Digits
  | 0, _ => none
  | steps + 1, exponent =>
    let (near, far) := neighbours num den exponent
    if within low high bden closed near exponent then some ⟨near, exponent⟩
    else if within low high bden closed far exponent then some ⟨far, exponent⟩
    else searchGrid num den low high bden closed steps (exponent - 1)

/-- Moves zeros at the end of the digits into the exponent. -/
def dropZeros : Nat → Digits → Digits
  | 0, d => d
  | steps + 1, d =>
    if d.digits % 10 == 0 && d.digits != 0 then dropZeros steps ⟨d.digits / 10, d.exponent + 1⟩
    else d

/-- The fewest digits that read back as a number other than zero, and of those
the nearest to it. -/
def shortest (x : Binary64) : Digits :=
  let (num, den) := x.ratio
  let m := x.significand
  -- the bounds of the interval that rounds to `x`, in quarters of a unit
  let below := if m == Nat.pow 2 52 && x.power > leastPower then 4 * m - 1 else 4 * m - 2
  let above := 4 * m + 2
  let quarter := x.power - 2
  let (low, high, bden) :=
    if 0 ≤ quarter then (below * Nat.pow 2 quarter.toNat, above * Nat.pow 2 quarter.toNat, 1)
    else (below, above, Nat.pow 2 (-quarter).toNat)
  -- the power of ten just above the magnitude
  let top : Int := ((Nat.log2 num : Int) - Nat.log2 den + 1) * 30103 / 100000 + 1
  match searchGrid num den low high bden (m % 2 == 0) 24 top with
  | some d => dropZeros 400 d
  | none => ⟨0, 0⟩

/-- The natural number that the number equals, if it is one. -/
def toNat? (x : Binary64) : Option Nat :=
  if x.isZero then some 0
  else if x.negative then none
  else
    let (num, den) := x.ratio
    if num % den == 0 then some (num / den) else none

end Binary64

end AgentWorkflow
