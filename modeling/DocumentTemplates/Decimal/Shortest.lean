/-!
# The shortest decimal of a double

A finite positive double stands for an interval of reals, those that round to it. The shortest
decimal is a point of that interval on the coarsest grid of decimals (one digit, two digits, …)
that has one, and of several the nearest to the double. Everything is computed on natural
numbers.
-/

namespace DocumentTemplates.Decimal

/-- How the nearer of two decimals is chosen when both are equally near. -/
inductive Tie where
  /-- The one with the even last digit. -/
  | toEven
  /-- The larger one. -/
  | up
  deriving DecidableEq

/-- A positive double `mantissa · 2 ^ exponent`. In a double of full precision the mantissa has
53 bits; `narrowBelow` says that the gap to the next smaller double is half the gap above. -/
structure Binary where
  mantissa : Nat
  exponent : Int
  narrowBelow : Bool

/-- The double with the given bits, without its sign. Zero has mantissa zero. -/
def Binary.ofBits (bits : Nat) : Binary :=
  let fraction : Nat := bits % Nat.pow 2 52
  let biased : Nat := bits / Nat.pow 2 52 % Nat.pow 2 11
  if biased = 0 then ⟨fraction, -1074, false⟩
  else ⟨Nat.pow 2 52 + fraction, (biased : Int) - 1075, fraction = 0 && 1 < biased⟩

/-- A decimal `digits · 10 ^ exponent`. -/
structure Scaled where
  digits : Nat
  exponent : Int

/-- Four times a double and the ends of its interval, over a common denominator. -/
structure Interval where
  low : Nat
  centre : Nat
  high : Nat
  denominator : Nat
  closed : Bool

/-- The interval of a double. Its ends belong to it when the mantissa is even. -/
def Binary.interval (b : Binary) : Interval :=
  let scale := Nat.pow 2 b.exponent.toNat
  let below := if b.narrowBelow then 1 else 2
  { low := (4 * b.mantissa - below) * scale
    centre := 4 * b.mantissa * scale
    high := (4 * b.mantissa + 2) * scale
    denominator := 4 * Nat.pow 2 (-b.exponent).toNat
    closed := b.mantissa % 2 = 0 }

/-- The same interval in units of `10 ^ k`. -/
def Interval.inUnits (i : Interval) (k : Int) : Interval :=
  let up := Nat.pow 10 (-k).toNat
  { i with
    low := i.low * up
    centre := i.centre * up
    high := i.high * up
    denominator := i.denominator * Nat.pow 10 k.toNat }

def Interval.contains (i : Interval) (d : Nat) : Bool :=
  let point := d * i.denominator
  if i.closed then i.low ≤ point && point ≤ i.high else i.low < point && point < i.high

/-- The whole number of the interval nearest to its centre, if it holds one of the two
neighbours of the centre. -/
def Interval.nearest? (i : Interval) (tie : Tie) : Option Nat :=
  let d := i.centre / i.denominator
  let rest := 2 * (i.centre % i.denominator)
  match i.contains d, i.contains (d + 1) with
  | true, false => some d
  | false, true => some (d + 1)
  | false, false => none
  | true, true =>
    if rest < i.denominator then some d
    else if i.denominator < rest then some (d + 1)
    else match tie with
      | .toEven => some (if d % 2 = 0 then d else d + 1)
      | .up => some (d + 1)

/-- The number of decimal places to the left of the point of `centre / denominator`, when the
quotient is at least one; zero otherwise. -/
def wholePlaces (centre denominator : Nat) : Nat :=
  if centre < denominator then 0 else (Nat.toDigits 10 (centre / denominator)).length

/-- The number of zeros between the point and the first digit of `centre / denominator`, for a
quotient below one, looking at no more than `limit` of them. -/
def leadingZeros (denominator : Nat) : Nat → Nat → Nat
  | 0, _ => 0
  | limit + 1, centre =>
    if 10 * centre < denominator then leadingZeros denominator limit (10 * centre) + 1 else 0

/-- The power of ten of the first digit of the centre. -/
def Interval.magnitude (i : Interval) : Int :=
  match wholePlaces i.centre i.denominator with
  | 0 => -1 - leadingZeros i.denominator 400 i.centre
  | places + 1 => places

/-- Tries the grids of `count`, `count + 1`, … digits, `more` of them, and falls back to the
last. -/
def shortestFrom (i : Interval) (magnitude : Int) (tie : Tie) (count : Nat) : Nat → Scaled
  | 0 =>
    let k := magnitude + 1 - count
    let grid := i.inUnits k
    ⟨grid.centre / grid.denominator, k⟩
  | more + 1 =>
    let k := magnitude + 1 - count
    match (i.inUnits k).nearest? tie with
    | some d => ⟨d, k⟩
    | none => shortestFrom i magnitude tie (count + 1) more

/-- The shortest decimal of a positive double. Seventeen digits always suffice. -/
def Binary.shortest (b : Binary) (tie : Tie) : Scaled :=
  shortestFrom b.interval b.interval.magnitude tie 1 17

end DocumentTemplates.Decimal
