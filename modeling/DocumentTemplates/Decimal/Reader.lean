import DocumentTemplates.Decimal.Digits
import DocumentTemplates.Decimal.Shortest

/-!
# Reading decimals as doubles

The nearest double to a decimal with an optional fraction and exponent.
-/

namespace DocumentTemplates.Decimal

/-- The double nearest to `digits · 10 ^ exponent`. Exponents far outside the range of doubles
are answered without computing the power. -/
def nearest (digits : Nat) (exponent : Int) : Float :=
  if digits = 0 then 0
  else
    let magnitude : Int := exponent + (Decimal.digits digits).length
    if 310 < magnitude then 1 / 0
    else if magnitude < -330 then 0
    else if 0 ≤ exponent then Float.ofScientific digits false exponent.toNat
    else Float.ofScientific digits true (-exponent).toNat

/-- Splits off an optional sign; true stands for minus. -/
def splitSign : List Char → Bool × List Char
  | '-' :: rest => (true, rest)
  | '+' :: rest => (false, rest)
  | cs => (false, cs)

/-- An exponent part, `e` or `E` with an optional sign and at least one digit; the empty text has
exponent zero. -/
def exponent? : List Char → Option Int
  | [] => some 0
  | c :: rest =>
    let (negative, ds) := splitSign rest
    if (c = 'e' || c = 'E') && !ds.isEmpty && ds.all isDigit then
      some (if negative then -(value ds : Int) else value ds)
    else none

/-- The decimal that a text writes: digits with at most one point among or beside them, at least
one digit in all, and an optional exponent. -/
def scaled? (cs : List Char) : Option Scaled :=
  let whole := cs.takeWhile isDigit
  let rest := cs.dropWhile isDigit
  let (fraction, tail) := match rest with
    | '.' :: more => (more.takeWhile isDigit, more.dropWhile isDigit)
    | _ => ([], rest)
  if whole.isEmpty && fraction.isEmpty then none
  else (exponent? tail).map fun e => ⟨value (whole ++ fraction), e - fraction.length⟩

/-- Reads an unsigned decimal as a double. -/
def unsigned? (cs : List Char) : Option Float :=
  (scaled? cs).map fun s => nearest s.digits s.exponent

/-- Reads a finite decimal with an optional sign. -/
def float? (cs : List Char) : Option Float :=
  let (negative, body) := splitSign cs
  (unsigned? body).map fun x => if negative then -x else x

end DocumentTemplates.Decimal
