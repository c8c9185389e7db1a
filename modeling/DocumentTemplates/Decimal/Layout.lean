import DocumentTemplates.Decimal.Digits
import DocumentTemplates.Decimal.Shortest
import DocumentTemplates.Double

/-!
# How doubles are laid out as text

A layout says which doubles are written with a plain decimal point and which with an exponent,
and how the special values are spelled. The digits are always the shortest that read back.
-/

namespace DocumentTemplates.Decimal

/-- The decisions of one way to write doubles. -/
structure Layout where
  /-- Powers of ten of the first digit, from the first number up to and without the second, that
  are written without an exponent. With `none` an exponent is never written. -/
  positional : Option (Int × Int)
  /-- Whole numbers in positional form end in a point and a zero. -/
  keepsPoint : Bool
  /-- Exponents that are not negative carry a plus sign. -/
  signsExponent : Bool
  /-- The choice between two equally near shortest decimals. -/
  tie : Tie
  notANumber : String
  infinity : String
  negativeInfinity : String

/-- The decimal `digits · 10 ^ exponent` with a point and no exponent. -/
def Layout.positionalText (l : Layout) (s : Scaled) : List Char :=
  let ds := digits s.digits
  if 0 ≤ s.exponent then
    ds ++ List.replicate s.exponent.toNat '0' ++ (if l.keepsPoint then ['.', '0'] else [])
  else
    let places := (-s.exponent).toNat
    if ds.length ≤ places then '0' :: '.' :: List.replicate (places - ds.length) '0' ++ ds
    else ds.take (ds.length - places) ++ '.' :: ds.drop (ds.length - places)

/-- The decimal with one digit before the point and an exponent. -/
def Layout.exponentText (l : Layout) (s : Scaled) : List Char :=
  let ds := digits s.digits
  let power : Int := s.exponent + ds.length - 1
  let mantissa := match ds with
    | [] => []
    | [d] => [d]
    | d :: rest => d :: '.' :: rest
  mantissa ++ 'e' :: (if l.signsExponent && 0 ≤ power then ['+'] else []) ++ intDigits power

/-- Removes factors of ten, `limit` at most. -/
def Scaled.reduce (s : Scaled) : Nat → Scaled
  | 0 => s
  | limit + 1 =>
    if s.digits ≠ 0 && s.digits % 10 = 0 then Scaled.reduce ⟨s.digits / 10, s.exponent + 1⟩ limit
    else s

/-- The text of the finite double with the given magnitude bits. -/
def Layout.magnitudeText (l : Layout) (bits : Nat) : List Char :=
  let b := Binary.ofBits bits
  if b.mantissa = 0 then l.positionalText ⟨0, 0⟩
  else
    let s := (b.shortest l.tie).reduce 17
    let power : Int := s.exponent + (digits s.digits).length - 1
    match l.positional with
    | none => l.positionalText s
    | some (first, last) =>
      if first ≤ power && power < last then l.positionalText s else l.exponentText s

/-- The text of a double. All NaNs have the same. -/
def Layout.text (l : Layout) (x : Double) : String :=
  if x.isNaN then l.notANumber
  else if x.magnitude = Double.infinity then
    if x.isNegative then l.negativeInfinity else l.infinity
  else String.ofList ((if x.isNegative then ['-'] else []) ++ l.magnitudeText x.magnitude)

end DocumentTemplates.Decimal
