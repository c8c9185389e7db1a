/-!
# Decimal numerals

Writing a number in decimal digits and reading it back.
-/

namespace DocumentTemplates.Decimal

/-- The decimal digits of `n`, most significant first. -/
def digits (n : Nat) : List Char :=
  Nat.toDigits 10 n

/-- An integer in decimal, with a sign only when it is negative. -/
def intDigits : Int → List Char
  | .ofNat n => digits n
  | .negSucc n => '-' :: digits (n + 1)

def isDigit (c : Char) : Bool :=
  '0' ≤ c && c ≤ '9'

def digitValue (c : Char) : Nat :=
  c.toNat - '0'.toNat

/-- The number that a run of digits writes. -/
def value (cs : List Char) : Nat :=
  cs.foldl (fun n c => 10 * n + digitValue c) 0

/-- Reads an unsigned 64-bit count: decimal digits with an optional plus sign in front. -/
def count? (s : String) : Option Nat :=
  let body := match s.toList with
    | '+' :: rest => rest
    | cs => cs
  if !body.isEmpty && body.all isDigit && value body < UInt64.size then some (value body) else none

end DocumentTemplates.Decimal
