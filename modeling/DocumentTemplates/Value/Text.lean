import DocumentTemplates.Decimal.Layout
import DocumentTemplates.Value

/-!
# The plain text of values
-/

namespace DocumentTemplates.Value

/-- Doubles as plain text: never with an exponent, whole numbers without a point. -/
def textLayout : Decimal.Layout where
  positional := none
  keepsPoint := false
  signsExponent := false
  tie := .up
  notANumber := "NaN"
  infinity := "inf"
  negativeInfinity := "-inf"

/-- The plain text of a value. Arrays and documents have none. -/
def text? : Value → Option String
  | .null => some ""
  | .bool b => some (if b then "true" else "false")
  | .integer i => some (String.ofList (Decimal.intDigits i.toInt))
  | .float x => some (textLayout.text x)
  | .string s => some s
  | .array _ => none
  | .document _ => none

end DocumentTemplates.Value
