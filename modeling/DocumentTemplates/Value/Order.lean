import DocumentTemplates.Value

/-!
# The order of values

The comparison by which sequences are sorted. Values of different kinds are ordered null, boolean,
number, string, array, document. Two integers compare by value; if a number is a double, both
compare as doubles, in the total order that puts -0 before 0, the negative NaNs first and the
positive ones last. Strings compare by code point, arrays and documents by size.
-/

namespace DocumentTemplates.Value

def rank : Value → Nat
  | .null => 0
  | .bool _ => 1
  | .integer _ => 2
  | .float _ => 2
  | .string _ => 3
  | .array _ => 4
  | .document _ => 5

/-- Compares two values for sorting. -/
def sortCompare : Value → Value → Ordering
  | .bool a, .bool b => compare a.toNat b.toNat
  | .integer a, .integer b => compare a.toInt b.toInt
  | .integer a, .float b => (Double.ofInt a.toInt).totalCompare b
  | .float a, .integer b => a.totalCompare (Double.ofInt b.toInt)
  | .float a, .float b => a.totalCompare b
  | .string a, .string b => compare a b
  | .array a, .array b => compare a.length b.length
  | .document a, .document b => compare a.length b.length
  | a, b => compare a.rank b.rank

end DocumentTemplates.Value
