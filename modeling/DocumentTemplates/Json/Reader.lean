import DocumentTemplates.Decimal.Digits
import DocumentTemplates.Text.Hexadecimal
import DocumentTemplates.Value

/-!
# Reading JSON

Text to a tree that keeps every entry of an object in order, and trees to document values. No
more than 127 arrays and objects may be open at once.
-/

namespace DocumentTemplates

/-- A JSON text as it was written. Whole numbers that fit 64 bits, signed or unsigned, are kept
exactly; any other number is a double. -/
inductive Json where
  | null
  | bool (b : Bool)
  | integer (i : Int)
  | float (x : Double)
  | string (s : String)
  | array (items : List Json)
  | object (entries : List (String × Json))

namespace Json

def isSpace (c : Char) : Bool :=
  c = ' ' || c = '\n' || c = '\t' || c = '\r'

def skipSpace (cs : List Char) : List Char :=
  cs.dropWhile isSpace

/-! ## Numbers -/

/-- The longest prefix of digits whose value stays below `UInt64.size`, continuing from `n`, and the
digits left over. -/
def accumulate (n : Nat) : List Char → Nat × List Char
  | [] => (n, [])
  | c :: rest =>
    let next := 10 * n + Decimal.digitValue c
    if next < UInt64.size then accumulate next rest else (n, c :: rest)

def powerOfTen (k : Nat) : Float :=
  Float.ofScientific 1 false k

/-- Scales a double down by `10 ^ k` in steps of at most `10 ^ 308`. -/
def scaleDown (x : Float) (k : Nat) : Nat → Float
  | 0 => 0
  | steps + 1 =>
    if k ≤ 308 then x / powerOfTen k
    else if x == 0 then x
    else scaleDown (x / powerOfTen 308) (k - 308) steps

/-- A significand times a power of ten, by one multiplication or by divisions of doubles. There is
none if the result is too large. -/
def scale? (significand : Nat) (exponent : Int) : Option Float :=
  let x := significand.toUInt64.toFloat
  if exponent < 0 then some (scaleDown x (-exponent).toNat 4)
  else if exponent ≤ 308 then
    let y := x * powerOfTen exponent.toNat
    if y.isInf then none else some y
  else if significand = 0 then some x
  else none

/-- The number with the given sign, digits before the point, digits after it, and exponent, of
which the last two may be missing. Digits that do not fit the 64-bit significand count only by
their place. -/
def number? (negative : Bool) (whole : List Char) (fraction : Option (List Char))
    (exponent : Option Int) : Option Json :=
  let (n, rest) := accumulate 0 whole
  match fraction, exponent, rest with
  | none, none, [] =>
    if !negative then some (.integer n)
    else if 0 < n && n ≤ Nat.pow 2 63 then some (.integer (-(n : Int)))
    else some (.float (.ofFloat (-n.toUInt64.toFloat)))
  | _, _, _ =>
    let places := fraction.getD []
    let (significand, dropped) := accumulate n places
    let power : Int :=
      rest.length - ((places.length - dropped.length : Nat) : Int) + exponent.getD 0
    (scale? significand power).map fun x => .float (.ofFloat (if negative then -x else x))

/-- The exponent part of a number, if one begins here: none if it is malformed. -/
def readExponent (cs : List Char) : Option (Option Int × List Char) :=
  match cs with
  | c :: rest =>
    if c = 'e' || c = 'E' then
      let (negative, body) := match rest with
        | '-' :: more => (true, more)
        | '+' :: more => (false, more)
        | more => (false, more)
      let ds := body.takeWhile Decimal.isDigit
      if ds.isEmpty then none
      else
        let n : Int := Decimal.value ds
        some (some (if negative then -n else n), body.dropWhile Decimal.isDigit)
    else some (none, cs)
  | [] => some (none, [])

/-- The fraction of a number, if one begins here: none if no digit follows the point. -/
def readFraction (cs : List Char) : Option (Option (List Char) × List Char) :=
  match cs with
  | '.' :: rest =>
    let ds := rest.takeWhile Decimal.isDigit
    if ds.isEmpty then none else some (some ds, rest.dropWhile Decimal.isDigit)
  | _ => some (none, cs)

/-- An unsigned number. A zero may not be followed by another digit of the whole part. -/
def readUnsigned (negative : Bool) (cs : List Char) : Option (Json × List Char) := do
  let whole := cs.takeWhile Decimal.isDigit
  match whole with
  | [] => none
  | '0' :: _ :: _ => none
  | _ =>
    let (fraction, rest) ← readFraction (cs.dropWhile Decimal.isDigit)
    let (exponent, rest) ← readExponent rest
    let n ← number? negative whole fraction exponent
    return (n, rest)

/-! ## Strings -/

/-- The code unit that four hexadecimal digits write. -/
def codeUnit? (a b c d : Char) : Option Nat := do
  return 4096 * (← Text.hexValue? a) + 256 * (← Text.hexValue? b) + 16 * (← Text.hexValue? c) + (← Text.hexValue? d)

/-- The character that an escape of one letter stands for. -/
def shortEscape? (c : Char) : Option Char :=
  if c = '"' || c = '\\' || c = '/' then some c
  else if c = 'b' then some (Char.ofNat 0x8)
  else if c = 'f' then some (Char.ofNat 0xc)
  else if c = 'n' then some '\n'
  else if c = 'r' then some '\r'
  else if c = 't' then some '\t'
  else none

/-- The characters of a string literal after its opening quote, and what follows its closing
quote. Surrogates must come in pairs, and control characters must be escaped. -/
def readString : List Char → Option (List Char × List Char)
  | [] => none
  | '"' :: rest => some ([], rest)
  | '\\' :: 'u' :: a :: b :: c :: d :: rest => do
    let unit ← codeUnit? a b c d
    if unit < 0xd800 || 0xe000 ≤ unit then
      let (s, rest) ← readString rest
      return (Char.ofNat unit :: s, rest)
    else if unit < 0xdc00 then
      match rest with
      | '\\' :: 'u' :: a :: b :: c :: d :: rest =>
        let low ← codeUnit? a b c d
        if 0xdc00 ≤ low && low < 0xe000 then
          let (s, rest) ← readString rest
          return (Char.ofNat (0x10000 + 0x400 * (unit - 0xd800) + (low - 0xdc00)) :: s, rest)
        else none
      | _ => none
    else none
  | '\\' :: c :: rest => do
    let e ← shortEscape? c
    let (s, rest) ← readString rest
    return (e :: s, rest)
  | c :: rest => do
    if c.toNat < 0x20 || c = '\\' then none
    else
      let (s, rest) ← readString rest
      return (c :: s, rest)

/-! ## Values -/

/-- The rest of an array after an item: a bracket ends it, a comma asks for another item. At most
`limit` items are read. -/
def readItems (item : List Char → Option (Json × List Char)) :
    Nat → List Char → Option (List Json × List Char)
  | 0, _ => none
  | limit + 1, cs => do
    let (v, rest) ← item cs
    match skipSpace rest with
    | ']' :: rest => return ([v], rest)
    | ',' :: rest =>
      let (vs, rest) ← readItems item limit rest
      return (v :: vs, rest)
    | _ => none

/-- The entries of an object up to the brace that ends it. At most `limit` entries are read. -/
def readEntries (item : List Char → Option (Json × List Char)) :
    Nat → List Char → Option (List (String × Json) × List Char)
  | 0, _ => none
  | limit + 1, cs =>
    match skipSpace cs with
    | '"' :: rest => do
      let (key, rest) ← readString rest
      match skipSpace rest with
      | ':' :: rest =>
        let (v, rest) ← item rest
        match skipSpace rest with
        | '}' :: rest => return ([(String.ofList key, v)], rest)
        | ',' :: rest =>
          let (more, rest) ← readEntries item limit rest
          return ((String.ofList key, v) :: more, rest)
        | _ => none
      | _ => none
    | _ => none

/-- A value, blanks in front allowed, in which `levels` arrays and objects may be open at once. -/
def readValue : Nat → List Char → Option (Json × List Char)
  | levels, cs =>
    match skipSpace cs with
    | 'n' :: 'u' :: 'l' :: 'l' :: rest => some (.null, rest)
    | 't' :: 'r' :: 'u' :: 'e' :: rest => some (.bool true, rest)
    | 'f' :: 'a' :: 'l' :: 's' :: 'e' :: rest => some (.bool false, rest)
    | '"' :: rest => (readString rest).map fun (s, rest) => (.string (String.ofList s), rest)
    | '-' :: rest => readUnsigned true rest
    | '[' :: rest =>
      match levels with
      | 0 => none
      | inner + 1 =>
        match skipSpace rest with
        | ']' :: rest => some (.array [], rest)
        | rest =>
          (readItems (readValue inner) rest.length rest).map fun (vs, rest) => (.array vs, rest)
    | '{' :: rest =>
      match levels with
      | 0 => none
      | inner + 1 =>
        match skipSpace rest with
        | '}' :: rest => some (.object [], rest)
        | rest =>
          (readEntries (readValue inner) rest.length rest).map fun (es, rest) =>
            (.object es, rest)
    | rest => readUnsigned false rest

def read? (s : String) : Option Json :=
  match readValue 127 s.toList with
  | some (v, rest) => if (skipSpace rest).isEmpty then some v else none
  | none => none

mutual

/-- The document value of a JSON tree. A whole number beyond the signed 64-bit range becomes a
double. -/
def toValue : Json → Value
  | .null => .null
  | .bool b => .bool b
  | .integer i =>
    match Value.int64? i with
    | some n => .integer n
    | none => .float (.ofInt i)
  | .float x => .float x
  | .string s => .string s
  | .array items => .array (toValues items)
  | .object entries => .document (OrderedMap.ofEntries (toEntries entries))

def toValues : List Json → List Value
  | [] => []
  | v :: rest => toValue v :: toValues rest

def toEntries : List (String × Json) → List (String × Value)
  | [] => []
  | (key, v) :: rest => (key, toValue v) :: toEntries rest

end

def readValue? (s : String) : Option Value :=
  (read? s).map toValue

end Json

end DocumentTemplates
