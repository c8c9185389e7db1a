import DocumentTemplates.Decimal.Reader
import DocumentTemplates.Text.Hexadecimal
import DocumentTemplates.Yaml.Tag
import DocumentTemplates.Yaml.Token

/-!
# The meaning of scalars

The core schema: which plain scalars are null, truth values, whole numbers and decimals, and which
are text. Digits behind a leading zero are text. Tags of the schema ask for one meaning; local tags
have none here.
-/

namespace DocumentTemplates.Yaml

/-- What a scalar means. -/
inductive Meaning where
  | null
  | bool (b : Bool)
  /-- A whole number of at most 128 bits. -/
  | integer (i : Int)
  | float (x : Float)
  | text (s : String)

def isNullWord (s : String) : Bool :=
  s = "null" || s = "Null" || s = "NULL" || s = "~"

/-- The truth value that a word stands for. -/
def bool? (s : String) : Option Bool :=
  if s = "true" || s = "True" || s = "TRUE" then some true
  else if s = "false" || s = "False" || s = "FALSE" then some false
  else none

/-- True of several digits of which the first is a zero, with or without a sign. -/
def hasLeadingZero (cs : List Char) : Bool :=
  match (Decimal.splitSign cs).2 with
  | '0' :: d :: rest => (d :: rest).all Decimal.isDigit
  | _ => false

/-- The number that digits of a base write, at least one. -/
def numeral? (base : Nat) (cs : List Char) : Option Nat :=
  if cs.isEmpty then none
  else cs.foldlM (fun n c => do
    let d ← Text.hexValue? c
    if d < base then some (base * n + d) else none) 0

/-- A numeral in base ten, or in another base that is marked in front. -/
def magnitude? : List Char → Option Nat
  | '0' :: 'x' :: ds => numeral? 16 ds
  | '0' :: 'o' :: ds => numeral? 8 ds
  | '0' :: 'b' :: ds => numeral? 2 ds
  | ds => numeral? 10 ds

/-- Reads a whole number without a minus sign. -/
def unsigned? (s : String) : Option Nat :=
  match s.toList with
  | '-' :: _ => none
  | '+' :: cs => if hasLeadingZero cs then none else magnitude? cs
  | cs => if hasLeadingZero cs then none else magnitude? cs

/-- Reads a whole number of at most 128 bits. -/
def integer? (s : String) : Option Int :=
  match unsigned? s with
  | some n => if n < Nat.pow 2 128 then some n else none
  | none => match s.toList with
    | '-' :: cs =>
      if hasLeadingZero cs then none
      else match magnitude? cs with
        | some n => if n ≤ Nat.pow 2 127 then some (-(n : Int)) else none
        | none => none
    | _ => none

/-- Reads a decimal, an infinity or the word for no number. -/
def float? (s : String) : Option Float :=
  if s ∈ [".inf", ".Inf", ".INF", "+.inf", "+.Inf", "+.INF"] then some (1 / 0)
  else if s ∈ ["-.inf", "-.Inf", "-.INF"] then some (-1 / 0)
  else if s ∈ [".nan", ".NaN", ".NAN"] then some (0 / 0)
  else (Decimal.float? s.toList).filter Float.isFinite

/-- The meaning of a plain scalar without a tag. -/
def plainMeaning (s : String) : Meaning :=
  if s.isEmpty || isNullWord s then .null
  else match bool? s with
    | some b => .bool b
    | none => match integer? s with
      | some i => .integer i
      | none =>
        if hasLeadingZero s.toList then .text s
        else match float? s with
          | some x => .float x
          | none => .text s

/-- The meaning of a scalar. There is none if its tag asks for a meaning that the text does not
have, or names a type of the application. Where a local tag has no name, the text of a plain
scalar means what it would without the tag. -/
def meaning? (tag : Option Tag) (text : String) (style : ScalarStyle) : Option Meaning :=
  let untagged := if style = .plain then plainMeaning text else .text text
  match tag with
  | none => some untagged
  | some tag =>
    if tag.localName?.isSome then none
    else if tag.isLocal then some untagged
    else if tag = .bool then (bool? text).map .bool
    else if tag = .integer then (integer? text).map .integer
    else if tag = .float then (float? text).map .float
    else if tag = .null then if isNullWord text then some .null else none
    else some (.text text)

end DocumentTemplates.Yaml
