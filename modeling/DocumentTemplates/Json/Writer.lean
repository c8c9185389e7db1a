import DocumentTemplates.Decimal.Layout
import DocumentTemplates.Value

/-!
# Writing values as JSON

Compact text, without any space, and indented text. Keys stand in document order. Strings escape
the quote, the backslash and the control characters below U+0020, and nothing else.
-/

namespace DocumentTemplates.Json

/-- Doubles in JSON: an exponent below 1e-5 and from 1e16 on, always signed; whole numbers keep a
zero after the point; what is no finite number is null. -/
def floatLayout : Decimal.Layout where
  positional := some (-5, 16)
  keepsPoint := true
  signsExponent := true
  tie := .toEven
  notANumber := "null"
  infinity := "null"
  negativeInfinity := "null"

def hexDigit (n : Nat) : Char :=
  if n < 10 then Char.ofNat (n + '0'.toNat) else Char.ofNat (n - 10 + 'a'.toNat)

def escapeChar (c : Char) : List Char :=
  if c = '"' then ['\\', '"']
  else if c = '\\' then ['\\', '\\']
  else if c = '\n' then ['\\', 'n']
  else if c = '\r' then ['\\', 'r']
  else if c = '\t' then ['\\', 't']
  else if c.toNat = 0x8 then ['\\', 'b']
  else if c.toNat = 0xc then ['\\', 'f']
  else if c.toNat < 0x20 then
    ['\\', 'u', '0', '0', hexDigit (c.toNat / 16), hexDigit (c.toNat % 16)]
  else [c]

def quote (s : String) : List Char :=
  '"' :: (s.toList.flatMap escapeChar ++ ['"'])

/-- The text of a value that is neither an array nor a document. -/
def scalarText : Value → List Char
  | .bool true => ['t', 'r', 'u', 'e']
  | .bool false => ['f', 'a', 'l', 's', 'e']
  | .integer i => Decimal.intDigits i.toInt
  | .float x => (floatLayout.text x).toList
  | .string s => quote s
  | _ => ['n', 'u', 'l', 'l']

mutual

def compactText : Value → List Char
  | .array items => '[' :: compactItems items
  | .document entries => '{' :: compactEntries entries
  | v => scalarText v

/-- The items of an array and the bracket that ends it. -/
def compactItems : List Value → List Char
  | [] => [']']
  | [v] => compactText v ++ [']']
  | v :: rest => compactText v ++ ',' :: compactItems rest

/-- The entries of a document and the brace that ends it. -/
def compactEntries : List (String × Value) → List Char
  | [] => ['}']
  | [(key, v)] => quote key ++ ':' :: (compactText v ++ ['}'])
  | (key, v) :: rest => quote key ++ ':' :: (compactText v ++ ',' :: compactEntries rest)

end

/-- A line break and two spaces for each level. -/
def lineBreak (level : Nat) : List Char :=
  '\n' :: List.replicate (2 * level) ' '

mutual

/-- The indented text of a value that stands at a level. Empty arrays and documents stay on one
line. -/
def indentedText (level : Nat) : Value → List Char
  | .array [] => ['[', ']']
  | .array items => '[' :: indentedItems level items
  | .document [] => ['{', '}']
  | .document entries => '{' :: indentedEntries level entries
  | v => scalarText v

/-- The items of an array at a level, each on its own line, and the bracket that ends it. -/
def indentedItems (level : Nat) : List Value → List Char
  | [] => lineBreak level ++ [']']
  | [v] => lineBreak (level + 1) ++ indentedText (level + 1) v ++ lineBreak level ++ [']']
  | v :: rest =>
    lineBreak (level + 1) ++ indentedText (level + 1) v ++ ',' :: indentedItems level rest

/-- The entries of a document at a level, each on its own line, and the brace that ends it. -/
def indentedEntries (level : Nat) : List (String × Value) → List Char
  | [] => lineBreak level ++ ['}']
  | [(key, v)] =>
    lineBreak (level + 1) ++ quote key ++ ':' :: ' ' :: indentedText (level + 1) v
      ++ lineBreak level ++ ['}']
  | (key, v) :: rest =>
    lineBreak (level + 1) ++ quote key ++ ':' :: ' ' :: indentedText (level + 1) v
      ++ ',' :: indentedEntries level rest

end

def compact (v : Value) : String :=
  String.ofList (compactText v)

def indented (v : Value) : String :=
  String.ofList (indentedText 0 v)

end DocumentTemplates.Json
