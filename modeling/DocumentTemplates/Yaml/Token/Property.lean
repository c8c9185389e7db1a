import DocumentTemplates.Decimal.Digits
import DocumentTemplates.Text.Hexadecimal
import DocumentTemplates.Yaml.Cursor
import DocumentTemplates.Yaml.Tag
import DocumentTemplates.Yaml.Token

/-!
# Anchors, tags and directives

The tokens that begin with an ampersand, an asterisk, an exclamation mark or a percent sign. Each
reader starts at that character and gives the token with the place behind it, or nothing if the
token is malformed.
-/

namespace DocumentTemplates.Yaml

/-! ## Anchors and aliases -/

/-- The name of an anchor or alias: word characters, behind which a blank, the end or one of a few
signs must follow. -/
def readName (c : Cursor) : Option (String × Cursor) :=
  let (name, c) := (c.advance 1).span isWordChar
  let ended := c.atWordEnd ||
    c.peek?.any (fun x => x ∈ ['?', ':', ',', ']', '}', '%', '@', Char.ofNat 0x60])
  if !name.isEmpty && ended then some (String.ofList name, c) else none

/-! ## Tags -/

/-- The number of bytes of the UTF-8 sequence that a byte begins. -/
def sequenceLength? (byte : UInt8) : Option Nat :=
  if byte < 0x80 then some 1
  else if 0xc0 ≤ byte && byte < 0xe0 then some 2
  else if 0xe0 ≤ byte && byte < 0xf0 then some 3
  else if 0xf0 ≤ byte && byte < 0xf8 then some 4
  else none

/-- The byte that a percent sign and two hexadecimal digits write. -/
def percentByte? : List Char → Option (UInt8 × List Char)
  | '%' :: a :: b :: rest => do
    return (UInt8.ofNat (16 * (← Text.hexValue? a) + (← Text.hexValue? b)), rest)
  | _ => none

/-- Reads `count` escaped bytes that continue a UTF-8 sequence. -/
def percentTail? : Nat → List Char → Option (List UInt8 × List Char)
  | 0, cs => some ([], cs)
  | count + 1, cs => do
    let (byte, rest) ← percentByte? cs
    if 0x80 ≤ byte && byte < 0xc0 then
      let (bytes, rest) ← percentTail? count rest
      return (byte :: bytes, rest)
    else none

/-- Reads the escaped bytes of one UTF-8 sequence. Only its length and its form are checked: it need
not encode a character. -/
def percentSequence? (cs : List Char) : Option (List UInt8) := do
  let (first, rest) ← percentByte? cs
  let length ← sequenceLength? first
  let (tail, _) ← percentTail? (length - 1) rest
  return first :: tail

/-- The characters of addresses in tags. Commas and brackets count only in verbatim tags. -/
def isAddressChar (verbatim : Bool) (c : Char) : Bool :=
  isWordChar c ||
    c ∈ [';', '/', '?', ':', '@', '&', '=', '+', '$', '.', '!', '~', '*', '\'', '(', ')'] ||
    (verbatim && (c = ',' || c = '[' || c = ']'))

/-- Reads the bytes of an address as far as it goes, behind those read so far. -/
def readAddress (verbatim : Bool) : Nat → List UInt8 → Cursor → Option (List UInt8 × Cursor)
  | 0, bytes, c => some (bytes, c)
  | rounds + 1, bytes, c =>
    match c.peek? with
    | some x =>
      if x = '%' then do
        let escaped ← percentSequence? c.rest
        readAddress verbatim rounds (bytes ++ escaped) (c.advance (3 * escaped.length))
      else if isAddressChar verbatim x then
        readAddress verbatim rounds (bytes ++ [x.toUInt8]) (c.advance 1)
      else some (bytes, c)
    | none => some (bytes, c)

/-- Reads a handle: an exclamation mark, word characters and perhaps another exclamation mark. -/
def readHandle (c : Cursor) : List Char × Cursor :=
  let (word, c) := (c.advance 1).span isWordChar
  if c.peek? = some '!' then ('!' :: word ++ ['!'], c.advance 1) else ('!' :: word, c)

/-- True of handles that stand for an address: two exclamation marks, perhaps with a word in
between. -/
def isNamedHandle (handle : List Char) : Bool :=
  2 ≤ handle.length && handle.getLast? = some '!'

/-- Reads a tag: verbatim between angle brackets, with a named handle, or with the handle of a
single exclamation mark. A lone exclamation mark has no handle. Where an address is asked for it
may not be left out, but a zero byte may come first in it. -/
def readTag (inFlow : Bool) (c : Cursor) : Option (Token × Cursor) := do
  let (token, c) ←
    if c.ahead? 1 = some '<' then do
      let (address, c) ← readAddress true (c.rest.length + 1) [] (c.advance 2)
      if !address.isEmpty && c.peek? = some '>' then
        some (Token.tag "" (beforeZero address), c.advance 1)
      else none
    else
      let (handle, c) := readHandle c
      if isNamedHandle handle then do
        let (address, c) ← readAddress false (c.rest.length + 1) [] c
        if address.isEmpty then none
        else some (Token.tag (String.ofList handle) (beforeZero address), c)
      else do
        let word := (handle.drop 1).map Char.toUInt8
        let (address, c) ← readAddress false (c.rest.length + 1) word c
        let address := beforeZero address
        if address.isEmpty then some (Token.tag "" ['!'.toUInt8], c)
        else some (Token.tag "!" address, c)
  if c.atWordEnd || (inFlow && c.peek? = some ',') then some (token, c) else none

/-! ## Directives -/

/-- Reads a version number of at most nine digits. -/
def readVersionNumber (c : Cursor) : Option (Nat × Cursor) :=
  let (ds, c) := c.span Decimal.isDigit
  if ds.isEmpty || 9 < ds.length then none
  else some (Decimal.value ds, c)

/-- Reads the two numbers of a version directive. -/
def readVersion (c : Cursor) : Option (Token × Cursor) := do
  let (major, c) ← readVersionNumber c.skipSpaces
  if c.peek? = some '.' then
    let (minor, c) ← readVersionNumber (c.advance 1)
    return (.versionDirective major minor, c)
  else none

/-- Reads the handle and the address of a tag directive. -/
def readTagDirective (c : Cursor) : Option (Token × Cursor) := do
  let c := c.skipSpaces
  if c.peek? = some '!' then
    let (handle, c) := readHandle c
    if (handle = ['!'] || isNamedHandle handle) && c.atSpace then
      let c := c.skipSpaces
      let (address, c) ← readAddress true (c.rest.length + 1) [] c
      if !address.isEmpty && c.atWordEnd then
        return (.tagDirective (String.ofList handle) (beforeZero address), c)
      else none
    else none
  else none

/-- Reads a directive with the rest of its line, on which only a comment may follow. -/
def readDirective (c : Cursor) : Option (Token × Cursor) := do
  let (name, c) := (c.advance 1).span isWordChar
  let (token, c) ←
    if !c.atWordEnd then none
    else if name = ['Y', 'A', 'M', 'L'] then readVersion c
    else if name = ['T', 'A', 'G'] then readTagDirective c
    else none
  let c := c.skipSpaces
  let c := if c.peek? = some '#' then c.toLineEnd else c
  if c.rest.isEmpty || c.atBreak then some (token, c.newline) else none

end DocumentTemplates.Yaml
