/-!
# A place in a text

What is left of a text, with the place reached. What has been read is counted in bytes of UTF-8,
but columns are counted in characters. Lines end at a carriage return, a line feed, both together,
or one of the breaks U+0085, U+2028 and U+2029.
-/

namespace DocumentTemplates.Yaml

def isBreak (c : Char) : Bool :=
  c = '\n' || c = '\r' || c.toNat = 0x85 || c.toNat = 0x2028 || c.toNat = 0x2029

def isSpace (c : Char) : Bool :=
  c = ' ' || c = '\t'

/-- True of the end of the text, spaces, tabs and line breaks. -/
def endsWord : Option Char → Bool
  | none => true
  | some c => isSpace c || isBreak c

/-- True of ASCII letters and digits, the underscore and the hyphen. -/
def isWordChar (c : Char) : Bool :=
  c.isAlphanum || c = '_' || c = '-'

/-- What is left of a text and the place reached in it. -/
structure Cursor where
  rest : List Char
  /-- The number of bytes read. -/
  index : Nat := 0
  line : Nat := 0
  column : Nat := 0

namespace Cursor

def peek? (c : Cursor) : Option Char :=
  c.rest.head?

/-- The character `n` places ahead. -/
def ahead? (c : Cursor) (n : Nat) : Option Char :=
  c.rest[n]?

/-- The number of bytes read behind characters that begin at `index`. -/
def indexBehind (index : Nat) (cs : List Char) : Nat :=
  cs.foldl (fun index x => index + x.utf8Size) index

def advance (c : Cursor) (n : Nat) : Cursor :=
  { c with
    rest := c.rest.drop n
    index := indexBehind c.index (c.rest.take n)
    column := c.column + n }

def newline (c : Cursor) : Cursor :=
  match c.rest with
  | '\r' :: '\n' :: rest => ⟨rest, c.index + 2, c.line + 1, 0⟩
  | b :: rest => if isBreak b then ⟨rest, c.index + b.utf8Size, c.line + 1, 0⟩ else c
  | [] => c

/-- The break at the cursor as it counts in a scalar: the Unicode separators stand for
themselves, all others for a line feed. Empty if there is no break. -/
def breakText (c : Cursor) : List Char :=
  match c.peek? with
  | some b =>
    if b.toNat = 0x2028 || b.toNat = 0x2029 then [b] else if isBreak b then ['\n'] else []
  | none => []

def atBreak (c : Cursor) : Bool :=
  c.peek?.any isBreak

def atSpace (c : Cursor) : Bool :=
  c.peek?.any isSpace

/-- True before a space, a tab, a line break or the end. -/
def atWordEnd (c : Cursor) : Bool :=
  endsWord c.peek?

/-- True at the start of a line before three hyphens or three points that stand alone. -/
def atDocumentMark (c : Cursor) : Bool :=
  c.column = 0 && endsWord (c.ahead? 3) &&
    (c.rest.take 3 = ['-', '-', '-'] || c.rest.take 3 = ['.', '.', '.'])

/-- The next characters that satisfy a test, and the place behind them. The test must fail for
line breaks. -/
def span (c : Cursor) (test : Char → Bool) : List Char × Cursor :=
  let run := c.rest.takeWhile test
  (run, c.advance run.length)

/-- Moves behind spaces and tabs. -/
def skipSpaces (c : Cursor) : Cursor :=
  (c.span isSpace).2

def toLineEnd (c : Cursor) : Cursor :=
  (c.span fun x => !isBreak x).2

end Cursor

end DocumentTemplates.Yaml
