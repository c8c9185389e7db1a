import DocumentTemplates.Decimal.Digits
import DocumentTemplates.Text.Hexadecimal
import DocumentTemplates.Yaml.Cursor

/-!
# The text of scalars

Plain, quoted and block scalars from their first character on. Each reader gives the text with
its lines folded and the place behind it, or nothing if the scalar is malformed. Bounds on rounds
count characters, and each round reads at least one.
-/

namespace DocumentTemplates.Yaml

/-! ## Gaps -/

/-- The spaces and line breaks between two words of a scalar. -/
structure Gap where
  spaces : List Char := []
  firstBreak : List Char := []
  moreBreaks : List Char := []
  broken : Bool := false

namespace Gap

/-- What a gap counts as: its spaces if it is on one line, a space for a single line break, and
the further breaks for several. -/
def text (g : Gap) : List Char :=
  if g.broken then
    match g.firstBreak with
    | '\n' :: _ => if g.moreBreaks.isEmpty then [' '] else g.moreBreaks
    | _ => g.firstBreak ++ g.moreBreaks
  else g.spaces

/-- Reads spaces and line breaks. Where `indent` is given, a tab that stands before that column of
a later line is an error. -/
def read (indent : Option Int) : Nat → Gap → Cursor → Option (Gap × Cursor)
  | 0, g, c => some (g, c)
  | rounds + 1, g, c =>
    match c.peek? with
    | none => some (g, c)
    | some x =>
      if isSpace x then
        if g.broken && x = '\t' && indent.any (fun i => (c.column : Int) < i) then none
        else
          let g := if g.broken then g else { g with spaces := g.spaces ++ [x] }
          read indent rounds g (c.advance 1)
      else if isBreak x then
        let g :=
          if g.broken then { g with moreBreaks := g.moreBreaks ++ c.breakText }
          else { g with spaces := [], firstBreak := c.breakText, broken := true }
        read indent rounds g c.newline
      else some (g, c)

end Gap

/-! ## Plain scalars -/

/-- The characters that end a plain scalar inside brackets or braces. -/
def isFlowIndicator (c : Char) : Bool :=
  c = ',' || c = '[' || c = ']' || c = '{' || c = '}'

/-- The word of a plain scalar that begins here. Inside brackets or braces a colon before one of
their indicators is an error. -/
def plainWord (inFlow : Bool) : List Char → Option (List Char)
  | [] => some []
  | c :: rest =>
    if isSpace c || isBreak c then some []
    else if inFlow && c = ':' && rest.head?.any (fun n => isFlowIndicator n || n = '?') then none
    else if c = ':' && endsWord rest.head? then some []
    else if inFlow && isFlowIndicator c then some []
    else (plainWord inFlow rest).map (c :: ·)

/-- The text of a plain scalar, and whether it ends behind a line break. -/
structure PlainText where
  text : List Char
  gap : Gap

/-- Reads words and gaps. Outside brackets and braces the scalar ends before a line that is
indented by less than `indent`. -/
def readPlain (inFlow : Bool) (indent : Int) : Nat → PlainText → Cursor →
    Option (PlainText × Cursor)
  | 0, p, c => some (p, c)
  | rounds + 1, p, c =>
    if c.atDocumentMark || c.peek? = some '#' then some (p, c)
    else do
      let word ← plainWord inFlow c.rest
      let p := if word.isEmpty then p else ⟨p.text ++ p.gap.text ++ word, {}⟩
      let c := c.advance word.length
      if c.atSpace || c.atBreak then
        let (gap, c) ← Gap.read (some indent) (c.rest.length + 1) p.gap c
        let p := { p with gap := gap }
        if !inFlow && (c.column : Int) < indent then some (p, c)
        else readPlain inFlow indent rounds p c
      else some (p, c)

/-! ## Quoted scalars -/

/-- The character that a letter after a backslash stands for. -/
def escapedChar? (c : Char) : Option Char :=
  match c with
  | '0' => some (Char.ofNat 0x0)
  | 'a' => some (Char.ofNat 0x7)
  | 'b' => some (Char.ofNat 0x8)
  | 't' => some '\t'
  | '\t' => some '\t'
  | 'n' => some '\n'
  | 'v' => some (Char.ofNat 0xb)
  | 'f' => some (Char.ofNat 0xc)
  | 'r' => some '\r'
  | 'e' => some (Char.ofNat 0x1b)
  | ' ' => some ' '
  | '"' => some '"'
  | '/' => some '/'
  | '\\' => some '\\'
  | 'N' => some (Char.ofNat 0x85)
  | '_' => some (Char.ofNat 0xa0)
  | 'L' => some (Char.ofNat 0x2028)
  | 'P' => some (Char.ofNat 0x2029)
  | _ => none

/-- The number of hexadecimal digits that an escape takes. -/
def escapeLength? (c : Char) : Option Nat :=
  match c with
  | 'x' => some 2
  | 'u' => some 4
  | 'U' => some 8
  | _ => none

/-- The character with the code point that hexadecimal digits write; surrogates and numbers
beyond the last code point write none. -/
def charOfHex? (ds : List Char) : Option Char := do
  let n ← ds.foldlM (fun n d => (Text.hexValue? d).map (16 * n + ·)) 0
  if h : n.isValidChar then some (Char.ofNatAux n h) else none

/-- Reads characters of a quoted scalar up to its closing quote, a gap, or the end, in front of
which it stops. True comes with the result if it stopped behind a line break that a backslash
escapes. -/
def quotedRun (quote : Char) : Nat → List Char → Cursor → Option (List Char × Bool × Cursor)
  | 0, text, c => some (text, false, c)
  | rounds + 1, text, c =>
    match c.rest with
    | [] => some (text, false, c)
    | x :: rest =>
      if isSpace x || isBreak x then some (text, false, c)
      else if x = quote then
        if quote = '\'' && rest.head? = some '\'' then
          quotedRun quote rounds (text ++ ['\'']) (c.advance 2)
        else some (text, false, c)
      else if quote = '"' && x = '\\' then
        match rest with
        | [] => none
        | e :: digits =>
          if isBreak e then some (text, true, (c.advance 1).newline)
          else match escapeLength? e with
            | some n => do
              let x ← if n ≤ digits.length then charOfHex? (digits.take n) else none
              quotedRun quote rounds (text ++ [x]) (c.advance (n + 2))
            | none => do
              let x ← escapedChar? e
              quotedRun quote rounds (text ++ [x]) (c.advance 2)
      else quotedRun quote rounds (text ++ [x]) (c.advance 1)

/-- Reads a quoted scalar after its opening quote. -/
def readQuoted (quote : Char) : Nat → List Char → Cursor → Option (List Char × Cursor)
  | 0, _, _ => none
  | rounds + 1, text, c =>
    if c.atDocumentMark || c.rest.isEmpty then none
    else do
      let (text, escapedBreak, c) ← quotedRun quote (c.rest.length + 1) text c
      if c.peek? = some quote then some (text, c.advance 1)
      else
        let (gap, c) ← Gap.read none (c.rest.length + 1) { broken := escapedBreak } c
        readQuoted quote rounds (text ++ gap.text) c

/-! ## Block scalars -/

/-- What becomes of the line breaks at the end of a block scalar. -/
inductive Chomping where
  /-- The first is kept. -/
  | clip
  /-- None is kept. -/
  | strip
  /-- All are kept. -/
  | keep
  deriving DecidableEq

/-- The indicators behind the mark of a block scalar, in either order: an indentation from 1 to 9
and the treatment of the last breaks. -/
def blockHeader (c : Cursor) : Option (Option Nat × Chomping × Cursor) :=
  let chomping? (x : Char) : Option Chomping :=
    if x = '+' then some .keep else if x = '-' then some .strip else none
  let digit? (x : Char) : Option Nat :=
    if Decimal.isDigit x then some (Decimal.digitValue x) else none
  match c.peek?, c.ahead? 1 with
  | some x, y =>
    match chomping? x with
    | some chomping => match y.bind digit? with
      | some 0 => none
      | some n => some (some n, chomping, c.advance 2)
      | none => some (none, chomping, c.advance 1)
    | none => match digit? x with
      | some 0 => none
      | some n => match y.bind chomping? with
        | some chomping => some (some n, chomping, c.advance 2)
        | none => some (some n, .clip, c.advance 1)
      | none => some (none, .clip, c)
  | none, _ => some (none, .clip, c)

/-- Reads the indentation and the empty lines before a line of a block scalar. While `indent` is
unknown all spaces count as indentation, and the widest column reached comes with the result. -/
def blockBreaks (indent : Option Nat) : Nat → Nat → List Char → Cursor →
    Option (List Char × Nat × Cursor)
  | 0, widest, breaks, c => some (breaks, widest, c)
  | rounds + 1, widest, breaks, c =>
    let room := match indent with
      | some i => (c.rest.takeWhile (· = ' ')).length.min (i - c.column)
      | none => (c.rest.takeWhile (· = ' ')).length
    let c := c.advance room
    let widest := max widest c.column
    if c.peek? = some '\t' && indent.all (fun i => c.column < i) then none
    else if c.atBreak then blockBreaks indent rounds widest (breaks ++ c.breakText) c.newline
    else some (breaks, widest, c)

/-- A block scalar as far as it is read: its text, the break behind its last line, the empty
lines after that, and whether the last line began with a space. -/
structure BlockText where
  text : List Char := []
  lastBreak : List Char := []
  emptyLines : List Char := []
  spaced : Bool := false

/-- Reads the lines of a block scalar that stand at the column of its indentation. A folded scalar
joins two lines that begin with no space by a space, unless empty lines lie between. -/
def blockLines (folded : Bool) (indent : Nat) : Nat → BlockText → Cursor →
    Option (BlockText × Cursor)
  | 0, b, c => some (b, c)
  | rounds + 1, b, c =>
    if c.column = indent && !c.rest.isEmpty then do
      let spaced := c.atSpace
      let joined :=
        if folded && b.lastBreak.head? = some '\n' && !b.spaced && !spaced then
          if b.emptyLines.isEmpty then [' '] else b.emptyLines
        else b.lastBreak ++ b.emptyLines
      let (line, c) := c.span fun x => !isBreak x
      let lastBreak := c.breakText
      let (emptyLines, _, c) ← blockBreaks (some indent) (c.rest.length + 1) 0 [] c.newline
      blockLines folded indent rounds ⟨b.text ++ joined ++ line, lastBreak, emptyLines, spaced⟩ c
    else some (b, c)

/-- Reads a block scalar after its mark, in a block collection indented by `parent`. -/
def readBlock (folded : Bool) (parent : Int) (c : Cursor) : Option (List Char × Cursor) := do
  let (increment, chomping, c) ← blockHeader c
  let c := c.skipSpaces
  let c := if c.peek? = some '#' then c.toLineEnd else c
  if c.rest.isEmpty || c.atBreak then
    let c := c.newline
    let known := increment.map fun n => if 0 ≤ parent then parent.toNat + n else n
    let (emptyLines, widest, c) ← blockBreaks known (c.rest.length + 1) 0 [] c
    let indent := known.getD (max widest (max (parent + 1).toNat 1))
    let (b, c) ← blockLines folded indent (c.rest.length + 1) { emptyLines := emptyLines } c
    let ending := match chomping with
      | .strip => []
      | .clip => b.lastBreak
      | .keep => b.lastBreak ++ b.emptyLines
    some (b.text ++ ending, c)
  else none

end DocumentTemplates.Yaml
