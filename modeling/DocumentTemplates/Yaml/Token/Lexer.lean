import DocumentTemplates.Yaml.Token.Property
import DocumentTemplates.Yaml.Token.Scalar

/-!
# From text to tokens

A key of a mapping may be written without a mark in front of it, so that it is known to be a key
only when the colon behind it is met. The lexer therefore remembers, for the open collections,
the place of the last token that may turn out to be such a key, and puts the key's token in front
of it then. A key of this kind stays on one line and within 1024 bytes.
-/

namespace DocumentTemplates.Yaml

/-- A token that may turn out to be the start of a key. It must do so if it stands where the
block collection around it allows nothing else. -/
structure PendingKey where
  required : Bool
  token : Nat
  index : Nat
  line : Nat
  column : Nat

/-- What has been read and what is open. -/
structure Lexer where
  cursor : Cursor
  tokens : Array Token := #[]
  /-- The number of open brackets and braces. -/
  flowDepth : Nat := 0
  /-- The column of the innermost block collection. -/
  indent : Int := -1
  /-- The columns of the block collections around it. -/
  indents : List Int := []
  /-- True where a key may begin. -/
  keyAllowed : Bool := true
  /-- The possible keys: that of the innermost flow collection first, that of the block around
  them last. -/
  pending : List (Option PendingKey) := [none]

namespace Lexer

def inFlow (l : Lexer) : Bool :=
  l.flowDepth ≠ 0

def emit (l : Lexer) (t : Token) : Lexer :=
  { l with tokens := l.tokens.push t }

def moveTo (l : Lexer) (c : Cursor) : Lexer :=
  { l with cursor := c }

/-- Goes on behind a token of `n` characters. -/
def emitMark (l : Lexer) (t : Token) (n : Nat) : Lexer :=
  (l.emit t).moveTo (l.cursor.advance n)

def allowKey (l : Lexer) (allowed : Bool) : Lexer :=
  { l with keyAllowed := allowed }

/-! ## Indentation -/

/-- Opens a block collection if the column lies behind the innermost one. Its token goes to the
place `at?`, or to the end. -/
def openBlock (l : Lexer) (column : Nat) (at? : Option Nat) (t : Token) : Lexer :=
  if !l.inFlow && l.indent < column then
    let tokens := match at? with
      | some i => l.tokens.insertIdxIfInBounds i t
      | none => l.tokens.push t
    { l with tokens := tokens, indent := column, indents := l.indent :: l.indents }
  else l

/-- Closes block collections, up to `count` of them, that stand behind the column. -/
def closeBlocks (column : Int) : Nat → Lexer → Lexer
  | 0, l => l
  | count + 1, l =>
    if column < l.indent then
      let (indent, indents) := match l.indents with
        | outer :: rest => (outer, rest)
        | [] => (-1, [])
      closeBlocks column count { l.emit .blockEnd with indent := indent, indents := indents }
    else l

/-- Closes the block collections that stand behind the column. -/
def unwind (l : Lexer) (column : Int) : Lexer :=
  if l.inFlow then l else closeBlocks column (l.indents.length + 1) l

/-! ## Possible keys -/

/-- Gives up the possible keys that have become too long, unless one of them must be a key. -/
def dropStaleKeys (l : Lexer) : Option Lexer := do
  let pending ← l.pending.mapM fun key? =>
    match key? with
    | some key =>
      if key.line < l.cursor.line || key.index + 1024 < l.cursor.index then
        if key.required then none else some none
      else some key?
    | none => some none
  return { l with pending := pending }

/-- Gives up the innermost possible key, unless it must be a key. -/
def dropKey (l : Lexer) : Option Lexer :=
  match l.pending with
  | some key :: rest => if key.required then none else some { l with pending := none :: rest }
  | _ => some l

/-- Notes the next token as a possible key, where a key may begin. -/
def noteKey (l : Lexer) : Option Lexer :=
  if l.keyAllowed then do
    let l ← l.dropKey
    let key : PendingKey :=
      { required := !l.inFlow && l.indent = l.cursor.column
        token := l.tokens.size
        index := l.cursor.index
        line := l.cursor.line
        column := l.cursor.column }
    return { l with pending := some key :: l.pending.drop 1 }
  else some l

/-! ## Tokens -/

/-- Skips blanks, comments and line breaks, in at most `rounds` lines. Outside brackets and braces
a key may begin on a new line, and a tab may not stand in front of it. A mark of byte order at the
start of a line is skipped too, but takes a column. -/
def skipToToken : Nat → Lexer → Lexer
  | 0, l => l
  | rounds + 1, l =>
    let c := l.cursor
    let c := if c.column = 0 && c.peek? = some (Char.ofNat 0xfeff) then c.advance 1 else c
    let tabs := l.inFlow || !l.keyAllowed
    let c := (c.span fun x => x = ' ' || (tabs && x = '\t')).2
    let c := if c.peek? = some '#' then c.toLineEnd else c
    if c.atBreak then
      skipToToken rounds { l with cursor := c.newline, keyAllowed := l.keyAllowed || !l.inFlow }
    else l.moveTo c

/-- A mark that opens a flow collection. -/
def openFlow (l : Lexer) (t : Token) : Option Lexer := do
  let l ← l.noteKey
  return { (l.emitMark t 1).allowKey true with
    flowDepth := l.flowDepth + 1, pending := none :: l.pending }

/-- A mark that closes a flow collection. -/
def closeFlow (l : Lexer) (t : Token) : Option Lexer := do
  let l ← l.dropKey
  let pending := if l.inFlow then l.pending.drop 1 else l.pending
  return { (l.emitMark t 1).allowKey false with
    flowDepth := l.flowDepth - 1, pending := pending }

/-- The mark of an entry or key that begins a block collection where none is open at its
column. -/
def blockMark (l : Lexer) (start t : Token) (allowed : Bool) : Option Lexer := do
  if !l.inFlow && !l.keyAllowed then none
  else
    let l ← (l.openBlock l.cursor.column none start).dropKey
    return (l.emitMark t 1).allowKey allowed

/-- The colon behind a key. -/
def valueMark (l : Lexer) : Option Lexer :=
  match l.pending with
  | some key :: rest =>
    let l := { l with tokens := l.tokens.insertIdxIfInBounds key.token .key, pending := none :: rest }
    let l := l.openBlock key.column (some key.token) .blockMappingStart
    some ((l.emitMark .value 1).allowKey false)
  | _ =>
    if !l.inFlow && !l.keyAllowed then none
    else
      let l := l.openBlock l.cursor.column none .blockMappingStart
      some ((l.emitMark .value 1).allowKey !l.inFlow)

def documentMark (l : Lexer) (t : Token) : Option Lexer := do
  let l ← (l.unwind (-1)).dropKey
  return (l.emitMark t 3).allowKey false

def directive (l : Lexer) : Option Lexer := do
  let l ← (l.unwind (-1)).dropKey
  let (t, c) ← readDirective l.cursor
  return ((l.emit t).moveTo c).allowKey false

def name (l : Lexer) (make : String → Token) : Option Lexer := do
  let l ← l.noteKey
  let (name, c) ← readName l.cursor
  return ((l.emit (make name)).moveTo c).allowKey false

def tag (l : Lexer) : Option Lexer := do
  let l ← l.noteKey
  let (t, c) ← readTag l.inFlow l.cursor
  return ((l.emit t).moveTo c).allowKey false

def quotedScalar (l : Lexer) (quote : Char) : Option Lexer := do
  let l ← l.noteKey
  let c := l.cursor.advance 1
  let (text, c) ← readQuoted quote (c.rest.length + 1) [] c
  return ((l.emit (.scalar (String.ofList text) .quoted)).moveTo c).allowKey false

def blockScalar (l : Lexer) (folded : Bool) : Option Lexer := do
  let l ← l.dropKey
  let (text, c) ← readBlock folded l.indent (l.cursor.advance 1)
  let style := if folded then ScalarStyle.quoted else .literal
  return ((l.emit (.scalar (String.ofList text) style)).moveTo c).allowKey true

/-- A plain scalar. A key may begin behind it if it ends at a line break. -/
def plainScalar (l : Lexer) : Option Lexer := do
  let l ← l.noteKey
  let (p, c) ←
    readPlain l.inFlow (l.indent + 1) (l.cursor.rest.length + 1) ⟨[], {}⟩ l.cursor
  return ((l.emit (.scalar (String.ofList p.text) .plain)).moveTo c).allowKey p.gap.broken

/-- True if a plain scalar can begin with the character, where `next` follows it. -/
def beginsPlain (inFlow : Bool) (x : Char) (next : Option Char) : Bool :=
  !(isSpace x || isBreak x || x ∈ ['-', '?', ':', ',', '[', ']', '{', '}', '#', '&', '*', '!',
      '|', '>', '\'', '"', '%', '@', Char.ofNat 0x60]) ||
    (x = '-' && !next.any isSpace) ||
    (!inFlow && (x = '?' || x = ':') && !endsWord next)

/-- Reads the token that begins with the character `x`. -/
def readToken (l : Lexer) (x : Char) : Option Lexer :=
  let next := l.cursor.ahead? 1
  if l.cursor.column = 0 && x = '%' then l.directive
  else if l.cursor.atDocumentMark then
    l.documentMark (if x = '-' then .documentStart else .documentEnd)
  else if x = '[' then l.openFlow .flowSequenceStart
  else if x = '{' then l.openFlow .flowMappingStart
  else if x = ']' then l.closeFlow .flowSequenceEnd
  else if x = '}' then l.closeFlow .flowMappingEnd
  else if x = ',' then do
    let l ← l.dropKey
    return (l.emitMark .flowEntry 1).allowKey true
  else if x = '-' && endsWord next then l.blockMark .blockSequenceStart .blockEntry true
  else if x = '?' && (l.inFlow || endsWord next) then
    l.blockMark .blockMappingStart .key !l.inFlow
  else if x = ':' && (l.inFlow || endsWord next) then l.valueMark
  else if x = '*' then l.name .aliasOf
  else if x = '&' then l.name .anchor
  else if x = '!' then l.tag
  else if x = '|' && !l.inFlow then l.blockScalar false
  else if x = '>' && !l.inFlow then l.blockScalar true
  else if x = '\'' || x = '"' then l.quotedScalar x
  else if beginsPlain l.inFlow x next then l.plainScalar
  else none

/-- Reads tokens to the end of the text, in at most `rounds` rounds. -/
def run : Nat → Lexer → Option Lexer
  | 0, _ => none
  | rounds + 1, l => do
    let l ← (l.skipToToken (l.cursor.rest.length + 1)).dropStaleKeys
    let l := l.unwind l.cursor.column
    match l.cursor.peek? with
    | some x => (← l.readToken x).run rounds
    | none => (l.unwind (-1)).dropKey

end Lexer

/-- The characters that a YAML text may hold. -/
def isAllowed (c : Char) : Bool :=
  let n := c.toNat
  n = 0x9 || n = 0xa || n = 0xd || (0x20 ≤ n && n ≤ 0x7e) || n = 0x85 || (0xa0 ≤ n && n ≤ 0xfffd) ||
    0x10000 ≤ n

def Token.ofText? (text : String) : Option (List Token) := do
  let cs := text.toList
  if cs.all isAllowed then
    let l ← Lexer.run (cs.length + 1) { cursor := { rest := cs } }
    return l.tokens.toList
  else none

end DocumentTemplates.Yaml
