import DocumentTemplates.Decimal.Digits
import DocumentTemplates.Filter
import DocumentTemplates.Text.Blank
import DocumentTemplates.Text.SnakeCase

/-!
# Reading filter queries

    filter := field (',' field)*
    field  := name call* ('{' filter '}')?
    call   := '.' function '(' args ')'

Reading never fails. A fragment that does not follow the grammar adds no field, and a call that
is not understood is dropped while its field is kept. Blanks may stand around fields, braces,
commas and arguments, but not inside a field's name and calls.

The loops take a bound on their rounds. One round for each character is enough at every depth of
nesting, since each round reads at least one, so the bound is never what ends them.

How a field's name becomes the parent name of its nested filter is a parameter of reading;
`parse` underscores it.
-/

namespace DocumentTemplates.Filter

/-- The characters of names: letters, numerals, underscores and hyphens. -/
def isNameChar (c : Char) : Bool :=
  Text.isAlphanumeric c || c = '_' || c = '-'

/-- Skips to the next comma or closing brace that is not inside a group, of which `depth` are
open. -/
def skipFragment : Nat → List Char → List Char
  | _, [] => []
  | 0, c :: rest =>
    if c = ',' || c = '}' then c :: rest
    else if c = '{' || c = '(' then skipFragment 1 rest
    else skipFragment 0 rest
  | depth + 1, c :: rest =>
    if c = '{' || c = '(' then skipFragment (depth + 2) rest
    else if c = '}' || c = ')' then skipFragment depth rest
    else skipFragment (depth + 1) rest

def splitCommas : List Char → List (List Char)
  | [] => [[]]
  | c :: rest =>
    if c = ',' then [] :: splitCommas rest
    else match splitCommas rest with
      | part :: parts => (c :: part) :: parts
      | [] => [[c]]

/-- The arguments written between parentheses: the trimmed parts between commas, without the
empty ones. -/
def splitArgs (inner : List Char) : List String :=
  ((splitCommas inner).map Text.trim).filter (!·.isEmpty) |>.map String.ofList

/-- Reads up to a closing parenthesis. A brace or another opening parenthesis in between, or the
end of the text, is a failure behind that character. -/
def readUntilParen : List Char → Option (List Char) × List Char
  | [] => (none, [])
  | c :: rest =>
    if c = ')' then (some [], rest)
    else if c = '(' || c = '{' || c = '}' then (none, rest)
    else
      let (inner, rest) := readUntilParen rest
      (inner.map (c :: ·), rest)

def readArgs : List Char → Option (List String) × List Char
  | '(' :: rest =>
    let (inner, rest) := readUntilParen rest
    (inner.map splitArgs, rest)
  | cs => (none, cs)

/-- The arguments a function takes: one count for `limit`; for `sort` at most a key and a
direction. -/
def acceptsArgs : FilterFunction → List String → Bool
  | .limit, args => match args with
    | [n] => (Decimal.count? n).isSome
    | _ => false
  | .sort, args => match args with
    | [] => true
    | [_] => true
    | [_, direction] => direction = "asc" || direction = "desc"
    | _ => false

/-- The call with the given name and arguments, if it is one of the language. -/
def call? (name : String) (args : List String) : Option FunctionCall :=
  match FilterFunction.ofName? name with
  | some function => if acceptsArgs function args then some ⟨function, args⟩ else none
  | none => none

/-- Reads the calls behind a field's name, in at most `rounds` rounds. Failure comes with the
place where reading stopped. -/
def readCalls : Nat → List Char → Option (List FunctionCall) × List Char
  | 0, cs => (some [], cs)
  | rounds + 1, cs => match cs with
    | '.' :: rest =>
      match rest.takeWhile isNameChar, rest.dropWhile isNameChar with
      | [], rest => (none, rest)
      | name, rest => match readArgs rest with
        | (none, rest) => (none, rest)
        | (some args, rest) =>
          let (calls, rest) := readCalls rounds rest
          (calls.map ((call? (String.ofList name) args).toList ++ ·), rest)
    | cs => (some [], cs)

/-- Reads the nested group that may stand behind a field's name and calls. Its fields are read by
`group`; a group that is not closed matches nothing. -/
def readGroup (parentName : String → String) (group : List Char → List FilterField × List Char)
    (name : String) (calls : List FunctionCall) (cs : List Char) :
    Option FilterField × List Char :=
  match Text.trimStart cs with
  | '{' :: rest => match group rest with
    | (fields, '}' :: rest) =>
      (some (.mk name calls (some (.mk (some (parentName name)) fields))), rest)
    | (_, rest) => (none, rest)
  | rest => (some (.mk name calls none), rest)

/-- Reads a field: its name, its calls and its nested group. -/
def readField (parentName : String → String) (group : List Char → List FilterField × List Char)
    (cs : List Char) : Option FilterField × List Char :=
  match cs.takeWhile isNameChar, cs.dropWhile isNameChar with
  | [], rest => (none, rest)
  | name, rest => match readCalls rest.length rest with
    | (none, rest) => (none, rest)
    | (some calls, rest) => readGroup parentName group (String.ofList name) calls rest

/-- Where reading goes on behind a field: text up to the next comma or closing brace belongs to no
field. -/
def skipTrailing (cs : List Char) : List Char :=
  match Text.trimStart cs with
  | [] => []
  | '}' :: rest => '}' :: rest
  | ',' :: rest => ',' :: rest
  | rest => skipFragment 0 rest

/-- Reads fields up to the end of the text or a closing brace, in at most `rounds` rounds at each
depth. -/
def readFields (parentName : String → String) : Nat → List Char → List FilterField × List Char
  | 0, cs => ([], cs)
  | rounds + 1, cs =>
    match Text.trimStart cs with
    | [] => ([], [])
    | '}' :: rest => ([], '}' :: rest)
    | ',' :: rest => readFields parentName rounds rest
    | cs =>
      let (field, rest) := readField parentName (readFields parentName rounds) cs
      let rest := if field.isSome then rest else skipFragment 0 rest
      let (more, rest) := readFields parentName rounds (skipTrailing rest)
      (field.toList ++ more, rest)

/-- Reads the fields of a whole text, in at most `rounds` rounds. A closing brace that closes
nothing ends only its own fragment. -/
def readQuery (parentName : String → String) : Nat → List Char → List FilterField
  | 0, _ => []
  | rounds + 1, cs =>
    match readFields parentName cs.length cs with
    | (fields, '}' :: rest) => fields ++ readQuery parentName rounds rest
    | (fields, _) => fields

/-- The filter of a query, where a filter nested under a field is told the field's name as
`parentName` gives it. -/
def parseWith (parentName : String → String) (query : String) : Filter :=
  .mk none (readQuery parentName (query.length + 1) query.toList)

def parse (query : String) : Filter :=
  parseWith Text.snakeCase query

end DocumentTemplates.Filter
