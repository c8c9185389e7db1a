import DocumentTemplates.Decimal.Layout
import DocumentTemplates.Template
import DocumentTemplates.Text.Quoted

/-!
# Fingerprints

A fingerprint describes a directive as text, so that the digest of a template assembled in code
stands for its structure. Literal data is written out in full, nested templates by their digests,
and functions by their labels.
-/

namespace DocumentTemplates.Fingerprint

/-- Doubles in fingerprints: an exponent below 1e-4 and from 1e16 on, without a plus sign; whole
numbers keep a zero after the point. -/
def floatLayout : Decimal.Layout where
  positional := some (-4, 16)
  keepsPoint := true
  signsExponent := false
  tie := .up
  notANumber := "NaN"
  infinity := "inf"
  negativeInfinity := "-inf"

/-- Parts separated by a comma and a space. -/
def separated : List (List Char) → List Char
  | [] => []
  | [part] => part
  | part :: rest => part ++ ',' :: ' ' :: separated rest

def applied (constructor : String) (args : List (List Char)) : List Char :=
  constructor.toList ++ '(' :: (separated args ++ [')'])

def fields (name : String) (parts : List (String × List Char)) : List Char :=
  name.toList ++ ' ' :: '{' :: ' ' ::
    (separated (parts.map fun part => part.1.toList ++ ':' :: ' ' :: part.2) ++ [' ', '}'])

def bracketed (items : List (List Char)) : List Char :=
  '[' :: (separated items ++ [']'])

def braced (entries : List (List Char)) : List Char :=
  '{' :: (separated entries ++ ['}'])

def optional : Option (List Char) → List Char
  | none => ['N', 'o', 'n', 'e']
  | some part => applied "Some" [part]

def boolean (b : Bool) : List Char :=
  (if b then "true" else "false").toList

def optionalText (s : Option String) : List Char :=
  optional (s.map Text.quoted)

mutual

def ofValue : Value → List Char
  | .null => ['N', 'u', 'l', 'l']
  | .bool b => applied "Bool" [boolean b]
  | .integer i => applied "Integer" [Decimal.intDigits i.toInt]
  | .float x => applied "Float" [(floatLayout.text x).toList]
  | .string s => applied "String" [Text.quoted s]
  | .array items => applied "Array" [bracketed (ofValues items)]
  | .document entries =>
    applied "Document" [fields "Document" [("entries", braced (ofEntries entries))]]

def ofValues : List Value → List (List Char)
  | [] => []
  | v :: rest => ofValue v :: ofValues rest

def ofEntries : List (String × Value) → List (List Char)
  | [] => []
  | (key, v) :: rest => (Text.quoted key ++ ':' :: ' ' :: ofValue v) :: ofEntries rest

end

mutual

def ofData : Data → List Char
  | .null => ['N', 'u', 'l', 'l']
  | .bool b => applied "Bool" [boolean b]
  | .integer i => applied "Integer" [Decimal.intDigits i.toInt]
  | .float x => applied "Float" [(floatLayout.text x).toList]
  | .string s => applied "String" [Text.quoted s]
  | .list name items =>
    applied "List"
      [fields "DataList" [("name", optionalText name), ("items", bracketed (ofItems items))]]
  | .record kind key members =>
    applied "Record"
      [fields "Record" [("kind", optionalText kind), ("cache_key", optionalText key),
        ("fields", braced (ofMembers members))]]

def ofItems : List Data → List (List Char)
  | [] => []
  | d :: rest => ofData d :: ofItems rest

def ofMembers : List (String × Data) → List (List Char)
  | [] => []
  | (name, d) :: rest => (Text.quoted name ++ ':' :: ' ' :: ofData d) :: ofMembers rest

end

def ofSelector : Selector → List Char
  | .current => ['C', 'u', 'r', 'r', 'e', 'n', 't']
  | .member name => applied "Member" [Text.quoted name]
  | .variable name => applied "Variable" [Text.quoted name]
  | .value data => applied "Value" [ofData data]
  | .named inner name => applied "Named" [ofSelector inner, Text.quoted name]

def ofRoot : RootSetting → List Char
  | .enabled on => applied "Enabled" [boolean on]
  | .named name => applied "Named" [Text.quoted name]

def ofCondition : Option Condition → List Char
  | none => ['-']
  | some (.always outcome) => boolean outcome
  | some (.member name) => ':' :: name.toList
  | some (.predicate label _) => "fn@".toList ++ label.toList

def ofGuard (guard : Guard) : List Char :=
  "if=".toList ++ ofCondition guard.onlyIf ++ ";unless=".toList ++ ofCondition guard.exceptIf

def ofComputation : Computation → List Char
  | .function label _ => "fn@".toList ++ label.toList
  | .helper name => "helper:".toList ++ name.toList
  | .value v => "value:".toList ++ ofValue v

/-- A directive: its kind with its parts between semicolons, and the digest of its nested
template. -/
def ofDirective : Directive → List Char
  | .attribute a =>
    "attribute(".toList ++ a.name.toList ++ "=>".toList ++ a.key.toList ++ ';' :: ofGuard a.guard
      ++ [')']
  | .node n =>
    "node(".toList ++ (n.name.getD "-").toList ++ ';' :: ofComputation n.compute
      ++ ';' :: ofGuard n.guard ++ [')']
  | .child selector objectRoot guard body =>
    "child(".toList ++ ofSelector selector ++ ';' :: optional (objectRoot.map ofRoot)
      ++ ';' :: ofGuard guard ++ ")[".toList ++ body.digest.toList ++ [']']
  | .glue selector guard body =>
    "glue(".toList ++ ofSelector selector ++ ';' :: ofGuard guard ++ ")[".toList
      ++ body.digest.toList ++ [']']
  | .extend base object guard extra =>
    "extends(".toList ++ base.toList ++ ';' :: optional (object.map ofSelector)
      ++ ';' :: ofGuard guard ++ ")[".toList ++ extra.digest.toList ++ [']']

/-- The fingerprints of directives, one to a line. -/
def ofDirectives : List Directive → List Char
  | [] => []
  | [d] => ofDirective d
  | d :: rest => ofDirective d ++ '\n' :: ofDirectives rest

end DocumentTemplates.Fingerprint

namespace DocumentTemplates.Template

/-- The template of directives assembled in code, without a name. Its digest, by the given digest
function, is that of the directives' fingerprints. -/
def ofDirectives (digestOf : String → String) (directives : List Directive) : Template :=
  .mk none directives (digestOf (String.ofList (Fingerprint.ofDirectives directives)))

end DocumentTemplates.Template
