import DocumentTemplates.Xml.Element

/-!
# Writing XML

Elements on one line, or each on its own line with two spaces for each level. Text is escaped;
names are written as they are.
-/

namespace DocumentTemplates.Xml

def escapeChar (c : Char) : List Char :=
  if c = '<' then "&lt;".toList
  else if c = '>' then "&gt;".toList
  else if c = '&' then "&amp;".toList
  else if c = '\'' then "&apos;".toList
  else if c = '"' then "&quot;".toList
  else [c]

def escape (s : String) : List Char :=
  s.toList.flatMap escapeChar

def attributesText (attributes : List (String × String)) : List Char :=
  attributes.flatMap fun (name, value) => ' ' :: name.toList ++ '=' :: '"' :: escape value ++ ['"']

/-- What a tag begins with: its name and attributes. -/
def tagStart (name : String) (attributes : List (String × String)) : List Char :=
  '<' :: name.toList ++ attributesText attributes

def endTag (name : String) : List Char :=
  '<' :: '/' :: name.toList ++ ['>']

/-- The declaration in front of the root element. -/
def declaration : List Char :=
  "<?xml version=\"1.0\" encoding=\"UTF-8\"?>".toList

/-- A line break and two spaces for each level, where elements stand on lines of their own. -/
def lineBreak (indented : Bool) (level : Nat) : List Char :=
  if indented then '\n' :: List.replicate (2 * level) ' ' else []

mutual

/-- An element at a level. -/
def elementText (indented : Bool) (level : Nat) : Element → List Char
  | .mk name attributes .empty => tagStart name attributes ++ ['/', '>']
  | .mk name attributes (.text s) =>
    tagStart name attributes ++ '>' :: (escape s ++ endTag name)
  | .mk name attributes (.children elements) =>
    tagStart name attributes ++ '>' ::
      (elementsText indented (level + 1) elements ++ lineBreak indented level ++ endTag name)

def elementsText (indented : Bool) (level : Nat) : List Element → List Char
  | [] => []
  | e :: rest =>
    lineBreak indented level ++ elementText indented level e ++ elementsText indented level rest

end

/-- The XML text of a value, under a root name if one is given. -/
def write (indented : Bool) (rootName : Option String) (v : Value) : String :=
  String.ofList <|
    declaration ++ lineBreak indented 0 ++ elementText indented 0 (root rootName v)

end DocumentTemplates.Xml
