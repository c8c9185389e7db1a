/-!
# English plurals

Plural and singular forms of the names of collections and of their elements: a table of
irregular words, a table of words with one form, and rules on the ending. Of a name such as
`blog_post` only the last word is inflected.
-/

namespace DocumentTemplates.Inflection

/-- Irregular words: singular, plural. -/
def irregulars : List (String × String) :=
  [("analysis", "analyses"), ("child", "children"), ("criterion", "criteria"), ("datum", "data"),
   ("foot", "feet"), ("goose", "geese"), ("index", "indices"), ("man", "men"),
   ("matrix", "matrices"), ("medium", "media"), ("mouse", "mice"), ("ox", "oxen"),
   ("person", "people"), ("quiz", "quizzes"), ("tooth", "teeth"), ("vertex", "vertices"),
   ("woman", "women")]

/-- Words whose plural is the word itself. -/
def uncountables : List String :=
  ["deer", "equipment", "fish", "information", "metadata", "news", "rice", "series", "sheep",
   "species"]

/-- The vowels that keep a final y. -/
def isVowel (c : Char) : Bool :=
  c = 'a' || c = 'e' || c = 'i' || c = 'o' || c = 'u'

/-- The plural by its ending, of a word given last character first: `yc…` becomes `c…ies`. -/
def pluralEnding : List Char → List Char
  | 'y' :: c :: rest => if isVowel c then 's' :: 'y' :: c :: rest else 's' :: 'e' :: 'i' :: c :: rest
  | 'e' :: 'f' :: rest => 's' :: 'e' :: 'v' :: rest
  | 'h' :: 'c' :: rest => 's' :: 'e' :: 'h' :: 'c' :: rest
  | 'h' :: 's' :: rest => 's' :: 'e' :: 'h' :: 's' :: rest
  | c :: rest =>
    if c = 's' || c = 'x' || c = 'z' then 's' :: 'e' :: c :: rest else 's' :: c :: rest
  | [] => []

/-- Stems, last character first, whose plural adds `es`: those in ch, sh, x, z and ss. -/
def takesEs : List Char → Bool
  | 'h' :: 'c' :: _ => true
  | 'h' :: 's' :: _ => true
  | 'x' :: _ => true
  | 'z' :: _ => true
  | 's' :: 's' :: _ => true
  | _ => false

/-- The singular of a word in a single s, given last character first. A word in ss or `s` alone
is kept. -/
def dropFinalS : List Char → List Char
  | 's' :: 's' :: rest => 's' :: 's' :: rest
  | 's' :: c :: rest => c :: rest
  | word => word

/-- The singular by its ending, of a word given last character first. -/
def singularEnding : List Char → List Char
  | 's' :: 'e' :: 'i' :: c :: rest => 'y' :: c :: rest
  | 's' :: 'e' :: 'v' :: c :: rest => 'e' :: 'f' :: c :: rest
  | 's' :: 'e' :: stem => if takesEs stem then stem else dropFinalS ('s' :: 'e' :: stem)
  | word => dropFinalS word

def pluralizeWord (word : String) : String :=
  if uncountables.contains word then word
  else match irregulars.find? (·.1 = word) with
    | some (_, plural) => plural
    | none =>
      if irregulars.any (·.2 = word) then word
      else String.ofList (pluralEnding word.toList.reverse).reverse

def singularizeWord (word : String) : String :=
  if uncountables.contains word then word
  else match irregulars.find? (·.2 = word) with
    | some (singular, _) => singular
    | none =>
      if irregulars.any (·.1 = word) then word
      else String.ofList (singularEnding word.toList.reverse).reverse

/-- Applies `inflect` to what follows the last underscore, or to the whole name if nothing
does. -/
def inflectLast (inflect : String → String) (name : String) : String :=
  let reversed := name.toList.reverse
  let last := reversed.takeWhile (· ≠ '_')
  let head := reversed.dropWhile (· ≠ '_')
  if last.isEmpty then inflect name
  else String.ofList head.reverse ++ inflect (String.ofList last.reverse)

/-- The plural of a name: `blog_post` becomes `blog_posts`. -/
def pluralize (name : String) : String :=
  inflectLast pluralizeWord name

/-- The singular of a name: `blog_posts` becomes `blog_post`. -/
def singularize (name : String) : String :=
  inflectLast singularizeWord name

end DocumentTemplates.Inflection
