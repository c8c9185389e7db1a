import DocumentTemplates.Text.Alphanumeric
import DocumentTemplates.Text.LetterCase

/-!
# Underscored names

Splits an identifier into words and writes them in lowercase, joined by underscores:
`userProfile` and `User Profile` both become `user_profile`. A word ends at a character that is
not alphanumeric, between a lowercase and an uppercase letter, and before the last capital of a
run of capitals that a lowercase letter follows (`XMLHttp` is `xml_http`).
-/

namespace DocumentTemplates.Text

/-- The case of the last cased character read in the current word. -/
inductive WordCase where
  | uncased
  | lower
  | upper
  deriving DecidableEq

/-- The case after reading `c`; a character without case keeps it. -/
def WordCase.after (case : WordCase) (c : Char) : WordCase :=
  if isLowercase c then .lower else if isUppercase c then .upper else case

/-- Splits a run of alphanumeric characters where its case changes. The characters of the word
being read are in `word`, last first. -/
def splitCase (case : WordCase) (word : List Char) : List Char → List (List Char)
  | [] => []
  | [c] => [(c :: word).reverse]
  | c :: next :: rest =>
    if case.after c = .lower && isUppercase next then
      (c :: word).reverse :: splitCase .uncased [] (next :: rest)
    else if case = .upper && isUppercase c && isLowercase next then
      word.reverse :: splitCase .uncased [c] (next :: rest)
    else
      splitCase (case.after c) (c :: word) (next :: rest)

/-- The maximal runs of alphanumeric characters, in order. The characters of the run being read
are in `run`, last first. -/
def alphanumericRuns (run : List Char) : List Char → List (List Char)
  | [] => [run.reverse]
  | c :: rest =>
    if isAlphanumeric c then alphanumericRuns (c :: run) rest
    else run.reverse :: alphanumericRuns [] rest

/-- The words of an identifier. -/
def words (cs : List Char) : List (List Char) :=
  (alphanumericRuns [] cs).flatMap (splitCase .uncased [])

/-- A word in lowercase. A capital sigma that ends the word becomes a final sigma. -/
def lowercaseWord : List Char → List Char
  | [] => []
  | ['Σ'] => ['ς']
  | c :: rest => lowercase c ++ lowercaseWord rest

/-- The words of `name` in lowercase, joined by underscores. -/
def snakeCase (name : String) : String :=
  String.intercalate "_" ((words name.toList).map fun word => String.ofList (lowercaseWord word))

end DocumentTemplates.Text
