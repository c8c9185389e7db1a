/-!
# Paths

Paths are texts whose segments are separated by slashes. Empty segments and single points count
for nothing, except a point at the start of a relative path. The last segment that counts is the
file name, unless it is a point or two.
-/

namespace DocumentTemplates.Path

/-- The segments between slashes. -/
def splitSlashes : List Char → List (List Char)
  | [] => [[]]
  | c :: rest =>
    if c = '/' then [] :: splitSlashes rest
    else match splitSlashes rest with
      | segment :: segments => (c :: segment) :: segments
      | [] => [[c]]

def isAbsolute (path : String) : Bool :=
  path.toList.head? = some '/'

/-- The segments of a path that count. -/
def segments (path : String) : List String :=
  let all := splitSlashes path.toList
  let counted := all.filter fun segment => segment ≠ [] && segment ≠ ['.']
  let here := if all.head? = some ['.'] then [['.']] else []
  (here ++ counted).map String.ofList

/-- Two spellings are the same path if they have the same segments and are both absolute or both
relative. -/
def same (a b : String) : Bool :=
  isAbsolute a = isAbsolute b && segments a = segments b

/-- Drops the end of a path that counts for nothing, in a text given last character first. -/
def dropIdleEnd : List Char → List Char
  | '/' :: rest => dropIdleEnd rest
  | '.' :: '/' :: rest => dropIdleEnd rest
  | cs => cs

/-- The text in front of the file name, and the file name. -/
def split? (path : String) : Option (List Char × List Char) :=
  let trimmed := dropIdleEnd path.toList.reverse
  let file := (trimmed.takeWhile (· ≠ '/')).reverse
  if file = [] || file = ['.'] || file = ['.', '.'] then none
  else some ((trimmed.dropWhile (· ≠ '/')).reverse, file)

def fileName? (path : String) : Option String :=
  (split? path).map fun parts => String.ofList parts.2

/-- What stands behind the last point of a file name; a point at its start does not count. -/
def extensionOf (file : List Char) : Option (List Char) :=
  let after := (file.reverse.takeWhile (· ≠ '.')).reverse
  match file.reverse.dropWhile (· ≠ '.') with
  | _ :: _ :: _ => some after
  | _ => none

def extension? (path : String) : Option String :=
  (split? path).bind fun parts => (extensionOf parts.2).map String.ofList

/-- Joins a path to a directory. An absolute path stays as it is. -/
def join (directory path : String) : String :=
  if isAbsolute path then path
  else if directory.isEmpty || directory.toList.getLast? = some '/' then directory ++ path
  else directory ++ "/" ++ path

/-- The path with another file name in place of its own. -/
def withFileName (path file : String) : String :=
  match split? path with
  | some (before, _) =>
    let directory := (dropIdleEnd before.reverse).reverse
    if directory = [] && isAbsolute path then "/" ++ file
    else join (String.ofList directory) file
  | none => join path file

/-- The path with an extension, if it has a file name without one. -/
def withDefaultExtension (path extension : String) : String :=
  match split? path with
  | some (before, file) =>
    if (extensionOf file).isSome || extension.isEmpty then path
    else String.ofList (before ++ file) ++ "." ++ extension
  | none => path

end DocumentTemplates.Path
