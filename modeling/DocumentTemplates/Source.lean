import DocumentTemplates.Error
import DocumentTemplates.OrderedMap
import DocumentTemplates.Path

/-!
# Template sources

Where template texts come from. A name stands also for its partial form, whose last segment begins
with an underscore. In files, a name without extension takes the extension of the source, and
relative names are looked for in the search directories: first the name in all of them, then the
partial form.
-/

namespace DocumentTemplates

/-- The files below a working directory, by the segments of their paths. A file that is no text
has none. -/
structure Files where
  entries : List (List String × Option String) := []

namespace Files

def write (files : Files) (path : String) (text : Option String) : Files :=
  let place := Path.segments path
  ⟨files.entries.filter (·.1 ≠ place) ++ [(place, text)]⟩

/-- The file at a place: its text, if it has one. -/
def at? (files : Files) (place : List String) : Option (Option String) :=
  (files.entries.find? (·.1 = place)).map Prod.snd

/-- True if files lie below a place; the working directory is always there. -/
def isDirectory (files : Files) (place : List String) : Bool :=
  place.isEmpty || files.entries.any fun entry => place.isPrefixOf entry.1 && entry.1 ≠ place

/-- Walks from a place, given last segment first, along segments. Every place that is left must
be a directory, and the walk must stay below the working directory. -/
def walk? (files : Files) (place : List String) : List String → Option (List String)
  | [] => some place
  | segment :: rest =>
    if !files.isDirectory place.reverse then none
    else if segment = "" || segment = "." then files.walk? place rest
    else if segment = ".." then match place with
      | [] => none
      | _ :: outer => files.walk? outer rest
    else files.walk? (segment :: place) rest

/-- The file that a relative path leads to. -/
def find? (files : Files) (path : String) : Option (Option String) :=
  if path.isEmpty || Path.isAbsolute path then none
  else match files.walk? [] ((Path.splitSlashes path.toList).map String.ofList) with
    | some place => files.at? place.reverse
    | none => none

end Files

/-- A template text and the place where it was found. -/
structure LocatedText where
  text : String
  location : String

/-- Where templates are looked for. -/
inductive Source where
  | nowhere
  | memory (texts : OrderedMap String)
  | files (store : Files) (extension : String)

namespace Source

/-- The partial form of a name: an underscore in front of its last segment, unless it has one. -/
def partialName (name : String) : String :=
  match Path.fileName? name with
  | some file => if file.toList.head? = some '_' then name else Path.withFileName name ("_" ++ file)
  | none => name

/-- Drops each path that is the same as the one before it. -/
def dropRepeated : List String → List String
  | [] => []
  | [path] => [path]
  | path :: next :: rest =>
    if Path.same path next then dropRepeated (path :: rest)
    else path :: dropRepeated (next :: rest)

/-- The places of one spelling of a name: itself, or below each search directory. -/
def placesOf (searchPaths : List String) (name : String) : List String :=
  if searchPaths.isEmpty || Path.isAbsolute name then [name]
  else searchPaths.map fun directory => Path.join directory name

/-- The places where files are looked for, in order. -/
def candidates (extension name : String) (searchPaths : List String) : List String :=
  dropRepeated <|
    placesOf searchPaths (Path.withDefaultExtension name extension) ++
      placesOf searchPaths (Path.withDefaultExtension (partialName name) extension)

/-- Finds the text of a template. -/
def resolve (source : Source) (name : String) (searchPaths : List String) :
    Except BuildError LocatedText :=
  match source with
  | .nowhere => .error (.templateNotFound name [])
  | .memory texts =>
    let alternative := partialName name
    match texts.get? name, texts.get? alternative with
    | some text, _ => .ok ⟨text, name⟩
    | none, some text => .ok ⟨text, alternative⟩
    | none, none => .error (.templateNotFound name [name, alternative])
  | .files store extension =>
    let places := candidates extension name searchPaths
    match places.findSome? fun place => (store.find? place).map fun text => (place, text) with
    | some (place, some text) => .ok ⟨text, place⟩
    | some (place, none) => .error (.unreadableFile place)
    | none => .error (.templateNotFound name places)

end Source

end DocumentTemplates
