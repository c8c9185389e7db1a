import DocumentTemplates.Template.Reader

/-!
# Build errors

The causes for which loading a template or building a document fails, and their wording.
-/

namespace DocumentTemplates

/-- Why a build failed. -/
inductive BuildError where
  /-- An attribute is absent, and absence is not tolerated. -/
  | missingAttribute (name : String)
  /-- No template of that name is at any of the places looked at. -/
  | templateNotFound (name : String) (searched : List String)
  /-- Nested builds go deeper than allowed. -/
  | templateCycle (name : String) (depth maxDepth : Nat)
  | unknownHelper (name : String)
  | invalidEntry (template : String) (fault : PlacedFault)
  /-- A template text is no list of entries. -/
  | malformedTemplate (template : String)
  /-- A template file is there but cannot be read as text. -/
  | unreadableFile (path : String)
  | cache (reason : String)

namespace BuildError

/-- The error for a template text at fault. -/
def ofFault (template : String) : TemplateFault → BuildError
  | .malformed => .malformedTemplate template
  | .entry fault => .invalidEntry template fault

/-- The wording of an error. What a malformed template or an unreadable file suffers from is not
part of it. -/
def message : BuildError → String
  | .missingAttribute name => "Missing attribute: " ++ name
  | .templateNotFound name searched =>
    "Template not found: " ++ name ++ " (searched "
      ++ (if searched.isEmpty then "no paths" else String.intercalate ", " searched) ++ ")"
  | .templateCycle name depth maxDepth =>
    "Template nesting too deep (depth " ++ toString depth ++ " > " ++ toString maxDepth ++ "): "
      ++ name
  | .unknownHelper name => "Unknown helper: " ++ name
  | .invalidEntry template fault => "Invalid template " ++ template ++ ": " ++ fault.message
  | .malformedTemplate template => "Invalid template " ++ template
  | .unreadableFile path => "Cannot read template " ++ path
  | .cache reason => "Cache backend error: " ++ reason

end BuildError

end DocumentTemplates
