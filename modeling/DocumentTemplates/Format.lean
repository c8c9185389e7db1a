/-!
# Output formats
-/

namespace DocumentTemplates

/-- The formats that results are built for. -/
inductive Format where
  | json
  | xml
  | msgpack
  | bson
  | plist
  | csv
  deriving DecidableEq, Inhabited

namespace Format

def name : Format → String
  | .json => "json"
  | .xml => "xml"
  | .msgpack => "msgpack"
  | .bson => "bson"
  | .plist => "plist"
  | .csv => "csv"

def ofName? (s : String) : Option Format :=
  [Format.json, .xml, .msgpack, .bson, .plist, .csv].find? (·.name = s)

/-- True if a document must have a single root element. -/
def requiresRoot : Format → Bool
  | .xml => true
  | .plist => true
  | _ => false

end Format

end DocumentTemplates
