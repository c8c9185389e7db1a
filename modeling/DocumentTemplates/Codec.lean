import DocumentTemplates.Format
import DocumentTemplates.Json.Writer
import DocumentTemplates.Xml.Writer

/-!
# Encoding results
-/

namespace DocumentTemplates

/-- The ways to write a result as text. -/
inductive Codec where
  | json (indented : Bool)
  | xml (indented : Bool)
  deriving DecidableEq

namespace Codec

def format : Codec → Format
  | .json _ => .json
  | .xml _ => .xml

/-- The text of a value. The root name counts only in XML. -/
def encode (codec : Codec) (rootName : Option String) (v : Value) : String :=
  match codec with
  | .json true => Json.indented v
  | .json false => Json.compact v
  | .xml indented => Xml.write indented rootName v

end Codec

end DocumentTemplates
