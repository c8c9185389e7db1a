/-!
# Tags of YAML nodes

A tag is a sequence of bytes. It is most often written with ASCII characters, but escapes can put
any bytes into it, so that it need not be the encoding of a text. A tag that begins with an
exclamation mark is local: its application gives it a meaning. Others are known to all.
-/

namespace DocumentTemplates.Yaml

/-- The bytes of an address in front of the first zero byte, which is where an address ends. -/
def beforeZero (bytes : List UInt8) : List UInt8 :=
  bytes.takeWhile (· ≠ 0)

/-- The full name of a tag. -/
structure Tag where
  bytes : List UInt8
  deriving DecidableEq

namespace Tag

def ofString (s : String) : Tag :=
  ⟨s.toUTF8.toList⟩

def null : Tag := ofString "tag:yaml.org,2002:null"

def bool : Tag := ofString "tag:yaml.org,2002:bool"

def integer : Tag := ofString "tag:yaml.org,2002:int"

def float : Tag := ofString "tag:yaml.org,2002:float"

/-- What stands behind the exclamation mark of a local tag. -/
def localPart? (tag : Tag) : Option (List UInt8) :=
  match tag.bytes with
  | b :: rest => if b = '!'.toUInt8 then some rest else none
  | [] => none

def isLocal (tag : Tag) : Bool :=
  tag.localPart?.isSome

/-- The name of a local tag, if it is the encoding of a text. -/
def localName? (tag : Tag) : Option String :=
  tag.localPart?.bind fun bytes => String.fromUTF8? (ByteArray.mk bytes.toArray)

end Tag

end DocumentTemplates.Yaml
