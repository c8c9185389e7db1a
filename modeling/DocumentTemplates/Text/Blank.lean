/-!
# Blank characters

The characters of the White_Space property, and trimming by them. Queries, arguments and
emptiness tests all use this one class.
-/

namespace DocumentTemplates.Text

/-- Code points of the White_Space property. -/
def blankCodes : List Nat :=
  [0x9, 0xa, 0xb, 0xc, 0xd, 0x20, 0x85, 0xa0, 0x1680, 0x2000, 0x2001, 0x2002, 0x2003, 0x2004,
   0x2005, 0x2006, 0x2007, 0x2008, 0x2009, 0x200a, 0x2028, 0x2029, 0x202f, 0x205f, 0x3000]

/-- A blank is a character of the White_Space property. -/
def isBlank (c : Char) : Bool :=
  blankCodes.contains c.toNat

def trimStart (cs : List Char) : List Char :=
  cs.dropWhile isBlank

def trim (cs : List Char) : List Char :=
  (trimStart (trimStart cs).reverse).reverse

/-- True of text that holds nothing but blanks. -/
def isBlankText (s : String) : Bool :=
  s.toList.all isBlank

end DocumentTemplates.Text
