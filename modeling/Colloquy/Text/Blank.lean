/-!
# Blank characters

The characters with the Unicode property White_Space, and what is left of a text without them at its
ends.
-/
namespace Colloquy

/-- The code points that have the property White_Space. -/
def blankCodes : List Nat :=
  [0x9, 0xa, 0xb, 0xc, 0xd, 0x20, 0x85, 0xa0, 0x1680, 0x2000, 0x2001, 0x2002, 0x2003, 0x2004, 0x2005,
    0x2006, 0x2007, 0x2008, 0x2009, 0x200a, 0x2028, 0x2029, 0x202f, 0x205f, 0x3000]

def isBlank (c : Char) : Bool := blankCodes.contains c.toNat

def trimStart (text : List Char) : List Char := text.dropWhile isBlank

/-- A text without the blanks at its start and end. -/
def trim (text : List Char) : List Char := (trimStart (trimStart text).reverse).reverse

def allBlank (text : String) : Bool := text.toList.all isBlank

end Colloquy
