import Colloquy.Text.Hexadecimal
import Colloquy.Text.Search
/-!
# Addresses

An address is kept in one normal form: the scheme and the host in lower case, without the number that its
scheme has anyway, without `.` and `..` in the path, and with the characters escaped that cannot stand
where they are.
-/
namespace Colloquy

/-- An address in its parts.  Without a host it is a scheme and a path. -/
structure Url where
  scheme : List Char
  username : List Char
  password : List Char
  host : Option (List Char)
  portNumber : Option Nat
  path : List Char
  query : Option (List Char)
  fragment : Option (List Char)
deriving DecidableEq, Repr

namespace Url

/-- A character as the escapes of its UTF-8 bytes. -/
def escapeBytes (c : Char) : List Char :=
  (String.singleton c).toUTF8.data.toList.flatMap fun b =>
    ['%', upperHexDigit (b.toNat / 16), upperHexDigit (b.toNat % 16)]

/-- A text with the characters escaped that `special` names, and with all that are not printable
ASCII. -/
def escapeText (special : List Char) (text : List Char) : List Char :=
  text.flatMap fun c =>
    if c < ' ' || '~' < c || special.contains c then escapeBytes c else [c]

def fragmentSpecials : List Char := [' ', '"', '<', '>', '`']

def querySpecials : List Char := [' ', '"', '#', '<', '>']

def pathSpecials : List Char := [' ', '"', '#', '<', '>', '?', '`', '\x7b', '\x7d']

def userSpecials : List Char :=
  [' ', '"', '#', '<', '>', '?', '`', '\x7b', '\x7d', '/', ':', ';', '=', '@', '[', '\\', ']', '^', '|']

/-- The bytes of a text in which escapes stand for bytes. -/
def unescapeBytes : List Char → List UInt8
  | [] => []
  | '%' :: a :: b :: rest =>
    match hexDigit? a, hexDigit? b with
    | some x, some y => UInt8.ofNat (16 * x + y) :: unescapeBytes rest
    | _, _ => '%'.toUInt8 :: unescapeBytes (a :: b :: rest)
  | c :: rest => (String.singleton c).toUTF8.data.toList ++ unescapeBytes rest

/-- A text with its escapes replaced by what they stand for. -/
def unescape? (text : List Char) : Option (List Char) :=
  (String.fromUTF8? (ByteArray.mk (unescapeBytes text).toArray)).map String.toList

/-- The schemes that name a host, with the numbers that are their own. -/
def knownSchemes : List (List Char × Option Nat) :=
  [(['h', 't', 't', 'p', 's'], some 443), (['h', 't', 't', 'p'], some 80), (['w', 's', 's'], some 443),
    (['w', 's'], some 80), (['f', 't', 'p'], some 21)]

def fileScheme : List Char := ['f', 'i', 'l', 'e']

def isSpecial (scheme : List Char) : Bool :=
  scheme == fileScheme || knownSchemes.any fun known => known.1 == scheme

def ownNumber? (scheme : List Char) : Option Nat := (knownSchemes.find? (·.1 == scheme)).bind (·.2)

def decimalText (n : Nat) : List Char := Nat.toDigits 10 n

/-- The user and password in front of a host. -/
def userText (url : Url) : List Char :=
  if url.username.isEmpty && url.password.isEmpty then []
  else if url.password.isEmpty then url.username ++ ['@']
  else url.username ++ ':' :: url.password ++ ['@']

/-- An address in its normal form.  Without a host, a path that starts like one is set off with `/.`. -/
def toText (url : Url) : String :=
  let hostPart :=
    match url.host with
    | some host =>
      '/' :: '/' :: userText url ++ host
        ++ (url.portNumber.map fun n => ':' :: decimalText n).getD []
    | none => if ['/', '/'].isPrefixOf url.path then ['/', '.'] else []
  String.ofList
    (url.scheme ++ ':' :: hostPart ++ url.path
      ++ (url.query.map fun q => '?' :: q).getD []
      ++ (url.fragment.map fun f => '#' :: f).getD [])

end Url

end Colloquy
