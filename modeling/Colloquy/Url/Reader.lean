import Colloquy.Url.Host
import Colloquy.Url.Path
/-!
# Reading addresses

An address is read as web browsers read it.

* `Url.ofText?`: the address that a text writes.
-/
namespace Colloquy

namespace Url

/-- The scheme at the start of an address, in lower case, and what follows its colon. -/
def splitScheme? (text : List Char) : Option (List Char × List Char) :=
  let scheme := text.takeWhile (· != ':')
  match scheme, text.drop scheme.length with
  | c :: _, ':' :: rest =>
    if c.isAlpha && scheme.all fun c => c.isAlphanum || c == '+' || c == '-' || c == '.' then
      some (scheme.map Char.toLower, rest)
    else none
  | _, _ => none

/-- What ends the host part of an address. -/
def endsAuthority (special : Bool) (c : Char) : Bool :=
  c == '/' || c == '?' || c == '#' || (special && c == '\\')

/-- The parts of a text around the last occurrence of a character. -/
def splitLast? (mark : Char) (text : List Char) : Option (List Char × List Char) :=
  let behind := (text.reverse.takeWhile (· != mark)).reverse
  if behind.length = text.length then none
  else some (text.take (text.length - behind.length - 1), behind)

/-- The user and the password in front of a host. -/
structure Credentials where
  username : List Char
  password : List Char
deriving DecidableEq, Repr

namespace Credentials

/-- Reads what stands in front of the `@`. -/
def ofText (text : List Char) : Credentials where
  username := escapeText userSpecials (text.takeWhile (· != ':'))
  password := escapeText userSpecials ((text.dropWhile (· != ':')).drop 1)

def isEmpty (user : Credentials) : Bool := user.username.isEmpty && user.password.isEmpty

end Credentials

/-- The number behind the colon of a host; nothing written is no number. -/
def portNumber? (digits : List Char) : Option (Option Nat) :=
  let n := digits.foldl (fun n c => 10 * n + (c.toNat - '0'.toNat)) 0
  if digits.isEmpty then some none else if n < 65536 then some (some n) else none

/-- Splits a host off what follows; a colon inside brackets is part of the host. -/
def splitHost (text : List Char) : List Char × List Char :=
  match text with
  | '[' :: _ =>
    let inside := text.takeWhile (· != ']')
    match text.drop inside.length with
    | ']' :: ':' :: rest => (inside ++ [']'], ':' :: rest)
    | _ => (text, [])
  | _ => (text.takeWhile (· != ':'), text.dropWhile (· != ':'))

/-- The number behind a host, and what follows it: nothing, or a backslash and what starts the path. -/
def splitPort? : List Char → Option (Option Nat × List Char)
  | ':' :: rest =>
    match rest.dropWhile Char.isDigit with
    | [] => (portNumber? rest).map fun number => (number, [])
    | '\\' :: path => (portNumber? (rest.takeWhile Char.isDigit)).map fun number => (number, '\\' :: path)
    | _ => none
  | rest => some (none, rest)

/-- An address without the characters that are passed over: control characters and blanks at its ends,
tabs and line breaks anywhere. -/
def cleaned (text : List Char) : List Char :=
  let edge := fun (c : Char) => decide (c ≤ ' ')
  let trimmed := ((text.dropWhile edge).reverse.dropWhile edge).reverse
  trimmed.filter fun c => c != '\t' && c != '\n' && c != '\r'

/-- The path, query and fragment of an address. -/
def splitTail (text : List Char) : List Char × Option (List Char) × Option (List Char) :=
  let beforeFragment := text.takeWhile (· != '#')
  let fragment :=
    match text.dropWhile (· != '#') with
    | [] => none
    | _ :: rest => some rest
  let path := beforeFragment.takeWhile (· != '?')
  let query :=
    match beforeFragment.dropWhile (· != '?') with
    | [] => none
    | _ :: rest => some rest
  (path, query, fragment)

/-- Puts the query and fragment behind an address. -/
def withTail (url : Url) (query fragment : Option (List Char)) : Url :=
  let specials := if isSpecial url.scheme then '\'' :: querySpecials else querySpecials
  { url with
    query := query.map (escapeText specials)
    fragment := fragment.map (escapeText fragmentSpecials) }

/-- A path without the slash that starts it. -/
def withoutSlash (special : Bool) : List Char → List Char
  | '/' :: rest => rest
  | '\\' :: rest => if special then rest else '\\' :: rest
  | text => text

/-- The path behind a host.  Only schemes that name a host have one even if none is written. -/
def pathBehindHost (special : Bool) (text : List Char) : List Char :=
  if text.isEmpty && !special then [] else (Path.ofText special false (withoutSlash special text)).1

/-- An address whose host follows. -/
def authority? (scheme : List Char) (text : List Char) : Option Url := do
  let special := isSpecial scheme
  let part := text.takeWhile fun c => !endsAuthority special c
  let tail := text.drop part.length
  let (userText, hostText) := (splitLast? '@' part).getD ([], part)
  let user := Credentials.ofText userText
  let (hostText, behind) := splitHost hostText
  let host ← host? special hostText
  let (number, pathStart) ← splitPort? behind
  let emptyUser := part.head? = some '@' && userText.isEmpty
  if host.isEmpty && (special || !behind.isEmpty || !user.isEmpty || (emptyUser && !tail.isEmpty)) then none
  else
    let (path, query, fragment) := splitTail (pathStart ++ tail)
    some (withTail
      { scheme := scheme
        username := user.username
        password := user.password
        host := some host
        portNumber := if number = ownNumber? scheme then none else number
        path := pathBehindHost special path
        query := none
        fragment := none }
      query fragment)

/-- A file address.  A drive and the host `localhost` are no host. -/
def file? (text : List Char) : Option Url := do
  let isSlash := fun (c : Char) => c == '/' || c == '\\'
  let fileAt := fun (host : List Char) (text : List Char) =>
    let (path, query, fragment) := splitTail text
    let (path, drive) := Path.ofText true true path
    withTail ⟨fileScheme, [], [], some (if drive then [] else host), none, path, none, none⟩ query fragment
  match text with
  | a :: b :: rest =>
    if isSlash a && isSlash b then
      let part := rest.takeWhile fun c => !endsAuthority true c
      if part.isEmpty || (Path.driveLetter? part).isSome then some (fileAt [] rest)
      else
        let host ← host? true part
        let tail := rest.drop part.length
        if host = "localhost".toList then some (fileAt [] tail)
        else some (fileAt host (withoutSlash true tail))
    else some (fileAt [] (withoutSlash true text))
  | _ => some (fileAt [] (withoutSlash true text))

/-- An address without a host. -/
def hostless (scheme : List Char) (text : List Char) : Url :=
  let (path, query, fragment) := splitTail text
  let path :=
    match path with
    | '/' :: rest => (Path.ofText false false rest).1
    | _ => escapeText [] path
  withTail ⟨scheme, [], [], none, none, path, none, none⟩ query fragment

/-- Reads an address. -/
def ofText? (text : String) : Option Url := do
  let (scheme, rest) ← splitScheme? (cleaned text.toList)
  if scheme = fileScheme then file? rest
  else if isSpecial scheme then
    authority? scheme (rest.dropWhile fun c => c == '/' || c == '\\')
  else
    match rest with
    | '/' :: '/' :: tail => authority? scheme tail
    | _ => some (hostless scheme rest)

end Url

end Colloquy
