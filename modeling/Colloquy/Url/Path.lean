import Colloquy.Url.Basic
/-!
# Paths of addresses

A path is a list of segments with slashes between them.  The segments `.` and `..` move in it and are left
out of its normal form.  A drive, a letter with a colon or a bar, is never left by `..`; a file path that
starts with one names no host.

* `Url.Path.resolve`: the segments of a path in its normal form.
-/
namespace Colloquy

namespace Url

namespace Path

/-- Whether a path segment means the directory itself, or the one above. -/
def dots (segment : List Char) : Nat :=
  let plain := segment.map Char.toLower
  let one := [['.'], ['%', '2', 'e']]
  if one.contains plain then 1
  else if (one.flatMap fun a => one.map (a ++ ·)).contains plain then 2
  else 0

def isDriveMark (c : Char) : Bool := c == ':' || c == '|'

/-- The letter of a segment that is a drive. -/
def driveLetter? : List Char → Option Char
  | [letter, mark] => if letter.isAlpha && isDriveMark mark then some letter else none
  | _ => none

/-- Whether a segment cannot be left by `..`. -/
def isDrive : List Char → Bool
  | letter :: mark :: rest =>
    letter.isAlpha && isDriveMark mark && (rest.isEmpty || rest.head? == some '\\')
  | _ => false

/-- The segments left when the last of them, which stand in reverse, is left by `..`. -/
def leave : List (List Char) → List (List Char)
  | [] => []
  | segment :: rest => if isDrive segment then segment :: rest else rest

/-- A segment as it is kept.  A drive at the start of a file path is written with a colon. -/
def keep (file : Bool) (kept : List (List Char)) (segment : List Char) : List Char :=
  match driveLetter? segment with
  | some letter => if file && kept.isEmpty then [letter, ':'] else segment
  | none => segment

/-- Whether a segment is a drive at the start of a file path. -/
def startsDrive (file : Bool) (kept : List (List Char)) (segment : List Char) : Bool :=
  file && kept.isEmpty && (driveLetter? segment).isSome

/-- Segments without those that only move, and whether the path starts with a drive; `kept` holds those so
far in reverse. -/
def resolve (file : Bool) : (kept : List (List Char)) → List (List Char) → List (List Char) × Bool
  | kept, [] => (kept.reverse, false)
  | kept, [segment] =>
    if dots segment = 1 then (([] :: kept).reverse, false)
    else if dots segment = 2 then (([] :: leave kept).reverse, false)
    else ((keep file kept segment :: kept).reverse, startsDrive file kept segment)
  | kept, segment :: next :: rest =>
    if dots segment = 1 then resolve file kept (next :: rest)
    else if dots segment = 2 then resolve file (leave kept) (next :: rest)
    else
      let (segments, drive) := resolve file (keep file kept segment :: kept) (next :: rest)
      (segments, drive || startsDrive file kept segment)

/-- A file path has no empty segments at its start. -/
def trimmed (segments : List (List Char)) : List (List Char) :=
  match segments.dropWhile List.isEmpty with
  | [] => [[]]
  | rest => rest

/-- The path whose segments stand in a text behind its first slash, and whether it starts with a drive. -/
def ofText (special file : Bool) (text : List Char) : List Char × Bool :=
  let text := if special then text.map fun c => if c = '\\' then '/' else c else text
  let (segments, drive) := resolve file [] (splitOnChar '/' text)
  let segments := if file then trimmed segments else segments
  ('/' :: ['/'].intercalate (segments.map (escapeText pathSpecials)), drive)

end Path

end Url

end Colloquy
