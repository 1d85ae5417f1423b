/-!
# Stop sequences in a finished text

A text ends in front of the first stop sequence that occurs in it.  Empty stop sequences do not count.
-/
namespace Colloquy

/-- Whether one of the stop sequences starts a text. -/
def stopsHere (stops : List (List Char)) (text : List Char) : Bool :=
  stops.any fun stop => !stop.isEmpty && stop.isPrefixOf text

/-- The text in front of the first place where a stop sequence starts. -/
def beforeStops (stops : List (List Char)) : List Char → List Char
  | [] => []
  | c :: rest => if stopsHere stops (c :: rest) then [] else c :: beforeStops stops rest

/-- A text cut in front of its first stop sequence. -/
def cutAtStops (stops : List String) (text : String) : String :=
  String.ofList (beforeStops (stops.map String.toList) text.toList)

end Colloquy
