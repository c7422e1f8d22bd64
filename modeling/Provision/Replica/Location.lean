import Provision.Text.Basic
import Provision.Text.Case

/-!
# Where a URL points

A replica keeps its documents by path: the URL without its query, without empty
segments, and without the segments that narrow a list to one type.  The last
such segment is kept apart as the type that a list is narrowed to.
-/

namespace Provision.Replica

/-- A path, and the type that a list at the path is narrowed to. -/
structure Location where
  path : String
  cast : Option String
deriving DecidableEq, Repr

/-- Whether a segment of a path names a type. -/
def isCast (segment : List Char) : Bool :=
  let segment := segment.map Text.lowerAscii
  (Text.dropStart? "graph.".toList segment).isSome
    || (Text.dropStart? "microsoft.graph.".toList segment).isSome

/-- The segments that make up a path, out of all between the slashes. -/
def keptSegments (segments : List (List Char)) : List (List Char) :=
  segments.filter fun segment => !segment.isEmpty && !isCast segment

/-- The type that the last of the segments naming one names. -/
def castOf? (segments : List (List Char)) : Option String :=
  ((segments.filter isCast).getLast?).map fun segment => Text.lastPiece '.' (String.ofList segment)

/-- The scheme and the host of a URL without query, as they are written, and what follows them
behind a slash. -/
def splitOrigin (url : List Char) : List Char × List Char :=
  match Text.cut? "://".toList url with
  | none => ([], url)
  | some (scheme, rest) =>
    (scheme ++ "://".toList ++ rest.takeWhile (· ≠ '/'), (rest.dropWhile (· ≠ '/')).drop 1)

/-- A path by its origin and its segments. -/
def joinPath (origin : List Char) (segments : List (List Char)) : List Char :=
  origin ++ segments.flatMap fun segment => '/' :: segment

/-- Where a URL points. -/
def Location.ofUrl (url : String) : Location :=
  let (origin, rest) := splitOrigin (url.toList.takeWhile (· ≠ '?'))
  let segments := Text.pieces '/' rest
  ⟨String.ofList (joinPath origin (keptSegments segments)), castOf? segments⟩

/-- Whether a path lies directly below another one. -/
def isChild (parent candidate : String) : Bool :=
  match (Text.dropStart? parent.toList candidate.toList).bind (Text.dropStart? ['/']) with
  | some rest => !rest.isEmpty && !rest.contains '/'
  | none => false

/-- Whether a path lies anywhere below another one. -/
def isBelow (ancestor candidate : String) : Bool :=
  Text.startsWith (ancestor ++ "/") candidate

/-- The path above the last segment. -/
def parentOf (path : String) : String :=
  ((Text.splitLast? "/" path).map Prod.fst).getD ""

/-- The last segment of a path. -/
def lastSegment (path : String) : String := Text.lastPiece '/' path

end Provision.Replica
