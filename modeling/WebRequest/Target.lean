-- Dispatch targets. A target is resolved against the path a request was received on:
-- an absolute one stands for itself, a relative one starts in the directory of that
-- path. The result has no empty segment inside and no dot segment; a target that
-- climbs above the root is refused.
import WebRequest.Text.Ascii

namespace WebRequest.Target

/-- The parts of a path between its slashes. -/
def segments (path : List Char) : List (List Char) := path.splitOnP (· = '/')

/-- Takes one more segment: an empty one and `.` change nothing, `..` takes back the last
segment that is left. The segments left stand in reverse. -/
def cancel (left : List (List Char)) (segment : List Char) : Option (List (List Char)) :=
  if segment = [] ∨ segment = ['.'] then some left
  else if segment = ['.', '.'] then
    match left with
    | [] => none
    | _ :: rest => some rest
  else some (segment :: left)

/-- The segments that are left of a path, unless it climbs above the root. -/
def remaining? (path : List Char) : Option (List (List Char)) :=
  ((segments path).foldlM cancel []).map List.reverse

/-- The canonical form of a path: a slash before each segment left, and one at the end if the
path had one. -/
def canonical? (path : List Char) : Option (List Char) :=
  (remaining? path).map fun left =>
    match left with
    | [] => ['/']
    | _ =>
      left.flatMap (fun s => '/' :: s) ++ (if path.getLast? = some '/' then ['/'] else [])

/-- A path up to and including its last slash; a slash alone if it has none. -/
def directory (path : List Char) : List Char :=
  match path.reverse.dropWhile (· ≠ '/') with
  | [] => ['/']
  | upTo => upTo.reverse

/-- What a target names, before it is made canonical. -/
def joined (current path : List Char) : List Char :=
  if path.head? = some '/' then path else directory current ++ path

/-- The target resolved against the current path, over characters. Its query, from the first
question mark on, is kept as it is. -/
def resolveChars? (current target : List Char) : Option (List Char) :=
  if target.isEmpty then none
  else
    let path := target.takeWhile (· ≠ '?')
    let query := target.dropWhile (· ≠ '?')
    (canonical? (joined current path)).map (· ++ query)

/-- The target resolved against the current path; `none` if it is empty or climbs above the
root. -/
def resolve? (current target : String) : Option String :=
  (resolveChars? current.toList target.toList).map String.ofList

example : resolve? "/shop/cart" "../help?x=1" = some "/help?x=1" := by cbv
example : resolve? "/shop" "../../etc" = none := by cbv

end WebRequest.Target
