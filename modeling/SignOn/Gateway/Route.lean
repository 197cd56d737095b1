import SignOn.Breakdown
import SignOn.Text.Blank

/-
This file matches the paths of calls with the paths of routes.
-/

namespace SignOn.Gateway

open SignOn.Text

/-- A route is a path in which a colon stands before the name of any segment, and a star before the name of any rest. -/
structure Route where
  pattern : List Char
  deriving DecidableEq, Repr

namespace Route

def isMark (character : Char) : Bool := character == ':' || character == '*'

/-- A segment holds at most one mark with a name behind it, and a star takes a whole segment, which is the last one. -/
def checkSegment (isLast : Bool) (segment : List Char) : Except Breakdown Unit :=
  match segment.dropWhile (!isMark ·) with
  | [] => .ok ()
  | mark :: name =>
    if name.any isMark then .error .routeWithMisplacedMark
    else if name.isEmpty then .error .routeWithoutName
    else if mark == '*' && !(isLast && segment.head? == some '*') then .error .routeWithMisplacedMark
    else .ok ()

def checkSegments : List (List Char) → Except Breakdown Unit
  | [] => .ok ()
  | segment :: others => do
    checkSegment others.isEmpty segment
    checkSegments others

/-- The most segments that a route can name. -/
def nameLimit : Nat := 25

/-- A route begins with a slash, and its names are neither missing nor too many. -/
def create (path : String) : Except Breakdown Route :=
  match path.toList with
  | '/' :: pattern => do
    checkSegments (pieces (· == '/') pattern)
    if nameLimit < pattern.count ':' then throw .routeWithManyNames
    return ⟨'/' :: pattern⟩
  | _ => .error .routeWithoutSlash

/-- A named segment takes what stands up to the next slash, and a named rest takes everything, which must be something. -/
def matchesFrom : List Char → List Char → Bool
  | [], path => path.isEmpty
  | _ :: _, [] => false
  | '*' :: _, _ :: _ => true
  | ':' :: pattern, path =>
    matchesFrom (pattern.dropWhile (· != '/')) (path.dropWhile (· != '/'))
  | expected :: pattern, character :: path =>
    expected == character && matchesFrom pattern path
termination_by pattern => pattern.length
decreasing_by
  · have := (List.dropWhile_suffix (l := pattern) (· != '/')).length_le
    simp
    omega
  · simp

def accepts (route : Route) (path : List Char) : Bool := matchesFrom route.pattern path

end Route

end SignOn.Gateway
