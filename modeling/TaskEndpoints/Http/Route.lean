import TaskEndpoints.Text.Split

/-!
# Routes

A route is a pattern of path segments with the methods that it answers. A path is matched segment by
segment; a segment at the end is empty if the path ends in a slash. Slashes at the start of a path count
as one. A path that matches nothing, but would match with a slash at its end or with every run of slashes
merged into one, is moved there.

## Implementation notes

Routes are tried in order. Where a literal segment and a variable one could both match, the route with
the literal segment has to come first.
-/

namespace TaskEndpoints.Http

/-- A piece of a pattern. -/
inductive Segment where
  | literal (text : String)
  /-- Any segment that is not empty. -/
  | any
  /-- All that follows: it does not start with a slash and is on one line. -/
  | rest
deriving DecidableEq, Repr

/-- A pattern with the methods it answers and what answers them. -/
structure Route (α : Type) where
  pattern : List Segment
  methods : List String
  /-- What answers. -/
  target : α

/-- Decide whether a text can be what follows a route: it is not empty, its first character is no slash,
and no line ends after its first character. -/
def isRest : List Char → Bool
  | [] => false
  | c :: cs => c != '/' && !cs.contains '\n'

/-- Match a pattern with the segments of a path. The answer holds the text of the variable part, which is
empty if the pattern has none. -/
def matchPattern : List Segment → List String → Option String
  | [], [] => some ""
  | .literal text :: pattern, segment :: segments =>
    if text = segment then matchPattern pattern segments else none
  | .any :: pattern, segment :: segments =>
    if segment.isEmpty then none else (matchPattern pattern segments).map fun _ => segment
  | [.rest], segments =>
    let text := "/".intercalate segments
    if isRest text.toList then some text else none
  | _, _ => none

/-- The segments of a path; the slash at its start separates nothing. -/
def segments (path : List Char) : List String :=
  match path with
  | [] => []
  | _ :: cs => (Text.splitAtEvery '/' cs).map String.ofList

/-- Count all slashes at the start of a path as one. -/
def withOneStart (path : List Char) : List Char :=
  match path with
  | [] => []
  | cs => '/' :: cs.dropWhile (· == '/')

/-- Merge every run of slashes into one. -/
def mergeSlashes : List Char → List Char
  | '/' :: '/' :: rest => mergeSlashes ('/' :: rest)
  | c :: rest => c :: mergeSlashes rest
  | [] => []

namespace Route

variable {α : Type}

/-- A route that is read only. -/
def get (pattern : List Segment) (target : α) : Route α := ⟨pattern, ["GET"], target⟩

/-- All methods of a route: reading includes reading the head alone, and asking for the methods is always
possible. -/
def allMethods (r : Route α) : List String :=
  (r.methods ++ (if r.methods.contains "GET" then ["HEAD"] else []) ++ ["OPTIONS"]).eraseDups

/-- Decide whether the methods are told without asking what answers. -/
def tellsMethods (r : Route α) : Bool := !r.methods.contains "OPTIONS"

/-- The routes that match a path, with the texts of their variable parts. -/
def matching (routes : List (Route α)) (path : List Char) : List (Route α × String) :=
  routes.filterMap fun r => (matchPattern r.pattern (segments path)).map fun text => (r, text)

/-- The first route that matches a path and answers a method. -/
def answering? (routes : List (Route α)) (method : String) (path : List Char) :
    Option (Route α × String) :=
  (matching routes path).find? fun (r, _) => r.allMethods.contains method

/-- The form of a path, with or without a slash at its end, that a route answers. -/
def variant? (routes : List (Route α)) (method : String) (path : List Char) : Option (List Char) :=
  [path, path ++ ['/']].find? fun p => (answering? routes method p).isSome

end Route

/-- Where a path leads. -/
inductive Destination (α : Type) where
  /-- A route, with the text of its variable part and all methods of the path. -/
  | found (route : Route α) (text : String) (allowed : List String)
  /-- Another path. -/
  | moved (path : String)
  /-- Routes that do not answer the method. -/
  | wrongMethod
  | unknown

/-- Find where a path leads. -/
def Destination.find {α : Type} (routes : List (Route α)) (method path : String) : Destination α :=
  let path := withOneStart path.toList
  let merged := mergeSlashes path
  match Route.answering? routes method path with
  | some (route, text) =>
    .found route text ((Route.matching routes path).flatMap (·.1.allMethods)).eraseDups
  | none => match (Route.variant? routes method path).or (Route.variant? routes method merged) with
    | some other => .moved (String.ofList other)
    | none =>
      if (Route.matching routes path ++ Route.matching routes merged).isEmpty then .unknown
      else .wrongMethod

end TaskEndpoints.Http
