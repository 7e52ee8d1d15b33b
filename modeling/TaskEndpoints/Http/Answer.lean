import TaskEndpoints.Journal

/-!
# Answers

The answer to a request: a JSON body, a redirection, the list of methods, or a refusal as plain text.
Every refusal is logged once.
-/

namespace TaskEndpoints.Http

/-- The answer to a request. -/
structure Answer where
  status : Nat
  /-- The type of the body, if it has one. -/
  contentType : Option String
  body : String
  /-- The methods of the path, where the answer lists them. -/
  allow : Option (List String)
  /-- Where the resource is, where the answer tells. -/
  location : Option String
deriving DecidableEq, Repr

namespace Answer

/-- The type of JSON bodies. -/
def jsonType : String := "application/json"

/-- The type of plain text. -/
def textType : String := "text/plain; charset=utf-8"

/-- The type of an answer without content of its own. -/
def pageType : String := "text/html; charset=utf-8"

/-- An answer with JSON text. -/
def json (text : String) : Answer := ⟨200, some jsonType, text ++ "\n", none, none⟩

/-- An answer with plain text. -/
def plain (status : Nat) (text : String) : Answer := ⟨status, some textType, text ++ "\n", none, none⟩

/-- An answer that lists methods. -/
def methods (allowed : List String) : Answer := ⟨200, some pageType, "", some allowed, none⟩

/-- An answer that tells where the resource is for good. -/
def moved (address : String) : Answer := ⟨308, some pageType, "", none, some address⟩

/-- Decide whether answers with a status never have a body. -/
def isBodiless (status : Nat) : Bool :=
  (100 ≤ status && status < 200) || status == 204 || status == 304

/-- The answer as it is sent for a method: without a body where none belongs. -/
def sentFor (a : Answer) (method : String) : Answer :=
  { a with
    body := if method == "HEAD" || isBodiless a.status then "" else a.body
    contentType := if a.status = 304 then none else a.contentType }

end Answer

/-- Why a request is refused. -/
inductive Refusal where
  /-- With a status and a message of its own. -/
  | stated (status : Nat) (message : String)
  /-- With a standard status, its name and a description. -/
  | standard (status : Nat) (name description : String)
  | failed (message : String)
deriving DecidableEq, Repr

namespace Refusal

/-- The name and the description of a standard status. -/
def standardText? : Nat → Option (String × String)
  | 400 => some ("Bad Request",
      "The browser (or proxy) sent a request that this server could not understand.")
  | 403 => some ("Forbidden", "You don't have the permission to access the requested resource. "
      ++ "It is either read-protected or not readable by the server.")
  | 404 => some ("Not Found", "The requested URL was not found on the server. "
      ++ "If you entered the URL manually please check your spelling and try again.")
  | 405 => some ("Method Not Allowed", "The method is not allowed for the requested URL.")
  | 418 => some ("I'm a teapot", "This server is a teapot, not a coffee machine")
  | 500 => some ("Internal Server Error", "The server encountered an internal error and was unable to "
      ++ "complete your request. Either the server is overloaded or there is an error in the application.")
  | _ => none

/-- The refusal with a standard status; a description of one's own takes the place of the usual one. -/
def ofStatus (status : Nat) (description? : Option String) : Refusal :=
  let (name, usual) := (standardText? status).getD ("", "")
  .standard status name (description?.getD usual)

/-- The refusal of a path that leads nowhere. -/
def unknownPath : Refusal := ofStatus 404 none

/-- The refusal of a method. -/
def wrongMethod : Refusal := ofStatus 405 none

/-- The status of a refusal. -/
def status : Refusal → Nat
  | .stated status _ => status
  | .standard status _ _ => status
  | .failed _ => 500

/-- What is logged. -/
def message : Refusal → String
  | .stated _ message => message
  | .standard _ _ description => description
  | .failed message => message

/-- What is answered. -/
def text : Refusal → String
  | .stated _ message => message
  | .standard _ name description => name ++ ": " ++ description
  | .failed message => "Internal Server Error: " ++ message

/-- Log a refusal and answer with it. -/
def answer {ε : Type} (r : Refusal) : Run ε Answer := do
  Run.log .http .error ("HTTP " ++ toString r.status ++ " - " ++ r.message)
  return .plain r.status r.text

end Refusal

end TaskEndpoints.Http
