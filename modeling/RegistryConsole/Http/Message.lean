import RegistryConsole.Http.Header
/-!
# HTTP messages

Requests as the console receives them and the responses it gives.
-/
namespace RegistryConsole.Http

structure Request where
  method : String
  /-- A path with an optional query, or a whole address. -/
  target : String
  headers : Headers := []
  body : List UInt8 := []

/-- A response as the handlers and the layers around them make it. The length of the content, which
the server adds on the way out, is not among its headers. -/
structure Response where
  status : Nat
  headers : Headers := []
  body : String := ""
  deriving DecidableEq, Repr

private def isPathEnd (c : Char) : Bool :=
  c = '?' || c = '#'

/-- What follows the host of a whole address. -/
def afterHost : List Char → Option (List Char)
  | ':' :: '/' :: '/' :: rest => some (rest.dropWhile fun c => c ≠ '/' && !isPathEnd c)
  | _ :: rest => afterHost rest
  | [] => none

/-- The path of a target, before its query. -/
def pathOf (target : List Char) : List Char :=
  match target with
  | '/' :: _ => target.takeWhile (!isPathEnd ·)
  | _ =>
    match afterHost target with
    | none => target.takeWhile (!isPathEnd ·)
    | some rest =>
      match rest.takeWhile (!isPathEnd ·) with
      | [] => ['/']
      | path => path

def Request.path (r : Request) : String :=
  String.ofList (pathOf r.target.toList)

def plainType : String := "text/plain; charset=utf-8"

def pageType : String := "text/html; charset=utf-8"

def jsonType : String := "application/json"

namespace Response

def text (status : Nat) (body : String) : Response :=
  { status, headers := [("content-type", plainType)], body }

def page (status : Nat) (body : String) : Response :=
  { status, headers := [("content-type", pageType)], body }

def json (status : Nat) (body : String) : Response :=
  { status, headers := [("content-type", jsonType)], body }

/-- Sends the browser to another path, to be fetched from there. -/
def redirect (target : String) : Response :=
  { status := 303, headers := [("location", target)] }

/-- The answer to a method that a known path does not have. -/
def wrongMethod (allowed : String) : Response :=
  { status := 405, headers := [("allow", allowed)] }

/-- The response to a request for the headers alone. The length of the body that is left out goes
with the body here: a server tells it in the `content-length` that it adds. -/
def withoutBody (r : Response) : Response :=
  { r with body := "" }

def set (name value : String) (r : Response) : Response :=
  { r with headers := r.headers.set name value }

end Response

end RegistryConsole.Http
