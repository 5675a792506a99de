import RegistryConsole.Envelope.Catalogue
import RegistryConsole.Json.Printer
/-!
# Envelopes

The outcome of every call to the registry: the data asked for, or one message for the user with
details for the log. The message is always one of the catalogue's, so nothing the registry sends
with a failure reaches it.
-/
namespace RegistryConsole

inductive Envelope (α : Type) where
  | ok (data : α)
  | error (message : String) (details : List String)
  deriving Inhabited

/-- A call that failed, before its envelope. -/
inductive Failure where
  /-- The registry answered with a failing status. -/
  | response (status : Nat) (body : Option Json)
  /-- There was no answer, only a description of what went wrong. -/
  | message (text : String)
  | unknown

namespace Envelope

/-- The status of a failure that has none of its own. -/
def defaultStatus : Nat := 500

def isSuccess (status : Nat) : Bool :=
  200 ≤ status && status < 300

/-- The texts of an array that holds texts only, and at least one. -/
def stringArray? (v : Json) : Option (List String) :=
  match v with
  | .array [] => none
  | .array items => items.mapM Json.asString?
  | _ => none

/-- The details of a failure: the texts under `errors`, or of the payload itself, or the one text
it is; nothing for null, and the compact text of anything else. -/
def detailsOf (payload : Json) : List String :=
  match (payload.get? "errors").bind stringArray? with
  | some details => details
  | none =>
    match stringArray? payload with
    | some details => details
    | none =>
      match payload with
      | .string s => [s]
      | .null => []
      | other => [other.text]

def failed (status : Option Nat) (payload : Option Json) : Envelope α :=
  .error (statusMessage (status.getD defaultStatus)) ((payload.map detailsOf).getD [])

def ofResponse (status : Nat) (body : Json) : Envelope Json :=
  if isSuccess status then .ok body else failed (some status) (some body)

def ofFailure : Failure → Envelope α
  | .response status body => failed (some status) body
  | .message text => failed (some defaultStatus) (some (.string text))
  | .unknown => failed none none

/-- The envelope of a call that was refused before any request. -/
def badRequest (reason : String) : Envelope α :=
  ofFailure (.response 400 (some (.string reason)))

def isOk : Envelope α → Bool
  | .ok _ => true
  | .error .. => false

def message? : Envelope α → Option String
  | .ok _ => none
  | .error message _ => some message

def details : Envelope α → List String
  | .ok _ => []
  | .error _ details => details

def data? : Envelope α → Option α
  | .ok data => some data
  | .error .. => none

def map (f : α → β) : Envelope α → Envelope β
  | .ok data => .ok (f data)
  | .error message details => .error message details

/-- What a page shows: the data or the message. -/
def toView : Envelope α → Except String α
  | .ok data => .ok data
  | .error message _ => .error message

def hasCode (e : Envelope α) (code : ErrorCode) : Bool :=
  e.message? == some code.message

/-- The JSON form, given that of the data. -/
def toJson (encode : α → Json) : Envelope α → Json
  | .ok data => .ofMembers [("status", .string "OK"), ("data", encode data), ("errors", .array [])]
  | .error message details =>
    .ofMembers [("status", .string "ERROR"), ("message", .string message),
      ("errors", .strings details)]

end Envelope

end RegistryConsole
