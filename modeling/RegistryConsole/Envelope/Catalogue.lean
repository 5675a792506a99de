/-!
# The catalogue of messages

The four messages a failed call may show to a user, one for each code, and the codes of the HTTP
statuses that have one of their own.
-/
namespace RegistryConsole

inductive ErrorCode where
  | badRequest
  | notFound
  | internalServerError
  | unknown
  deriving DecidableEq, Repr

namespace ErrorCode

def all : List ErrorCode :=
  [badRequest, notFound, internalServerError, unknown]

def ofStatus (status : Nat) : ErrorCode :=
  if status = 400 then badRequest
  else if status = 404 then notFound
  else if status = 500 then internalServerError
  else unknown

def name : ErrorCode → String
  | badRequest => "BAD_REQUEST"
  | notFound => "NOT_FOUND"
  | internalServerError => "INTERNAL_SERVER_ERROR"
  | unknown => "UNKNOWN_ERROR"

/-- The code of a name; names that are not in the catalogue are unknown errors. -/
def ofName (s : String) : ErrorCode :=
  (all.find? (·.name = s)).getD unknown

def message : ErrorCode → String
  | badRequest => "Your request was not formatted properly."
  | notFound => "The resource you're looking for was not found on the server."
  | internalServerError =>
    "Something went wrong internally. Please contact the platform administrator."
  | unknown => "Something wrong happened. Please, try again later."

end ErrorCode

def statusMessage (status : Nat) : String :=
  (ErrorCode.ofStatus status).message

end RegistryConsole
