import PullSecretSync.Json.Fault

/-!
# Errors of the API

Why a request brought no answer that can be used. A fault is the server's own account of a
refusal.
-/

namespace PullSecretSync

/-- The account that a server gives of a refusal. -/
structure Fault where
  status : String
  message : String
  reason : String
  code : Nat
  deriving DecidableEq, Repr

/-- Why a text is no address. -/
inductive AddressError where
  | character
  | length
  deriving DecidableEq, Repr

namespace AddressError

/-- The wording of a refusal of an address. -/
def message : AddressError → String
  | .character => "invalid uri character"
  | .length => "uri too long"

/-- A refusal of an address with the names of its kinds. -/
def listing (error : AddressError) : String :=
  let kind := match error with
    | .character => "InvalidUriChar"
    | .length => "TooLong"
  "http::Error(InvalidUri(" ++ kind ++ "))"

end AddressError

/-- Why a request cannot be made. -/
inductive RequestError where
  | emptyName
  | badAddress (error : AddressError)
  deriving DecidableEq, Repr

namespace RequestError

/-- The wording of a request that cannot be made. -/
def message : RequestError → String
  | .emptyName => "failed to validate request: A non-empty name is required"
  | .badAddress error => "failed to build request: " ++ error.message

/-- A request that cannot be made, with the names of its kinds. -/
def listing : RequestError → String
  | .emptyName => "Validation(\"A non-empty name is required\")"
  | .badAddress error => "BuildRequest(" ++ error.listing ++ ")"

end RequestError

/-- Why a request brought no usable answer. -/
inductive ApiError where
  /-- The server refused. -/
  | refused (fault : Fault)
  /-- The server was not reached. -/
  | unreachable
  /-- The body of the reply is not what was asked for. -/
  | badBody (error : TextError)
  /-- There was no request to send. -/
  | badRequest (error : RequestError)
  /-- The address of a group's version is none. -/
  | badAddress (error : AddressError)
  /-- A listed group has no version. -/
  | emptyGroup (name : String)
  deriving DecidableEq, Repr

/-- A fault with the names of its fields. -/
def Fault.listing (fault : Fault) : String :=
  "ErrorResponse \x7b status: " ++ Text.quoted fault.status ++ ", message: " ++
    Text.quoted fault.message ++ ", reason: " ++ Text.quoted fault.reason ++ ", code: " ++
    toString fault.code ++ " \x7d"

/-- The wording of a fault. -/
def Fault.text (fault : Fault) : String :=
  "ApiError: " ++ fault.message ++ ": " ++ fault.reason ++ " (" ++ fault.listing ++ ")"

namespace ApiError

/-- The wording of an error. -/
def message : ApiError → String
  | .refused fault => fault.text
  | .unreachable => "ServiceError: connection refused"
  | .badBody error => "Error deserializing response: " ++ error.message
  | .badRequest error => "Failed to build request: " ++ error.message
  | .badAddress error => "HttpError: " ++ error.message
  | .emptyGroup name => "Error from discovery: Empty Api Group: " ++ name

/-- An error with the names of its kinds. -/
def listing : ApiError → String
  | .refused fault => "Api(" ++ fault.listing ++ ")"
  | .unreachable => "Service(\"connection refused\")"
  | .badBody error => "SerdeError(" ++ error.placed.listing ++ ")"
  | .badRequest error => "BuildRequest(" ++ error.listing ++ ")"
  | .badAddress error => "HttpError(" ++ error.listing ++ ")"
  | .emptyGroup name => "Discovery(EmptyApiGroup(" ++ Text.quoted name ++ "))"

end ApiError

end PullSecretSync
