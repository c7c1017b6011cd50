/-!
The response vocabulary: resource names with their messages, and status codes with their
descriptions.
-/

namespace AccessNotices

/-- What a response says about itself. -/
inductive ResponseName where
  | success
  | resourceNotFound
  | databaseError
  | invalidParameter
  | badRequest
  | forbidden
  | internalServerError
  deriving DecidableEq, Repr

namespace ResponseName

def all : List ResponseName :=
  [success, resourceNotFound, databaseError, invalidParameter, badRequest, forbidden,
   internalServerError]

def symbol : ResponseName → String
  | success => "SUCCESS_URN"
  | resourceNotFound => "RESOURCE_NOT_FOUND_URN"
  | databaseError => "DB_ERROR_URN"
  | invalidParameter => "INVALID_PARAM_URN"
  | badRequest => "BAD_REQUEST_URN"
  | forbidden => "FORBIDDEN_URN"
  | internalServerError => "INTERNAL_SERVER_ERROR"

def urn : ResponseName → String
  | success => "urn:dx:acl:success"
  | resourceNotFound => "urn:dx:acl:ResourceNotFound"
  | databaseError => "urn:dx:acl:DatabaseError"
  | invalidParameter => "urn:dx:acl:invalidParameter"
  | badRequest => "urn:dx:acl:badRequest"
  | forbidden => "urn:dx:acl:forbidden"
  | internalServerError => "urn:dx:acl:internalServerError"

def message : ResponseName → String
  | success => "Success"
  | resourceNotFound => "Resource not found"
  | databaseError => "Database error"
  | invalidParameter => "Invalid parameter passed"
  | badRequest => "Bad request"
  | forbidden => "Forbidden to access the resource"
  | internalServerError => "Internal Server Error"

def ofSymbol? (s : String) : Option ResponseName :=
  all.find? fun n => n.symbol == s

@[simp] theorem ofSymbol?_symbol (n : ResponseName) : ofSymbol? n.symbol = some n := by
  cases n <;> rfl

end ResponseName

inductive Status where
  | success
  | badRequest
  | unauthorized
  | forbidden
  | notFound
  | internalServerError
  deriving DecidableEq, Repr

namespace Status

def all : List Status :=
  [success, badRequest, unauthorized, forbidden, notFound, internalServerError]

/-- The symbolic name. -/
def symbol : Status → String
  | success => "SUCCESS"
  | badRequest => "BAD_REQUEST"
  | unauthorized => "UNAUTHORIZED"
  | forbidden => "FORBIDDEN"
  | notFound => "NOT_FOUND"
  | internalServerError => "INTERNAL_SERVER_ERROR"

def code : Status → Nat
  | success => 200
  | badRequest => 400
  | unauthorized => 401
  | forbidden => 403
  | notFound => 404
  | internalServerError => 500

def description : Status → String
  | success => "Success"
  | badRequest => "Bad Request"
  | unauthorized => "Not Authorized"
  | forbidden => "Forbidden"
  | notFound => "Not Found"
  | internalServerError => "Internal Server Error"

def ofSymbol? (s : String) : Option Status :=
  all.find? fun n => n.symbol == s

@[simp] theorem ofSymbol?_symbol (s : Status) : ofSymbol? s.symbol = some s := by
  cases s <;> rfl

end Status

end AccessNotices
