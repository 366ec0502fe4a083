/-!
# Errors of the cloud API
-/

namespace CloudProvision.Remote

/-- Why a call failed. -/
inductive ApiError where
  /-- The object does not exist. -/
  | notFound (object : String)
  /-- The request was rejected. -/
  | rejected (status : Nat) (reason : String)
  /-- The request did not reach the API. -/
  | transport (reason : String)
  deriving DecidableEq

namespace ApiError

/-- The text of an error. -/
def message : ApiError → String
  | notFound object => object ++ " not found"
  | rejected status reason => "API error " ++ toString status ++ ": " ++ reason
  | transport reason => "transport error: " ++ reason

instance : ToString ApiError := ⟨message⟩

/-- Whether the error says that the object does not exist. -/
def isNotFound : ApiError → Bool
  | notFound _ => true
  | rejected status _ => status == 404
  | transport _ => false

end ApiError

end CloudProvision.Remote
