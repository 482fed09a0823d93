import WebAccess.Identifier

/-!
# Faults

What can go wrong while access is being resolved. A fault is neither a grant nor a denial: whoever
asks has to pass it on as a failure of the server.
-/

set_option autoImplicit false

namespace WebAccess

/-- A failure while access is being resolved. -/
inductive Fault where
  /-- A resource could not be loaded. -/
  | lookup (identifier : Identifier) (reason : String)
  /-- The containers above a resource lead back to the one named. -/
  | cycle (identifier : Identifier)
  /-- The document of a group could not be loaded. -/
  | group (name : String) (reason : String)
  /-- The rules of a resource could not be written. -/
  | aclWrite (identifier : Identifier) (reason : String)
  /-- The service is configured in a way that it cannot work with. -/
  | config (reason : String)
deriving DecidableEq, Repr

namespace Fault

/-- The message of a fault. -/
def message : Fault → String
  | .lookup id reason => "failed to load resource " ++ id ++ ": " ++ reason
  | .cycle id => "containment cycle through " ++ id
  | .group name reason => "failed to resolve agent group " ++ name ++ ": " ++ reason
  | .aclWrite id reason => "failed to write ACL for " ++ id ++ ": " ++ reason
  | .config reason => "configuration error: " ++ reason

/-- True if the same call may succeed later: the fault lies with the store. -/
def retryable : Fault → Bool
  | .lookup .. | .group .. | .aclWrite .. => true
  | .cycle .. | .config .. => false

/-- The HTTP status of a request that failed with the fault. -/
def status (_ : Fault) : Nat := 500

end Fault

end WebAccess
