import DeliveryService.Uuid

namespace DeliveryService

/-- The organisation that the public registration flow belongs to. -/
def defaultTenantId : UUID := 1

inductive Role
  | customer
  | courier
  | dispatcher
deriving DecidableEq, Repr

def Role.value : Role → String
  | .customer => "customer"
  | .courier => "courier"
  | .dispatcher => "dispatcher"

/-- `Role(text)`; `none` is its `ValueError`. -/
def Role.ofValue (text : String) : Option Role :=
  [Role.customer, .courier, .dispatcher].find? (fun role => role.value = text)

structure Actor where
  userId : UUID
  role : Role
  tenantId : UUID
deriving DecidableEq

/-- Deny by default, then grant one explicit relationship inside the actor's own tenant. -/
def canAccessOrder (actor : Actor) (orderTenantId customerId : UUID) (courierId : Option UUID) : Bool :=
  if actor.tenantId ≠ orderTenantId then false
  else match actor.role with
    | .dispatcher => true
    | .customer => actor.userId = customerId
    | .courier => courierId = some actor.userId

/-- An HTTP answer other than success, with the headers the handler adds. -/
structure HTTPException where
  statusCode : Nat
  detail : String
  headers : List (String × String) := []
deriving DecidableEq

def bearerChallenge : List (String × String) := [("WWW-Authenticate", "Bearer")]

end DeliveryService
