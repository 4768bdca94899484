import DeliveryService.Domain

namespace DeliveryService

/-- `" ".join(value.split())` -/
def normalizeAddress (value : String) : String :=
  String.ofList ([' '].intercalate (PyText.words value.toList))

/-- The address of one point of a delivery. -/
structure Address where
  text : String
  normal : ∃ value, normalizeAddress value = text
  sized : 5 ≤ text.length ∧ text.length ≤ 300

structure WeightGrams where
  grams : Int
  range : 0 < grams ∧ grams ≤ 100000

def Address.validate (value : String) : Option Address :=
  if h : 5 ≤ (normalizeAddress value).length ∧ (normalizeAddress value).length ≤ 300 then
    some ⟨normalizeAddress value, ⟨value, rfl⟩, h⟩
  else none

def WeightGrams.validate (grams : Int) : Option WeightGrams :=
  if h : 0 < grams ∧ grams ≤ 100000 then some ⟨grams, h⟩ else none

/-- A creation body that passed validation. -/
structure OrderCreate (folding : PyText.CaseFolding) where
  customerId : UUID
  pickupAddress : Address
  destinationAddress : Address
  weightGrams : WeightGrams
  addressesDiffer : folding.casefold pickupAddress.text.toList ≠ folding.casefold destinationAddress.text.toList

def OrderCreate.validate (folding : PyText.CaseFolding) (customerId : UUID) (pickupAddress destinationAddress : String)
    (weightGrams : Int) : Option (OrderCreate folding) := do
  let pickup ← Address.validate pickupAddress
  let destination ← Address.validate destinationAddress
  let weight ← WeightGrams.validate weightGrams
  if h : folding.casefold pickup.text.toList ≠ folding.casefold destination.text.toList then
    some ⟨customerId, pickup, destination, weight, h⟩
  else none

/-- An update body that passed validation; fields that are missing or null are left out. -/
structure OrderUpdate where
  pickupAddress : Option Address := none
  destinationAddress : Option Address := none
  weightGrams : Option WeightGrams := none

/-- The `Idempotency-Key` header. -/
structure IdempotencyKey where
  text : String
  sized : 8 ≤ text.length ∧ text.length ≤ 128
  plain : ∀ c ∈ text.toList, c.isAlphanum = true ∨ c ∈ ['.', '_', ':', '-']

/-- The `X-Expected-Version` header. -/
structure ExpectedVersion where
  version : Int
  positive : 1 ≤ version

structure OrderRead where
  id : UUID
  customerId : UUID
  pickupAddress : String
  destinationAddress : String
  weightGrams : Int
  status : OrderStatus
  courierId : Option UUID
  version : Int
  createdAt : Datetime
deriving DecidableEq

/-- `OrderRead.model_validate(order)` -/
def OrderRead.ofOrder (order : DeliveryOrder) : OrderRead where
  id := order.id
  customerId := order.customerId
  pickupAddress := order.pickupAddress
  destinationAddress := order.destinationAddress
  weightGrams := order.weightGrams
  status := order.status
  courierId := order.courierId
  version := order.version
  createdAt := order.createdAt

end DeliveryService
