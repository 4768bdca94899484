import DeliveryService.Domain

namespace DeliveryService

structure CreateOrderCommand where
  customerId : UUID
  pickupAddress : String
  destinationAddress : String
  weightGrams : Int
deriving DecidableEq

structure TransitionOrderCommand where
  target : OrderStatus
  expectedVersion : Int
  actorId : UUID
  actorRole : String
  correlationId : String
deriving DecidableEq

/-- One character of a JSON string literal with `ensure_ascii=False`. -/
def jsonEscape (c : Char) : List Char :=
  if c = '"' then ['\\', '"']
  else if c = '\\' then ['\\', '\\']
  else if c = '\n' then ['\\', 'n']
  else if c = '\r' then ['\\', 'r']
  else if c = '\t' then ['\\', 't']
  else if c.toNat = 8 then ['\\', 'b']
  else if c.toNat = 12 then ['\\', 'f']
  else if c.toNat < 32 then
    ['\\', 'u', '0', '0', Nat.digitChar (c.toNat / 16), Nat.digitChar (c.toNat % 16)]
  else [c]

def jsonString (text : String) : List Char := '"' :: text.toList.flatMap jsonEscape ++ ['"']

def jsonInt (n : Int) : List Char :=
  if n < 0 then '-' :: Nat.toDigits 10 n.natAbs else Nat.toDigits 10 n.natAbs

/-- `json.dumps(command.canonical_payload(), sort_keys=True, separators=(",", ":"))` -/
def CreateOrderCommand.canonicalRequest (command : CreateOrderCommand) : String :=
  String.ofList ('{' :: jsonString "customer_id" ++ ':' :: jsonString command.customerId.str ++
    ',' :: jsonString "destination_address" ++ ':' :: jsonString command.destinationAddress ++
    ',' :: jsonString "pickup_address" ++ ':' :: jsonString command.pickupAddress ++
    ',' :: jsonString "weight_grams" ++ ':' :: jsonInt command.weightGrams ++ ['}'])

/-- The scope under which an idempotency key is remembered. -/
def idempotencyScope (tenantId customerId : UUID) (idempotencyKey : String) : String :=
  "create_order:" ++ tenantId.str ++ ":" ++ customerId.str ++ ":" ++ idempotencyKey

theorem idempotencyScope_toList (t c : UUID) (k : String) : (idempotencyScope t c k).toList =
    "create_order:".toList ++ (t.str.toList ++ (":".toList ++ (c.str.toList ++ (":".toList ++ k.toList)))) := by
  change ("create_order:" ++ t.str ++ ":" ++ c.str ++ ":" ++ k).toList = _
  simp only [String.toList_append, List.append_assoc]

theorem idempotencyScope_inj {t t' c c' : UUID} {k k' : String}
    (h : idempotencyScope t c k = idempotencyScope t' c' k') : t = t' ∧ c = c' ∧ k = k' := by
  have text := congrArg String.toList h
  rw [idempotencyScope_toList, idempotencyScope_toList, List.append_cancel_left_eq] at text
  obtain ⟨ht, text⟩ := List.append_inj text (by rw [t.str_length, t'.str_length])
  rw [List.append_cancel_left_eq] at text
  obtain ⟨hc, text⟩ := List.append_inj text (by rw [c.str_length, c'.str_length])
  rw [List.append_cancel_left_eq] at text
  exact ⟨UUID.str_injective (String.toList_inj.mp ht), UUID.str_injective (String.toList_inj.mp hc),
    String.toList_inj.mp text⟩

end DeliveryService
