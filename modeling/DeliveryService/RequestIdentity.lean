import DeliveryService.Digests
import DeliveryService.Idempotency
import DeliveryService.JsonText
import DeliveryService.SqlAlone

namespace DeliveryService

open SqlAlchemyOrderRepository (recordRow replayRecord)

/-- `hashlib.sha256(text.encode("utf-8")).hexdigest()` -/
def Sha256.fingerprint (sha : Sha256) (text : String) : String := sha.hexdigest (encodeUtf8 text)

/-- `canonical_payload` -/
def CreateOrderCommand.canonicalPayload (command : CreateOrderCommand) : Payload :=
  [("customer_id", .str command.customerId.str), ("pickup_address", .str command.pickupAddress),
    ("destination_address", .str command.destinationAddress), ("weight_grams", .int command.weightGrams)]

/-- `sort_keys=True` -/
def Payload.sortKeys (payload : Payload) : Payload := payload.insertionSort fun a b => a.1 ≤ b.1

/-- A creation with a key that is not empty. -/
structure KeyedRequest where
  tenantId : UUID
  key : String
  command : CreateOrderCommand
  nonempty : key ≠ ""

namespace KeyedRequest

def scope (request : KeyedRequest) : String :=
  idempotencyScope request.tenantId request.command.customerId request.key

/-- `canonical_request` -/
def canonicalBytes (request : KeyedRequest) : Bytes := encodeUtf8 request.command.canonicalRequest

def fingerprint (sha : Sha256) (request : KeyedRequest) : String := sha.fingerprint request.command.canonicalRequest

/-- The call of `OrderService.create` for the request. -/
def call (request : KeyedRequest) (gen : Generated) : OrderCall :=
  ⟨gen, .create request.command (some request.key) request.tenantId⟩

/-- Tenant, customer and key are the same. -/
def SameKey (request request' : KeyedRequest) : Prop :=
  request.tenantId = request'.tenantId ∧ request.command.customerId = request'.command.customerId ∧
    request.key = request'.key

instance instDecidableSameKey (request request' : KeyedRequest) : Decidable (request.SameKey request') :=
  inferInstanceAs (Decidable (_ ∧ _ ∧ _))

/-- What a request gets from the record of another one with the same key. -/
def answer (request request' : KeyedRequest) (order : DeliveryOrder) : Except Error (Option DeliveryOrder) :=
  if request'.command = request.command then .ok (some order)
  else .error (.idempotencyConflict "idempotency key was already used for another request")

end KeyedRequest

section

variable {command command' : CreateOrderCommand} {request request' : KeyedRequest} {sha : Sha256}

theorem sortKeys_canonicalPayload (command : CreateOrderCommand) : command.canonicalPayload.sortKeys =
    [("customer_id", .str command.customerId.str), ("destination_address", .str command.destinationAddress),
      ("pickup_address", .str command.pickupAddress), ("weight_grams", .int command.weightGrams)] := by
  have first : "customer_id" ≤ "destination_address" := by decide
  have second : "destination_address" ≤ "weight_grams" := by decide
  have late : ¬ "pickup_address" ≤ "destination_address" := by decide
  have last : "pickup_address" ≤ "weight_grams" := by decide
  simp [CreateOrderCommand.canonicalPayload, Payload.sortKeys, List.insertionSort, List.orderedInsert, first, second,
    late, last]

theorem canonicalRequest_eq (command : CreateOrderCommand) :
    command.canonicalRequest = String.ofList (dumps exactFloats command.canonicalPayload.sortKeys) := by
  rw [sortKeys_canonicalPayload]
  refine congrArg String.ofList ?_
  simp [dumps, dumpsField, dumpsValue, List.intercalate_cons_cons]

/-- The text that is hashed reads back as the command, so no other command has it. -/
theorem canonicalRequest_injective : Function.Injective CreateOrderCommand.canonicalRequest := by
  intro command command' same
  let digits := max (Nat.toDigits 10 command.weightGrams.natAbs).length
    (Nat.toDigits 10 command'.weightGrams.natAbs).length
  let limits : Limits := ⟨1, 1, digits, le_rfl⟩
  have loaded (request : CreateOrderCommand)
      (fits : (Nat.toDigits 10 request.weightGrams.natAbs).length ≤ digits) :
      PyJson.loads (reader exactFloats limits) request.canonicalRequest.toList =
        .ok (.dict (request.canonicalPayload.sortKeys.map fun field => (field.1, field.2.loaded))) := by
    rw [canonicalRequest_eq, String.toList_ofList]
    refine loads_dumps ?_ ?_ ?_
    · simp [sortKeys_canonicalPayload]
    · simpa [sortKeys_canonicalPayload, JsonValue.Printable, limits] using fits
    · simp [sortKeys_canonicalPayload]
  have fields := loaded command (le_max_left _ _)
  rw [same, loaded command' (le_max_right _ _)] at fields
  obtain ⟨customerId, pickupAddress, destinationAddress, weightGrams⟩ := command
  obtain ⟨customerId', pickupAddress', destinationAddress', weightGrams'⟩ := command'
  simp only [sortKeys_canonicalPayload, JsonValue.loaded, List.map_cons, List.map_nil, Except.ok.injEq,
    PyJson.Json.dict.injEq, List.cons.injEq, Prod.mk.injEq, PyJson.Json.str.injEq, PyJson.Json.int.injEq, true_and,
    and_true] at fields
  obtain ⟨customers, rfl, rfl, rfl⟩ := fields
  rw [UUID.str_injective customers]

theorem canonicalBytes_inj (same : encodeUtf8 command.canonicalRequest = encodeUtf8 command'.canonicalRequest) :
    command = command' := canonicalRequest_injective (encodeUtf8_injective same)

theorem scope_eq_iff : request.scope = request'.scope ↔ request.SameKey request' := by
  constructor
  · exact idempotencyScope_inj
  · rintro ⟨tenants, customers, keys⟩
    simp only [KeyedRequest.scope, tenants, customers, keys]

theorem fingerprint_eq_iff (free : ¬ sha.Collision request.canonicalBytes request'.canonicalBytes) :
    request.fingerprint sha = request'.fingerprint sha ↔ request.command = request'.command := by
  constructor
  · intro same
    by_contra other
    exact free ⟨fun bytes => other (canonicalBytes_inj bytes), hexText_injective same⟩
  · intro same
    rw [KeyedRequest.fingerprint, same]
    rfl

theorem remembered_in_memory (free : ¬ sha.Collision request.canonicalBytes request'.canonicalBytes)
    (s : InMemoryOrderRepository) (order : DeliveryOrder) :
    (InPlace.exec (InMemoryOrderRepository.idempotentOrder request'.scope (request'.fingerprint sha))
      (InPlace.exec (InMemoryOrderRepository.rememberIdempotency request.scope (request.fingerprint sha) order) s).2).1 =
    if request.SameKey request' then request.answer request' order
    else (InPlace.exec (InMemoryOrderRepository.idempotentOrder request'.scope (request'.fingerprint sha)) s).1 := by
  rw [InMemoryOrderRepository.rememberIdempotency, InPlace.exec_modify, exec_idempotentOrder, exec_idempotentOrder,
    Dict.get?_set]
  by_cases same : request.SameKey request'
  · rw [if_pos same, if_pos (scope_eq_iff.mpr same).symm, KeyedRequest.answer]
    simp only [ne_eq, fingerprint_eq_iff free, ite_not, eq_comm (a := request.command)]
    split_ifs <;> rfl
  · rw [if_neg same, if_neg fun scopes => same (scope_eq_iff.mp scopes.symm)]
    cases s.idempotency.get? request'.scope with
    | none => rfl
    | some record =>
      simp only
      split_ifs <;> rfl

theorem replayRecord_of_ne {scope saved requestFingerprint : String} {order : DeliveryOrder} {createdAt : Datetime}
    (differs : saved ≠ requestFingerprint) : replayRecord requestFingerprint (recordRow scope saved order createdAt) =
      .error (.idempotencyConflict "idempotency key was already used for another request") := if_pos differs

theorem remembered_in_database (free : ¬ sha.Collision request.canonicalBytes request'.canonicalBytes)
    (hash : String → Int) {db : Database} (unused : db.idempotency.get? request.scope = none) (order : DeliveryOrder)
    (createdAt : Datetime) :
    ((SqlAlchemyOrderRepository.idempotentOrder hash request'.scope (request'.fingerprint sha)).runAlone
      (db.addRecord (recordRow request.scope (request.fingerprint sha) order createdAt))).1 =
    if request.SameKey request' then request.answer request' order
    else ((SqlAlchemyOrderRepository.idempotentOrder hash request'.scope (request'.fingerprint sha)).runAlone db).1 := by
  have added : (db.addRecord (recordRow request.scope (request.fingerprint sha) order createdAt)).idempotency.get?
      request'.scope = if request.SameKey request' then
        some (recordRow request.scope (request.fingerprint sha) order createdAt) else
        db.idempotency.get? request'.scope := by
    have inserted : (db.addRecord (recordRow request.scope (request.fingerprint sha) order createdAt)).idempotency =
        db.idempotency.put (recordRow request.scope (request.fingerprint sha) order createdAt) :=
      Table.insert_of_absent unused
    rw [inserted, Table.get?_put]
    exact if_congr (eq_comm.trans scope_eq_iff) rfl rfl
  rw [runAlone_idempotentOrder, runAlone_idempotentOrder, added]
  by_cases same : request.SameKey request'
  · simp only [if_pos same, KeyedRequest.answer]
    by_cases commands : request'.command = request.command
    · rw [if_pos commands, ← (fingerprint_eq_iff free).mpr commands.symm, replayRecord_recordRow]
      rfl
    · have differs : request.fingerprint sha ≠ request'.fingerprint sha :=
        fun equal => commands ((fingerprint_eq_iff free).mp equal).symm
      rw [if_neg commands, replayRecord_of_ne differs]
      rfl
  · simp only [if_neg same]
    cases db.idempotency.get? request'.scope <;> rfl

/-- From the creation on, a request with the same key is answered by comparing the commands. -/
theorem answered_after_creation {folding : PyText.CaseFolding} {s s' : InMemoryOrderRepository} {gen gen' : Generated}
    {order : DeliveryOrder} {trace : List (Transition InMemoryOrderRepository OrderCall)}
    (free : ¬ sha.Collision request.canonicalBytes request'.canonicalBytes) (same : request.SameKey request')
    (created : (request.call gen).result folding sha.fingerprint s = .ok (some order))
    (run : Exec (OrderStep folding sha.fingerprint) ((request.call gen).after folding sha.fingerprint s) trace s') :
    (request'.call gen').result folding sha.fingerprint s' = request.answer request' order := by
  have stored := record_kept_along run (record_of_create request.nonempty created)
  have scopes : idempotencyScope request.tenantId request.command.customerId request.key =
      idempotencyScope request'.tenantId request'.command.customerId request'.key := scope_eq_iff.mpr same
  rw [scopes] at stored
  have fingerprints : sha.fingerprint request.command.canonicalRequest =
      sha.fingerprint request'.command.canonicalRequest ↔ request.command = request'.command := fingerprint_eq_iff free
  simp only [OrderCall.result, KeyedRequest.call, create_of_record request'.nonempty stored, KeyedRequest.answer,
    ne_eq, fingerprints, ite_not, eq_comm (a := request.command)]
  split_ifs <;> rfl

/-- The scope and the canonical bytes determine tenant, customer, key and command. Where two texts do not
collide, two requests share a record exactly when tenant, customer and key are the same, and the second one
is answered from it exactly when the commands are the same, by either adapter. -/
theorem idempotency_identity_exact (sha : Sha256) :
    (∀ tenantId customerId key tenantId' customerId' key',
      idempotencyScope tenantId customerId key = idempotencyScope tenantId' customerId' key' →
      tenantId = tenantId' ∧ customerId = customerId' ∧ key = key') ∧
    (∀ command command' : CreateOrderCommand,
      encodeUtf8 command.canonicalRequest = encodeUtf8 command'.canonicalRequest → command = command') ∧
    ∀ request request' : KeyedRequest, ¬ sha.Collision request.canonicalBytes request'.canonicalBytes →
      (request.scope = request'.scope ↔ request.SameKey request') ∧
      (request.fingerprint sha = request'.fingerprint sha ↔ request.command = request'.command) ∧
      (∀ s order, (InPlace.exec (InMemoryOrderRepository.idempotentOrder request'.scope (request'.fingerprint sha))
          (InPlace.exec (InMemoryOrderRepository.rememberIdempotency request.scope (request.fingerprint sha) order)
            s).2).1 =
        if request.SameKey request' then request.answer request' order
        else (InPlace.exec (InMemoryOrderRepository.idempotentOrder request'.scope (request'.fingerprint sha)) s).1) ∧
      (∀ hash (db : Database) order createdAt, db.idempotency.get? request.scope = none →
        ((SqlAlchemyOrderRepository.idempotentOrder hash request'.scope (request'.fingerprint sha)).runAlone
          (db.addRecord (recordRow request.scope (request.fingerprint sha) order createdAt))).1 =
        if request.SameKey request' then request.answer request' order
        else ((SqlAlchemyOrderRepository.idempotentOrder hash request'.scope (request'.fingerprint sha)).runAlone
          db).1) ∧
      ∀ folding s gen order trace s' gen', request.SameKey request' →
        (request.call gen).result folding sha.fingerprint s = .ok (some order) →
        Exec (OrderStep folding sha.fingerprint) ((request.call gen).after folding sha.fingerprint s) trace s' →
        (request'.call gen').result folding sha.fingerprint s' = request.answer request' order := by
  refine ⟨fun _ _ _ _ _ _ => idempotencyScope_inj, fun _ _ => canonicalBytes_inj, fun request request' free => ?_⟩
  refine ⟨scope_eq_iff, fingerprint_eq_iff free, remembered_in_memory free, ?_, ?_⟩
  · intro hash db order createdAt unused
    exact remembered_in_database free hash unused order createdAt
  · intro folding s gen order trace s' gen' same created run
    exact answered_after_creation free same created run

end

theorem joinedKey_ne_empty : "a:b" ≠ "" := by decide

/-- The same words with quotes in one address and with backslashes before them in the other. -/
def quotedRequest : KeyedRequest :=
  ⟨defaultTenantId, "a:b", ⟨7, "Main Street 1", "Gate \"B\"", 500⟩, joinedKey_ne_empty⟩

def escapedRequest : KeyedRequest :=
  ⟨defaultTenantId, "a:b", ⟨7, "Main Street 1", "Gate \\\"B\\\"", 500⟩, joinedKey_ne_empty⟩

/-- The digests of the two canonical texts. -/
def quotedDigest : Bytes :=
  [79, 205, 234, 52, 160, 67, 104, 1, 179, 69, 204, 137, 89, 163, 168, 14, 188, 14, 99, 69, 248, 134, 19, 18,
    107, 98, 114, 94, 52, 5, 128, 100]

def escapedDigest : Bytes :=
  [156, 192, 190, 129, 176, 6, 79, 113, 70, 167, 19, 87, 76, 203, 149, 60, 218, 236, 155, 223, 98, 51, 102, 91,
    19, 238, 241, 27, 87, 198, 41, 144]

def requestDigest (message : Bytes) : Bytes :=
  if message = quotedRequest.canonicalBytes then quotedDigest else escapedDigest

theorem requestDigest_size (message : Bytes) : (requestDigest message).length = 32 := by
  unfold requestDigest
  split_ifs <;> rfl

def requestSha : Sha256 := ⟨requestDigest, fun _ _ => emptyMac, requestDigest_size, emptyMac_size⟩

theorem quoted_and_escaped_requests_conflict : quotedRequest.scope = escapedRequest.scope ∧
    quotedRequest.fingerprint requestSha ≠ escapedRequest.fingerprint requestSha ∧
    ∀ order, quotedRequest.answer escapedRequest order =
      .error (.idempotencyConflict "idempotency key was already used for another request") := by
  have apart : escapedRequest.canonicalBytes ≠ quotedRequest.canonicalBytes := by
    intro same
    have commands := canonicalBytes_inj same
    exact absurd commands (by decide)
  have free : ¬ requestSha.Collision quotedRequest.canonicalBytes escapedRequest.canonicalBytes := by
    rintro ⟨-, same⟩
    have digests : quotedDigest = escapedDigest := by simpa [requestSha, requestDigest, apart] using same
    exact absurd digests (by decide)
  obtain ⟨scopes, fingerprints, -⟩ :=
    (idempotency_identity_exact requestSha).2.2 quotedRequest escapedRequest free
  refine ⟨scopes.mpr ⟨rfl, rfl, rfl⟩, fun same => absurd (fingerprints.mp same) (by decide), fun order => ?_⟩
  exact if_neg (by decide)

end DeliveryService
