import DeliveryService.Endpoints
import DeliveryService.Security
import DeliveryService.SqlAlone
import DeliveryService.SqlTracking
import DeliveryService.Visibility

namespace DeliveryService

/-- The stores that a process can reach and the setting that chooses between them. -/
structure Stores where
  useInMemoryRepository : Bool
  repository : InMemoryOrderRepository
  trackingSnapshots : InMemoryTrackingSnapshotRepository
  database : Database
  tracking : TrackingDatabase

/-- `_load_tracking_snapshot`; the dependency of `sse_tracking` makes the same choice. -/
def Stores.loadTrackingSnapshot (stores : Stores) (orderId : UUID) : Option TrackingSnapshot :=
  if stores.useInMemoryRepository then stores.trackingSnapshots.snapshots.get? orderId
  else (stores.tracking.snapshots.get? orderId).map SqlAlchemyTrackingSnapshotRepository.snapshot

/-- The stored position of an order, or its status under the number zero. -/
def Stores.initialEvent (stores : Stores) (order : DeliveryOrder) : TrackingEvent :=
  match stores.loadTrackingSnapshot order.id with
  | some snapshot => snapshot.event
  | none => { orderId := order.id, status := order.status.value, sequence := 0 }

/-- `service.get` on the repository that the settings choose. -/
def Stores.getOrder (hash : String → Int) (stores : Stores) (orderId : UUID) : Except Error DeliveryOrder :=
  if stores.useInMemoryRepository then
    (InPlace.exec (OrderService.get inMemoryOrderRepository orderId) stores.repository).1
  else ((OrderService.get (sqlAlchemyOrderRepository hash) orderId).transact stores.database).1

/-- `current_actor` for a bearer token, with the verification of tokens as a parameter. -/
def currentActor (decodeToken : String → Except HTTPException AccessClaims) (token : String) :
    Except HTTPException Actor := do
  let claims ← decodeToken token
  actorFromClaims claims

/-- `sse_tracking` up to the snapshot that it streams first. -/
def sseTracking (hash : String → Int) (decodeToken : String → Except HTTPException AccessClaims) (stores : Stores)
    (token : String) (orderId : UUID) : Except Error TrackingEvent :=
  match currentActor decodeToken token with
  | .error refused => .error (.http refused)
  | .ok actor => do
    let order ← stores.getOrder hash orderId
    if ¬ ownsOrder actor order then .error (forbidden "order access denied")
    else pure (stores.initialEvent order)

/-- `_websocket_bearer_protocol`: the token of the first offered bearer protocol, and that protocol. -/
def websocketBearerProtocol (header : String) : Option (String × String) :=
  let offered := (header.toList.splitOn ',').map (PyText.strip PyText.isSpace)
  match offered.find? fun item => "bearer.".toList.isPrefixOf item with
  | none => none
  | some protocol =>
    if protocol.length ≤ "bearer.".length then none
    else some (String.ofList (protocol.drop "bearer.".length), String.ofList protocol)

inductive SocketAnswer
  | closed (code : Nat)
  | accepted (subprotocol : String) (initial : TrackingEvent)
deriving DecidableEq

/-- `tracking` up to the snapshot that it sends first; the order comes from the repository of the module. -/
def tracking (decodeToken : String → Except HTTPException AccessClaims) (stores : Stores) (header : String)
    (orderId : UUID) : Except Error SocketAnswer :=
  match websocketBearerProtocol header with
  | none => .ok (.closed 4401)
  | some (token, selectedProtocol) =>
    match currentActor decodeToken token with
    | .error _ => .ok (.closed 4401)
    | .ok actor =>
      match (InPlace.exec (OrderService.get inMemoryOrderRepository orderId) stores.repository).1 with
      | .error (.orderNotFound _) => .ok (.closed 4404)
      | .error raised => .error raised
      | .ok order =>
        if ¬ ownsOrder actor order then .ok (.closed 4403)
        else .ok (.accepted selectedProtocol (stores.initialEvent order))

/-- The status that the exception handlers give an answer. -/
def httpStatus {α : Type} : Except Error α → Nat
  | .ok _ => 200
  | .error (.orderNotFound _) => 404
  | .error (.http answer) => answer.statusCode
  | .error (.invalidTransition _ _) | .error (.concurrentUpdate _) | .error (.courierAlreadyBusy _)
  | .error (.idempotencyConflict _) => 409
  | .error _ => 500

/-- The socket is accepted, or closed as unknown or as denied, exactly when the stream answers so. -/
structure AdmittedAlike (socket : Except Error SocketAnswer) (stream : Except Error TrackingEvent) : Prop where
  accepted : (∃ subprotocol initial, socket = .ok (.accepted subprotocol initial)) ↔ httpStatus stream = 200
  unknown : socket = .ok (.closed 4404) ↔ httpStatus stream = 404
  denied : socket = .ok (.closed 4403) ↔ httpStatus stream = 403

/-- Both repositories lack the order, or both hold it and decide alike on its owner. -/
def HeldAlike (stores : Stores) (actor : Actor) (orderId : UUID) : Prop :=
  (stores.repository.orders.get? orderId).map (ownsOrder actor) =
    (stores.database.order? orderId).map (ownsOrder actor)

section

variable {decodeToken : String → Except HTTPException AccessClaims} {header token selected : String} {actor : Actor}

/-- The status for an order that is unknown, stored but not owned, or owned. -/
def admission : Option Bool → Nat
  | none => 404
  | some false => 403
  | some true => 200

theorem httpStatus_sseTracking (hash : String → Int) (stores : Stores) (orderId : UUID)
    (known : currentActor decodeToken token = .ok actor) :
    httpStatus (sseTracking hash decodeToken stores token orderId) = admission
      (((if stores.useInMemoryRepository then stores.repository.orders.get? orderId
        else stores.database.order? orderId)).map (ownsOrder actor)) := by
  have found : stores.getOrder hash orderId = (if stores.useInMemoryRepository then
      stores.repository.orders.get? orderId else stores.database.order? orderId).elim
      (.error (.orderNotFound orderId)) .ok := by
    unfold Stores.getOrder
    split_ifs
    · rw [exec_get_order]
      cases stores.repository.orders.get? orderId <;> rfl
    · have read : ((sqlAlchemyOrderRepository hash).get orderId).runAlone stores.database =
          (.ok (stores.database.order? orderId), stores.database) := runAlone_get orderId stores.database
      rw [OrderService.get, Prog.transact_eq, Prog.runAlone_bind, read]
      cases stores.database.order? orderId <;> rfl
  simp only [sseTracking, known, found]
  cases (if stores.useInMemoryRepository then stores.repository.orders.get? orderId
      else stores.database.order? orderId) with
  | none => rfl
  | some order =>
    cases owner : ownsOrder actor order with
    | true => simp [admission, httpStatus, bind, Except.bind, owner, pure, Except.pure]
    | false => simp [admission, httpStatus, bind, Except.bind, owner, forbidden]

/-- How the socket answers for an order that is unknown, stored but not owned, or owned. -/
theorem tracking_admission (stores : Stores) (orderId : UUID)
    (offered : websocketBearerProtocol header = some (token, selected))
    (known : currentActor decodeToken token = .ok actor) :
    ((∃ subprotocol initial, tracking decodeToken stores header orderId = .ok (.accepted subprotocol initial)) ↔
      (stores.repository.orders.get? orderId).map (ownsOrder actor) = some true) ∧
    (tracking decodeToken stores header orderId = .ok (.closed 4404) ↔
      (stores.repository.orders.get? orderId).map (ownsOrder actor) = none) ∧
    (tracking decodeToken stores header orderId = .ok (.closed 4403) ↔
      (stores.repository.orders.get? orderId).map (ownsOrder actor) = some false) := by
  simp only [tracking, offered, known, exec_get_order]
  cases stores.repository.orders.get? orderId with
  | none => simp
  | some order =>
    cases owner : ownsOrder actor order with
    | true => simp [owner]
    | false => simp [owner]

theorem admission_iff (owned : Option Bool) :
    (admission owned = 200 ↔ owned = some true) ∧ (admission owned = 404 ↔ owned = none) ∧
      (admission owned = 403 ↔ owned = some false) := by
  rcases owned with _ | _ | _ <;> simp [admission]

theorem eq_of_same_admission {owned owned' : Option Bool} (accepted : owned = some true ↔ owned' = some true)
    (unknown : owned = none ↔ owned' = none) (denied : owned = some false ↔ owned' = some false) : owned = owned' := by
  rcases owned with _ | _ | _
  · exact (unknown.mp rfl).symm
  · exact (denied.mp rfl).symm
  · exact (accepted.mp rfl).symm

/-- Socket and stream admit the same clients exactly if the process keeps its orders in memory, or its own
repository happens to decide as the database does. With the empty repository of a process that uses the
database, only unknown orders are answered alike. -/
theorem admitted_alike_iff (hash : String → Int) (stores : Stores) (orderId : UUID)
    (offered : websocketBearerProtocol header = some (token, selected))
    (known : currentActor decodeToken token = .ok actor) :
    (AdmittedAlike (tracking decodeToken stores header orderId) (sseTracking hash decodeToken stores token orderId) ↔
      stores.useInMemoryRepository = true ∨ HeldAlike stores actor orderId) ∧
    (stores.useInMemoryRepository = false → stores.repository = .empty →
      (AdmittedAlike (tracking decodeToken stores header orderId) (sseTracking hash decodeToken stores token orderId) ↔
        stores.database.order? orderId = none)) := by
  obtain ⟨accepted, unknown, denied⟩ := tracking_admission stores orderId offered known
  have stream := httpStatus_sseTracking hash stores orderId known
  have alike : AdmittedAlike (tracking decodeToken stores header orderId)
      (sseTracking hash decodeToken stores token orderId) ↔
      stores.useInMemoryRepository = true ∨ HeldAlike stores actor orderId := by
    generalize chosen : (if stores.useInMemoryRepository then stores.repository.orders.get? orderId
      else stores.database.order? orderId) = order at stream
    obtain ⟨ok, missing, refused⟩ := admission_iff (order.map (ownsOrder actor))
    have held : AdmittedAlike (tracking decodeToken stores header orderId)
        (sseTracking hash decodeToken stores token orderId) ↔
        (stores.repository.orders.get? orderId).map (ownsOrder actor) = order.map (ownsOrder actor) := by
      constructor
      · rintro ⟨accepted', unknown', denied'⟩
        rw [stream] at accepted' unknown' denied'
        exact eq_of_same_admission (accepted.symm.trans (accepted'.trans ok))
          (unknown.symm.trans (unknown'.trans missing)) (denied.symm.trans (denied'.trans refused))
      · intro same
        refine ⟨?_, ?_, ?_⟩
        · rw [stream, accepted, ok, same]
        · rw [stream, unknown, missing, same]
        · rw [stream, denied, refused, same]
    rw [held, ← chosen]
    cases stores.useInMemoryRepository with
    | true => simp
    | false => simp [HeldAlike]
  refine ⟨alike, fun database empty => ?_⟩
  rw [alike, database, HeldAlike, empty]
  simp [InMemoryOrderRepository.empty, eq_comm]

end

/-- Tokens of the customer who owns the listed orders. -/
def decodeListed (_ : String) : Except HTTPException AccessClaims :=
  .ok ⟨"customer:00000000-0000-0000-0000-000000000007", "00000000-0000-0000-0000-000000000001"⟩

theorem decodeListed_actor (token : String) :
    currentActor decodeListed token = .ok ⟨7, .customer, defaultTenantId⟩ := by
  have claims : actorFromClaims ⟨"customer:00000000-0000-0000-0000-000000000007",
      "00000000-0000-0000-0000-000000000001"⟩ = .ok ⟨7, .customer, defaultTenantId⟩ := by decide +kernel
  exact claims

theorem bearer_offered : websocketBearerProtocol "chat, bearer.token" = some ("token", "bearer.token") := by
  decide +kernel

theorem admitted_alike_in_memory : AdmittedAlike
    (tracking decodeListed ⟨true, InMemoryOrderRepository.empty.put (listedOrder 1), .empty, .empty, .empty⟩
      "chat, bearer.token" 1)
    (sseTracking (fun _ => 0) decodeListed
      ⟨true, InMemoryOrderRepository.empty.put (listedOrder 1), .empty, .empty, .empty⟩ "token" 1) :=
  ((admitted_alike_iff (fun _ => 0) _ 1 bearer_offered (decodeListed_actor "token")).1).mpr (.inl rfl)

/-- A process that keeps its orders in the database streams an order to its owner and closes the socket as if
the order did not exist. -/
theorem socket_misses_stored_order : ¬ ∀ (hash : String → Int) decodeToken stores header token selected actor orderId,
    websocketBearerProtocol header = some (token, selected) → currentActor decodeToken token = .ok actor →
    AdmittedAlike (tracking decodeToken stores header orderId) (sseTracking hash decodeToken stores token orderId) := by
  intro all
  have alike := all (fun _ => 0) decodeListed ⟨false, .empty, .empty,
    Database.addOrder (SqlAlchemyOrderRepository.rowOf (listedOrder 1)) .empty, .empty⟩ "chat, bearer.token"
    "token" _ _ 1
    bearer_offered (decodeListed_actor "token")
  have streamed := alike.accepted.mpr (by decide +kernel)
  obtain ⟨subprotocol, initial, accepted⟩ := streamed
  have closed : tracking decodeListed ⟨false, .empty, .empty,
      Database.addOrder (SqlAlchemyOrderRepository.rowOf (listedOrder 1)) .empty, .empty⟩ "chat, bearer.token" 1 =
      .ok (.closed 4404) := by decide +kernel
  rw [closed] at accepted
  cases accepted

end DeliveryService
