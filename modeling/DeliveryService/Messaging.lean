import DeliveryService.Script
import DeliveryService.SqlSpecs

namespace DeliveryService

structure ConsumerInboxRow where
  eventId : UUID
  eventType : String
  processedAt : Datetime
deriving DecidableEq

/-- The texts that the column `status` holds. -/
inductive NotificationStatus
  | pending
  | skipped
  | sent
deriving DecidableEq

structure NotificationRow where
  id : UUID
  eventId : UUID
  orderId : UUID
  message : String
  channel : String := "email"
  status : NotificationStatus := .pending
  providerMessageId : Option String := none
  sentAt : Option Datetime := none
deriving DecidableEq

structure NotificationPreferenceRow where
  id : UUID
  tenantId : UUID
  userId : UUID
  channel : String
  enabled : Bool := true
deriving DecidableEq

/-- The tables that the relay and the consumers work on. -/
structure MessageDatabase where
  outbox : Table OutboxRow.id
  inbox : Table ConsumerInboxRow.eventId
  notifications : Table NotificationRow.id
  preferences : Table NotificationPreferenceRow.id

inductive MessageLock
  | outbox (id : UUID)
  | inbox (eventId : UUID)
  | notification (id : UUID)
  | notificationEvent (eventId : UUID)
  | preference (id : UUID)
deriving DecidableEq

/-- What the consumers and the relay raise; `outside` is an exception of the publisher or of the provider. -/
inductive MessageError
  | valueError (message : String)
  | keyError (key : String)
  | runtimeError (message : String)
  | webhookEventConflict (message : String)
  | permanentNotification (message : String)
  | database (error : Error)
  | outside (message : String)
deriving DecidableEq

namespace MessageDatabase

def empty : MessageDatabase := ⟨.empty, .empty, .empty, .empty⟩

def addOutbox (row : OutboxRow) (db : MessageDatabase) : MessageDatabase := { db with outbox := db.outbox.insert row }

def addInbox (row : ConsumerInboxRow) (db : MessageDatabase) : MessageDatabase :=
  { db with inbox := db.inbox.insert row }

def addNotification (row : NotificationRow) (db : MessageDatabase) : MessageDatabase :=
  { db with notifications := db.notifications.insert row }

/-- `UPDATE` of the row that the session holds. -/
def putNotification (row changed : NotificationRow) (db : MessageDatabase) : MessageDatabase :=
  if db.notifications.get? row.id = some row then { db with notifications := db.notifications.put changed } else db

def putPreference (row : NotificationPreferenceRow) (db : MessageDatabase) : MessageDatabase :=
  { db with preferences := db.preferences.put row }

/-- The entries of the unique index on `event_id`. -/
def notificationsOf (db : MessageDatabase) (eventId : UUID) : List NotificationRow :=
  db.notifications.toList.filter fun row => row.eventId = eventId

def preferenceOf (db : MessageDatabase) (tenantId userId : UUID) (channel : String) :
    Option NotificationPreferenceRow :=
  db.preferences.toList.find? fun row => row.tenantId = tenantId && row.userId = userId && row.channel = channel

end MessageDatabase

abbrev MessageStatement := Statement MessageDatabase MessageLock MessageError

/-- An `INSERT` into a table of the relay or of a consumer. -/
def insertMessage (own : Checks) (against : MessageDatabase → Checks) (locks : List MessageLock)
    (write : MessageDatabase → MessageDatabase) : MessageStatement Unit :=
  fun _ _ current => match (own ++ against current).refusal with
    | some refusal => .error (.database refusal)
    | none => .ok { value := (), locks, write }

theorem insertMessage_ok {own : Checks} {against : MessageDatabase → Checks} {locks : List MessageLock}
    {write : MessageDatabase → MessageDatabase} {locked : MessageLock → Bool} {snapshot current : MessageDatabase}
    (passed : ∀ check ∈ own ++ against current, check.1 = true) :
    insertMessage own against locks write locked snapshot current = .ok { value := (), locks, write } := by
  unfold insertMessage
  rw [Checks.refusal_eq_none.mpr passed]

def insertOutboxRow (row : OutboxRow) : MessageStatement Unit :=
  insertMessage [(fitsVarchar 100 row.eventType, .dataError "event_type")]
    (fun current => [(current.outbox.get? row.id = none, .integrityError "outbox_pkey")])
    [.outbox row.id] (MessageDatabase.addOutbox row)

def insertNotification (row : NotificationRow) : MessageStatement Unit :=
  insertMessage
    [(fitsVarchar 300 row.message, .dataError "message"), (fitsVarchar 20 row.channel, .dataError "channel")]
    (fun current =>
      [(current.notifications.get? row.id = none, .integrityError "delivery_notification_pkey"),
        (current.notificationsOf row.eventId = [], .integrityError "delivery_notification_event_id_key"),
        ((current.inbox.get? row.eventId).isSome, .integrityError "delivery_notification_event_id_fkey")])
    [.notification row.id, .notificationEvent row.eventId] (MessageDatabase.addNotification row)

/-- `INSERT ... ON CONFLICT (event_id) DO NOTHING RETURNING event_id`: the entry of the primary key is locked,
so a claim waits for the end of a transaction that holds it, and a key that is taken by then returns nothing. -/
def claimInbox (row : ConsumerInboxRow) : MessageStatement (Option UUID) :=
  fun _ _ current =>
    if fitsVarchar 100 row.eventType = false then .error (.database (.dataError "event_type"))
    else if (current.inbox.get? row.eventId).isSome then .ok { value := none }
    else .ok { value := some row.eventId, locks := [.inbox row.eventId], write := MessageDatabase.addInbox row }

def selectPreference (tenantId userId : UUID) (channel : String) :
    MessageStatement (Option NotificationPreferenceRow) :=
  fun _ snapshot _ => .ok { value := snapshot.preferenceOf tenantId userId channel }

def getOutboxRow (id : UUID) : MessageStatement (Option OutboxRow) :=
  fun _ snapshot _ => .ok { value := snapshot.outbox.get? id }

/-- A change of a preference, of which there is one for each customer and channel. -/
def storePreference (row : NotificationPreferenceRow) : MessageStatement Unit :=
  insertMessage [(row.channel ∈ ["email", "telegram"], .integrityError "ck_notification_channel")]
    (fun current => [((current.preferenceOf row.tenantId row.userId row.channel).all fun stored => stored.id = row.id,
      .integrityError "uq_notification_preference")])
    [.preference row.id] (MessageDatabase.putPreference row)

/-- The flush of the columns that the provider's receipt fills. -/
def updateNotification (row changed : NotificationRow) : MessageStatement Unit :=
  fun _ _ current =>
    if (changed.providerMessageId.all (fitsVarchar 200)) = false then
      .error (.database (.dataError "provider_message_id"))
    else if current.notifications.get? row.id = some row then
      .ok { value := (), locks := [.notification row.id], write := MessageDatabase.putNotification row changed }
    else .error (.database (.staleData "delivery_notification"))

namespace MessageDatabase

/-- What a lock protects. -/
def Agree : MessageLock → MessageDatabase → MessageDatabase → Prop
  | .outbox id, a, b => a.outbox.get? id = b.outbox.get? id
  | .inbox eventId, a, b => a.inbox.get? eventId = b.inbox.get? eventId
  | .notification id, a, b => a.notifications.get? id = b.notifications.get? id
  | .notificationEvent eventId, a, b => ∀ id row, row.eventId = eventId →
      (a.notifications.get? id = some row ↔ b.notifications.get? id = some row)
  | .preference id, a, b => a.preferences.get? id = b.preferences.get? id

/-- What no commit takes back: an event keeps its text, and a claim stays. -/
structure Step (db db' : MessageDatabase) : Prop where
  outbox : ∀ id row, db.outbox.get? id = some row → ∃ row', db'.outbox.get? id = some row' ∧
    row'.eventType = row.eventType ∧ row'.payload = row.payload ∧ row'.createdAt = row.createdAt
  inbox : ∀ eventId row, db.inbox.get? eventId = some row → db'.inbox.get? eventId = some row

theorem Step.refl (db : MessageDatabase) : db.Step db :=
  ⟨fun _ row found => ⟨row, found, rfl, rfl, rfl⟩, fun _ _ found => found⟩

theorem Step.trans {a b c : MessageDatabase} (h : a.Step b) (h' : b.Step c) : a.Step c := by
  constructor
  · intro id row found
    obtain ⟨row', found', type', payload', created'⟩ := h.outbox id row found
    obtain ⟨row'', found'', type'', payload'', created''⟩ := h'.outbox id row' found'
    exact ⟨row'', found'', type''.trans type', payload''.trans payload', created''.trans created'⟩
  · exact fun eventId row found => h'.inbox eventId row (h.inbox eventId row found)

theorem step_addOutbox (db : MessageDatabase) (row : OutboxRow) : db.Step (db.addOutbox row) :=
  ⟨fun _ stored found => ⟨stored, Table.get?_insert_of_some found, rfl, rfl, rfl⟩, fun _ _ found => found⟩

theorem step_addInbox (db : MessageDatabase) (row : ConsumerInboxRow) : db.Step (db.addInbox row) :=
  ⟨fun _ stored found => ⟨stored, found, rfl, rfl, rfl⟩, fun _ _ found => Table.get?_insert_of_some found⟩

/-- The contract between concurrent transactions on messages, over data that satisfies `valid`. -/
def isolation (valid : MessageDatabase → Prop) : Isolation MessageDatabase MessageLock where
  step := Step
  agree := Agree
  step_refl := Step.refl
  step_trans := Step.trans
  agree_refl l db := by cases l <;> simp [Agree]
  agree_trans {l a b c} h h' := by
    cases l with
    | notificationEvent eventId => exact fun id row own => (h id row own).trans (h' id row own)
    | outbox | inbox | notification | preference => exact Eq.trans h h'
  valid := valid

section

variable {valid : MessageDatabase → Prop} {held : List MessageLock}

theorem covers_addOutbox {row : OutboxRow} (h : .outbox row.id ∈ held) :
    (isolation valid).Covers held (addOutbox row) := by
  intro l outside db
  cases l with
  | outbox id =>
    have other : id ≠ row.id := by
      rintro rfl
      exact outside h
    exact (Table.get?_insert_of_ne _ _ other).symm
  | notificationEvent eventId => exact fun _ _ _ => Iff.rfl
  | inbox | notification | preference => rfl

theorem covers_addInbox {row : ConsumerInboxRow} (h : .inbox row.eventId ∈ held) :
    (isolation valid).Covers held (addInbox row) := by
  intro l outside db
  cases l with
  | inbox eventId =>
    have other : eventId ≠ row.eventId := by
      rintro rfl
      exact outside h
    exact (Table.get?_insert_of_ne _ _ other).symm
  | notificationEvent eventId => exact fun _ _ _ => Iff.rfl
  | outbox | notification | preference => rfl

theorem covers_addNotification {row : NotificationRow} (id : .notification row.id ∈ held)
    (event : .notificationEvent row.eventId ∈ held) : (isolation valid).Covers held (addNotification row) := by
  intro l outside db
  cases l with
  | notification other =>
    have different : other ≠ row.id := by
      rintro rfl
      exact outside id
    exact (Table.get?_insert_of_ne _ _ different).symm
  | notificationEvent eventId =>
    intro other stored own
    have different : stored ≠ row := by
      rintro rfl
      exact outside (own ▸ event)
    simp only [addNotification, Table.insert]
    split
    next => exact Iff.rfl
    next absent =>
      rw [Table.get?_put]
      split
      next here =>
        subst here
        simp only [Option.some.injEq, Ne.symm different, iff_false]
        intro found
        simp [found] at absent
      next => exact Iff.rfl
  | outbox | inbox | preference => rfl

theorem covers_putNotification {row changed : NotificationRow} (same : changed.id = row.id)
    (sameEvent : changed.eventId = row.eventId) (id : .notification row.id ∈ held)
    (event : .notificationEvent row.eventId ∈ held) : (isolation valid).Covers held (putNotification row changed) := by
  intro l outside db
  unfold putNotification
  split
  next found =>
    cases l with
    | notification other =>
      have different : other ≠ changed.id := by
        rintro rfl
        exact outside (same ▸ id)
      exact (Table.get?_put_of_ne _ _ different).symm
    | notificationEvent eventId =>
      intro other stored own
      rw [Table.get?_put]
      split
      next here =>
        subst here
        -- neither the old nor the new row is one of another event
        have old : stored ≠ row := by
          rintro rfl
          exact outside (own ▸ event)
        have new : stored ≠ changed := by
          rintro rfl
          exact outside (own ▸ sameEvent ▸ event)
        rw [same, found]
        simp [Ne.symm old, Ne.symm new]
      next => exact Iff.rfl
    | outbox | inbox | preference => rfl
  next => exact (isolation valid).agree_refl l db

theorem covers_putPreference {row : NotificationPreferenceRow} (h : .preference row.id ∈ held) :
    (isolation valid).Covers held (putPreference row) := by
  intro l outside db
  cases l with
  | preference id =>
    have other : id ≠ row.id := by
      rintro rfl
      exact outside h
    exact (Table.get?_put_of_ne _ _ other).symm
  | notificationEvent eventId => exact fun _ _ _ => Iff.rfl
  | outbox | inbox | notification => rfl

end

end MessageDatabase

section

open MessageDatabase

variable {valid : MessageDatabase → Prop} {Q O : Type} {p : Progress MessageDatabase MessageLock Q O}
  {db : MessageDatabase}

/-- A claim finds the event taken, or takes it and keeps it to the end of the transaction. -/
theorem wp_claimInbox {S : Script.Spec (isolation valid) Q O MessageError (Option UUID)} {row : ConsumerInboxRow}
    (fits : fitsVarchar 100 row.eventType = true) (known : S.always p db)
    (taken : ∀ start now, (isolation valid).Later p.held db start → (isolation valid).Later p.held start now →
      ((p.write now).inbox.get? row.eventId).isSome = true →
      S.always { p with seen := p.seen ++ [p.write start] } now ∧ ∀ later, (isolation valid).Later p.held now later →
        S.ending (.ok none) { p with seen := p.seen ++ [p.write start] } later)
    (claimed : ∀ start now, (isolation valid).Later p.held db start → (isolation valid).Later p.held start now →
      (p.write now).inbox.get? row.eventId = none →
      S.always ⟨.inbox row.eventId :: p.held, addInbox row ∘ p.write, p.seen ++ [p.write start], p.calls⟩ now ∧
        ∀ later, (isolation valid).Later (.inbox row.eventId :: p.held) now later →
          S.ending (.ok (some row.eventId))
            ⟨.inbox row.eventId :: p.held, addInbox row ∘ p.write, p.seen ++ [p.write start], p.calls⟩ later) :
    Script.wp S (Script.perform (claimInbox row)) p db := by
  refine Script.wp_perform known fun start now locked before during _ => ?_
  unfold claimInbox
  rw [if_neg (by simp [fits])]
  by_cases found : ((p.write now).inbox.get? row.eventId).isSome = true
  · rw [if_pos found]
    refine ⟨fun l _ db => (isolation valid).agree_refl l db, ?_⟩
    exact taken start now before during found
  · rw [if_neg found]
    refine ⟨covers_addInbox (List.mem_cons_self ..), ?_⟩
    exact claimed start now before during (by simpa using found)

/-- An insertion passes its tests against the newest data and keeps its locks, or the statement fails. -/
theorem wp_insertMessage {S : Script.Spec (isolation valid) Q O MessageError Unit} {own : Checks}
    {against : MessageDatabase → Checks} {locks : List MessageLock} {write : MessageDatabase → MessageDatabase}
    (known : S.always p db) (covers : (isolation valid).Covers (locks ++ p.held) write)
    (refused : ∀ start now, (isolation valid).Later p.held db start → (isolation valid).Later p.held start now →
      (¬ ∀ check ∈ own ++ against (p.write now), check.1 = true) → ∀ refusal later,
      (isolation valid).Later p.held now later → S.ending (.error (.database refusal)) p later)
    (inserted : ∀ start now, (isolation valid).Later p.held db start → (isolation valid).Later p.held start now →
      (∀ check ∈ own ++ against (p.write now), check.1 = true) →
      S.always ⟨locks ++ p.held, write ∘ p.write, p.seen ++ [p.write start], p.calls⟩ now ∧
        ∀ later, (isolation valid).Later (locks ++ p.held) now later →
          S.ending (.ok ()) ⟨locks ++ p.held, write ∘ p.write, p.seen ++ [p.write start], p.calls⟩ later) :
    Script.wp S (Script.perform (insertMessage own against locks write)) p db := by
  refine Script.wp_perform known fun start now locked before during _ => ?_
  unfold insertMessage
  cases tested : Checks.refusal (own ++ against (p.write now)) with
  | none =>
    refine ⟨covers, ?_⟩
    exact inserted start now before during (Checks.refusal_eq_none.mp tested)
  | some refusal =>
    refine refused start now before during (fun passed => ?_) refusal
    rw [Checks.refusal_eq_none.mpr passed] at tested
    cases tested

end

end DeliveryService
