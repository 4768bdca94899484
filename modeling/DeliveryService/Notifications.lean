import DeliveryService.Consumers
import DeliveryService.Site

namespace DeliveryService

/-- The transactions of the notification worker and those that change a preference. -/
inductive NotificationJob
  | dispatch (delivery : NotificationDelivery)
  | process (notificationId : UUID) (now : Datetime) (eventId : UUID)
  | setPreference (row : NotificationPreferenceRow)

namespace NotificationJob

open Script in
def body : NotificationJob → Consumer Bool
  | .dispatch delivery => dispatchOrderCreatedNotificationOnce delivery
  | .process notificationId now eventId => processNotificationEvent notificationId now eventId
  | .setPreference row => do
    perform (storePreference row)
    pure false

def eventId? : NotificationJob → Option UUID
  | .dispatch delivery => some delivery.eventId
  | .process _ _ eventId => some eventId
  | .setPreference _ => none

end NotificationJob

/-- The receipt that the provider has issued when a call ends so. -/
def Sending.receipt? : Sending → Option ProviderReceipt
  | .received receipt => some receipt
  | .lost receipt _ => some receipt
  | .refused _ => none

/-- A provider that keeps its receipts under the idempotency keys and returns the same one for a repeated key. -/
def idempotentProvider : Service (List (String × ProviderReceipt)) SendRequest Sending where
  admits held request sending := ∀ receipt, sending.receipt? = some receipt →
    ∀ earlier, (request.idempotencyKey, earlier) ∈ held → earlier = receipt
  after held request sending := match sending.receipt? with
    | some receipt =>
      if held.any fun issued => issued.1 = request.idempotencyKey then held
      else held ++ [(request.idempotencyKey, receipt)]
    | none => held

/-- Transactions on notifications need no more than their locks. -/
abbrev notificationIsolation : Isolation MessageDatabase MessageLock := MessageDatabase.isolation fun _ => True

abbrev ConsumerProgress := Progress MessageDatabase MessageLock SendRequest Sending

/-- The statement with this number has read that the customer of the event does not refuse the channel. -/
def ReadEnabled (n : Nat) (delivery : NotificationDelivery) (seen : List MessageDatabase) : Prop :=
  ∃ orderId tenantId customerId snapshot,
    orderCreatedIds delivery.eventType delivery.payload = .ok (orderId, tenantId, customerId) ∧
    seen[n]? = some snapshot ∧
    (snapshot.preferenceOf tenantId customerId delivery.channel).all NotificationPreferenceRow.enabled = true

/-- The preference as the transaction has read it allows the call. -/
def NotificationJob.Allowed (seen : List MessageDatabase) : NotificationJob → Prop
  | .dispatch delivery => ReadEnabled 1 delivery seen
  | .process notificationId now eventId => ∃ snapshot row, seen[0]? = some snapshot ∧
      snapshot.outbox.get? eventId = some row ∧ ReadEnabled 2 (row.delivery notificationId now) seen
  | .setPreference _ => False

/-- The transaction has claimed the event and leaves one notification of it, with the receipt of its call if it
was sent. -/
def Won (eventId : UUID) (p : ConsumerProgress) (db : MessageDatabase) : Prop :=
  ∃ claim row, db.inbox.get? eventId = none ∧ db.notifications.get? row.id = none ∧
    (∀ id other, db.notifications.get? id = some other → other.eventId ≠ eventId) ∧ row.eventId = eventId ∧
    (∀ id, (p.write db).inbox.get? id = if id = eventId then some claim else db.inbox.get? id) ∧
    (∀ id, (p.write db).notifications.get? id = if id = row.id then some row else db.notifications.get? id) ∧
    (p.write db).outbox = db.outbox ∧
    (row.status = .sent → ∃ request receipt, (request, .received receipt) ∈ p.calls ∧
      row.providerMessageId = some receipt.messageId)

/-- A call of the provider carries the id of the event as its key and is made under an enabled preference. -/
def NotificationJob.spec (job : NotificationJob) :
    Script.Spec notificationIsolation SendRequest Sending MessageError Bool where
  always p _ := p.calls ≠ [] → job.Allowed p.seen ∧
    ∀ call ∈ p.calls, ∀ eventId ∈ job.eventId?, call.1.idempotencyKey = eventId.str
  ending r p db := match r with
    | .ok true => ∃ eventId ∈ job.eventId?, Won eventId p db
    | .ok false => (p.write db).inbox = db.inbox ∧ (p.write db).notifications = db.notifications ∧
        (p.write db).outbox = db.outbox
    | .error _ => True
  stable _ known := known

/-- Nobody has claimed the event, and there is no notification of it and none with the new id. -/
structure Unnotified (eventId notificationId : UUID) (db : MessageDatabase) : Prop where
  unclaimed : db.inbox.get? eventId = none
  unused : db.notifications.get? notificationId = none
  first : ∀ id row, db.notifications.get? id = some row → row.eventId ≠ eventId

section

variable {db db' : MessageDatabase} {held : List MessageLock} {eventId notificationId : UUID}

theorem unnotified_of_empty (unclaimed : db.inbox.get? eventId = none)
    (unused : db.notifications.get? notificationId = none) (none : db.notificationsOf eventId = []) :
    Unnotified eventId notificationId db := by
  refine ⟨unclaimed, unused, fun other row found mine => ?_⟩
  have mem : row ∈ db.notificationsOf eventId :=
    mem_notificationsOf.mpr ⟨(Table.key_of_get? found).symm ▸ found, mine⟩
  rw [none] at mem
  cases mem

theorem Unnotified.later (free : Unnotified eventId notificationId db) (inbox : .inbox eventId ∈ held)
    (id : .notification notificationId ∈ held) (event : .notificationEvent eventId ∈ held)
    (later : notificationIsolation.Later held db db') : Unnotified eventId notificationId db' := by
  have sameInbox : db.inbox.get? eventId = db'.inbox.get? eventId := later.agree inbox
  have sameId : db.notifications.get? notificationId = db'.notifications.get? notificationId := later.agree id
  refine ⟨sameInbox ▸ free.unclaimed, sameId ▸ free.unused, fun other row found own => ?_⟩
  exact free.first other row (((later.agree event) other row own).mpr found) own

theorem get?_notified {claim : ConsumerInboxRow} {n : NotificationRow} (free : Unnotified eventId n.id db)
    (own : claim.eventId = eventId) :
    (∀ id, ((db.addInbox claim).addNotification n).inbox.get? id =
        if id = eventId then some claim else db.inbox.get? id) ∧
    (∀ id, ((db.addInbox claim).addNotification n).notifications.get? id =
        if id = n.id then some n else db.notifications.get? id) := by
  have absent : db.inbox.get? claim.eventId = none := own ▸ free.unclaimed
  constructor
  · intro id
    simp only [MessageDatabase.addNotification, MessageDatabase.addInbox, Table.insert_of_absent absent, Table.get?_put,
      own]
  · intro id
    simp only [MessageDatabase.addNotification, MessageDatabase.addInbox, Table.insert_of_absent free.unused,
      Table.get?_put]

end

/-- A transaction that has claimed the event and inserted its notification has won, whatever it writes into the row. -/
theorem won_of_notified {eventId : UUID} {p : ConsumerProgress} {db : MessageDatabase} {claim : ConsumerInboxRow}
    {n : NotificationRow} (row : NotificationRow) (free : Unnotified eventId n.id db) (own : claim.eventId = eventId)
    (id : row.id = n.id) (event : row.eventId = eventId)
    (inbox : (p.write db).inbox = ((db.addInbox claim).addNotification n).inbox)
    (outbox : (p.write db).outbox = db.outbox)
    (notifications : ∀ id, (p.write db).notifications.get? id =
      if id = n.id then some row else ((db.addInbox claim).addNotification n).notifications.get? id)
    (sent : row.status = .sent → ∃ request receipt, (request, .received receipt) ∈ p.calls ∧
      row.providerMessageId = some receipt.messageId) : Won eventId p db := by
  obtain ⟨claims, rows⟩ := get?_notified free own
  refine ⟨claim, row, free.unclaimed, id ▸ free.unused, free.first, event, ?_, fun other => ?_, outbox, sent⟩
  · rw [inbox]
    exact claims
  · rw [notifications, id]
    split
    next => rfl
    next different => rw [rows, if_neg different]

theorem won_of_sent {eventId : UUID} {p : ConsumerProgress} {db : MessageDatabase} {claim : ConsumerInboxRow}
    {n : NotificationRow} (row : NotificationRow) (free : Unnotified eventId n.id db) (own : claim.eventId = eventId)
    (id : row.id = n.id) (event : row.eventId = eventId)
    (write : p.write = MessageDatabase.putNotification n row ∘ MessageDatabase.addNotification n ∘
      MessageDatabase.addInbox claim)
    (sent : ∃ request receipt, (request, .received receipt) ∈ p.calls ∧
      row.providerMessageId = some receipt.messageId) : Won eventId p db := by
  have stored : ((db.addInbox claim).addNotification n).notifications.get? n.id = some n := by
    rw [(get?_notified free own).2, if_pos rfl]
  -- the row that the transaction has inserted is still its own, so the update finds it
  have written : p.write db = { (db.addInbox claim).addNotification n with
      notifications := ((db.addInbox claim).addNotification n).notifications.put row } := by
    rw [write]
    exact if_pos stored
  refine won_of_notified row free own id event ?_ ?_ (fun other => ?_) fun _ => sent
  · rw [written]
  · rw [written]
    rfl
  · rw [written, ← id]
    exact Table.get?_put _ _ other

theorem won_of_unsent {eventId : UUID} {p : ConsumerProgress} {db : MessageDatabase} {claim : ConsumerInboxRow}
    {n : NotificationRow} (free : Unnotified eventId n.id db) (own : claim.eventId = eventId)
    (event : n.eventId = eventId) (unsent : n.status ≠ .sent)
    (write : p.write = MessageDatabase.addNotification n ∘ MessageDatabase.addInbox claim) : Won eventId p db := by
  refine won_of_notified n free own rfl event ?_ ?_ (fun other => ?_) fun sent => absurd sent unsent
  · rw [write]
    rfl
  · rw [write]
    rfl
  · rw [write]
    split
    next here => exact ((get?_notified free own).2 other).trans (if_pos here)
    next => rfl

/-- What the rest of a specification has to follow from, for a delivery whose transaction started with the given
snapshots. -/
structure Carries (S : Script.Spec notificationIsolation SendRequest Sending MessageError Bool)
    (earlier : List MessageDatabase) (delivery : NotificationDelivery) : Prop where
  silent : ∀ p db, p.calls = [] → S.always p db
  called : ∀ p db, earlier <+: p.seen → ReadEnabled (earlier.length + 1) delivery p.seen →
    (∀ call ∈ p.calls, call.1.idempotencyKey = delivery.eventId.str) → S.always p db
  raised : ∀ e p db, S.ending (.error e) p db
  lost : ∀ p db, p.write = id → S.ending (.ok false) p db
  won : ∀ p db, Won delivery.eventId p db → S.ending (.ok true) p db

section

variable {S : Script.Spec notificationIsolation SendRequest Sending MessageError Bool} {earlier : List MessageDatabase}
  {delivery : NotificationDelivery} {p : ConsumerProgress} {db : MessageDatabase}

theorem ReadEnabled.append {n : Nat} {seen : List MessageDatabase} (read : ReadEnabled n delivery seen)
    (snapshot : MessageDatabase) : ReadEnabled n delivery (seen ++ [snapshot]) := by
  obtain ⟨orderId, tenantId, customerId, old, decoded, found, enabled⟩ := read
  obtain ⟨bound, same⟩ := List.getElem?_eq_some_iff.mp found
  refine ⟨orderId, tenantId, customerId, old, decoded, ?_, enabled⟩
  rw [List.getElem?_append_left bound, found]

theorem eventType_of_decoded {eventType : String} {payload : Payload} {ids : UUID × UUID × UUID}
    (decoded : orderCreatedIds eventType payload = .ok ids) : eventType = "order.created" := by
  by_contra other
  simp [orderCreatedIds, other, bind, Except.bind] at decoded

/-- The call of the provider, with the claim and the notification pending. -/
theorem wp_send (carries : Carries S earlier delivery) (orderId customerId : UUID) {claim : ConsumerInboxRow}
    (own : claim.eventId = delivery.eventId)
    (write : p.write = MessageDatabase.addNotification (delivery.notification orderId true) ∘
      MessageDatabase.addInbox claim)
    (inbox : .inbox delivery.eventId ∈ p.held) (id : .notification delivery.notificationId ∈ p.held)
    (event : .notificationEvent delivery.eventId ∈ p.held)
    (free : Unnotified delivery.eventId delivery.notificationId db) (calls : p.calls = [])
    (started : earlier <+: p.seen) (read : ReadEnabled (earlier.length + 1) delivery p.seen) :
    Script.wp S (delivery.send orderId customerId) p db := by
  have valid : notificationIsolation.valid db := trivial
  refine Script.wp_bind valid (Script.wp_request (carries.silent p db calls) fun o now before => ?_)
  have key : ∀ call ∈ (p.answer (delivery.sendRequest orderId customerId) o).calls,
      call.1.idempotencyKey = delivery.eventId.str := by
    intro call mem
    simp only [Progress.answer, calls, List.nil_append, List.mem_singleton] at mem
    rw [mem]
    rfl
  have known : ∀ db, S.always (p.answer (delivery.sendRequest orderId customerId) o) db :=
    fun db => carries.called _ db started read key
  refine ⟨known now, fun later after => ?_⟩
  cases o with
  | lost receipt message => exact Script.wp_raise (known later) fun _ _ => carries.raised _ _ _
  | refused message => exact Script.wp_raise (known later) fun _ _ => carries.raised _ _ _
  | received receipt =>
    refine Script.wp_bind trivial (Script.wp_perform (known later) fun start now' locked before' during _ => ?_)
    have whole := ((before.trans after).trans before').trans during
    simp only [updateNotification]
    split_ifs
    next => exact fun _ _ => carries.raised _ _ _
    next =>
      have locks : ∀ {l}, l ∈ p.held → l ∈ [.notification delivery.notificationId] ++ p.held :=
        fun hold => List.mem_append_right _ hold
      refine ⟨MessageDatabase.covers_putNotification rfl rfl (locks id) (locks event), ?_, fun last after' => ?_⟩
      · exact carries.called _ _ (started.trans (List.prefix_append _ _)) (read.append _) key
      refine Script.wp_pure ?_ fun db' final => carries.won _ _ ?_
      · exact carries.called _ _ (started.trans (List.prefix_append _ _)) (read.append _) key
      have free' := (free.later inbox id event whole).later (locks inbox) (locks id) (locks event) (after'.trans final)
      refine won_of_sent (n := delivery.notification orderId true) (delivery.sentNotification orderId receipt)
        free' own rfl rfl ?_ ⟨delivery.sendRequest orderId customerId, receipt, ?_, rfl⟩
      · rw [← write]
        rfl
      · exact List.mem_append_right _ (List.mem_singleton.mpr rfl)
    next => exact fun _ _ => carries.raised _ _ _

theorem wp_apply (carries : Carries S earlier delivery) {orderId tenantId customerId : UUID} {claim : ConsumerInboxRow}
    (decoded : orderCreatedIds delivery.eventType delivery.payload = .ok (orderId, tenantId, customerId))
    (own : claim.eventId = delivery.eventId) (write : p.write = MessageDatabase.addInbox claim)
    (inbox : .inbox delivery.eventId ∈ p.held) (unclaimed : db.inbox.get? delivery.eventId = none)
    (calls : p.calls = []) (started : earlier <+: p.seen) (one : p.seen.length = earlier.length + 1) :
    Script.wp S (delivery.apply orderId tenantId customerId) p db := by
  refine Script.wp_bind trivial (Script.wp_read
    (f := fun db => db.preferenceOf tenantId customerId delivery.channel) (carries.silent p db calls)
    (fun _ _ _ => rfl) fun start now before during => ⟨carries.silent _ _ calls, fun later after => ?_⟩)
  have read : (start.preferenceOf tenantId customerId delivery.channel).all NotificationPreferenceRow.enabled = true →
      ReadEnabled (earlier.length + 1) delivery (p.seen ++ [p.write start]) := by
    intro enabled
    refine ⟨orderId, tenantId, customerId, p.write start, decoded, ?_, ?_⟩
    · rw [← one, List.getElem?_concat_length]
    · rw [write]
      exact enabled
  have same : (p.write start).preferenceOf tenantId customerId delivery.channel =
      start.preferenceOf tenantId customerId delivery.channel := by
    rw [write]
    rfl
  change Script.wp S _ _ _
  simp only [same]
  generalize (start.preferenceOf tenantId customerId delivery.channel).all NotificationPreferenceRow.enabled = enabled
    at read
  have locks : ∀ {l}, l ∈ p.held →
      l ∈ [.notification delivery.notificationId, .notificationEvent delivery.eventId] ++ p.held :=
    fun hold => List.mem_append_right _ hold
  have id : .notification delivery.notificationId ∈
      [.notification delivery.notificationId, .notificationEvent delivery.eventId] ++ p.held := List.mem_cons_self ..
  have event : .notificationEvent delivery.eventId ∈
      [.notification delivery.notificationId, .notificationEvent delivery.eventId] ++ p.held :=
    List.mem_cons_of_mem _ (List.mem_cons_self ..)
  refine Script.wp_bind trivial (wp_insertMessage (carries.silent _ _ calls)
    (MessageDatabase.covers_addNotification id event) (fun _ _ _ _ _ _ _ _ => carries.raised _ _ _) ?_)
  intro start' now' before' during' passed
  have free : Unnotified delivery.eventId delivery.notificationId now' := by
    have same' : db.inbox.get? delivery.eventId = now'.inbox.get? delivery.eventId :=
      ((((before.trans during).trans after).trans before').trans during').agree inbox
    simp only [write, List.cons_append, List.nil_append, List.forall_mem_cons, decide_eq_true_eq] at passed
    obtain ⟨_, _, unused, none, _⟩ := passed
    exact unnotified_of_empty (same' ▸ unclaimed) unused none
  refine ⟨carries.silent _ _ calls, fun later' after' => ?_⟩
  have free' := free.later (locks inbox) id event after'
  have started' := started.trans
    ((List.prefix_append p.seen [p.write start]).trans (List.prefix_append _ [p.write start']))
  cases enabled with
  | true =>
    refine wp_send carries orderId customerId own ?_ (locks inbox) id event free' calls started' ?_
    · rw [← write]
    · exact (read rfl).append _
  | false =>
    refine Script.wp_pure (carries.silent _ _ calls) fun db' final => carries.won _ _ ?_
    have free'' := free'.later (locks inbox) id event final
    refine won_of_unsent (n := delivery.notification orderId false) free'' own rfl ?_ ?_
    · intro sent
      cases sent
    · rw [← write]

theorem wp_dispatch (carries : Carries S earlier delivery) (write : p.write = id) (calls : p.calls = [])
    (seen : p.seen = earlier) : Script.wp S (dispatchOrderCreatedNotificationOnce delivery) p db := by
  have valid : notificationIsolation.valid db := trivial
  refine Script.wp_bind valid ?_
  cases decoded : orderCreatedIds delivery.eventType delivery.payload with
  | error e => exact Script.wp_raise (carries.silent _ _ calls) fun _ _ => carries.raised _ _ _
  | ok ids =>
    obtain ⟨orderId, tenantId, customerId⟩ := ids
    refine Script.wp_pure (carries.silent _ _ calls) fun later after => ?_
    have fits : fitsVarchar 100 delivery.eventType = true := by
      have type : delivery.eventType = "order.created" := eventType_of_decoded decoded
      rw [type]
      decide
    refine Script.wp_bind trivial (wp_claimInbox fits (carries.silent _ _ calls) ?_ ?_)
    · intro start now before during taken
      refine ⟨carries.silent _ _ calls, fun last after' => ?_⟩
      exact Script.wp_pure (carries.silent _ _ calls) fun db' _ => carries.lost _ _ write
    · intro start now before during free
      refine ⟨carries.silent _ _ calls, fun last after' => ?_⟩
      rw [write] at free
      have unclaimed : last.inbox.get? delivery.eventId = none :=
        (after'.agree (List.mem_cons_self ..)).symm.trans free
      have own : (⟨delivery.eventId, delivery.eventType, delivery.now⟩ : ConsumerInboxRow).eventId = delivery.eventId :=
        rfl
      refine wp_apply carries decoded own ?_ (List.mem_cons_self ..) unclaimed calls ?_ ?_
      · rw [write]
        rfl
      · rw [seen]
        exact List.prefix_append _ _
      · simp [seen]

end

theorem always_of_silent (job : NotificationJob) {p : ConsumerProgress} (db : MessageDatabase) (silent : p.calls = []) :
    job.spec.always p db := fun some => absurd silent some

theorem lost_of_untouched (job : NotificationJob) {p : ConsumerProgress} (db : MessageDatabase) (write : p.write = id) :
    job.spec.ending (.ok false) p db := by
  simp only [NotificationJob.spec, write]
  exact ⟨rfl, rfl, rfl⟩

theorem notification_verified (job : NotificationJob) (db : MessageDatabase) : Script.wp job.spec job.body {} db := by
  cases job with
  | dispatch delivery =>
    refine wp_dispatch ⟨fun p db => always_of_silent _ db, ?_, fun _ _ _ => trivial, fun p db => lost_of_untouched _ db,
      ?_⟩ rfl rfl rfl
    · exact fun p db _ read key _ => ⟨read, fun call mem eventId own => (Option.some.inj own) ▸ key call mem⟩
    · exact fun p db won => ⟨delivery.eventId, rfl, won⟩
  | process notificationId now eventId =>
    refine Script.wp_bind trivial (Script.wp_read (f := fun db => db.outbox.get? eventId) (always_of_silent _ db rfl)
      (fun _ _ _ => rfl) fun start now' before during => ⟨always_of_silent _ now' rfl, fun later after => ?_⟩)
    cases found : start.outbox.get? eventId with
    | none =>
      simp only [Script.Spec.before, id, found]
      exact Script.wp_raise (always_of_silent _ later rfl) fun _ _ => trivial
    | some row =>
      simp only [Script.Spec.before, id, found]
      have own : row.id = eventId := Table.key_of_get? found
      refine wp_dispatch ⟨fun p db => always_of_silent _ db, ?_, fun _ _ _ => trivial,
        fun p db => lost_of_untouched _ db,
        ?_⟩ rfl rfl rfl
      · intro p db started read key _
        obtain ⟨rest, same⟩ := started
        refine ⟨⟨start, row, ?_, found, read⟩, fun call mem other mine => ?_⟩
        · rw [← same]
          rfl
        · rw [← Option.some.inj mine, ← own]
          exact key call mem
      · exact fun p db won => ⟨eventId, rfl, own ▸ won⟩
  | setPreference row =>
    refine Script.wp_bind trivial (wp_insertMessage (always_of_silent _ db rfl) ?_ (fun _ _ _ _ _ _ _ _ => trivial) ?_)
    · exact MessageDatabase.covers_putPreference (List.mem_cons_self ..)
    · intro start now before during _
      refine ⟨always_of_silent _ now rfl, fun later after => ?_⟩
      exact Script.wp_pure (always_of_silent _ later rfl) fun db' _ => ⟨rfl, rfl, rfl⟩

end DeliveryService
