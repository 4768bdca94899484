import DeliveryService.Messaging
import DeliveryService.Site

namespace DeliveryService

/-- `==` of Python, which compares an integer with a float by value. -/
def JsonValue.same : JsonValue → JsonValue → Bool
  | .null, .null => true
  | .int m, .int n => m = n
  | .int n, .float x => x = .finite n
  | .float x, .int n => x = .finite n
  | .float x, .float y => x = y && x ≠ .nan
  | .str a, .str b => a = b
  | _, _ => false

/-- `==` of two dictionaries: the same keys with equal values, in any order. -/
def Payload.same (a b : Payload) : Bool :=
  (a ++ b).all fun field => match a.get? field.1, b.get? field.1 with
    | some x, some y => x.same y
    | _, _ => false

structure PaymentData where
  orderId : UUID
  paymentId : String

structure PaymentWebhookEnvelope where
  id : UUID
  data : PaymentData

/-- The payload that `payment_webhook` hands to either store. -/
def PaymentWebhookEnvelope.durablePayload (sha256Hex : List UInt8 → String) (envelope : PaymentWebhookEnvelope)
    (rawBody : List UInt8) : Payload :=
  [("event_id", .str envelope.id.str), ("event_type", .str "payment.completed"),
    ("order_id", .str envelope.data.orderId.str), ("payment_id", .str envelope.data.paymentId),
    ("payload_sha256", .str (sha256Hex rawBody))]

/-- One delivery of a payment event, with the moments that the rows get. -/
structure WebhookDelivery where
  eventId : UUID
  payload : Payload
  processedAt : Datetime
  createdAt : Datetime

def webhookConflict : MessageError := .webhookEventConflict "event ID was reused with another payload"

/-- A transaction of this process only, without calls of a service. -/
abbrev LocalScript := Script MessageDatabase MessageLock Empty Empty MessageError

namespace WebhookDelivery

variable (delivery : WebhookDelivery)

def claim : ConsumerInboxRow := ⟨delivery.eventId, "payment.webhook", delivery.processedAt⟩

def acceptedRow : OutboxRow where
  id := delivery.eventId
  eventType := "payment.webhook.accepted"
  payload := delivery.payload
  createdAt := delivery.createdAt

end WebhookDelivery

open Script in
def acceptPaymentWebhookOnce (delivery : WebhookDelivery) : LocalScript Bool := do
  match ← perform (claimInbox delivery.claim) with
  | none =>
    match ← perform (getOutboxRow delivery.eventId) with
    | none => raise webhookConflict
    | some existing =>
      if existing.eventType ≠ "payment.webhook.accepted" ∨ existing.payload.same delivery.payload = false then
        raise webhookConflict
      else pure false
  | some _ =>
    perform (insertOutboxRow delivery.acceptedRow)
    pure true

structure InMemoryWebhookInbox where
  records : Dict UUID Payload := .empty

namespace InMemoryWebhookInbox

def accept (inbox : InMemoryWebhookInbox) (eventId : UUID) (payload : Payload) :
    Except MessageError Bool × InMemoryWebhookInbox :=
  match inbox.records.get? eventId with
  | none => (.ok true, { inbox with records := inbox.records.set eventId payload })
  | some existing => if existing.same payload = false then (.error webhookConflict, inbox) else (.ok false, inbox)

end InMemoryWebhookInbox

section

variable (ids : Set UUID)

/-- The ids that belong to payment events: a claimed one has its accepted row, and an unclaimed one has no row. -/
structure WebhooksValid (db : MessageDatabase) : Prop where
  claimed : ∀ eventId ∈ ids, (db.inbox.get? eventId).isSome = true →
    ∃ row, db.outbox.get? eventId = some row ∧ row.eventType = "payment.webhook.accepted"
  unclaimed : ∀ eventId ∈ ids, db.inbox.get? eventId = none → db.outbox.get? eventId = none

/-- Deliveries of the events with these ids. -/
abbrev OwnWebhook := { delivery : WebhookDelivery // delivery.eventId ∈ ids }

/-- The event was accepted with this payload. -/
def AcceptedAs (db : MessageDatabase) (eventId : UUID) (payload : Payload) : Prop :=
  ∃ row, db.outbox.get? eventId = some row ∧ row.eventType = "payment.webhook.accepted" ∧ row.payload = payload

abbrev webhookIsolation : Isolation MessageDatabase MessageLock := MessageDatabase.isolation (WebhooksValid ids)

/-- A call accepts a new event, answers that it has the event with an equal payload, or raises because it has
it with another one. -/
def webhookSpec (delivery : WebhookDelivery) :
    Script.Spec (webhookIsolation ids) Empty Empty MessageError Bool where
  always _ _ := True
  ending r p db := match r with
    | .ok true => db.inbox.get? delivery.eventId = none ∧ db.outbox.get? delivery.eventId = none ∧
        p.write = MessageDatabase.addOutbox delivery.acceptedRow ∘ MessageDatabase.addInbox delivery.claim
    | .ok false => p.write = id ∧
        ∃ payload, AcceptedAs db delivery.eventId payload ∧ payload.same delivery.payload = true
    | .error e => e = webhookConflict ∧
        ∃ payload, AcceptedAs db delivery.eventId payload ∧ payload.same delivery.payload = false
  stable _ _ := trivial

variable {ids} {db db' : MessageDatabase} {held : List MessageLock}

theorem AcceptedAs.later {eventId : UUID} {payload : Payload} (accepted : AcceptedAs db eventId payload)
    (later : (webhookIsolation ids).Later held db db') : AcceptedAs db' eventId payload := by
  obtain ⟨row, found, type, same⟩ := accepted
  obtain ⟨row', found', type', payload', _⟩ := later.1.1.outbox eventId row found
  exact ⟨row', found', type'.trans type, payload'.trans same⟩

/-- The second statement of a call that lost the claim compares the payloads. -/
theorem wp_compare (delivery : WebhookDelivery) {payload : Payload}
    {p : Progress MessageDatabase MessageLock Empty Empty}
    (untouched : p.write = id) (accepted : AcceptedAs db delivery.eventId payload) (valid : WebhooksValid ids db) :
    Script.wp (webhookSpec ids delivery) (do
      match ← Script.perform (getOutboxRow delivery.eventId) with
      | none => Script.raise webhookConflict
      | some existing =>
        if existing.eventType ≠ "payment.webhook.accepted" ∨ existing.payload.same delivery.payload = false then
          Script.raise webhookConflict
        else pure false) p db := by
  refine Script.wp_bind valid (Script.wp_read (f := fun db => db.outbox.get? delivery.eventId) trivial
    (fun _ _ _ => rfl) fun start now before during => ⟨trivial, fun later after => ?_⟩)
  obtain ⟨row, found, type, same⟩ := accepted.later before
  have stays := fun {db''} (h : (webhookIsolation ids).Later p.held later db'') =>
    (((accepted.later before).later during).later after).later h
  rcases p with ⟨held', write, seen, calls⟩
  obtain rfl : write = id := untouched
  simp only [Script.Spec.before, id, found, type, same, ne_eq, not_true_eq_false, false_or]
  by_cases equal : payload.same delivery.payload = false
  · rw [if_pos equal]
    exact Script.wp_raise trivial fun db'' h => ⟨rfl, payload, stays h, equal⟩
  · rw [if_neg equal]
    refine Script.wp_pure trivial fun db'' h => ⟨rfl, payload, stays h, ?_⟩
    simpa using equal

theorem wp_acceptPaymentWebhookOnce (delivery : OwnWebhook ids) (valid : WebhooksValid ids db) :
    Script.wp (webhookSpec ids delivery) (acceptPaymentWebhookOnce delivery) {} db := by
  obtain ⟨delivery, own⟩ := delivery
  have fits : fitsVarchar 100 delivery.claim.eventType = true := by
    simp only [WebhookDelivery.claim]
    decide
  refine Script.wp_bind valid (wp_claimInbox fits trivial ?_ ?_)
  · intro start now before during taken
    obtain ⟨row, found, type⟩ := during.2.claimed _ own taken
    have accepted : AcceptedAs now delivery.eventId row.payload := ⟨row, found, type, rfl⟩
    refine ⟨trivial, fun later after => ?_⟩
    exact wp_compare delivery rfl (accepted.later after) after.2
  · intro start now before during free
    -- the claim is held to the end, so the id stays unclaimed and without a row for everybody else
    have unclaimed : ∀ {db'}, (webhookIsolation ids).Later [.inbox delivery.eventId] now db' →
        db'.inbox.get? delivery.eventId = none := fun later =>
      (later.agree (List.mem_singleton.mpr rfl)).symm.trans free
    refine ⟨trivial, fun later after => Script.wp_bind after.2 (wp_insertMessage trivial ?_ ?_ ?_)⟩
    · exact MessageDatabase.covers_addOutbox (List.mem_cons_self ..)
    · intro start' now' before' during' failed
      have gone := during'.2.unclaimed _ own (unclaimed ((after.trans before').trans during'))
      have fits' : fitsVarchar 100 delivery.acceptedRow.eventType = true := by
        simp only [WebhookDelivery.acceptedRow]
        decide
      refine absurd (fun check mem => ?_) failed
      simp only [List.cons_append, List.nil_append, List.mem_cons, List.not_mem_nil, or_false] at mem
      rcases mem with rfl | rfl
      · exact fits'
      · exact decide_eq_true gone
    · intro start' now' before' during' _
      refine ⟨trivial, fun later' after' => Script.wp_pure trivial fun db'' last => ?_⟩
      have whole := ((after.trans before').trans during').trans
        ⟨⟨(after'.trans last).1.1, fun l hold => (after'.trans last).agree (List.mem_cons_of_mem _ hold)⟩, last.2⟩
      exact ⟨unclaimed whole, last.2.unclaimed _ own (unclaimed whole), rfl⟩

theorem get?_accepted (delivery : WebhookDelivery) (unclaimed : db.inbox.get? delivery.eventId = none)
    (unused : db.outbox.get? delivery.eventId = none) (eventId : UUID) :
    ((db.addInbox delivery.claim).addOutbox delivery.acceptedRow).inbox.get? eventId =
        (if eventId = delivery.eventId then some delivery.claim else db.inbox.get? eventId) ∧
    ((db.addInbox delivery.claim).addOutbox delivery.acceptedRow).outbox.get? eventId =
        if eventId = delivery.eventId then some delivery.acceptedRow else db.outbox.get? eventId := by
  have absent : db.inbox.get? delivery.claim.eventId = none := unclaimed
  have absent' : db.outbox.get? delivery.acceptedRow.id = none := unused
  constructor
  · simp only [MessageDatabase.addOutbox, MessageDatabase.addInbox, Table.insert_of_absent absent, Table.get?_put]
    rfl
  · simp only [MessageDatabase.addOutbox, MessageDatabase.addInbox, Table.insert_of_absent absent', Table.get?_put]
    rfl

theorem webhook_promise (delivery : OwnWebhook ids) {answer : Bool}
    {p : Progress MessageDatabase MessageLock Empty Empty}
    (valid : WebhooksValid ids db) (ended : (webhookSpec ids delivery).ending (.ok answer) p db) :
    db.Step (p.write db) ∧ WebhooksValid ids (p.write db) := by
  obtain ⟨delivery, own⟩ := delivery
  cases answer with
  | false =>
    rw [ended.1]
    exact ⟨.refl db, valid⟩
  | true =>
    obtain ⟨unclaimed, unused, write⟩ := ended
    have tables := get?_accepted delivery unclaimed unused
    rw [write]
    refine ⟨(MessageDatabase.step_addInbox db _).trans (MessageDatabase.step_addOutbox _ _), ?_, ?_⟩
    · intro eventId mine taken
      simp only [Function.comp_apply, tables] at taken ⊢
      split at taken
      next here => exact ⟨delivery.acceptedRow, if_pos here, rfl⟩
      next other =>
        rw [if_neg other]
        exact valid.claimed eventId mine taken
    · intro eventId mine free
      simp only [Function.comp_apply, tables] at free ⊢
      split at free
      next => cases free
      next other =>
        rw [if_neg other]
        exact valid.unclaimed eventId mine free

/-- The in-memory inbox holds the payloads that are accepted in the database. -/
def Mirrored (ids : Set UUID) (db : MessageDatabase) (inbox : InMemoryWebhookInbox) : Prop :=
  ∀ eventId ∈ ids, inbox.records.get? eventId = (db.outbox.get? eventId).map OutboxRow.payload

/-- The in-memory inbox answers as a call does that ends by its specification. -/
theorem accept_simulates (delivery : OwnWebhook ids) {r : Except MessageError Bool}
    {p : Progress MessageDatabase MessageLock Empty Empty} {inbox : InMemoryWebhookInbox}
    (mirrored : Mirrored ids db inbox) (ended : (webhookSpec ids delivery).ending r p db) :
    (inbox.accept delivery.1.eventId delivery.1.payload).1 = r ∧
      Mirrored ids (if r.isOk then p.write db else db) (inbox.accept delivery.1.eventId delivery.1.payload).2 := by
  obtain ⟨delivery, own⟩ := delivery
  have known := mirrored delivery.eventId own
  have stored : ∀ {payload}, AcceptedAs db delivery.eventId payload →
      inbox.records.get? delivery.eventId = some payload := by
    rintro payload ⟨row, found, _, same⟩
    rw [known, found, Option.map_some, same]
  cases r with
  | error e =>
    obtain ⟨rfl, payload, accepted, different⟩ := ended
    simp only [InMemoryWebhookInbox.accept, stored accepted, different, ↓reduceIte]
    exact ⟨trivial, mirrored⟩
  | ok answer =>
    cases answer with
    | false =>
      obtain ⟨untouched, payload, accepted, equal⟩ := ended
      simp only [InMemoryWebhookInbox.accept, stored accepted, equal, Bool.true_eq_false, ↓reduceIte, untouched]
      exact ⟨trivial, mirrored⟩
    | true =>
      obtain ⟨unclaimed, unused, write⟩ := ended
      rw [unused, Option.map_none] at known
      simp only [InMemoryWebhookInbox.accept, known]
      refine ⟨trivial, fun eventId mine => ?_⟩
      simp only [Except.isOk, Except.toBool, ↓reduceIte, write, Function.comp_apply,
        (get?_accepted delivery unclaimed unused eventId).2, Dict.get?_set]
      split
      next => rfl
      next => exact mirrored eventId mine

theorem outbox_of_ending (delivery : OwnWebhook ids) {r : Except MessageError Bool}
    {p : Progress MessageDatabase MessageLock Empty Empty} (ended : (webhookSpec ids delivery).ending r p db)
    (eventId : UUID) :
    (if r.isOk then p.write db else db).outbox.get? eventId =
      if r = .ok true ∧ eventId = delivery.1.eventId then some delivery.1.acceptedRow
      else db.outbox.get? eventId := by
  cases r with
  | error e => simp [Except.isOk, Except.toBool]
  | ok answer =>
    cases answer with
    | false => simp [Except.isOk, Except.toBool, ended.1]
    | true =>
      obtain ⟨unclaimed, unused, write⟩ := ended
      simp [Except.isOk, Except.toBool, write, (get?_accepted delivery.1 unclaimed unused eventId).2]

variable {κ : Type} [DecidableEq κ]

/-- The process, the database and no service at all. -/
abbrev WebhookSite (ids : Set UUID) (κ : Type) :=
  Site MessageDatabase Unit MessageLock Empty Empty MessageError Bool (OwnWebhook ids) κ

abbrev WebhookEvent (ids : Set UUID) (κ : Type) :=
  SiteEvent MessageDatabase MessageLock Empty Empty MessageError Bool (OwnWebhook ids) κ

def noService : Service Unit Empty Empty := ⟨fun _ _ _ => False, fun world _ _ => world⟩

def webhookBody (delivery : OwnWebhook ids) : LocalScript Bool := acceptPaymentWebhookOnce delivery.1

/-- The row is that of the first call that ended for its event; every later one answers by comparing its payload
with that of the row. -/
def FirstAccepted (trace : List (Transition (WebhookSite ids κ) (WebhookEvent ids κ))) (row : OutboxRow) : Prop :=
  ∃ earlier t later k session, trace = earlier ++ t :: later ∧ t.label = .commit k session true ∧
    session.job.1.acceptedRow = row ∧
    (∀ t' ∈ earlier, ∀ delivery r, t'.label.answer? = some (delivery, r) → delivery.1.eventId ≠ row.id) ∧
    ∀ t' ∈ later, ∀ delivery r, t'.label.answer? = some (delivery, r) → delivery.1.eventId = row.id →
      r = if row.payload.same delivery.1.payload then .ok false else .error webhookConflict

omit [DecidableEq κ] in
theorem FirstAccepted.append {trace : List (Transition (WebhookSite ids κ) (WebhookEvent ids κ))} {row : OutboxRow}
    {t : Transition (WebhookSite ids κ) (WebhookEvent ids κ)} (first : FirstAccepted trace row)
    (answers : ∀ delivery r, t.label.answer? = some (delivery, r) → delivery.1.eventId = row.id →
      r = if row.payload.same delivery.1.payload then .ok false else .error webhookConflict) :
    FirstAccepted (trace ++ [t]) row := by
  obtain ⟨earlier, t', later, k, session, rfl, label, same, before, after⟩ := first
  refine ⟨earlier, t', later ++ [t], k, session, by simp, label, same, before, fun t'' mem => ?_⟩
  rcases List.mem_append.mp mem with old | last
  · exact after t'' old
  · obtain rfl := List.mem_singleton.mp last
    exact answers

omit [DecidableEq κ] in
theorem commit_of_answer? {label : WebhookEvent ids κ} {delivery : OwnWebhook ids}
    (answered : label.answer? = some (delivery, .ok true)) :
    ∃ k session, label = .commit k session true ∧ session.job = delivery := by
  cases label with
  | begin | start | finish | call | crash | rollback => cases answered
  | commit k session a =>
    cases answered
    exact ⟨k, session, rfl, rfl⟩

/-- What the row of an event, or its absence, says about the calls so far. -/
def EventHistory (trace : List (Transition (WebhookSite ids κ) (WebhookEvent ids κ))) (eventId : UUID)
    (stored : Option OutboxRow) : Prop :=
  (stored = none → ∀ t ∈ trace, ∀ delivery r, t.label.answer? = some (delivery, r) → delivery.1.eventId ≠ eventId) ∧
    ∀ row, stored = some row → FirstAccepted trace row

def WebhookHistory (trace : List (Transition (WebhookSite ids κ) (WebhookEvent ids κ))) (db : MessageDatabase) : Prop :=
  ∀ eventId ∈ ids, EventHistory trace eventId (db.outbox.get? eventId)

section

variable {trace : List (Transition (WebhookSite ids κ) (WebhookEvent ids κ))}
  {t : Transition (WebhookSite ids κ) (WebhookEvent ids κ)}

omit [DecidableEq κ] in
/-- A transition that answers no call about the event changes nothing for it. -/
theorem EventHistory.unrelated {eventId : UUID} (history : EventHistory trace eventId (db.outbox.get? eventId))
    (others : ∀ delivery r, t.label.answer? = some (delivery, r) → delivery.1.eventId ≠ eventId) :
    EventHistory (trace ++ [t]) eventId (db.outbox.get? eventId) := by
  obtain ⟨silent, first⟩ := history
  refine ⟨fun absent t' mem => ?_, fun row found => (first row found).append fun delivery r answered mine => ?_⟩
  · rcases List.mem_append.mp mem with old | last
    · exact silent absent t' old
    · obtain rfl := List.mem_singleton.mp last
      exact others
  · exact absurd (mine.trans (Table.key_of_get? found)) (others delivery r answered)

omit [DecidableEq κ] in
/-- A call that finds the row answers by comparing the payloads. -/
theorem EventHistory.compared {eventId : UUID} {row : OutboxRow} {delivery : OwnWebhook ids}
    {r : Except MessageError Bool} (history : EventHistory trace eventId (some row))
    (answered : t.label.answer? = some (delivery, r))
    (reply : r = if row.payload.same delivery.1.payload then .ok false else .error webhookConflict) :
    EventHistory (trace ++ [t]) eventId (some row) := by
  refine ⟨fun absent => (by cases absent), fun row' same => ?_⟩
  cases same
  refine (history.2 row rfl).append fun delivery' r' answered' _ => ?_
  rw [answered] at answered'
  cases answered'
  exact reply

omit [DecidableEq κ] in
theorem EventHistory.accepted {delivery : OwnWebhook ids} (history : EventHistory trace delivery.1.eventId none)
    (answered : t.label.answer? = some (delivery, .ok true)) :
    EventHistory (trace ++ [t]) delivery.1.eventId (some delivery.1.acceptedRow) := by
  obtain ⟨k, session, label, rfl⟩ := commit_of_answer? answered
  refine ⟨fun absent => (by cases absent), fun row same => ?_⟩
  cases same
  exact ⟨trace, t, [], k, session, rfl, label, rfl, history.1 rfl, by simp⟩

omit [DecidableEq κ] in
theorem webhookHistory_step (history : WebhookHistory trace db)
    (meets : t.label.Meets (fun delivery => webhookSpec ids delivery.1) db db') :
    WebhookHistory (trace ++ [t]) db' := by
  intro eventId own
  have known := history eventId own
  cases answered : t.label.answer? with
  | none =>
    rw [meets.unanswered answered]
    refine known.unrelated fun delivery r answered' => ?_
    rw [answered] at answered'
    cases answered'
  | some answer =>
    obtain ⟨delivery, r⟩ := answer
    obtain ⟨p, ended, after⟩ := meets.answered answered
    rw [after, outbox_of_ending delivery ended eventId]
    by_cases here : delivery.1.eventId = eventId
    · subst here
      cases r with
      | error e =>
        obtain ⟨rfl, payload, ⟨row, found, _, rfl⟩, different⟩ := ended
        rw [if_neg (by simp), found]
        rw [found] at known
        exact known.compared answered (by simp [different])
      | ok replied =>
        cases replied with
        | false =>
          obtain ⟨_, payload, ⟨row, found, _, rfl⟩, equal⟩ := ended
          rw [if_neg (by simp), found]
          rw [found] at known
          exact known.compared answered (by simp [equal])
        | true =>
          obtain ⟨_, unused, _⟩ := ended
          rw [if_pos ⟨rfl, rfl⟩]
          rw [unused] at known
          exact known.accepted answered
    · rw [if_neg fun both => here both.2.symm]
      refine known.unrelated fun delivery' r' answered' => ?_
      rw [answered] at answered'
      cases answered'
      exact here

end

omit [DecidableEq κ] in
theorem row_kept {label : WebhookEvent ids κ} {eventId : UUID} {row : OutboxRow}
    (meets : label.Meets (fun delivery => webhookSpec ids delivery.1) db db')
    (found : db.outbox.get? eventId = some row) : db'.outbox.get? eventId = some row := by
  cases answered : label.answer? with
  | none => rw [meets.unanswered answered, found]
  | some answer =>
    obtain ⟨delivery, r⟩ := answer
    obtain ⟨p, ended, after⟩ := meets.answered answered
    rw [after, outbox_of_ending delivery ended]
    split
    next both =>
      obtain ⟨rfl, rfl⟩ := both
      have absent := ended.2.1
      rw [found] at absent
      cases absent
    next => exact found

theorem webhook_verified (delivery : OwnWebhook ids) (db : MessageDatabase) (valid : (webhookIsolation ids).valid db) :
    Script.wp (webhookSpec ids delivery.1) (webhookBody delivery) {} db :=
  wp_acceptPaymentWebhookOnce delivery valid

theorem webhook_meets {db₀ : MessageDatabase} {σ : WebhookSite ids κ}
    {trace : List (Transition (WebhookSite ids κ) (WebhookEvent ids κ))} (valid : WebhooksValid ids db₀)
    (run : Exec (Site.Step webhookBody noService) (Site.quiet db₀ ()) trace σ)
    {t : Transition (WebhookSite ids κ) (WebhookEvent ids κ)} (ht : t ∈ trace) :
    t.label.Meets (fun delivery => webhookSpec ids delivery.1) t.pre.db t.post.db := by
  obtain ⟨sound, taken, _⟩ := Site.sound_of_mem webhook_verified
    (fun delivery _ _ _ valid ended => webhook_promise delivery valid ended) valid run ht
  exact sound.meets taken

theorem webhookHistory_of_run {db₀ : MessageDatabase} {σ : WebhookSite ids κ}
    {trace : List (Transition (WebhookSite ids κ) (WebhookEvent ids κ))} (valid : WebhooksValid ids db₀)
    (unused : ∀ eventId ∈ ids, db₀.outbox.get? eventId = none)
    (run : Exec (Site.Step webhookBody noService) (Site.quiet db₀ ()) trace σ) : WebhookHistory trace σ.db := by
  induction run with
  | start =>
    refine fun eventId own => ⟨fun _ t mem => (by cases mem), fun row found => ?_⟩
    rw [show (Site.quiet db₀ () : WebhookSite ids κ).db = db₀ from rfl, unused eventId own] at found
    cases found
  | @next trace s l s' previous taken ih =>
    have last := webhook_meets valid (previous.next taken) (List.mem_append_right _ (List.mem_singleton.mpr rfl))
    exact webhookHistory_step ih last

/-- Payment webhooks are accepted once, whatever transactions are interleaved, lost or repeated, and the answers
are those of the in-memory inbox. -/
theorem webhooks_accepted_once {db₀ : MessageDatabase} {σ : WebhookSite ids κ}
    {trace : List (Transition (WebhookSite ids κ) (WebhookEvent ids κ))}
    (run : Exec (Site.Step webhookBody noService) (Site.quiet db₀ ()) trace σ)
    (unused : ∀ eventId ∈ ids, db₀.inbox.get? eventId = none ∧ db₀.outbox.get? eventId = none) :
    -- the row of an event is that of the first call that committed; the later ones are answered by comparison
    (∀ eventId ∈ ids, ∀ row, σ.db.outbox.get? eventId = some row → FirstAccepted trace row) ∧
    -- without a row no call has been answered
    (∀ eventId ∈ ids, σ.db.outbox.get? eventId = none → ∀ t ∈ trace, ∀ delivery r,
      t.label.answer? = some (delivery, r) → delivery.1.eventId ≠ eventId) ∧
    -- there is one row for each event, and it never changes
    (∀ row ∈ σ.db.outbox.toList, ∀ row' ∈ σ.db.outbox.toList, row.id = row'.id → row = row') ∧
    (∀ t ∈ trace, ∀ eventId ∈ ids, ∀ row, t.pre.db.outbox.get? eventId = some row →
      t.post.db.outbox.get? eventId = some row) ∧
    -- a call that raises commits nothing
    (∀ t ∈ trace, ∀ delivery e, t.label.answer? = some (delivery, .error e) → t.post.db = t.pre.db) ∧
    -- the in-memory inbox answers the same, in the order in which the calls ended and in any sequential order
    (sequential (fun inbox (delivery : OwnWebhook ids) => inbox.accept delivery.1.eventId delivery.1.payload)
      ({} : InMemoryWebhookInbox) ((Site.answers trace).map Prod.fst)).1 = (Site.answers trace).map Prod.snd ∧
    ∀ deliveries : List (OwnWebhook ids),
      (sequential (fun (s : MessageDatabase × Unit) (delivery : OwnWebhook ids) =>
        (acceptPaymentWebhookOnce delivery.1).transact (fun q _ => q.elim) s.1 s.2) (db₀, ()) deliveries).1 =
      (sequential (fun inbox (delivery : OwnWebhook ids) => inbox.accept delivery.1.eventId delivery.1.payload)
        ({} : InMemoryWebhookInbox) deliveries).1 := by
  have valid : WebhooksValid ids db₀ := by
    refine ⟨fun eventId own taken => ?_, fun eventId own _ => (unused eventId own).2⟩
    rw [(unused eventId own).1] at taken
    cases taken
  have mirrored : Mirrored ids db₀ {} := fun eventId own => by
    rw [(unused eventId own).2]
    rfl
  have history := webhookHistory_of_run valid (fun eventId own => (unused eventId own).2) run
  refine ⟨fun eventId own => (history eventId own).2, fun eventId own => (history eventId own).1, ?_, ?_, ?_, ?_, ?_⟩
  · intro row mem row' mem' same
    have found := Table.mem_toList.mp mem
    rw [same, Table.mem_toList.mp mem'] at found
    exact (Option.some.inj found).symm
  · intro t ht eventId own row found
    exact row_kept (webhook_meets valid run ht) found
  · intro t ht delivery e answered
    obtain ⟨p, _, after⟩ := (webhook_meets valid run ht).answered answered
    exact after
  · exact (Site.linearized (fun delivery _ _ _ _ _ mirrored ended => accept_simulates delivery mirrored ended)
      webhook_verified (fun delivery _ _ _ valid ended => webhook_promise delivery valid ended) valid mirrored run).1
  · exact Site.sequential_transact (fun delivery _ _ _ _ _ mirrored ended => accept_simulates delivery mirrored ended)
      _ webhook_verified (fun delivery _ _ _ valid ended => webhook_promise delivery valid ended) () valid mirrored

end

/-- A delivery of a payment with the given body; the number of bytes stands for their digest. -/
def paid (body : List UInt8) (moment : Datetime) : OwnWebhook Set.univ :=
  ⟨⟨2, PaymentWebhookEnvelope.durablePayload (fun bytes => toString bytes.length) ⟨2, ⟨1, "pay-1"⟩⟩ body, moment,
    moment⟩, trivial⟩

theorem webhooks_accepted_once_delivered : ∃ trace σ,
    Exec (Site.Step webhookBody noService) (Site.quiet .empty () : WebhookSite Set.univ Bool) trace σ ∧
    FirstAccepted trace (paid [1] (Generated.numbered 1).now).1.acceptedRow ∧
    (sequential (fun (s : MessageDatabase × Unit) (delivery : OwnWebhook Set.univ) =>
        (acceptPaymentWebhookOnce delivery.1).transact (fun q _ => q.elim) s.1 s.2) (.empty, ())
      [paid [1] (Generated.numbered 1).now, paid [1] (Generated.numbered 2).now,
        paid [1, 2] (Generated.numbered 3).now]).1 = [.ok true, .ok false, .error webhookConflict] := by
  have follows : noService.Follows (fun q _ => q.elim) fun _ => True :=
    ⟨fun q => q.elim, fun q => q.elim, fun q => q.elim⟩
  obtain ⟨trace, run, _⟩ := Site.exec_transact webhookBody follows true (paid [1] (Generated.numbered 1).now) .empty
    trivial
  have unused : ∀ eventId ∈ (Set.univ : Set UUID), MessageDatabase.empty.inbox.get? eventId = none ∧
      MessageDatabase.empty.outbox.get? eventId = none := fun _ _ => ⟨rfl, rfl⟩
  have once := webhooks_accepted_once run unused
  refine ⟨trace, _, run, once.1 2 trivial _ ?_, ?_⟩
  · rfl
  · rw [once.2.2.2.2.2.2]
    decide

end DeliveryService
