import DeliveryService.Binary64
import DeliveryService.Login
import DeliveryService.SignedMessages
import DeliveryService.Webhooks

namespace DeliveryService

/-- The libraries of the endpoint: `int` and `str.isdecimal` beyond ASCII, the longest text that `int` reads,
and `PaymentWebhookEnvelope.model_validate_json`, whose `none` is its `ValidationError`. -/
structure WebhookServices extends LoginServices where
  decimals : PyText.DecimalDigits
  digitLimit : Nat
  parseEnvelope : Bytes → Option PaymentWebhookEnvelope

/-- The settings of the endpoint within their bounds. -/
structure WebhookSettings where
  secret : String
  toleranceSeconds : Int
  maxBytes : Int
  tolerance_bounds : 30 ≤ toleranceSeconds ∧ toleranceSeconds ≤ 900
  size_bounds : 1024 ≤ maxBytes ∧ maxBytes ≤ 1024 * 1024

/-- A request whose headers passed validation. -/
structure WebhookRequest where
  eventIdHeader : String
  timestampHeader : String
  signature : String
  contentLength : Option String
  contentType : Option String
  body : Bytes
  client : Option String
  correlationId : String
  now : Moment
  eventId_sized : eventIdHeader.length = 36
  timestamp_sized : 1 ≤ timestampHeader.length ∧ timestampHeader.length ≤ 20
  signature_sized : signature.length = 64

/-- What a request draws from the clocks and from `uuid4`. -/
structure WebhookDraws where
  auditId : UUID
  occurredAt : Moment
  processedAt : Datetime
  createdAt : Datetime

inductive WebhookStatus
  | accepted
  | duplicate
deriving DecidableEq

def WebhookStatus.value : WebhookStatus → String
  | .accepted => "accepted"
  | .duplicate => "duplicate"

/-- The store of the deployment and the audit trail of the process. -/
structure WebhookState (σ : Type) where
  store : σ
  audit : List AuditEvent

/-- `current.timestamp()`: the quotient of microseconds as a double. -/
def Moment.timestampFloat (t : Moment) : ℚ := Binary64.round ((t.1 - epoch) / 1000000)

/-- `timestamp_is_fresh`; `none` is the `OverflowError` of an integer that no double is near to. -/
def timestampIsFresh (decimals : PyText.DecimalDigits) (digitLimit : Nat) (value : String) (toleranceSeconds : Int)
    (current : Moment) : Option Bool :=
  match PyText.intDecimal decimals digitLimit value.toList with
  | none => some false
  | some timestamp =>
    if 2 ^ 1024 - 2 ^ 970 ≤ |timestamp| then none
    else some (decide (|Binary64.round (current.timestampFloat - Binary64.round timestamp)| ≤ toleranceSeconds))

section

variable (services : WebhookServices) (settings : WebhookSettings) (request : WebhookRequest)

def webhookTooLarge : LoginError := .http ⟨413, "webhook payload is too large", []⟩

def webhookUnauthorized : LoginError := .http ⟨401, "invalid webhook signature", []⟩

/-- Whether the announced length is a number above the limit. -/
def announcesTooMuch : Except LoginError Bool :=
  match request.contentLength with
  | none => .ok false
  | some text =>
    if text ≠ "" ∧ text.toList.all fun c => (services.decimals.value c).isSome then
      match PyText.intDecimal services.decimals services.digitLimit text.toList with
      | none => .error .unhandled
      | some length => .ok (settings.maxBytes < length)
    else .ok false

/-- `content-type` up to its first semicolon, without the space around it and folded. -/
def mediaType : String :=
  String.ofList (services.folding.casefold (PyText.strip PyText.isSpace
    (PyText.partition ';' (request.contentType.getD "").toList).1))

/-- `payment_webhook` up to the event that it hands to the store. -/
def admitWebhook : Except LoginError PaymentWebhookEnvelope :=
  match announcesTooMuch services settings request with
  | .error failed => .error failed
  | .ok tooMuch =>
    if tooMuch ∨ settings.maxBytes < (request.body.length : Int) then .error webhookTooLarge
    else if ¬ verifyWebhookSignature services.sha request.body request.signature (encodeUtf8 settings.secret)
        request.timestampHeader then .error webhookUnauthorized
    else match timestampIsFresh services.decimals services.digitLimit request.timestampHeader settings.toleranceSeconds
        request.now with
      | none => .error .unhandled
      | some false => .error webhookUnauthorized
      | some true =>
        if mediaType services request ≠ "application/json" then
          .error (.http ⟨415, "webhook requires application/json", []⟩)
        else match services.parseEnvelope request.body, UUID.parse request.eventIdHeader.toList with
          | some envelope, some eventId =>
            if eventId ≠ envelope.id then .error (.http ⟨422, "webhook event ID mismatch", []⟩) else .ok envelope
          | _, _ => .error (.http ⟨422, "invalid webhook payload", []⟩)

/-- The event that a verified webhook leaves in the audit trail. -/
def webhookAudit (eventId : UUID) (status : WebhookStatus) : AuditContents where
  actorId := some "payment-provider"
  subjectFingerprint := subjectFingerprint services.toLoginServices "payment-provider"
  action := "payment_webhook"
  resourceId := some eventId.str
  outcome := status.value
  reasonCode := "signature_verified"
  clientNetworkKey := trustedClientNetworkKey services.toLoginServices request.client
  correlationId := request.correlationId

def webhookDelivery (draws : WebhookDraws) (envelope : PaymentWebhookEnvelope) : WebhookDelivery :=
  ⟨envelope.id, envelope.durablePayload services.sha.hexdigest request.body, draws.processedAt, draws.createdAt⟩

/-- `payment_webhook` over the store of a deployment. -/
def paymentWebhook {σ : Type} (accept : σ → WebhookDelivery → Except MessageError Bool × σ) (draws : WebhookDraws)
    (s : WebhookState σ) : Except LoginError WebhookStatus × WebhookState σ :=
  match admitWebhook services settings request with
  | .error failed => (.error failed, s)
  | .ok envelope =>
    match accept s.store (webhookDelivery services request draws envelope) with
    | (.error (.webhookEventConflict _), store) =>
      (.error (.http ⟨409, "webhook event ID conflict", []⟩), { s with store })
    | (.error _, store) => (.error .unhandled, { s with store })
    | (.ok applied, store) =>
      let status := if applied then .accepted else .duplicate
      (.ok status, ⟨store, s.audit ++ [⟨webhookAudit services request envelope.id status, draws.auditId,
        draws.occurredAt⟩]⟩)

end

/-- From 1697 to 2242 the doubles are less than a microsecond apart. -/
def Moment.Fine (t : Moment) : Prop := |t.1 - epoch| < 2 ^ 33 * 1000000

instance instDecidableFine (t : Moment) : Decidable t.Fine :=
  inferInstanceAs (Decidable (|t.1 - epoch| < 2 ^ 33 * 1000000))

section

variable {services : WebhookServices} {settings : WebhookSettings} {request : WebhookRequest}

theorem representable_int {k : ℤ} (small : |k| ≤ 2 ^ 35) : Binary64.Representable k :=
  Binary64.representable_intCast (lt_of_le_of_lt small (by norm_num))

/-- Just above a whole second there is a double that no microsecond is below. -/
theorem representable_above {k : ℤ} (small : -2 ^ 33 ≤ k ∧ k < 2 ^ 33) : Binary64.Representable (k + 1 / 2 ^ 20) := by
  refine ⟨k * 2 ^ 20 + 1, -20, ?_, ?_⟩
  · rw [abs_lt]
    constructor <;> linarith [small.1, small.2]
  · push_cast
    rw [zpow_neg, zpow_ofNat]
    field_simp
    norm_num

/-- A microsecond past a whole second is past it as a double. -/
theorem round_above {t k : ℤ} (small : k < 2 ^ 33) (low : -2 ^ 33 * 1000000 < t) (above : k * 1000000 < t) :
    (k : ℚ) + 1 / 2 ^ 20 ≤ Binary64.round (t / 1000000) := by
  rcases le_or_gt (-2 ^ 33) k with near | far
  · refine Binary64.le_round (representable_above ⟨near, small⟩) ?_
    rw [le_div_iff₀ (by norm_num)]
    have whole : ((k * 1000000 + 1 : ℤ) : ℚ) ≤ t := by exact_mod_cast above
    push_cast at whole
    linarith
  · have bottom : ((-2 ^ 33 : ℤ) : ℚ) ≤ Binary64.round (t / 1000000) := by
      refine Binary64.le_round (representable_int (by norm_num)) ?_
      rw [le_div_iff₀ (by norm_num)]
      exact_mod_cast low.le
    have below : (k : ℚ) + 1 ≤ ((-2 ^ 33 : ℤ) : ℚ) := by exact_mod_cast far
    refine le_trans ?_ bottom
    refine le_trans ?_ below
    norm_num

/-- The difference of the doubles is over a bound exactly when the exact difference is. -/
theorem round_sub_le_iff {t n tolerance : ℤ} (fine : |t| < 2 ^ 33 * 1000000)
    (bounds : 0 ≤ tolerance ∧ tolerance ≤ 2 ^ 20) :
    Binary64.round (Binary64.round (t / 1000000) - Binary64.round n) ≤ tolerance ↔ t ≤ (n + tolerance) * 1000000 := by
  have limits := abs_lt.mp fine
  have exact : Binary64.Representable (tolerance : ℚ) := representable_int (by rw [abs_le]; constructor <;> linarith)
  have upper : Binary64.round (t / 1000000) ≤ ((2 ^ 33 : ℤ) : ℚ) := by
    refine Binary64.round_le (representable_int (by norm_num)) ?_
    rw [div_le_iff₀ (by norm_num)]
    exact_mod_cast limits.2.le
  have lower : ((-2 ^ 33 : ℤ) : ℚ) ≤ Binary64.round (t / 1000000) := by
    refine Binary64.le_round (representable_int (by norm_num)) ?_
    rw [le_div_iff₀ (by norm_num)]
    exact_mod_cast (by linarith [limits.1] : -2 ^ 33 * 1000000 ≤ t)
  have small : (0 : ℚ) ≤ tolerance ∧ (tolerance : ℚ) ≤ 2 ^ 20 := by exact_mod_cast bounds
  push_cast at upper lower
  rcases lt_or_ge (2 ^ 34) n with future | notFuture
  · -- a timestamp that far ahead is late for no clock
    have far : ((2 ^ 34 : ℤ) : ℚ) ≤ Binary64.round n :=
      Binary64.le_round (representable_int (by norm_num)) (by exact_mod_cast future.le)
    push_cast at far
    refine iff_of_true (Binary64.round_le exact (by linarith)) (by linarith [bounds.1])
  rcases lt_or_ge n (-2 ^ 34) with past | notPast
  · have far : Binary64.round n ≤ ((-2 ^ 34 : ℤ) : ℚ) :=
      Binary64.round_le (representable_int (by norm_num)) (by exact_mod_cast past.le)
    push_cast at far
    have wide : ((2 ^ 33 : ℤ) : ℚ) ≤ Binary64.round (Binary64.round (t / 1000000) - Binary64.round n) :=
      Binary64.le_round (representable_int (by norm_num)) (by push_cast; linarith)
    push_cast at wide
    refine iff_of_false (by linarith) (by linarith [bounds.2])
  · have whole : Binary64.round n = n := Binary64.round_eq_self (representable_int (by rw [abs_le]; constructor <;> linarith))
    rw [whole]
    constructor
    · intro within
      by_contra exceeds
      have past : (n + tolerance : ℤ) + 1 / 2 ^ 20 ≤ Binary64.round (t / 1000000) :=
        round_above (by linarith) (by linarith) (not_le.mp exceeds)
      have beyond : (tolerance : ℚ) + 1 / 2 ^ 20 ≤ Binary64.round (Binary64.round (t / 1000000) - n) := by
        refine Binary64.le_round (representable_above ⟨by linarith, by linarith⟩) ?_
        push_cast at past
        linarith
      linarith
    · intro within
      refine Binary64.round_le exact ?_
      have near : Binary64.round (t / 1000000) ≤ ((n + tolerance : ℤ) : ℚ) := by
        refine Binary64.round_le (representable_int (by rw [abs_le]; constructor <;> linarith)) ?_
        rw [div_le_iff₀ (by norm_num)]
        exact_mod_cast within
      push_cast at near
      linarith

theorem abs_round_sub_le_iff {t n tolerance : ℤ} (fine : |t| < 2 ^ 33 * 1000000)
    (bounds : 0 ≤ tolerance ∧ tolerance ≤ 2 ^ 20) :
    |Binary64.round (Binary64.round (t / 1000000) - Binary64.round n)| ≤ tolerance ↔
      |t - n * 1000000| ≤ tolerance * 1000000 := by
  have above := round_sub_le_iff (n := n) fine bounds
  have below := round_sub_le_iff (t := -t) (n := -n) (by rwa [abs_neg]) bounds
  push_cast at below
  rw [neg_div, Binary64.round_neg, Binary64.round_neg, ← neg_sub', Binary64.round_neg] at below
  rw [abs_le, abs_le, ← neg_le, above, below]
  constructor <;> rintro ⟨first, second⟩ <;> constructor <;> linarith

theorem length_readDigits {digit : Char → Option Nat} {afterDigit : Bool} {text : List Char} {digits : List Nat}
    (read : PyText.readDigits digit afterDigit text = some digits) :
    digits.length ≤ text.length ∧ ∀ d ∈ digits, ∃ c, digit c = some d := by
  induction text generalizing afterDigit digits with
  | nil =>
    unfold PyText.readDigits at read
    split_ifs at read
    cases read
    simp
  | cons c rest ih =>
    unfold PyText.readDigits at read
    split_ifs at read
    · obtain ⟨short, known⟩ := ih read
      exact ⟨short.trans (Nat.le_succ _), known⟩
    · split at read
      next d value =>
        obtain ⟨more, later, rfl⟩ := Option.map_eq_some_iff.mp read
        obtain ⟨short, known⟩ := ih later
        refine ⟨Nat.succ_le_succ short, fun d' mem => ?_⟩
        rcases List.mem_cons.mp mem with rfl | old
        · exact ⟨c, value⟩
        · exact known d' old
      next => cases read

theorem length_splitSign (text : List Char) : (PyText.splitSign text).2.length ≤ text.length := by
  unfold PyText.splitSign
  split <;> simp

theorem length_strip (p : Char → Bool) (text : List Char) : (PyText.strip p text).length ≤ text.length := by
  unfold PyText.strip
  have front : (text.dropWhile p).length ≤ text.length := (List.dropWhile_sublist p).length_le
  have back : ((text.dropWhile p).rdropWhile p).length ≤ (text.dropWhile p).length :=
    (List.rdropWhile_prefix p _).length_le
  exact back.trans front

/-- A text has as many digits as it has characters at most. -/
theorem abs_intDecimal_lt {decimals : PyText.DecimalDigits} {limit : Nat} {text : List Char} {n : ℤ}
    (read : PyText.intDecimal decimals limit text = some n) : |n| < 10 ^ text.length := by
  unfold PyText.intDecimal at read
  obtain ⟨digits, found, answer⟩ := Option.bind_eq_some_iff.mp read
  obtain ⟨short, known⟩ := length_readDigits found
  have size : Nat.ofDigits 10 digits.reverse < 10 ^ text.length := by
    refine (Nat.ofDigits_lt_base_pow_length (by norm_num) ?_).trans_le (Nat.pow_le_pow_right (by norm_num) ?_)
    · intro d mem
      obtain ⟨c, value⟩ := known d (List.mem_reverse.mp mem)
      exact of_decide_eq_true (Option.filter_eq_some_iff.mp value).2
    · rw [List.length_reverse]
      exact short.trans ((length_splitSign _).trans (length_strip _ _))
  have whole : |Nat.ofDigits (10 : ℤ) digits.reverse| < 10 ^ text.length := by
    rw [show (10 : ℤ) = (10 : ℕ) from rfl, ← Nat.coe_ofDigits, Nat.abs_cast]
    exact_mod_cast size
  split_ifs at answer with long negative
  all_goals obtain rfl := Option.some.inj answer
  · rwa [abs_neg]
  · exact whole

/-- The clock is within the tolerance of the second that the header names, to the microsecond. -/
def Fresh (services : WebhookServices) (settings : WebhookSettings) (timestampHeader : String) (now : Moment) : Prop :=
  ∃ second, PyText.intDecimal services.decimals services.digitLimit timestampHeader.toList = some second ∧
    |now.1 - epoch - second * 1000000| ≤ settings.toleranceSeconds * 1000000

/-- The arithmetic of doubles decides freshness as the integers do, and never overflows. -/
theorem timestampIsFresh_iff (services : WebhookServices) (settings : WebhookSettings) (fine : request.now.Fine) :
    ∃ fresh, timestampIsFresh services.decimals services.digitLimit request.timestampHeader settings.toleranceSeconds
      request.now = some fresh ∧ (fresh = true ↔ Fresh services settings request.timestampHeader request.now) := by
  unfold timestampIsFresh Fresh
  cases read : PyText.intDecimal services.decimals services.digitLimit request.timestampHeader.toList with
  | none => exact ⟨false, rfl, by simp⟩
  | some second =>
    have small : |second| < 2 ^ 1024 - 2 ^ 970 := by
      have digits := abs_intDecimal_lt read
      have length : request.timestampHeader.toList.length ≤ 20 := request.timestamp_sized.2
      have power : (10 : ℤ) ^ request.timestampHeader.toList.length ≤ 10 ^ 20 := pow_le_pow_right₀ (by norm_num) length
      have low : (10 : ℤ) ^ 20 ≤ 2 ^ 970 :=
        (by norm_num : (10 : ℤ) ^ 20 ≤ 2 ^ 67).trans (pow_le_pow_right₀ (by norm_num) (by norm_num))
      have double : (2 : ℤ) ^ 970 + 2 ^ 970 ≤ 2 ^ 1024 := by
        rw [← two_mul, ← pow_succ']
        exact pow_le_pow_right₀ (by norm_num) (by norm_num)
      exact digits.trans_le (power.trans (le_sub_iff_add_le.mpr ((add_le_add_left low _).trans double)))
    refine ⟨_, if_neg (not_le.mpr small), ?_⟩
    have bounds : 0 ≤ settings.toleranceSeconds ∧ settings.toleranceSeconds ≤ 2 ^ 20 :=
      ⟨by linarith [settings.tolerance_bounds.1], by linarith [settings.tolerance_bounds.2]⟩
    have exact := abs_round_sub_le_iff (n := second) fine bounds
    rw [decide_eq_true_iff, Moment.timestampFloat]
    push_cast at exact
    rw [exact]
    simp

/-- What a request has to be for the endpoint to take its event. -/
structure Authentic (services : WebhookServices) (settings : WebhookSettings) (request : WebhookRequest)
    (envelope : PaymentWebhookEnvelope) : Prop where
  announced : announcesTooMuch services settings request = .ok false
  sized : (request.body.length : Int) ≤ settings.maxBytes
  signed : verifyWebhookSignature services.sha request.body request.signature (encodeUtf8 settings.secret)
    request.timestampHeader = true
  fresh : Fresh services settings request.timestampHeader request.now
  typed : mediaType services request = "application/json"
  parsed : services.parseEnvelope request.body = some envelope
  named : UUID.parse request.eventIdHeader.toList = some envelope.id

theorem admitWebhook_eq_ok_iff (fine : request.now.Fine) {envelope : PaymentWebhookEnvelope} :
    admitWebhook services settings request = .ok envelope ↔ Authentic services settings request envelope := by
  obtain ⟨fresh, decided, exact⟩ := timestampIsFresh_iff services settings fine
  constructor
  · intro admitted
    unfold admitWebhook at admitted
    split at admitted
    next => cases admitted
    next tooMuch announced =>
    split at admitted
    next => cases admitted
    next small =>
    obtain ⟨modest, sized⟩ := not_or.mp small
    split at admitted
    next => cases admitted
    next signed =>
    rw [decided] at admitted
    split at admitted
    next none => cases none
    next => cases admitted
    next isFresh =>
    split at admitted
    next => cases admitted
    next typed =>
    split at admitted
    next envelope' eventId parsed named =>
      split at admitted
      next => cases admitted
      next same =>
      cases admitted
      refine ⟨?_, not_lt.mp sized, not_not.mp signed, exact.mp (Option.some.inj isFresh), not_not.mp typed, parsed,
        named.trans (congrArg some (not_not.mp same))⟩
      rw [announced, eq_false_of_ne_true modest]
    next => cases admitted
  · rintro ⟨announced, sized, signed, within, typed, parsed, named⟩
    obtain rfl : fresh = true := exact.mpr within
    simp [admitWebhook, announced, not_lt.mpr sized, signed, decided, typed, parsed, named]

/-- A store in which an event with one of these ids is settled by the first delivery of it. -/
structure SettlesOnce {σ : Type} (accept : σ → WebhookDelivery → Except MessageError Bool × σ)
    (known : σ → UUID → Option Payload) (valid : σ → Prop) (ids : Set UUID) : Prop where
  first : ∀ s delivery, valid s → delivery.eventId ∈ ids → known s delivery.eventId = none →
    (accept s delivery).1 = .ok true ∧ valid (accept s delivery).2 ∧
      ∀ eventId, known (accept s delivery).2 eventId =
        if eventId = delivery.eventId then some delivery.payload else known s eventId
  later : ∀ s delivery payload, valid s → delivery.eventId ∈ ids → known s delivery.eventId = some payload →
    accept s delivery = (if payload.same delivery.payload then .ok false else .error webhookConflict, s)

/-- The inbox of the process. -/
def acceptInMemory (inbox : InMemoryWebhookInbox) (delivery : WebhookDelivery) :
    Except MessageError Bool × InMemoryWebhookInbox := inbox.accept delivery.eventId delivery.payload

/-- One transaction on the database. -/
def acceptInDatabase (db : MessageDatabase) (delivery : WebhookDelivery) : Except MessageError Bool × MessageDatabase :=
  let ended := (acceptPaymentWebhookOnce delivery).transact (fun q _ => q.elim) db ()
  (ended.1, ended.2.1)

/-- What the inbox of the process knows of an event. -/
def knownInMemory (inbox : InMemoryWebhookInbox) (eventId : UUID) : Option Payload := inbox.records.get? eventId

/-- What the database knows of an event. -/
def knownInDatabase (db : MessageDatabase) (eventId : UUID) : Option Payload :=
  (db.outbox.get? eventId).map OutboxRow.payload

theorem settlesOnce_inMemory (ids : Set UUID) : SettlesOnce acceptInMemory knownInMemory (fun _ => True) ids := by
  unfold knownInMemory
  constructor
  · intro inbox delivery _ _ unknown
    simp only [acceptInMemory, InMemoryWebhookInbox.accept, unknown, Dict.get?_set]
    exact ⟨trivial, trivial, fun eventId => trivial⟩
  · intro inbox delivery payload _ _ known
    simp only [acceptInMemory, InMemoryWebhookInbox.accept, known]
    cases payload.same delivery.payload <;> rfl

theorem ending_acceptInDatabase {ids : Set UUID} {db : MessageDatabase} (valid : WebhooksValid ids db)
    (delivery : OwnWebhook ids) :
    ∃ p, (webhookSpec ids delivery.1).ending (acceptInDatabase db delivery.1).1 p db ∧
      (acceptInDatabase db delivery.1).2 = if (acceptInDatabase db delivery.1).1.isOk then p.write db else db := by
  have ended := Script.wp_transact (fun (q : Empty) (_ : Unit) => q.elim) valid
    (wp_acceptPaymentWebhookOnce delivery valid) ()
  unfold acceptInDatabase
  exact ended

theorem settlesOnce_inDatabase (ids : Set UUID) :
    SettlesOnce acceptInDatabase knownInDatabase (WebhooksValid ids) ids := by
  unfold knownInDatabase
  constructor
  · intro db delivery valid own unknown
    obtain ⟨p, ended, after⟩ := ending_acceptInDatabase valid ⟨delivery, own⟩
    have unused : ∀ {payload}, ¬ AcceptedAs db delivery.eventId payload := by
      rintro payload ⟨row, found, _⟩
      rw [Option.map_eq_none_iff.mp unknown] at found
      cases found
    rcases ran : acceptInDatabase db delivery with ⟨answer, db'⟩
    rw [ran] at ended after
    obtain rfl : db' = if answer.isOk then p.write db else db := after
    match answer, ended with
    | .error _, ⟨_, _, accepted, _⟩ => exact absurd accepted unused
    | .ok false, ⟨_, _, accepted, _⟩ => exact absurd accepted unused
    | .ok true, ended =>
      refine ⟨rfl, (webhook_promise ⟨delivery, own⟩ valid ended).2, fun eventId => ?_⟩
      dsimp only
      rw [outbox_of_ending ⟨delivery, own⟩ ended]
      simp only [true_and]
      split_ifs <;> rfl
  · intro db delivery payload valid own known
    obtain ⟨p, ended, after⟩ := ending_acceptInDatabase valid ⟨delivery, own⟩
    obtain ⟨row, found, rfl⟩ := Option.map_eq_some_iff.mp known
    have accepted : ∀ {payload}, AcceptedAs db delivery.eventId payload → row.payload = payload := by
      rintro payload ⟨row', found', _, same⟩
      rw [found] at found'
      cases found'
      exact same
    rcases ran : acceptInDatabase db delivery with ⟨answer, db'⟩
    rw [ran] at ended after
    obtain rfl : db' = if answer.isOk then p.write db else db := after
    match answer, ended with
    | .error _, ⟨rfl, _, stored, different⟩ =>
      rw [accepted stored, different]
      rfl
    | .ok false, ⟨untouched, _, stored, equal⟩ =>
      rw [accepted stored, equal]
      simp [Except.isOk, Except.toBool, untouched]
    | .ok true, ⟨_, unused, _⟩ =>
      rw [found] at unused
      cases unused

/-- Two payloads of the endpoint are equal exactly when the events and the digests of the bodies are. -/
theorem same_durablePayload (hex : List UInt8 → String) (envelope envelope' : PaymentWebhookEnvelope)
    (body body' : List UInt8) :
    (envelope.durablePayload hex body).same (envelope'.durablePayload hex body') = true ↔
      envelope.id = envelope'.id ∧ envelope.data = envelope'.data ∧ hex body = hex body' := by
  rcases envelope with ⟨id, orderId, paymentId⟩
  rcases envelope' with ⟨id', orderId', paymentId'⟩
  simp only [Payload.same, PaymentWebhookEnvelope.durablePayload, Payload.get?, JsonValue.same, PaymentData.mk.injEq]
  simp only [List.cons_append, List.nil_append, List.all_cons, List.all_nil, List.find?]
  simp [UUID.str_injective.eq_iff]
  tauto

/-- A request with what its handler draws. -/
structure WebhookCall where
  request : WebhookRequest
  draws : WebhookDraws

/-- The event that the endpoint records after a verified call. -/
def WebhookCall.audit (services : WebhookServices) (call : WebhookCall) (eventId : UUID) (status : WebhookStatus) :
    AuditEvent := ⟨webhookAudit services call.request eventId status, call.draws.auditId, call.draws.occurredAt⟩

/-- The call is made between 1697 and 2242 and about an event of this kind, if about any. -/
structure WebhookCall.Within (services : WebhookServices) (ids : Set UUID) (call : WebhookCall) : Prop where
  fine : call.request.now.Fine
  own : ∀ envelope, services.parseEnvelope call.request.body = some envelope → envelope.id ∈ ids

/-- The earliest of these calls that is authentic and names the event. -/
def FirstAuthentic (services : WebhookServices) (settings : WebhookSettings) (calls : List WebhookCall) (eventId : UUID)
    (call : WebhookCall) (envelope : PaymentWebhookEnvelope) : Prop :=
  ∃ before after, calls = before ++ call :: after ∧ Authentic services settings call.request envelope ∧
    envelope.id = eventId ∧
    ∀ call' ∈ before, ∀ envelope', Authentic services settings call'.request envelope' → envelope'.id ≠ eventId

end

section

variable {σ : Type} (services : WebhookServices) (settings : WebhookSettings)
  (accept : σ → WebhookDelivery → Except MessageError Bool × σ) (start : WebhookState σ)

/-- The service after calls that reached the store in this order. -/
def afterWebhooks (calls : List WebhookCall) : WebhookState σ :=
  (sequential (fun s call => paymentWebhook services settings call.request accept call.draws s) start calls).2

/-- The answer to a call that follows others. -/
def webhookAnswer (earlier : List WebhookCall) (call : WebhookCall) : Except LoginError WebhookStatus :=
  (paymentWebhook services settings call.request accept call.draws
    (afterWebhooks services settings accept start earlier)).1

def webhookEventReused : LoginError := .http ⟨409, "webhook event ID conflict", []⟩

/-- What the provider can rely on, whatever else reaches the endpoint. -/
structure WebhookAccount (known : σ → UUID → Option Payload) (ids : Set UUID) (calls : List WebhookCall) : Prop where
  /-- An event is accepted with the first authentic call of it, and with no other call. -/
  accepted : ∀ earlier call later, calls = earlier ++ call :: later →
    (webhookAnswer services settings accept start earlier call = .ok .accepted ↔
      ∃ envelope, Authentic services settings call.request envelope ∧
        ∀ call' ∈ earlier, ∀ envelope', Authentic services settings call'.request envelope' →
          envelope'.id ≠ envelope.id)
  /-- An authentic call is a duplicate exactly if its body is that of the first, byte for byte. -/
  duplicate : ∀ earlier call later, calls = earlier ++ call :: later →
    (webhookAnswer services settings accept start earlier call = .ok .duplicate ↔
      ∃ envelope first envelope', Authentic services settings call.request envelope ∧
        FirstAuthentic services settings earlier envelope.id first envelope' ∧
        first.request.body = call.request.body)
  conflict : ∀ earlier call later, calls = earlier ++ call :: later →
    (webhookAnswer services settings accept start earlier call = .error webhookEventReused ↔
      ∃ envelope first envelope', Authentic services settings call.request envelope ∧
        FirstAuthentic services settings earlier envelope.id first envelope' ∧
        first.request.body ≠ call.request.body)
  /-- Only an acceptance changes the store, and only a verified call is audited. -/
  stored : ∀ earlier call later, calls = earlier ++ call :: later →
    webhookAnswer services settings accept start earlier call ≠ .ok .accepted →
    (afterWebhooks services settings accept start (earlier ++ [call])).store =
      (afterWebhooks services settings accept start earlier).store
  audited : ∀ earlier call later, calls = earlier ++ call :: later →
    (afterWebhooks services settings accept start (earlier ++ [call])).audit =
      (afterWebhooks services settings accept start earlier).audit ++
      match webhookAnswer services settings accept start earlier call, services.parseEnvelope call.request.body with
      | .ok status, some envelope => [call.audit services envelope.id status]
      | _, _ => []
  /-- What is kept of an event is what the first authentic call said. -/
  kept : ∀ eventId ∈ ids, ∀ payload,
    known (afterWebhooks services settings accept start calls).store eventId = some payload ↔
    ∃ first envelope, FirstAuthentic services settings calls eventId first envelope ∧
      payload = envelope.durablePayload services.sha.hexdigest first.request.body

end

section

variable {σ : Type} {services : WebhookServices} {settings : WebhookSettings}
  {accept : σ → WebhookDelivery → Except MessageError Bool × σ} {start s : WebhookState σ}
  {known : σ → UUID → Option Payload} {valid : σ → Prop} {ids : Set UUID} {earlier : List WebhookCall} {call : WebhookCall}
  {envelope : PaymentWebhookEnvelope}

theorem afterWebhooks_append (earlier : List WebhookCall) (call : WebhookCall) :
    afterWebhooks services settings accept start (earlier ++ [call]) =
      (paymentWebhook services settings call.request accept call.draws
        (afterWebhooks services settings accept start earlier)).2 := by
  simp only [afterWebhooks, sequential_append, sequential]

/-- An authentic call about an event that the store does not know. -/
theorem paymentWebhook_first (call : WebhookCall) (settles : SettlesOnce accept known valid ids) (sound : valid s.store)
    (admitted : admitWebhook services settings call.request = .ok envelope) (own : envelope.id ∈ ids)
    (unknown : known s.store envelope.id = none) :
    ∃ store, paymentWebhook services settings call.request accept call.draws s =
        (.ok .accepted, ⟨store, s.audit ++ [call.audit services envelope.id .accepted]⟩) ∧ valid store ∧
      ∀ eventId, known store eventId = if eventId = envelope.id then
        some (envelope.durablePayload services.sha.hexdigest call.request.body) else known s.store eventId := by
  obtain ⟨answer, sound', records⟩ :=
    settles.first s.store (webhookDelivery services call.request call.draws envelope) sound own unknown
  rcases ran : accept s.store (webhookDelivery services call.request call.draws envelope) with ⟨answered, store⟩
  rw [ran] at answer sound' records
  obtain rfl : answered = .ok true := answer
  refine ⟨store, ?_, sound', records⟩
  simp only [paymentWebhook, admitted, ran]
  rfl

/-- An authentic call about an event that the store knows. -/
theorem paymentWebhook_later (call : WebhookCall) {payload : Payload} (settles : SettlesOnce accept known valid ids) (sound : valid s.store)
    (admitted : admitWebhook services settings call.request = .ok envelope) (own : envelope.id ∈ ids)
    (stored : known s.store envelope.id = some payload) :
    paymentWebhook services settings call.request accept call.draws s =
      if payload.same (envelope.durablePayload services.sha.hexdigest call.request.body) then
        (.ok .duplicate, ⟨s.store, s.audit ++ [call.audit services envelope.id .duplicate]⟩)
      else (.error webhookEventReused, s) := by
  have ran : accept s.store (webhookDelivery services call.request call.draws envelope) =
      (if payload.same (envelope.durablePayload services.sha.hexdigest call.request.body) then .ok false
        else .error webhookConflict, s.store) := settles.later _ _ _ sound own stored
  by_cases same : payload.same (envelope.durablePayload services.sha.hexdigest call.request.body) = true
  · rw [if_pos same] at ran ⊢
    simp only [paymentWebhook, admitted, ran]
    rfl
  · rw [if_neg same] at ran ⊢
    simp only [paymentWebhook, admitted, ran]
    rfl

theorem paymentWebhook_refused {failed : LoginError} (refused : admitWebhook services settings call.request = .error failed) :
    paymentWebhook services settings call.request accept call.draws s = (.error failed, s) := by
  simp only [paymentWebhook, refused]

theorem announcesTooMuch_error {failed : LoginError}
    (refused : announcesTooMuch services settings call.request = .error failed) : failed = .unhandled := by
  unfold announcesTooMuch at refused
  split at refused
  next => cases refused
  next =>
    split at refused
    next =>
      split at refused
      next => exact (Except.error.inj refused).symm
      next => cases refused
    next => cases refused

theorem admitWebhook_ne_reused (refused : admitWebhook services settings call.request = .error webhookEventReused) :
    False := by
  unfold admitWebhook webhookTooLarge webhookUnauthorized webhookEventReused at refused
  split at refused
  next failed announced =>
    rw [announcesTooMuch_error announced] at refused
    cases refused
  next =>
  split at refused
  next => cases refused
  next =>
  split at refused
  next => cases refused
  next =>
  split at refused
  next => cases refused
  next => cases refused
  next =>
  split at refused
  next => cases refused
  next =>
  split at refused
  next =>
    split at refused
    next => cases refused
    next => cases refused
  next => cases refused

theorem Authentic.unique {request : WebhookRequest} {envelope' : PaymentWebhookEnvelope}
    (authentic : Authentic services settings request envelope)
    (authentic' : Authentic services settings request envelope') : envelope = envelope' :=
  Option.some.inj (authentic.parsed.symm.trans authentic'.parsed)

theorem FirstAuthentic.append {eventId : UUID} {first : WebhookCall}
    (found : FirstAuthentic services settings earlier eventId first envelope) (call : WebhookCall) :
    FirstAuthentic services settings (earlier ++ [call]) eventId first envelope := by
  obtain ⟨before, after, rfl, rest⟩ := found
  exact ⟨before, after ++ [call], by simp, rest⟩

theorem FirstAuthentic.mem {eventId : UUID} {first : WebhookCall}
    (found : FirstAuthentic services settings earlier eventId first envelope) : first ∈ earlier := by
  obtain ⟨before, after, rfl, -⟩ := found
  simp

/-- There is one earliest call. -/
theorem FirstAuthentic.unique {eventId : UUID} {first first' : WebhookCall} {envelope' : PaymentWebhookEnvelope}
    (found : FirstAuthentic services settings earlier eventId first envelope)
    (found' : FirstAuthentic services settings earlier eventId first' envelope') :
    first = first' ∧ envelope = envelope' := by
  obtain ⟨before, after, split, authentic, named, quiet⟩ := found
  obtain ⟨before', after', split', authentic', named', quiet'⟩ := found'
  rw [split] at split'
  obtain rfl : first = first' := by
    rcases List.append_eq_append_iff.mp split' with ⟨gap, rfl, more⟩ | ⟨gap, rfl, more⟩
    · cases gap with
      | nil =>
        simp only [List.nil_append, List.cons.injEq] at more
        exact more.1
      | cons other gap =>
        simp only [List.cons_append, List.cons.injEq] at more
        exact absurd named (quiet' first (by simp [more.1]) _ authentic)
    · cases gap with
      | nil =>
        simp only [List.nil_append, List.cons.injEq] at more
        exact more.1.symm
      | cons other gap =>
        simp only [List.cons_append, List.cons.injEq] at more
        exact absurd named' (quiet first' (by simp [more.1]) _ authentic')
  exact ⟨rfl, authentic.unique authentic'⟩

/-- The store knows the events of the authentic calls so far, each as its first call gave it. -/
structure WebhookLog (services : WebhookServices) (settings : WebhookSettings) (known : σ → UUID → Option Payload)
    (valid : σ → Prop) (ids : Set UUID) (earlier : List WebhookCall) (store : σ) : Prop where
  sound : valid store
  unknown : ∀ eventId ∈ ids, known store eventId = none →
    ∀ call ∈ earlier, ∀ envelope, Authentic services settings call.request envelope → envelope.id ≠ eventId
  settled : ∀ eventId ∈ ids, ∀ payload, known store eventId = some payload →
    ∃ first envelope, FirstAuthentic services settings earlier eventId first envelope ∧
      payload = envelope.durablePayload services.sha.hexdigest first.request.body

/-- What becomes of a call. -/
inductive Treated (services : WebhookServices) (settings : WebhookSettings) (earlier : List WebhookCall)
    (call : WebhookCall) (s : WebhookState σ) : Except LoginError WebhookStatus × WebhookState σ → Prop
  | refused {failed : LoginError} (other : failed ≠ webhookEventReused)
      (unauthentic : ∀ envelope, ¬ Authentic services settings call.request envelope) :
      Treated services settings earlier call s (.error failed, s)
  | accepted {envelope : PaymentWebhookEnvelope} {store : σ}
      (authentic : Authentic services settings call.request envelope)
      (new : ∀ call' ∈ earlier, ∀ envelope', Authentic services settings call'.request envelope' →
        envelope'.id ≠ envelope.id) :
      Treated services settings earlier call s
        (.ok .accepted, ⟨store, s.audit ++ [call.audit services envelope.id .accepted]⟩)
  | duplicate {envelope envelope' : PaymentWebhookEnvelope} {first : WebhookCall}
      (authentic : Authentic services settings call.request envelope)
      (found : FirstAuthentic services settings earlier envelope.id first envelope')
      (same : first.request.body = call.request.body) :
      Treated services settings earlier call s
        (.ok .duplicate, ⟨s.store, s.audit ++ [call.audit services envelope.id .duplicate]⟩)
  | conflict {envelope envelope' : PaymentWebhookEnvelope} {first : WebhookCall}
      (authentic : Authentic services settings call.request envelope)
      (found : FirstAuthentic services settings earlier envelope.id first envelope')
      (different : first.request.body ≠ call.request.body) :
      Treated services settings earlier call s (.error webhookEventReused, s)

/-- The digest of the body stands for the body. -/
theorem same_iff_body {envelope' : PaymentWebhookEnvelope} {first : WebhookCall}
    (authentic : Authentic services settings call.request envelope)
    (found : FirstAuthentic services settings earlier envelope.id first envelope')
    (free : ¬ services.sha.Collision first.request.body call.request.body) :
    (envelope'.durablePayload services.sha.hexdigest first.request.body).same
        (envelope.durablePayload services.sha.hexdigest call.request.body) = true ↔
      first.request.body = call.request.body := by
  obtain ⟨_, _, _, authentic', named, _⟩ := found
  rw [same_durablePayload]
  constructor
  · rintro ⟨_, _, digests⟩
    by_contra different
    exact free ⟨different, hexText_injective digests⟩
  · intro same
    have parsed := authentic'.parsed
    rw [same, authentic.parsed] at parsed
    obtain rfl := Option.some.inj parsed
    exact ⟨rfl, rfl, by rw [same]⟩

namespace WebhookLog

/-- A call that is not authentic says nothing about an event. -/
theorem keep {store : σ} (log : WebhookLog services settings known valid ids earlier store)
    (unauthentic : ∀ envelope, ¬ Authentic services settings call.request envelope) :
    WebhookLog services settings known valid ids (earlier ++ [call]) store := by
  refine ⟨log.sound, fun eventId own unknown call' mem envelope authentic => ?_, fun eventId own payload stored => ?_⟩
  · rcases List.mem_append.mp mem with old | last
    · exact log.unknown eventId own unknown call' old envelope authentic
    · obtain rfl := List.mem_singleton.mp last
      exact absurd authentic (unauthentic envelope)
  · obtain ⟨first, envelope, found, same⟩ := log.settled eventId own payload stored
    exact ⟨first, envelope, found.append call, same⟩

/-- A second call about an event settles nothing new. -/
theorem again {store : σ} {payload : Payload} (log : WebhookLog services settings known valid ids earlier store)
    (authentic : Authentic services settings call.request envelope) (stored : known store envelope.id = some payload) :
    WebhookLog services settings known valid ids (earlier ++ [call]) store := by
  refine ⟨log.sound, fun eventId own unknown call' mem envelope' authentic' => ?_, fun eventId own payload' stored' => ?_⟩
  · rcases List.mem_append.mp mem with old | last
    · exact log.unknown eventId own unknown call' old envelope' authentic'
    · obtain rfl := List.mem_singleton.mp last
      obtain rfl := authentic.unique authentic'
      rintro rfl
      rw [stored] at unknown
      cases unknown
  · obtain ⟨first, envelope', found, same⟩ := log.settled eventId own payload' stored'
    exact ⟨first, envelope', found.append call, same⟩

theorem add {store store' : σ} (log : WebhookLog services settings known valid ids earlier store)
    (authentic : Authentic services settings call.request envelope)
    (new : ∀ call' ∈ earlier, ∀ envelope', Authentic services settings call'.request envelope' →
      envelope'.id ≠ envelope.id)
    (sound : valid store') (records : ∀ eventId, known store' eventId = if eventId = envelope.id then
      some (envelope.durablePayload services.sha.hexdigest call.request.body) else known store eventId) :
    WebhookLog services settings known valid ids (earlier ++ [call]) store' := by
  refine ⟨sound, fun eventId own unknown call' mem envelope' authentic' => ?_, fun eventId own payload stored => ?_⟩
  · rw [records] at unknown
    split_ifs at unknown with here
    rcases List.mem_append.mp mem with old | last
    · exact log.unknown eventId own unknown call' old envelope' authentic'
    · obtain rfl := List.mem_singleton.mp last
      obtain rfl := authentic.unique authentic'
      exact Ne.symm here
  · rw [records] at stored
    split_ifs at stored with here
    · obtain rfl := here
      exact ⟨call, envelope, ⟨earlier, [], rfl, authentic, rfl, new⟩, (Option.some.inj stored).symm⟩
    · obtain ⟨first, envelope', found, same⟩ := log.settled eventId own payload stored
      exact ⟨first, envelope', found.append call, same⟩

end WebhookLog

theorem treated_paymentWebhook (settles : SettlesOnce accept known valid ids)
    (log : WebhookLog services settings known valid ids earlier s.store) (within : call.Within services ids)
    (free : ∀ call' ∈ earlier, ¬ services.sha.Collision call'.request.body call.request.body) :
    Treated services settings earlier call s (paymentWebhook services settings call.request accept call.draws s) ∧
      WebhookLog services settings known valid ids (earlier ++ [call])
        (paymentWebhook services settings call.request accept call.draws s).2.store := by
  rcases admitted : admitWebhook services settings call.request with failed | envelope
  · have unauthentic : ∀ envelope, ¬ Authentic services settings call.request envelope := by
      intro envelope authentic
      rw [(admitWebhook_eq_ok_iff within.fine).mpr authentic] at admitted
      cases admitted
    rw [paymentWebhook_refused admitted]
    refine ⟨.refused (by rintro rfl; exact admitWebhook_ne_reused admitted) unauthentic, log.keep unauthentic⟩
  · have authentic := (admitWebhook_eq_ok_iff within.fine).mp admitted
    have own := within.own envelope authentic.parsed
    cases stored : known s.store envelope.id with
    | none =>
      have new := log.unknown _ own stored
      obtain ⟨store, ran, sound, records⟩ := paymentWebhook_first call settles log.sound admitted own stored
      rw [ran]
      exact ⟨.accepted authentic new, log.add authentic new sound records⟩
    | some payload =>
      obtain ⟨first, envelope', found, rfl⟩ := log.settled _ own _ stored
      have ran := paymentWebhook_later call settles log.sound admitted own stored
      have equal := same_iff_body authentic found (free first found.mem)
      have kept : WebhookLog services settings known valid ids (earlier ++ [call]) s.store := log.again authentic stored
      by_cases same : first.request.body = call.request.body
      · rw [if_pos (equal.mpr same)] at ran
        rw [ran]
        exact ⟨.duplicate authentic found same, kept⟩
      · rw [if_neg (mt equal.mp same)] at ran
        rw [ran]
        exact ⟨.conflict authentic found same, kept⟩

namespace Treated

variable {answered : Except LoginError WebhookStatus × WebhookState σ}

/-- An event with an earliest call is not new. -/
theorem not_new {envelope' envelope'' : PaymentWebhookEnvelope} {first : WebhookCall}
    (authentic : Authentic services settings call.request envelope)
    (found : FirstAuthentic services settings earlier envelope.id first envelope')
    (authentic' : Authentic services settings call.request envelope'')
    (new : ∀ call' ∈ earlier, ∀ envelope', Authentic services settings call'.request envelope' →
      envelope'.id ≠ envelope''.id) : False := by
  obtain rfl := authentic.unique authentic'
  have mem := found.mem
  obtain ⟨_, _, _, earliest, named, _⟩ := found
  exact new first mem envelope' earliest named

theorem accepted_iff (outcome : Treated services settings earlier call s answered) :
    answered.1 = .ok .accepted ↔ ∃ envelope, Authentic services settings call.request envelope ∧
      ∀ call' ∈ earlier, ∀ envelope', Authentic services settings call'.request envelope' →
        envelope'.id ≠ envelope.id := by
  cases outcome with
  | refused _ unauthentic => exact iff_of_false (by simp) fun ⟨envelope, authentic, _⟩ => unauthentic envelope authentic
  | accepted authentic new => exact iff_of_true rfl ⟨_, authentic, new⟩
  | duplicate authentic found =>
    exact iff_of_false (by simp) fun ⟨_, authentic', new⟩ => not_new authentic found authentic' new
  | conflict authentic found =>
    exact iff_of_false (by simp) fun ⟨_, authentic', new⟩ => not_new authentic found authentic' new

theorem duplicate_iff (outcome : Treated services settings earlier call s answered) :
    answered.1 = .ok .duplicate ↔ ∃ envelope first envelope', Authentic services settings call.request envelope ∧
      FirstAuthentic services settings earlier envelope.id first envelope' ∧ first.request.body = call.request.body := by
  cases outcome with
  | refused _ unauthentic =>
    exact iff_of_false (by simp) fun ⟨envelope, _, _, authentic, _⟩ => unauthentic envelope authentic
  | accepted authentic new =>
    exact iff_of_false (by simp) fun ⟨_, _, _, authentic', found, _⟩ => not_new authentic' found authentic new
  | duplicate authentic found same => exact iff_of_true rfl ⟨_, _, _, authentic, found, same⟩
  | conflict authentic found different =>
    refine iff_of_false (by simp) fun ⟨_, _, _, authentic', found', same⟩ => different ?_
    obtain rfl := authentic.unique authentic'
    rw [(found.unique found').1, same]

theorem conflict_iff (outcome : Treated services settings earlier call s answered) :
    answered.1 = .error webhookEventReused ↔ ∃ envelope first envelope',
      Authentic services settings call.request envelope ∧
      FirstAuthentic services settings earlier envelope.id first envelope' ∧ first.request.body ≠ call.request.body := by
  cases outcome with
  | refused other unauthentic =>
    refine iff_of_false (fun same => other (Except.error.inj same)) fun ⟨envelope, _, _, authentic, _⟩ => ?_
    exact unauthentic envelope authentic
  | accepted authentic new =>
    exact iff_of_false (by simp) fun ⟨_, _, _, authentic', found, _⟩ => not_new authentic' found authentic new
  | duplicate authentic found same =>
    refine iff_of_false (by simp) fun ⟨_, _, _, authentic', found', different⟩ => different ?_
    obtain rfl := authentic.unique authentic'
    rw [← (found.unique found').1, same]
  | conflict authentic found different => exact iff_of_true rfl ⟨_, _, _, authentic, found, different⟩

theorem store_eq (outcome : Treated services settings earlier call s answered)
    (answer : answered.1 ≠ .ok .accepted) : answered.2.store = s.store := by
  cases outcome with
  | refused | duplicate | conflict => rfl
  | accepted => exact absurd rfl answer

theorem audit_eq (outcome : Treated services settings earlier call s answered) :
    answered.2.audit = s.audit ++ match answered.1, services.parseEnvelope call.request.body with
      | .ok status, some envelope => [call.audit services envelope.id status]
      | _, _ => [] := by
  cases outcome with
  | refused | conflict => simp
  | accepted authentic | duplicate authentic => simp [authentic.parsed]

end Treated

theorem webhookLog_after (settles : SettlesOnce accept known valid ids) (sound : valid start.store)
    (unused : ∀ eventId ∈ ids, known start.store eventId = none) {calls : List WebhookCall}
    (within : ∀ call ∈ calls, call.Within services ids)
    (free : ∀ call ∈ calls, ∀ call' ∈ calls, ¬ services.sha.Collision call.request.body call'.request.body) :
    WebhookLog services settings known valid ids calls (afterWebhooks services settings accept start calls).store := by
  induction calls using List.reverseRecOn with
  | nil =>
    refine ⟨sound, fun _ _ _ call mem => (by cases mem), fun eventId own payload stored => ?_⟩
    cases (unused eventId own).symm.trans stored
  | append_singleton earlier call ih =>
    have log := ih (fun call' mem => within call' (List.mem_append_left _ mem)) fun call' mem call'' mem' =>
      free call' (List.mem_append_left _ mem) call'' (List.mem_append_left _ mem')
    have last : call ∈ earlier ++ [call] := List.mem_append_right _ (List.mem_singleton.mpr rfl)
    rw [afterWebhooks_append]
    exact (treated_paymentWebhook settles log (within call last) fun call' mem =>
      free call' (List.mem_append_left _ mem) call last).2

theorem webhookAccount (settles : SettlesOnce accept known valid ids) (sound : valid start.store)
    (unused : ∀ eventId ∈ ids, known start.store eventId = none) {calls : List WebhookCall}
    (within : ∀ call ∈ calls, call.Within services ids)
    (free : ∀ call ∈ calls, ∀ call' ∈ calls, ¬ services.sha.Collision call.request.body call'.request.body) :
    WebhookAccount services settings accept start known ids calls := by
  have treated : ∀ earlier call later, calls = earlier ++ call :: later →
      Treated services settings earlier call (afterWebhooks services settings accept start earlier)
        (paymentWebhook services settings call.request accept call.draws
          (afterWebhooks services settings accept start earlier)) := by
    rintro earlier call later rfl
    have log : WebhookLog services settings known valid ids earlier
        (afterWebhooks services settings accept start earlier).store :=
      webhookLog_after settles sound unused (fun call' mem => within call' (List.mem_append_left _ mem))
        fun call' mem call'' mem' => free call' (List.mem_append_left _ mem) call'' (List.mem_append_left _ mem')
    exact (treated_paymentWebhook settles log (within call (by simp)) fun call' mem =>
      free call' (List.mem_append_left _ mem) call (by simp)).1
  have log : WebhookLog services settings known valid ids calls
      (afterWebhooks services settings accept start calls).store := webhookLog_after settles sound unused within free
  refine ⟨fun earlier call later split => (treated earlier call later split).accepted_iff,
    fun earlier call later split => (treated earlier call later split).duplicate_iff,
    fun earlier call later split => (treated earlier call later split).conflict_iff,
    fun earlier call later split => ?_, fun earlier call later split => ?_, fun eventId own payload => ⟨?_, ?_⟩⟩
  · rw [afterWebhooks_append]
    exact (treated earlier call later split).store_eq
  · rw [afterWebhooks_append]
    exact (treated earlier call later split).audit_eq
  · exact log.settled eventId own payload
  · rintro ⟨first, envelope, found, rfl⟩
    cases stored : known (afterWebhooks services settings accept start calls).store eventId with
    | none =>
      have mem := found.mem
      obtain ⟨_, _, _, authentic, named, _⟩ := found
      exact absurd named (log.unknown eventId own stored first mem envelope authentic)
    | some payload =>
      obtain ⟨first', envelope', found', rfl⟩ := log.settled eventId own payload stored
      obtain ⟨rfl, rfl⟩ := found.unique found'
      rfl

/-- A store that settles events keeps them, and an answer of either status means that it knows the event. -/
theorem paymentWebhook_keeps (settings : WebhookSettings) (settles : SettlesOnce accept known valid ids) (sound : valid s.store)
    (within : call.Within services ids) :
    valid (paymentWebhook services settings call.request accept call.draws s).2.store ∧
    (∀ eventId payload, known s.store eventId = some payload →
      known (paymentWebhook services settings call.request accept call.draws s).2.store eventId = some payload) ∧
    ∀ status, (paymentWebhook services settings call.request accept call.draws s).1 = .ok status →
      ∃ envelope payload, Authentic services settings call.request envelope ∧
        known (paymentWebhook services settings call.request accept call.draws s).2.store envelope.id = some payload ∧
        payload.same (envelope.durablePayload services.sha.hexdigest call.request.body) = true := by
  rcases admitted : admitWebhook services settings call.request with failed | envelope
  · rw [paymentWebhook_refused admitted]
    exact ⟨sound, fun _ _ stored => stored, fun status answered => (by cases answered)⟩
  · have authentic := (admitWebhook_eq_ok_iff within.fine).mp admitted
    have own := within.own envelope authentic.parsed
    cases stored : known s.store envelope.id with
    | none =>
      obtain ⟨store, ran, sound', records⟩ := paymentWebhook_first call settles sound admitted own stored
      rw [ran]
      refine ⟨sound', fun eventId payload stored' => ?_, fun status _ => ⟨envelope, _, authentic,
        (records envelope.id).trans (if_pos rfl), (same_durablePayload _ _ _ _ _).mpr ⟨rfl, rfl, rfl⟩⟩⟩
      have other : eventId ≠ envelope.id := by
        rintro rfl
        rw [stored] at stored'
        cases stored'
      exact ((records eventId).trans (if_neg other)).trans stored'
    | some payload =>
      rw [paymentWebhook_later call settles sound admitted own stored]
      split_ifs with same
      · exact ⟨sound, fun _ _ stored' => stored', fun status _ => ⟨envelope, payload, authentic, stored, same⟩⟩
      · exact ⟨sound, fun _ _ stored' => stored', fun status answered => (by cases answered)⟩

theorem afterWebhooks_keeps (settings : WebhookSettings) (settles : SettlesOnce accept known valid ids) (sound : valid start.store)
    {calls : List WebhookCall} (within : ∀ call ∈ calls, call.Within services ids) :
    valid (afterWebhooks services settings accept start calls).store ∧
    ∀ eventId payload, known start.store eventId = some payload →
      known (afterWebhooks services settings accept start calls).store eventId = some payload := by
  induction calls using List.reverseRecOn with
  | nil => exact ⟨sound, fun _ _ stored => stored⟩
  | append_singleton earlier call ih =>
    obtain ⟨sound', kept⟩ := ih fun call' mem => within call' (List.mem_append_left _ mem)
    have last : call ∈ earlier ++ [call] := List.mem_append_right _ (List.mem_singleton.mpr rfl)
    obtain ⟨sound'', kept', -⟩ := paymentWebhook_keeps (s := afterWebhooks services settings accept start earlier)
      settings settles sound' (within call last)
    rw [afterWebhooks_append]
    exact ⟨sound'', fun eventId payload stored => kept' eventId payload (kept eventId payload stored)⟩

/-- The request is sent again as it was, to be taken at another time. -/
structure Resent (original replay : WebhookRequest) : Prop where
  eventId : replay.eventIdHeader = original.eventIdHeader
  timestamp : replay.timestampHeader = original.timestampHeader
  signature : replay.signature = original.signature
  contentLength : replay.contentLength = original.contentLength
  contentType : replay.contentType = original.contentType
  body : replay.body = original.body

/-- A replay is authentic again exactly while it is fresh. -/
theorem Resent.admitted {original replay : WebhookRequest} (resent : Resent original replay) (fine : replay.now.Fine)
    (authentic : Authentic services settings original envelope) :
    (Fresh services settings original.timestampHeader replay.now →
      admitWebhook services settings replay = .ok envelope) ∧
    (¬ Fresh services settings original.timestampHeader replay.now →
      admitWebhook services settings replay = .error webhookUnauthorized) := by
  obtain ⟨eventId, timestamp, signature, contentLength, contentType, body⟩ := resent
  have announced : announcesTooMuch services settings replay = .ok false := by
    have announced := authentic.announced
    unfold announcesTooMuch at announced ⊢
    rwa [contentLength]
  have signed := authentic.signed
  rw [← timestamp, ← signature, ← body] at signed
  constructor
  · intro fresh
    refine (admitWebhook_eq_ok_iff fine).mpr ⟨announced, body ▸ authentic.sized, signed, timestamp ▸ fresh, ?_, ?_, ?_⟩
    · have typed := authentic.typed
      unfold mediaType at typed ⊢
      rwa [contentType]
    · rw [body, authentic.parsed]
    · rw [eventId, authentic.named]
  · intro stale
    obtain ⟨fresh, decided, exact⟩ := timestampIsFresh_iff services settings fine
    obtain rfl : fresh = false := eq_false_of_ne_true fun now => stale (timestamp ▸ exact.mp now)
    have sized := authentic.sized
    rw [← body] at sized
    simp [admitWebhook, announced, not_lt.mpr sized, signed, decided]

/-- A request that was answered and is sent again, after whatever else was sent in between, is only ever a duplicate,
and from the end of the tolerance on it is refused; it changes nothing. -/
def ReplaySafe (services : WebhookServices) (settings : WebhookSettings)
    (accept : σ → WebhookDelivery → Except MessageError Bool × σ) (start : WebhookState σ) (calls : List WebhookCall) :
    Prop :=
  ∀ earlier original between replay later status, calls = earlier ++ original :: between ++ replay :: later →
    webhookAnswer services settings accept start earlier original = .ok status → Resent original.request replay.request →
    (Fresh services settings original.request.timestampHeader replay.request.now →
      webhookAnswer services settings accept start (earlier ++ original :: between) replay = .ok .duplicate) ∧
    (¬ Fresh services settings original.request.timestampHeader replay.request.now →
      webhookAnswer services settings accept start (earlier ++ original :: between) replay = .error webhookUnauthorized) ∧
    (afterWebhooks services settings accept start (earlier ++ original :: between ++ [replay])).store =
      (afterWebhooks services settings accept start (earlier ++ original :: between)).store

theorem afterWebhooks_cons (earlier later : List WebhookCall) (call : WebhookCall) :
    afterWebhooks services settings accept start (earlier ++ call :: later) =
      afterWebhooks services settings accept (afterWebhooks services settings accept start (earlier ++ [call])) later := by
  simp only [afterWebhooks, sequential_append, sequential]

theorem replaySafe (settles : SettlesOnce accept known valid ids) (sound : valid start.store)
    {calls : List WebhookCall} (within : ∀ call ∈ calls, call.Within services ids) :
    ReplaySafe services settings accept start calls := by
  rintro earlier original between replay later status rfl answered resent
  have before : ∀ call ∈ earlier, call.Within services ids := fun call mem => within call (by simp [mem])
  have meanwhile : ∀ call ∈ between, call.Within services ids := fun call mem => within call (by simp [mem])
  obtain ⟨soundEarlier, -⟩ := afterWebhooks_keeps settings settles sound before
  obtain ⟨soundOriginal, -, settled⟩ := paymentWebhook_keeps settings settles soundEarlier (within original (by simp))
  obtain ⟨envelope, payload, authentic, stored, same⟩ := settled status answered
  rw [← afterWebhooks_append] at soundOriginal stored
  obtain ⟨soundBetween, kept⟩ := afterWebhooks_keeps settings settles soundOriginal meanwhile
  rw [← afterWebhooks_cons] at soundBetween kept
  have known' := kept _ _ stored
  obtain ⟨again, refused⟩ := resent.admitted (within replay (by simp)).fine authentic
  have own := (within original (by simp)).own envelope authentic.parsed
  rw [afterWebhooks_append]
  by_cases fresh : Fresh services settings original.request.timestampHeader replay.request.now
  · have ran := paymentWebhook_later replay settles soundBetween (again fresh) own known'
    rw [if_pos (by rwa [resent.body])] at ran
    refine ⟨fun _ => ?_, fun stale => absurd fresh stale, ?_⟩
    · rw [webhookAnswer, ran]
    · rw [ran]
  · refine ⟨fun now => absurd now fresh, fun _ => ?_, ?_⟩
    · rw [webhookAnswer, paymentWebhook_refused (refused fresh)]
    · rw [paymentWebhook_refused (refused fresh)]

/-- Two stores that know the same of the events answer alike and record the same. -/
structure Alike {τ : Type} (known : σ → UUID → Option Payload) (known' : τ → UUID → Option Payload)
    (valid : σ → Prop) (valid' : τ → Prop) (ids : Set UUID) (s : WebhookState σ) (s' : WebhookState τ) : Prop where
  sound : valid s.store
  sound' : valid' s'.store
  same : ∀ eventId ∈ ids, known s.store eventId = known' s'.store eventId
  audit : s.audit = s'.audit

theorem alike_paymentWebhook {τ : Type} {accept' : τ → WebhookDelivery → Except MessageError Bool × τ}
    {known' : τ → UUID → Option Payload} {valid' : τ → Prop} {s' : WebhookState τ} (settings : WebhookSettings)
    (settles : SettlesOnce accept known valid ids) (settles' : SettlesOnce accept' known' valid' ids)
    (alike : Alike known known' valid valid' ids s s') (within : call.Within services ids) :
    (paymentWebhook services settings call.request accept call.draws s).1 =
        (paymentWebhook services settings call.request accept' call.draws s').1 ∧
      Alike known known' valid valid' ids (paymentWebhook services settings call.request accept call.draws s).2
        (paymentWebhook services settings call.request accept' call.draws s').2 := by
  obtain ⟨sound, sound', same, audit⟩ := alike
  rcases admitted : admitWebhook services settings call.request with failed | envelope
  · rw [paymentWebhook_refused admitted, paymentWebhook_refused admitted]
    exact ⟨rfl, sound, sound', same, audit⟩
  · have own := within.own envelope ((admitWebhook_eq_ok_iff within.fine).mp admitted).parsed
    cases stored : known s.store envelope.id with
    | none =>
      have stored' := (same _ own).symm.trans stored
      obtain ⟨store, ran, after, records⟩ := paymentWebhook_first call settles sound admitted own stored
      obtain ⟨store', ran', after', records'⟩ := paymentWebhook_first call settles' sound' admitted own stored'
      rw [ran, ran']
      refine ⟨rfl, after, after', fun eventId mine => ?_, by rw [audit]⟩
      rw [records, records', same eventId mine]
    | some payload =>
      have stored' := (same _ own).symm.trans stored
      rw [paymentWebhook_later call settles sound admitted own stored,
        paymentWebhook_later call settles' sound' admitted own stored']
      split_ifs
      · exact ⟨rfl, sound, sound', same, by rw [audit]⟩
      · exact ⟨rfl, sound, sound', same, audit⟩

theorem alike_run {τ : Type} {accept' : τ → WebhookDelivery → Except MessageError Bool × τ}
    {known' : τ → UUID → Option Payload} {valid' : τ → Prop} {s' : WebhookState τ} {calls : List WebhookCall}
    (settings : WebhookSettings) (settles : SettlesOnce accept known valid ids)
    (settles' : SettlesOnce accept' known' valid' ids) (alike : Alike known known' valid valid' ids s s')
    (within : ∀ call ∈ calls, call.Within services ids) :
    (sequential (fun s call => paymentWebhook services settings call.request accept call.draws s) s calls).1 =
        (sequential (fun s call => paymentWebhook services settings call.request accept' call.draws s) s' calls).1 ∧
      (afterWebhooks services settings accept s calls).audit = (afterWebhooks services settings accept' s' calls).audit := by
  induction calls generalizing s s' with
  | nil => exact ⟨rfl, alike.audit⟩
  | cons call rest ih =>
    obtain ⟨answer, next⟩ :=
      alike_paymentWebhook settings settles settles' alike (within call (List.mem_cons_self ..))
    obtain ⟨answers, audit⟩ := ih next fun call' mem => within call' (List.mem_cons_of_mem _ mem)
    refine ⟨?_, audit⟩
    simp only [sequential]
    rw [answer, answers]

end

/-- The signature of the request below under the default secret, and the digests of its body and of the provider. -/
def paidMac : Bytes :=
  [220, 34, 128, 175, 108, 184, 156, 88, 82, 83, 119, 77, 53, 247, 12, 24, 178, 121, 75, 210, 226, 210, 149, 217, 117,
    33, 131, 252, 27, 157, 177, 161]

def paidDigest : Bytes :=
  [178, 91, 185, 124, 30, 193, 228, 136, 172, 132, 64, 5, 79, 97, 155, 246, 228, 205, 157, 27, 141, 77, 99, 43, 116,
    89, 203, 122, 105, 111, 2, 96]

def providerDigest : Bytes :=
  [183, 247, 75, 27, 88, 178, 222, 98, 164, 180, 146, 152, 21, 224, 21, 4, 133, 13, 162, 75, 80, 233, 51, 242, 77,
    148, 238, 67, 130, 154, 137, 161]

def paidBody : Bytes :=
  encodeUtf8 ("\x7b\"id\":\"00000000-0000-0000-0000-000000000002\",\"type\":\"payment.completed\"," ++
    "\"data\":\x7b\"order_id\":\"00000000-0000-0000-0000-000000000001\",\"payment_id\":\"pay-1\"\x7d\x7d")

def providerOrPaid (message : Bytes) : Bytes :=
  if message = encodeUtf8 "payment-provider" then providerDigest else paidDigest

theorem providerOrPaid_size (message : Bytes) : (providerOrPaid message).length = 32 := by
  unfold providerOrPaid
  split_ifs <;> rfl

theorem paidMac_size (_key _message : Bytes) : paidMac.length = 32 := rfl

def paidServices : WebhookServices :=
  { clearServices with
    sha := ⟨providerOrPaid, fun _ _ => paidMac, providerOrPaid_size, paidMac_size⟩
    decimals := PyText.asciiDigits
    digitLimit := 4300
    parseEnvelope := fun body => if body = paidBody then some ⟨2, ⟨1, "pay-1"⟩⟩ else none }

theorem paid_tolerance_bounds : (30 : Int) ≤ 300 ∧ (300 : Int) ≤ 900 := by decide

theorem paid_size_bounds : (1024 : Int) ≤ 65536 ∧ (65536 : Int) ≤ 1024 * 1024 := by decide

def paidSettings : WebhookSettings :=
  ⟨"local-webhook-secret-change-me-1234", 300, 65536, paid_tolerance_bounds, paid_size_bounds⟩

/-- The second that the request names, and some seconds more. -/
theorem paidAt_representable (seconds : Fin 1000) :
    0 ≤ epoch + (1700000000 + (seconds.val : Int)) * 1000000 ∧
      epoch + (1700000000 + (seconds.val : Int)) * 1000000 < 3652059 * microsecondsPerDay := by
  unfold epoch microsecondsPerDay
  omega

def paidAt (seconds : Fin 1000) : Moment :=
  ⟨epoch + (1700000000 + (seconds.val : Int)) * 1000000, paidAt_representable seconds⟩

theorem paidSignature_sized : (hexText paidMac).length = 64 := by decide

def paidRequest (seconds : Fin 1000) : WebhookRequest where
  eventIdHeader := "00000000-0000-0000-0000-000000000002"
  timestampHeader := "1700000000"
  signature := hexText paidMac
  contentLength := some "152"
  contentType := some "application/json; charset=utf-8"
  body := paidBody
  client := some "203.0.113.7"
  correlationId := "request-1"
  now := paidAt seconds
  eventId_sized := by decide
  timestamp_sized := by decide
  signature_sized := paidSignature_sized

def paidCall (seconds : Fin 1000) : WebhookCall :=
  ⟨paidRequest seconds, ⟨7, paidAt seconds, (Generated.numbered 1).now, (Generated.numbered 1).now⟩⟩

theorem within_paidCall (seconds : Fin 1000) : (paidCall seconds).Within paidServices Set.univ := by
  refine ⟨?_, fun _ _ => trivial⟩
  simp only [Moment.Fine, paidCall, paidRequest, paidAt]
  rw [abs_lt]
  omega

theorem fresh_paidRequest (seconds : Fin 1000) :
    Fresh paidServices paidSettings (paidRequest 0).timestampHeader (paidRequest seconds).now ↔ seconds.val ≤ 300 := by
  have read : PyText.intDecimal paidServices.decimals paidServices.digitLimit "1700000000".toList = some 1700000000 := by
    decide
  have elapsed : epoch + (1700000000 + (seconds.val : Int)) * 1000000 - epoch - 1700000000 * 1000000 =
      seconds.val * 1000000 := by ring
  simp only [Fresh, paidRequest, read, paidAt, paidSettings, Option.some.injEq, exists_eq_left', elapsed]
  rw [abs_of_nonneg (by positivity)]
  omega

theorem paidBody_length : paidBody.length = 152 := by decide +kernel

theorem authentic_paidRequest {seconds : Fin 1000} (early : seconds.val ≤ 300) :
    Authentic paidServices paidSettings (paidRequest seconds) ⟨2, ⟨1, "pay-1"⟩⟩ := by
  refine ⟨?_, ?_, ?_, (fresh_paidRequest seconds).mpr early, ?_, ?_, ?_⟩
  · simp only [announcesTooMuch, paidRequest]
    decide
  · simp only [paidRequest, paidSettings, paidBody_length]
    norm_num
  · have plain : encodeAscii "1700000000" = some (asciiBytes "1700000000") := by decide
    simp [verifyWebhookSignature, paidRequest, paidSignature_sized, fromHex_hexText, plain, paidServices]
  · simp only [mediaType, paidRequest]
    decide
  · simp [paidServices, paidRequest]
  · change UUID.parse "00000000-0000-0000-0000-000000000002".toList = some 2
    decide

section

variable {ids : Set UUID} {db₀ : MessageDatabase}

theorem webhooksValid_of_unused
    (unused : ∀ eventId ∈ ids, db₀.inbox.get? eventId = none ∧ db₀.outbox.get? eventId = none) :
    WebhooksValid ids db₀ := by
  refine ⟨fun eventId own taken => ?_, fun eventId own _ => (unused eventId own).2⟩
  rw [(unused eventId own).1] at taken
  cases taken

/-- Whatever calls reach the endpoint, an event is accepted once, with the first authentic call, and what is kept of
it never changes. Both deployments answer alike. -/
theorem payment_events_settle_once (services : WebhookServices) (settings : WebhookSettings) {calls : List WebhookCall}
    (unused : ∀ eventId ∈ ids, db₀.inbox.get? eventId = none ∧ db₀.outbox.get? eventId = none)
    (within : ∀ call ∈ calls, call.Within services ids)
    (free : ∀ call ∈ calls, ∀ call' ∈ calls, ¬ services.sha.Collision call.request.body call'.request.body) :
    WebhookAccount services settings acceptInMemory ⟨{}, []⟩ knownInMemory ids calls ∧
    WebhookAccount services settings acceptInDatabase ⟨db₀, []⟩ knownInDatabase ids calls ∧
    (sequential (fun s call => paymentWebhook services settings call.request acceptInMemory call.draws s)
        ⟨{}, []⟩ calls).1 =
      (sequential (fun s call => paymentWebhook services settings call.request acceptInDatabase call.draws s)
        ⟨db₀, []⟩ calls).1 ∧
    (afterWebhooks services settings acceptInMemory ⟨{}, []⟩ calls).audit =
      (afterWebhooks services settings acceptInDatabase ⟨db₀, []⟩ calls).audit := by
  have valid := webhooksValid_of_unused unused
  have bare : ∀ eventId ∈ ids, knownInDatabase db₀ eventId = none := fun eventId own => by
    rw [knownInDatabase, (unused eventId own).2]
    rfl
  have alike : Alike knownInMemory knownInDatabase (fun _ => True) (WebhooksValid ids) ids ⟨{}, []⟩ ⟨db₀, []⟩ :=
    ⟨trivial, valid, fun eventId own => (bare eventId own).symm, rfl⟩
  exact ⟨webhookAccount (settlesOnce_inMemory ids) trivial (fun _ _ => rfl) within free,
    webhookAccount (settlesOnce_inDatabase ids) valid bare within free,
    alike_run settings (settlesOnce_inMemory ids) (settlesOnce_inDatabase ids) alike within⟩

theorem payment_settles_with_first_call :
    webhookAnswer paidServices paidSettings acceptInDatabase ⟨.empty, []⟩ [] (paidCall 10) = .ok .accepted ∧
    webhookAnswer paidServices paidSettings acceptInDatabase ⟨.empty, []⟩ [paidCall 10] (paidCall 20) =
      .ok .duplicate := by
  have first : Authentic paidServices paidSettings (paidCall 10).request ⟨2, ⟨1, "pay-1"⟩⟩ :=
    authentic_paidRequest (by decide)
  have second : Authentic paidServices paidSettings (paidCall 20).request ⟨2, ⟨1, "pay-1"⟩⟩ :=
    authentic_paidRequest (by decide)
  have unused : ∀ eventId ∈ (Set.univ : Set UUID), MessageDatabase.empty.inbox.get? eventId = none ∧
      MessageDatabase.empty.outbox.get? eventId = none := fun _ _ => ⟨rfl, rfl⟩
  have within : ∀ call ∈ [paidCall 10, paidCall 20], call.Within paidServices Set.univ := by
    simp [within_paidCall]
  have free : ∀ call ∈ [paidCall 10, paidCall 20], ∀ call' ∈ [paidCall 10, paidCall 20],
      ¬ paidServices.sha.Collision call.request.body call'.request.body := by
    simp [Sha256.Collision, paidCall, paidRequest]
  have account := (payment_events_settle_once paidServices paidSettings unused within free).2.1
  refine ⟨(account.accepted [] _ [paidCall 20] rfl).mpr ⟨_, first, by simp⟩, ?_⟩
  exact (account.duplicate [paidCall 10] _ [] rfl).mpr
    ⟨_, paidCall 10, _, second, ⟨[], [], rfl, first, rfl, by simp⟩, rfl⟩

/-- No replay of an answered request ever does anything. -/
theorem answered_webhooks_replay_safely (services : WebhookServices) (settings : WebhookSettings)
    {calls : List WebhookCall}
    (unused : ∀ eventId ∈ ids, db₀.inbox.get? eventId = none ∧ db₀.outbox.get? eventId = none)
    (within : ∀ call ∈ calls, call.Within services ids) :
    ReplaySafe services settings acceptInMemory ⟨{}, []⟩ calls ∧
      ReplaySafe services settings acceptInDatabase ⟨db₀, []⟩ calls :=
  ⟨replaySafe (settlesOnce_inMemory ids) trivial within,
    replaySafe (settlesOnce_inDatabase ids) (webhooksValid_of_unused unused) within⟩

theorem late_replay_refused :
    webhookAnswer paidServices paidSettings acceptInDatabase ⟨.empty, []⟩ [paidCall 10] (paidCall 310) =
      .error webhookUnauthorized := by
  have unused : ∀ eventId ∈ (Set.univ : Set UUID), MessageDatabase.empty.inbox.get? eventId = none ∧
      MessageDatabase.empty.outbox.get? eventId = none := fun _ _ => ⟨rfl, rfl⟩
  have within : ∀ call ∈ [paidCall 10, paidCall 310], call.Within paidServices Set.univ := by
    simp [within_paidCall]
  have admitted : admitWebhook paidServices paidSettings (paidCall 10).request = .ok ⟨2, ⟨1, "pay-1"⟩⟩ :=
    (admitWebhook_eq_ok_iff (within_paidCall 10).fine).mpr (authentic_paidRequest (by decide))
  obtain ⟨store, ran, -⟩ := paymentWebhook_first (s := ⟨MessageDatabase.empty, []⟩) (paidCall 10)
    (settlesOnce_inDatabase Set.univ) (webhooksValid_of_unused unused) admitted trivial rfl
  have accepted : webhookAnswer paidServices paidSettings acceptInDatabase ⟨.empty, []⟩ [] (paidCall 10) =
      .ok .accepted := by
    unfold webhookAnswer
    change (paymentWebhook paidServices paidSettings (paidCall 10).request acceptInDatabase (paidCall 10).draws
      ⟨.empty, []⟩).1 = _
    rw [ran]
  have safe := (answered_webhooks_replay_safely paidServices paidSettings unused within).2
  exact (safe [] _ [] _ [] _ rfl accepted ⟨rfl, rfl, rfl, rfl, rfl, rfl⟩).2.1 fun fresh =>
    absurd ((fresh_paidRequest 310).mp fresh) (by decide)

end

end DeliveryService
