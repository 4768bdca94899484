import DeliveryService.Notifications

namespace DeliveryService

variable {κ : Type}

abbrev NotificationSite (κ : Type) :=
  Site MessageDatabase (List (String × ProviderReceipt)) MessageLock SendRequest Sending MessageError Bool
    NotificationJob κ

abbrev NotificationEvent (κ : Type) :=
  SiteEvent MessageDatabase MessageLock SendRequest Sending MessageError Bool NotificationJob κ

/-- A committed transaction has answered that it applied the event. -/
def appliedEvent (eventId : UUID) : NotificationEvent κ → Bool
  | .commit _ session applied => applied && session.job.eventId? = some eventId
  | _ => false

def applications (eventId : UUID) (trace : List (Transition (NotificationSite κ) (NotificationEvent κ))) : Nat :=
  trace.countP fun t => appliedEvent eventId t.label

/-- The provider has issued the receipt under the key. -/
def Issued (held : List (String × ProviderReceipt)) (request : SendRequest) (sending : Sending) : Prop :=
  ∀ receipt, sending.receipt? = some receipt → (request.idempotencyKey, receipt) ∈ held

section

variable {held : List (String × ProviderReceipt)} {request : SendRequest} {sending : Sending}

theorem mem_after {issued : String × ProviderReceipt} (mem : issued ∈ held) :
    issued ∈ idempotentProvider.after held request sending := by
  unfold idempotentProvider
  simp only
  split
  next =>
    split
    next => exact mem
    next => exact List.mem_append_left _ mem
  next => exact mem

theorem issued_after (admitted : idempotentProvider.admits held request sending) :
    Issued (idempotentProvider.after held request sending) request sending := by
  intro receipt issued
  simp only [idempotentProvider, issued]
  split
  next known =>
    obtain ⟨⟨key, earlier⟩, mem, same⟩ := List.any_eq_true.mp known
    simp only [decide_eq_true_eq] at same
    subst same
    rw [← admitted receipt issued earlier mem]
    exact mem
  next => exact List.mem_append_right _ (List.mem_singleton.mpr rfl)

theorem nodup_after (nodup : (held.map Prod.fst).Nodup) :
    ((idempotentProvider.after held request sending).map Prod.fst).Nodup := by
  unfold idempotentProvider
  simp only
  split
  next receipt _ =>
    split
    next => exact nodup
    next unknown =>
      rw [List.map_append, List.nodup_append]
      refine ⟨nodup, List.nodup_singleton _, fun key mem other same => ?_⟩
      obtain rfl := List.mem_singleton.mp same
      rintro rfl
      obtain ⟨issued, inHeld, same⟩ := List.mem_map.mp mem
      exact unknown (List.any_eq_true.mpr ⟨issued, inHeld, decide_eq_true same⟩)
  next => exact nodup

theorem filter_key_le_one (nodup : (held.map Prod.fst).Nodup) (key : String) :
    (held.filter fun issued => issued.1 = key).length ≤ 1 := by
  have count := List.nodup_iff_count_le_one.mp nodup key
  rw [List.count_eq_countP, List.countP_map, List.countP_eq_length_filter] at count
  refine le_of_eq_of_le (congrArg List.length (List.filter_congr fun issued _ => ?_)) count
  rfl

end

/-- What the provider holds: one receipt for each key, and those of the calls of the running transactions. -/
structure Remembered (σ : NotificationSite κ) : Prop where
  nodup : (σ.world.map Prod.fst).Nodup
  issued : ∀ k s, σ.active k = some s → ∀ call ∈ s.progress.calls, Issued σ.world call.1 call.2

section

variable [DecidableEq κ] {σ σ' : NotificationSite κ} {label : NotificationEvent κ}

theorem Remembered.step (remembered : Remembered σ)
    (taken : Site.Step NotificationJob.body idempotentProvider σ label σ') : Remembered σ' := by
  cases taken with
  | begin idle =>
    refine ⟨remembered.nodup, Site.forall_setActive remembered.issued fun s' same call mem => ?_⟩
    cases same
    cases mem
  | start found | fail found | finish found =>
    refine ⟨remembered.nodup, Site.forall_setActive remembered.issued fun s' same call mem => ?_⟩
    cases same
    exact remembered.issued _ _ found call mem
  | rollback found | crash found | commit found =>
    exact ⟨remembered.nodup, Site.forall_setActive remembered.issued fun s' same => (by cases same)⟩
  | @call k s q next o found shape admitted =>
    have kept : ∀ other s', σ.active other = some s' → ∀ call ∈ s'.progress.calls,
        Issued (idempotentProvider.after σ.world q o) call.1 call.2 :=
      fun other s' found' call mem receipt issued =>
        mem_after (remembered.issued other s' found' call mem receipt issued)
    refine ⟨nodup_after remembered.nodup, Site.forall_setActive kept fun s' same call mem => ?_⟩
    cases same
    rcases List.mem_append.mp mem with old | last
    · exact kept k s found call old
    · obtain rfl := List.mem_singleton.mp last
      exact issued_after admitted

end

/-- The life of one event: nobody has claimed it, there is no notification of it and no transaction has applied it;
or one has, the claim stands, and there is the one notification, with a receipt of the provider if it was sent. -/
def Once (eventId : UUID) (trace : List (Transition (NotificationSite κ) (NotificationEvent κ)))
    (σ : NotificationSite κ) : Prop :=
  (σ.db.inbox.get? eventId = none ∧ (∀ id row, σ.db.notifications.get? id = some row → row.eventId ≠ eventId) ∧
    applications eventId trace = 0) ∨
  ((σ.db.inbox.get? eventId).isSome = true ∧ applications eventId trace = 1 ∧
    ∃ row, σ.db.notifications.get? row.id = some row ∧ row.eventId = eventId ∧
      (∀ id other, σ.db.notifications.get? id = some other → other.eventId = eventId → other = row) ∧
      (row.status = .sent → ∃ receipt, (eventId.str, receipt) ∈ σ.world ∧
        row.providerMessageId = some receipt.messageId))

section

variable {σ σ' : NotificationSite κ} {label : NotificationEvent κ} {eventId : UUID}
  {trace : List (Transition (NotificationSite κ) (NotificationEvent κ))}

theorem applications_append : applications eventId (trace ++ [⟨σ, label, σ'⟩]) =
    applications eventId trace + (appliedEvent eventId label).toNat := by
  cases h : appliedEvent eventId label <;> simp [applications, List.countP_append, h]

theorem Once.unchanged (once : Once eventId trace σ) (silent : appliedEvent eventId label = false)
    (inbox : σ'.db.inbox.get? eventId = σ.db.inbox.get? eventId)
    (notifications : ∀ id row, row.eventId = eventId →
      (σ'.db.notifications.get? id = some row ↔ σ.db.notifications.get? id = some row))
    (grows : ∀ issued ∈ σ.world, issued ∈ σ'.world) : Once eventId (trace ++ [⟨σ, label, σ'⟩]) σ' := by
  unfold Once
  rw [applications_append, silent, inbox]
  rcases once with ⟨unclaimed, first, none⟩ | ⟨claimed, one, row, stored, own, only, sent⟩
  · refine .inl ⟨unclaimed, fun id row found same => ?_, none⟩
    exact first id row ((notifications id row same).mp found) same
  · refine .inr ⟨claimed, one, row, (notifications _ row own).mpr stored, own, fun id other found same => ?_,
      fun status => ?_⟩
    · exact only id other ((notifications id other same).mp found) same
    · obtain ⟨receipt, mem, message⟩ := sent status
      exact ⟨receipt, grows _ mem, message⟩

theorem Once.won {k : κ} {s : Session MessageDatabase MessageLock SendRequest Sending MessageError Bool NotificationJob}
    {own : UUID} (once : Once eventId trace σ) (issued : ∀ call ∈ s.progress.calls, Issued σ.world call.1 call.2)
    (job : s.job.eventId? = some own) (keys : ∀ call ∈ s.progress.calls, call.1.idempotencyKey = own.str)
    (won : Won own s.progress σ.db) (db : σ'.db = s.progress.write σ.db) (world : σ'.world = σ.world) :
    Once eventId (trace ++ [⟨σ, .commit k s true, σ'⟩]) σ' := by
  obtain ⟨claim, row, unclaimed, unused, first, event, inbox, notifications, _, sent⟩ := won
  by_cases here : own = eventId
  · subst here
    unfold Once
    rw [applications_append, db, world]
    rcases once with ⟨_, _, none⟩ | ⟨claimed, _⟩
    · refine .inr ⟨?_, ?_, row, ?_, event, fun id other found same => ?_, fun status => ?_⟩
      · rw [inbox, if_pos rfl]
        rfl
      · simp [none, appliedEvent, job]
      · rw [notifications, if_pos rfl]
      · rw [notifications] at found
        split at found
        next => exact (Option.some.inj found).symm
        next => exact absurd same (first id other found)
      · obtain ⟨request, receipt, called, message⟩ := sent status
        refine ⟨receipt, ?_, message⟩
        rw [← keys _ called]
        exact issued _ called receipt rfl
    · rw [unclaimed] at claimed
      cases claimed
  · refine once.unchanged ?_ ?_ (fun id other same => ?_) (world ▸ fun _ mem => mem)
    · simp [appliedEvent, job, here]
    · rw [db, inbox, if_neg (Ne.symm here)]
    · rw [db, notifications]
      split
      next same' =>
        subst same'
        rw [unused]
        have different : row ≠ other := by
          rintro rfl
          exact here (event.symm.trans same)
        simp [different]
      next => exact Iff.rfl

variable [DecidableEq κ]

theorem Once.step (once : Once eventId trace σ) (remembered : Remembered σ)
    (sound : Site.Sound notificationIsolation NotificationJob.spec σ)
    (taken : Site.Step NotificationJob.body idempotentProvider σ label σ') :
    Once eventId (trace ++ [⟨σ, label, σ'⟩]) σ' := by
  cases taken with
  | begin | start | finish | fail | rollback | crash =>
    exact once.unchanged rfl rfl (fun _ _ _ => Iff.rfl) fun _ mem => mem
  | call => exact once.unchanged rfl rfl (fun _ _ _ => Iff.rfl) fun _ mem => mem_after mem
  | @commit k s applied found shape =>
    have track := sound.onTrack k s found
    have ended := track.ending (r := .ok applied) shape
    cases applied with
    | false =>
      obtain ⟨inbox, notifications, _⟩ := ended
      refine once.unchanged rfl ?_ (fun id row _ => ?_) fun _ mem => mem
      · exact congrArg (fun table => table.get? eventId) inbox
      · change (s.progress.write σ.db).notifications.get? id = some row ↔ _
        rw [notifications]
    | true =>
      obtain ⟨own, job, won⟩ := ended
      refine once.won (remembered.issued k s found) job (fun call mem => ?_) won rfl rfl
      exact (track.always (List.ne_nil_of_mem mem)).2 call mem own job

theorem notification_promise {job : NotificationJob} {applied : Bool} {p : ConsumerProgress} {db : MessageDatabase}
    (ended : job.spec.ending (.ok applied) p db) : db.Step (p.write db) := by
  cases applied with
  | false =>
    obtain ⟨inbox, _, outbox⟩ := ended
    refine ⟨fun id row found => ⟨row, outbox ▸ found, rfl, rfl, rfl⟩, fun id row found => inbox ▸ found⟩
  | true =>
    obtain ⟨own, _, claim, row, unclaimed, _, _, _, inbox, _, outbox, _⟩ := ended
    refine ⟨fun id row found => ⟨row, outbox ▸ found, rfl, rfl, rfl⟩, fun id stored found => ?_⟩
    rw [inbox, if_neg, found]
    rintro rfl
    rw [unclaimed] at found
    cases found

theorem sound_of_notification_run {db₀ : MessageDatabase}
    (run : Exec (Site.Step NotificationJob.body idempotentProvider) (Site.quiet db₀ []) trace σ)
    {t : Transition (NotificationSite κ) (NotificationEvent κ)} (ht : t ∈ trace) :
    Site.Sound notificationIsolation NotificationJob.spec t.pre ∧
      Site.Step NotificationJob.body idempotentProvider t.pre t.label t.post ∧
      Site.Sound notificationIsolation NotificationJob.spec t.post :=
  Site.sound_of_mem (fun job db _ => notification_verified job db)
    (fun _ _ _ _ _ ended => ⟨notification_promise ended, trivial⟩) trivial run ht

theorem once_of_run {db₀ : MessageDatabase}
    (run : Exec (Site.Step NotificationJob.body idempotentProvider) (Site.quiet db₀ []) trace σ)
    (unclaimed : db₀.inbox.get? eventId = none) (unnotified : db₀.notificationsOf eventId = []) :
    Once eventId trace σ ∧ Remembered σ := by
  induction run with
  | start =>
    refine ⟨.inl ⟨unclaimed, fun id row found own => ?_, rfl⟩, List.nodup_nil, fun k s found => (by cases found)⟩
    have mem : row ∈ db₀.notificationsOf eventId :=
      mem_notificationsOf.mpr ⟨(Table.key_of_get? found).symm ▸ found, own⟩
    rw [unnotified] at mem
    cases mem
  | next previous taken ih =>
    have sound := (sound_of_notification_run (previous.next taken)
      (List.mem_append_right _ (List.mem_singleton.mpr rfl))).1
    exact ⟨ih.1.step ih.2 sound taken, ih.2.step taken⟩

theorem call_allowed {db₀ : MessageDatabase}
    (run : Exec (Site.Step NotificationJob.body idempotentProvider) (Site.quiet db₀ []) trace σ)
    {t : Transition (NotificationSite κ) (NotificationEvent κ)} (ht : t ∈ trace) {k : κ} {request : SendRequest}
    {sending : Sending} (label : t.label = .call k request sending) :
    ∃ session own, t.pre.active k = some session ∧ session.job.eventId? = some own ∧
      request.idempotencyKey = own.str ∧ session.job.Allowed session.progress.seen := by
  obtain ⟨sound, taken, _⟩ := sound_of_notification_run run ht
  obtain ⟨pre, event, post⟩ := t
  obtain rfl : event = .call k request sending := label
  change Site.Sound notificationIsolation NotificationJob.spec pre at sound
  change Site.Step NotificationJob.body idempotentProvider pre (.call k request sending) post at taken
  cases taken with
  | @call _ s _ next _ found shape admitted =>
    have made : (request, sending) ∈ (s.progress.answer request sending).calls := by simp [Progress.answer]
    have known := ((sound.onTrack k s found).call sound.valid shape sending).always
    obtain ⟨allowed, keys⟩ := known (List.ne_nil_of_mem made)
    cases job : s.job.eventId? with
    | some own => exact ⟨s, own, found, job, keys _ made own job, allowed⟩
    | none =>
      cases which : s.job with
      | dispatch | process => simp [which, NotificationJob.eventId?] at job
      | setPreference row =>
        simp only [which] at allowed
        cases allowed

/-- Exactly one notification of an event over deliveries that repeat, overlap and fail at any point. -/
theorem notified_exactly_once {db₀ : MessageDatabase}
    (run : Exec (Site.Step NotificationJob.body idempotentProvider) (Site.quiet db₀ []) trace σ) (eventId : UUID)
    (unclaimed : db₀.inbox.get? eventId = none) (unnotified : db₀.notificationsOf eventId = []) :
    -- the event is claimed exactly if it has one notification
    ((σ.db.inbox.get? eventId).isSome = true ↔ ∃! row, row ∈ σ.db.notificationsOf eventId) ∧
    -- one committed call at most has applied it, all others have answered that they did not
    applications eventId trace ≤ 1 ∧
    -- a notification that was sent carries the receipt that the provider holds for the event, and it holds one
    (∀ row ∈ σ.db.notificationsOf eventId, row.status = .sent →
      ∃ receipt, (eventId.str, receipt) ∈ σ.world ∧ row.providerMessageId = some receipt.messageId) ∧
    (σ.world.filter fun issued => issued.1 = eventId.str).length ≤ 1 ∧
    -- the provider is only called under the key of the event and when the preference was not read as disabled
    ∀ t ∈ trace, ∀ k request sending, t.label = .call k request sending → ∃ session own,
      t.pre.active k = some session ∧ session.job.eventId? = some own ∧ request.idempotencyKey = own.str ∧
      session.job.Allowed session.progress.seen := by
  obtain ⟨once, remembered⟩ := once_of_run run unclaimed unnotified
  have applied : applications eventId trace ≤ 1 := by
    rcases once with ⟨_, _, none⟩ | ⟨_, one, _⟩
    · omega
    · omega
  refine ⟨?_, applied, ?_, filter_key_le_one remembered.nodup _, fun t ht k request sending label => ?_⟩
  · rcases once with ⟨free, first, _⟩ | ⟨claimed, _, row, stored, own, only, _⟩
    · rw [free]
      refine ⟨fun some => (by cases some), fun ⟨row, mem, _⟩ => ?_⟩
      obtain ⟨found, own⟩ := mem_notificationsOf.mp mem
      exact absurd own (first _ row found)
    · refine ⟨fun _ => ⟨row, mem_notificationsOf.mpr ⟨stored, own⟩, fun other mem => ?_⟩, fun _ => claimed⟩
      obtain ⟨found, same⟩ := mem_notificationsOf.mp mem
      exact only _ other found same
  · intro row' mem status
    obtain ⟨found, same⟩ := mem_notificationsOf.mp mem
    rcases once with ⟨_, first, _⟩ | ⟨_, _, row, _, _, only, sent⟩
    · exact absurd same (first _ row' found)
    · obtain rfl := only _ row' found same
      exact sent status
  · exact call_allowed run ht label

end

/-- The adapter of the worker is such a provider. -/
theorem send_follows (request : SendRequest) (provider : InMemoryIdempotentNotificationProvider) :
    idempotentProvider.admits provider.receipts.entries request (provider.send request).1 ∧
      (provider.send request).2.receipts.entries =
        idempotentProvider.after provider.receipts.entries request (provider.send request).1 := by
  unfold InMemoryIdempotentNotificationProvider.send
  cases found : provider.receipts.get? request.idempotencyKey with
  | some receipt =>
    have mem := Dict.get?_eq_some_iff.mp found
    constructor
    · intro other issued earlier held
      rw [← Option.some.inj issued]
      exact Option.some.inj ((Dict.get?_eq_some_iff.mpr held).symm.trans found)
    · have known : (provider.receipts.entries.any fun issued => issued.1 = request.idempotencyKey) = true :=
        List.any_eq_true.mpr ⟨_, mem, decide_eq_true rfl⟩
      simp [idempotentProvider, Sending.receipt?, known]
  | none =>
    have absent : request.idempotencyKey ∉ provider.receipts.keys := by
      intro mem
      obtain ⟨receipt, held⟩ := Dict.mem_keys_iff.mp mem
      rw [found] at held
      cases held
    constructor
    · intro other _ earlier held
      exact absurd (List.mem_map.mpr ⟨_, held, rfl⟩) absent
    · have unknown : (provider.receipts.entries.any fun issued => issued.1 = request.idempotencyKey) = false := by
        by_contra some
        rw [Bool.not_eq_false] at some
        obtain ⟨issued, mem, same⟩ := List.any_eq_true.mp some
        exact absent (List.mem_map.mpr ⟨issued, mem, of_decide_eq_true same⟩)
      simp [idempotentProvider, Sending.receipt?, unknown, Dict.set, absent]

/-- The adapter on the list of its receipts. -/
def sendHeld (request : SendRequest) (held : List (String × ProviderReceipt)) :
    Sending × List (String × ProviderReceipt) :=
  if unique : (held.map Prod.fst).Nodup then
    let (sending, provider) := InMemoryIdempotentNotificationProvider.send request { receipts := ⟨held, unique⟩ }
    (sending, provider.receipts.entries)
  else (.refused "two receipts under one key", held)

theorem follows_sendHeld : idempotentProvider.Follows sendHeld fun held => (held.map Prod.fst).Nodup := by
  refine ⟨fun request held unique => ?_, fun request held unique => ?_, fun request held unique => ?_⟩
  · simp only [sendHeld, unique, ↓reduceDIte]
    exact (send_follows request { receipts := ⟨held, unique⟩ }).1
  · simp only [sendHeld, unique, ↓reduceDIte]
    exact (send_follows request { receipts := ⟨held, unique⟩ }).2.symm
  · simp only [sendHeld, unique, ↓reduceDIte]
    rw [(send_follows request { receipts := ⟨held, unique⟩ }).2]
    exact nodup_after unique

/-- The same call when its answer gets lost. -/
def loseAnswer : Sending → Sending
  | .received receipt => .lost receipt "timeout"
  | sending => sending

theorem receipt?_loseAnswer (sending : Sending) : (loseAnswer sending).receipt? = sending.receipt? := by
  cases sending <;> rfl

def sendLost (request : SendRequest) (held : List (String × ProviderReceipt)) :
    Sending × List (String × ProviderReceipt) :=
  (loseAnswer (sendHeld request held).1, (sendHeld request held).2)

theorem follows_sendLost : idempotentProvider.Follows sendLost fun held => (held.map Prod.fst).Nodup where
  admitted request held unique receipt issued := by
    rw [sendLost, receipt?_loseAnswer] at issued
    exact follows_sendHeld.admitted request held unique receipt issued
  after request held unique := by
    have same := follows_sendHeld.after request held unique
    simp only [idempotentProvider, sendLost, receipt?_loseAnswer] at same ⊢
    exact same
  kept request held unique := follows_sendHeld.kept request held unique

/-- A delivery of the event of an order, with the id that its notification would get. -/
def orderedDelivery (notificationId : UUID) : NotificationJob :=
  .dispatch { notificationId, eventId := 2, eventType := "order.created"
              payload := (createdEvent 2 orderedOnce).payload, now := (Generated.numbered 1).now }

/-- What the provider holds after the first delivery. -/
def heldReceipts : List (String × ProviderReceipt) :=
  [("00000000-0000-0000-0000-000000000002", ⟨"local-00000000-0000-0000-0000-000000000002"⟩)]

theorem held_after_abort : ((orderedDelivery 4).body.transact sendLost .empty []).1.isOk = false ∧
    ((orderedDelivery 4).body.transact sendLost .empty []).2.2 = heldReceipts := by
  decide +kernel

theorem applied_after_abort :
    (((orderedDelivery 5).body.transact sendHeld .empty heldReceipts).2.1.inbox.get? 2).isSome = true ∧
      ((orderedDelivery 5).body.transact sendHeld .empty heldReceipts).2.2 = heldReceipts := by
  decide +kernel

/-- The first delivery reaches the provider and is rolled back, the second one applies the event. -/
theorem notified_exactly_once_after_abort : ∃ earlier later σ,
    Exec (Site.Step NotificationJob.body idempotentProvider) (Site.quiet .empty [] : NotificationSite Bool) earlier
      (Site.quiet .empty heldReceipts) ∧
    Exec (Site.Step NotificationJob.body idempotentProvider) (Site.quiet .empty [] : NotificationSite Bool)
      (earlier ++ later) σ ∧
    (∃! row, row ∈ σ.db.notificationsOf 2) ∧ σ.world = heldReceipts ∧ applications 2 (earlier ++ later) ≤ 1 := by
  have nobody : (([] : List (String × ProviderReceipt)).map Prod.fst).Nodup := List.nodup_nil
  have single : (heldReceipts.map Prod.fst).Nodup := List.nodup_singleton _
  obtain ⟨earlier, lost, _⟩ := Site.exec_transact NotificationJob.body follows_sendLost true (orderedDelivery 4)
    .empty nobody
  rw [Script.transact_rolled_back _ held_after_abort.1, held_after_abort.2] at lost
  obtain ⟨later, applied, _⟩ := Site.exec_transact NotificationJob.body follows_sendHeld true (orderedDelivery 5)
    .empty single
  have run := lost.append applied
  have once := notified_exactly_once run 2 rfl rfl
  exact ⟨earlier, later, _, lost, run, once.1.mp applied_after_abort.1, applied_after_abort.2, once.2.1⟩

end DeliveryService
