import DeliveryService.Relay

namespace DeliveryService

variable {κ : Type}

abbrev RelaySite (κ : Type) :=
  Site MessageDatabase (List OutboxEvent) MessageLock OutboxEvent Publication MessageError (List UUID) OutboxJob κ

abbrev RelayEvent (κ : Type) :=
  SiteEvent MessageDatabase MessageLock OutboxEvent Publication MessageError (List UUID) OutboxJob κ

abbrev RelaySession := Session MessageDatabase MessageLock OutboxEvent Publication MessageError (List UUID) OutboxJob

/-- The transaction has brought the event to the broker. -/
def handed (id : UUID) (session : RelaySession) : Bool :=
  session.progress.calls.any fun call => call.1.id = id && call.2.delivered

/-- A transaction that brought the event to the broker was rolled back or lost. -/
def abortedWith (id : UUID) : RelayEvent κ → Bool
  | .rollback _ session _ => handed id session
  | .crash _ session => handed id session
  | _ => false

def committedWith (id : UUID) : RelayEvent κ → Bool
  | .commit _ session _ => handed id session
  | _ => false

/-- How often the broker got the event. -/
def deliveries (id : UUID) (log : List OutboxEvent) : Nat := log.countP fun event => event.id = id

def abortsWith (id : UUID) (trace : List (Transition (RelaySite κ) (RelayEvent κ))) : Nat :=
  trace.countP fun t => abortedWith id t.label

def commits (id : UUID) (trace : List (Transition (RelaySite κ) (RelayEvent κ))) : Nat :=
  trace.countP fun t => committedWith id t.label

/-- The very commit that turned a pending row into this one had the confirmation of the broker for it. -/
def MarkedIn (trace : List (Transition (RelaySite κ) (RelayEvent κ))) (id : UUID) (row : OutboxRow) : Prop :=
  ∃ t ∈ trace, ∃ k session ids, t.label = .commit k session ids ∧ id ∈ ids ∧
    (row.event, .confirmed) ∈ session.progress.calls ∧
    (∃ before, t.pre.db.outbox.get? id = some before ∧ before.pending = true) ∧ t.post.db.outbox.get? id = some row

section

variable {σ σ' : RelaySite κ} {id : UUID} {session : RelaySession} {p : RelayProgress} {db : MessageDatabase}

theorem handed_iff : handed id session = true ↔
    ∃ call ∈ session.progress.calls, call.1.id = id ∧ call.2.delivered = true := by
  simp [handed]

/-- What a committing transaction may leave of a row: the row as it was, a new pending one, or one that was
pending, whose event was confirmed and that is marked now. -/
theorem row_of_commit {job : OutboxJob} {ids : List UUID} (inFlight : InFlight p db)
    (ended : job.spec.ending (.ok ids) p db) {row : OutboxRow} (found : (p.write db).outbox.get? id = some row) :
    db.outbox.get? id = some row ∨ row.pending = true ∨
      (id ∈ ids ∧ (row.event, .confirmed) ∈ p.calls ∧
        ∃ before, db.outbox.get? id = some before ∧ before.pending = true) := by
  cases job with
  | insert events =>
    rcases (ended.2 db).2.2 id row found with old | new
    · exact .inl old
    · exact .inr (.inl new)
  | relay publishedAt batchSize =>
    obtain ⟨confirmed, published, write⟩ := ended
    rw [write, get?_markPublished] at found
    by_cases mine : id ∈ ids
    · have mem : id ∈ p.calls.map fun call => call.1.id := published ▸ mine
      obtain ⟨⟨event, publication⟩, called, rfl⟩ := List.mem_map.mp mem
      obtain ⟨before, stored, pending, same⟩ := inFlight.pending _ called
      obtain rfl : publication = .confirmed := confirmed _ called
      simp only [stored, Option.map_some, mine, ↓reduceIte, Option.some.injEq] at found
      subst found
      refine .inr (.inr ⟨mine, ?_, before, stored, pending⟩)
      change (before.event, Publication.confirmed) ∈ p.calls
      rw [same]
      exact called
    · simp only [mine, ↓reduceIte, Option.map_id'] at found
      exact .inl found

theorem get?_commit_of_not_pending {job : OutboxJob} {ids : List UUID} (inFlight : InFlight p db)
    (ended : job.spec.ending (.ok ids) p db) {row : OutboxRow} (found : db.outbox.get? id = some row)
    (settled : row.pending = false) : (p.write db).outbox.get? id = some row := by
  cases job with
  | insert events => exact (ended.2 db).2.1 id row found
  | relay publishedAt batchSize =>
    obtain ⟨_, published, write⟩ := ended
    have other : id ∉ ids := by
      rw [published]
      intro mem
      obtain ⟨call, called, rfl⟩ := List.mem_map.mp mem
      obtain ⟨row', stored, pending, _⟩ := inFlight.pending call called
      obtain rfl := Option.some.inj (found.symm.trans stored)
      rw [settled] at pending
      cases pending
    rw [write, get?_markPublished, found]
    simp [other]

theorem marked_of_handed {job : OutboxJob} {ids : List UUID} (inFlight : InFlight session.progress db)
    (ended : job.spec.ending (.ok ids) session.progress db) (sent : handed id session = true) :
    ∃ row, (session.progress.write db).outbox.get? id = some row ∧ row.pending = false := by
  obtain ⟨call, called, rfl, _⟩ := handed_iff.mp sent
  cases job with
  | insert events =>
    rw [ended.1] at called
    cases called
  | relay publishedAt batchSize =>
    obtain ⟨_, published, write⟩ := ended
    obtain ⟨row, stored, _, _⟩ := inFlight.pending call called
    have mine : call.1.id ∈ ids := published ▸ List.mem_map.mpr ⟨call, called, rfl⟩
    rw [write, get?_markPublished, stored]
    exact ⟨row.marked publishedAt, by simp [mine], rfl⟩

/-- Nobody else has brought the event of a row to the broker that a transaction has locked. -/
theorem not_handed_of_locked (sound : Site.Sound outboxIsolation OutboxJob.spec σ) {k k' : κ} {s s' : RelaySession}
    (different : k' ≠ k) (found : σ.active k = some s) (found' : σ.active k' = some s')
    (hold : .outbox id ∈ s.progress.held) : handed id s' = false := by
  by_contra sent
  rw [Bool.not_eq_false] at sent
  obtain ⟨call, called, rfl, _⟩ := handed_iff.mp sent
  have hold' := (sound.onTrack k' s' found').always.locked call called
  exact sound.exclusive k' k s' s _ different found' found hold' hold

end

/-- The invariant that ties the log of the broker to the ends of the transactions and to the marks. -/
structure Bounded (id : UUID) (trace : List (Transition (RelaySite κ) (RelayEvent κ))) (σ : RelaySite κ) : Prop where
  atMost : deliveries id σ.world ≤ abortsWith id trace + 1
  settled : (∀ k s, σ.active k = some s → handed id s = false) →
    (∀ row, σ.db.outbox.get? id = some row → row.pending = true) → deliveries id σ.world ≤ abortsWith id trace
  once : commits id trace ≤ 1
  marked : 0 < commits id trace → ∃ row, σ.db.outbox.get? id = some row ∧ row.pending = false

section

variable {σ σ' : RelaySite κ} {id : UUID} {trace : List (Transition (RelaySite κ) (RelayEvent κ))}
  {label : RelayEvent κ}

theorem abortsWith_append :
    abortsWith id (trace ++ [⟨σ, label, σ'⟩]) = abortsWith id trace + (abortedWith id label).toNat := by
  cases h : abortedWith id label <;> simp [abortsWith, List.countP_append, h]

theorem commits_append :
    commits id (trace ++ [⟨σ, label, σ'⟩]) = commits id trace + (committedWith id label).toNat := by
  cases h : committedWith id label <;> simp [commits, List.countP_append, h]

theorem deliveries_after (log : List OutboxEvent) (event : OutboxEvent) (o : Publication) :
    deliveries id (broker.after log event o) =
      deliveries id log + if event.id = id ∧ o.delivered = true then 1 else 0 := by
  cases delivered : o.delivered with
  | false => simp [broker, delivered]
  | true =>
    by_cases same : event.id = id
    · simp [broker, delivered, deliveries, same]
    · simp [broker, delivered, deliveries, same]

/-- Events that end no transaction and bring nothing to the broker. -/
theorem Bounded.quietly (bounded : Bounded id trace σ) (log : deliveries id σ'.world = deliveries id σ.world)
    (data : σ'.db = σ.db)
    (aborted : abortedWith id label = false) (committed : committedWith id label = false)
    (sessions : ∀ k s, σ.active k = some s → handed id s = true → ∃ k s', σ'.active k = some s' ∧ handed id s' = true) :
    Bounded id (trace ++ [⟨σ, label, σ'⟩]) σ' := by
  refine ⟨?_, fun idle pending => ?_, ?_, fun some => ?_⟩
  · rw [log, abortsWith_append, aborted]
    exact bounded.atMost
  · rw [log, abortsWith_append, aborted]
    refine bounded.settled (fun k s found => ?_) (data ▸ pending)
    by_contra sent
    obtain ⟨k', s', found', sent'⟩ := sessions k s found (by simpa using sent)
    rw [idle k' s' found'] at sent'
    cases sent'
  · rw [commits_append, committed]
    exact bounded.once
  · rw [commits_append, committed] at some
    rw [data]
    exact bounded.marked some

variable [DecidableEq κ]

theorem handed_setActive {k : κ} {s s' : RelaySession} (found : σ.active k = some s)
    (kept : handed id s = true → handed id s' = true) :
    ∀ other t, σ.active other = some t → handed id t = true →
      ∃ other t, (σ.setActive k (some s')).active other = some t ∧ handed id t = true := by
  intro other t found' sent
  by_cases here : other = k
  · subst here
    obtain rfl := Option.some.inj (found.symm.trans found')
    exact ⟨other, s', by simp [Site.active_setActive], kept sent⟩
  · exact ⟨other, t, by simp [Site.active_setActive, here, found'], sent⟩

theorem not_handed_of_ended {k : κ} {s : RelaySession} (found : σ.active k = some s)
    (others : ∀ other t, (σ.setActive k none).active other = some t → handed id t = false)
    (mine : handed id s = false) : ∀ other t, σ.active other = some t → handed id t = false := by
  intro other t found'
  by_cases here : other = k
  · subst here
    obtain rfl := Option.some.inj (found.symm.trans found')
    exact mine
  · exact others other t (by simp [Site.active_setActive, here, found'])

/-- A call that brings the event to the broker is the first one since its last abort. -/
theorem Bounded.call (bounded : Bounded id trace σ) {k : κ} {s : RelaySession} {event : OutboxEvent}
    {o : Publication} {next : Publication → RelayScript (List UUID)} (found : σ.active k = some s)
    (sound : Site.Sound outboxIsolation OutboxJob.spec σ)
    (inFlight : InFlight (s.progress.answer event o) σ.db) :
    Bounded id (trace ++ [⟨σ, .call k event o,
        { σ.setActive k (some ⟨s.job, next o, s.progress.answer event o, none⟩) with
          world := broker.after σ.world event o }⟩])
      { σ.setActive k (some ⟨s.job, next o, s.progress.answer event o, none⟩) with
        world := broker.after σ.world event o } := by
  have kept : handed id s = true →
      handed id (⟨s.job, next o, s.progress.answer event o, none⟩ : RelaySession) = true := by
    simp only [handed_iff, Progress.answer, List.mem_append]
    rintro ⟨call, called, rest⟩
    exact ⟨call, .inl called, rest⟩
  by_cases here : event.id = id ∧ o.delivered = true
  · obtain ⟨rfl, delivered⟩ := here
    have mem : (event, o) ∈ (s.progress.answer event o).calls := by simp [Progress.answer]
    have unsent : ∀ other t, σ.active other = some t → handed event.id t = false := by
      intro other t found'
      by_cases same : other = k
      · subst same
        obtain rfl := Option.some.inj (found.symm.trans found')
        -- it hands over each event once
        by_contra sent
        obtain ⟨call, called, again, _⟩ := handed_iff.mp (by simpa using sent)
        have once := inFlight.once
        simp only [Progress.answer, List.map_append, List.map_cons, List.map_nil] at once
        exact (List.nodup_append.mp once).2.2 _ (List.mem_map.mpr ⟨call, called, rfl⟩) _
          (List.mem_singleton.mpr rfl) again
      · exact not_handed_of_locked sound same found found' (inFlight.locked _ mem)
    obtain ⟨row, stored, pending, _⟩ := inFlight.pending _ mem
    have few := bounded.settled unsent fun row' found' => by
      obtain rfl := Option.some.inj (stored.symm.trans found')
      exact pending
    refine ⟨?_, fun idle _ => ?_, ?_, fun some => ?_⟩
    · rw [abortsWith_append, deliveries_after, if_pos ⟨rfl, delivered⟩]
      simpa [abortedWith] using few
    · have sent := idle k ⟨s.job, next o, s.progress.answer event o, none⟩ (by simp [Site.active_setActive])
      rw [handed_iff.mpr ⟨(event, o), mem, rfl, delivered⟩] at sent
      cases sent
    · rw [commits_append]
      exact bounded.once
    · rw [commits_append] at some
      exact bounded.marked some
  · refine bounded.quietly ?_ rfl rfl rfl (handed_setActive found kept)
    rw [deliveries_after, if_neg here]
    rfl

theorem Bounded.abort (bounded : Bounded id trace σ) {k : κ} {s : RelaySession} (found : σ.active k = some s)
    (aborted : abortedWith id label = handed id s) (committed : committedWith id label = false) :
    Bounded id (trace ++ [⟨σ, label, σ.setActive k none⟩]) (σ.setActive k none) := by
  refine ⟨?_, fun idle pending => ?_, ?_, fun some => ?_⟩
  · rw [abortsWith_append]
    have few := bounded.atMost
    change deliveries id σ.world ≤ _
    omega
  · rw [abortsWith_append, aborted]
    change deliveries id σ.world ≤ _
    cases sent : handed id s with
    | true => exact bounded.atMost
    | false => exact bounded.settled (not_handed_of_ended found idle sent) pending
  · rw [commits_append, committed]
    exact bounded.once
  · rw [commits_append, committed] at some
    exact bounded.marked some

theorem Bounded.commit (bounded : Bounded id trace σ) {k : κ} {s : RelaySession} {ids : List UUID}
    (found : σ.active k = some s) (inFlight : InFlight s.progress σ.db)
    (ended : s.job.spec.ending (.ok ids) s.progress σ.db) :
    Bounded id (trace ++ [⟨σ, .commit k s ids, { σ.setActive k none with db := s.progress.write σ.db }⟩])
      { σ.setActive k none with db := s.progress.write σ.db } := by
  have stays : ∀ row, σ.db.outbox.get? id = some row → row.pending = false →
      (s.progress.write σ.db).outbox.get? id = some row :=
    fun row stored settled => get?_commit_of_not_pending inFlight ended stored settled
  have unmarked : handed id s = true → commits id trace = 0 := by
    intro sent
    by_contra some
    obtain ⟨row, stored, settled⟩ := bounded.marked (Nat.pos_of_ne_zero some)
    obtain ⟨call, called, rfl, _⟩ := handed_iff.mp sent
    obtain ⟨row', stored', pending, _⟩ := inFlight.pending call called
    obtain rfl := Option.some.inj (stored.symm.trans stored')
    rw [settled] at pending
    cases pending
  refine ⟨?_, fun idle pending => ?_, ?_, fun some => ?_⟩
  · rw [abortsWith_append]
    exact bounded.atMost
  · rw [abortsWith_append]
    have unsent : handed id s = false := by
      by_contra sent
      obtain ⟨row, stored, settled⟩ := marked_of_handed inFlight ended (by simpa using sent)
      rw [pending row stored] at settled
      cases settled
    refine bounded.settled (not_handed_of_ended found idle unsent) fun row stored => ?_
    by_contra settled
    have kept := stays row stored (by simpa using settled)
    exact settled (pending row kept)
  · rw [commits_append]
    cases sent : handed id s with
    | true => simp [committedWith, sent, unmarked sent]
    | false => simpa [committedWith, sent] using bounded.once
  · cases sent : handed id s with
    | true => exact marked_of_handed inFlight ended sent
    | false =>
      rw [commits_append] at some
      obtain ⟨row, stored, settled⟩ := bounded.marked (by simpa [committedWith, sent] using some)
      exact ⟨row, stays row stored settled, settled⟩

theorem Bounded.step (bounded : Bounded id trace σ) (sound : Site.Sound outboxIsolation OutboxJob.spec σ)
    (taken : Site.Step OutboxJob.body broker σ label σ') : Bounded id (trace ++ [⟨σ, label, σ'⟩]) σ' := by
  cases taken with
  | @begin k job idle =>
    refine bounded.quietly rfl rfl rfl rfl fun other t found sent => ⟨other, t, ?_, sent⟩
    have different : other ≠ k := by
      rintro rfl
      rw [idle] at found
      cases found
    simp [Site.active_setActive, different, found]
  | start found => exact bounded.quietly rfl rfl rfl rfl (handed_setActive found fun sent => sent)
  | finish found => exact bounded.quietly rfl rfl rfl rfl (handed_setActive found fun sent => sent)
  | fail found => exact bounded.quietly rfl rfl rfl rfl (handed_setActive found fun sent => sent)
  | @call k s q next o found shape _ =>
    exact bounded.call found sound ((sound.onTrack k s found).call sound.valid shape o).always
  | rollback found => exact bounded.abort found rfl rfl
  | crash found => exact bounded.abort found rfl rfl
  | @commit k s ids found shape =>
    have track := sound.onTrack k s found
    exact bounded.commit found track.always (track.ending (r := .ok ids) shape)

theorem sound_of_outbox_run {db₀ : MessageDatabase} {log : List OutboxEvent}
    (run : Exec (Site.Step OutboxJob.body broker) (Site.quiet db₀ log) trace σ)
    {t : Transition (RelaySite κ) (RelayEvent κ)}
    (ht : t ∈ trace) : Site.Sound outboxIsolation OutboxJob.spec t.pre ∧
      Site.Step OutboxJob.body broker t.pre t.label t.post ∧ Site.Sound outboxIsolation OutboxJob.spec t.post :=
  Site.sound_of_mem (fun job db _ => outbox_verified job db) (fun _ _ _ _ _ ended => ⟨outbox_promise ended, trivial⟩)
    trivial run ht

theorem bounded_of_run {db₀ : MessageDatabase} (id : UUID)
    (run : Exec (Site.Step OutboxJob.body broker) (Site.quiet db₀ []) trace σ) : Bounded id trace σ := by
  induction run with
  | start => exact ⟨Nat.zero_le _, fun _ _ => Nat.le_refl _, Nat.zero_le _, fun some => absurd some (by simp [commits])⟩
  | next previous taken ih =>
    have sound := (sound_of_outbox_run (previous.next taken) (List.mem_append_right _ (List.mem_singleton.mpr rfl))).1
    exact ih.step sound taken

theorem origin_of_row {db₀ : MessageDatabase} {log : List OutboxEvent}
    (run : Exec (Site.Step OutboxJob.body broker) (Site.quiet db₀ log) trace σ) {row : OutboxRow}
    (found : σ.db.outbox.get? id = some row) :
    row.pending = true ∨ db₀.outbox.get? id = some row ∨ MarkedIn trace id row := by
  induction run with
  | start => exact .inr (.inl found)
  | @next trace s l s' previous taken ih =>
    have lift : (row.pending = true ∨ db₀.outbox.get? id = some row ∨ MarkedIn trace id row) →
        row.pending = true ∨ db₀.outbox.get? id = some row ∨ MarkedIn (trace ++ [⟨s, l, s'⟩]) id row :=
      Or.imp_right (Or.imp_right fun ⟨t, ht, rest⟩ => ⟨t, List.mem_append_left _ ht, rest⟩)
    have last : (⟨s, l, s'⟩ : Transition _ _) ∈ trace ++ [⟨s, l, s'⟩] :=
      List.mem_append_right _ (List.mem_singleton.mpr rfl)
    have sound := (sound_of_outbox_run (previous.next taken) last).1
    cases taken with
    | begin | start | finish | fail | call | rollback | crash => exact lift (ih found)
    | @commit k session ids active shape =>
      have track := sound.onTrack k session active
      rcases row_of_commit track.always (track.ending (r := .ok ids) shape) found with old | pending | marked
      · exact lift (ih old)
      · exact .inl pending
      · obtain ⟨mine, confirmed, before⟩ := marked
        exact .inr (.inr ⟨_, last, k, session, ids, rfl, mine, confirmed, before, found⟩)

omit [DecidableEq κ] in
theorem step_of_meets {db db' : MessageDatabase} (meets : label.Meets OutboxJob.spec db db') : db.Step db' := by
  cases answered : label.answer? with
  | none =>
    rw [meets.unanswered answered]
    exact .refl db
  | some answer =>
    obtain ⟨job, r⟩ := answer
    obtain ⟨p, ended, after⟩ := meets.answered answered
    rw [after]
    cases r with
    | error e => exact .refl db
    | ok ids => exact outbox_promise ended

theorem outboxRow_kept {db₀ : MessageDatabase} {t : Transition (RelaySite κ) (RelayEvent κ)}
    (run : Exec (Site.Step OutboxJob.body broker) (Site.quiet db₀ []) trace σ) (ht : t ∈ trace) {id : UUID}
    {row : OutboxRow} (found : t.pre.db.outbox.get? id = some row) : ∃ row', t.post.db.outbox.get? id = some row' ∧
      row'.event = row.event ∧ row'.createdAt = row.createdAt := by
  obtain ⟨sound, taken, _⟩ := sound_of_outbox_run run ht
  obtain ⟨row', found', type, payload, created⟩ := (step_of_meets (sound.meets taken)).outbox id row found
  have same : row'.id = row.id := (Table.key_of_get? found').trans (Table.key_of_get? found).symm
  refine ⟨row', found', ?_, created⟩
  simp only [OutboxRow.event, same, type, payload]

/-- The outbox relay never marks a row without the confirmation of the broker and never loses one, whatever
transactions are interleaved with it and wherever they fail. -/
theorem relay_marks_confirmed_rows_once {db₀ : MessageDatabase}
    (run : Exec (Site.Step OutboxJob.body broker) (Site.quiet db₀ []) trace σ) (id : UUID) :
    -- a row that is visible as published was confirmed in the transaction that committed the mark
    (∀ row, σ.db.outbox.get? id = some row → row.publishedAt ≠ none →
      db₀.outbox.get? id = some row ∨ MarkedIn trace id row) ∧
    -- at most one transaction that brought it to the broker committed, and at most one more than aborted
    commits id trace ≤ 1 ∧ deliveries id σ.world ≤ abortsWith id trace + 1 ∧
    -- no row is lost, and one that no committed transaction has marked is still pending
    (∀ t ∈ trace, ∀ row, t.pre.db.outbox.get? id = some row → ∃ row', t.post.db.outbox.get? id = some row' ∧
      row'.event = row.event ∧ row'.createdAt = row.createdAt) ∧
    ((∀ row, db₀.outbox.get? id = some row → row.pending = true) → (¬ ∃ row, MarkedIn trace id row) →
      ∀ row, σ.db.outbox.get? id = some row → row.pending = true) := by
  have bounded := bounded_of_run id run
  refine ⟨fun row found published => ?_, bounded.once, bounded.atMost,
    fun t ht row found => outboxRow_kept run ht found, fun start unmarked row found => ?_⟩
  · rcases origin_of_row run found with pending | origin
    · simp [OutboxRow.pending, published] at pending
    · exact origin
  · rcases origin_of_row run found with pending | old | marked
    · exact pending
    · exact start row old
    · exact absurd ⟨row, marked⟩ unmarked

end

/-- A pending event at the broker and in the table. -/
def waitingEvent : OutboxRow := (OutboxEvent.row ⟨1, "order.created", []⟩ (Generated.numbered 1).now)

/-- The broker gets the event in a first attempt whose confirmation is lost, and again in a second one. -/
theorem relay_marks_after_lost_confirmation : ∃ trace σ,
    Exec (Site.Step OutboxJob.body broker)
      (Site.quiet (MessageDatabase.empty.addOutbox waitingEvent) [] : RelaySite Bool) trace σ ∧
    (∃ row, σ.db.outbox.get? 1 = some row ∧ MarkedIn trace 1 row) ∧
    deliveries 1 σ.world = 2 ∧ commits 1 trace ≤ 1 ∧ 1 ≤ abortsWith 1 trace := by
  have loses : broker.Follows (fun event log => (.lost "timeout", log ++ [event])) fun _ => True :=
    ⟨fun _ _ _ => trivial, fun _ _ _ => rfl, fun _ _ _ => trivial⟩
  have follows : broker.Follows (fun event log => (.confirmed, log ++ [event])) fun _ => True :=
    ⟨fun _ _ _ => trivial, fun _ _ _ => rfl, fun _ _ _ => trivial⟩
  obtain ⟨earlier, aborted, _⟩ := Site.exec_transact OutboxJob.body loses false (.relay (Generated.numbered 2).now 50)
    (MessageDatabase.empty.addOutbox waitingEvent) trivial
  obtain ⟨later, committed, _⟩ := Site.exec_transact OutboxJob.body follows true (.relay (Generated.numbered 3).now 50)
    (MessageDatabase.empty.addOutbox waitingEvent) trivial
  have run := aborted.append committed
  obtain ⟨published, once, few, _⟩ := relay_marks_confirmed_rows_once run 1
  have twice : 2 ≤ abortsWith 1 (earlier ++ later) + 1 := few
  refine ⟨_, _, run, ⟨waitingEvent.marked (Generated.numbered 3).now, rfl, ?_⟩, rfl, once, by omega⟩
  rcases published _ rfl (by decide) with old | marked
  · cases old
  · exact marked

end DeliveryService
