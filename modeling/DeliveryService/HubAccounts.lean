import DeliveryService.DropOldest
import DeliveryService.Exec
import DeliveryService.TrackingHub
import Mathlib.Algebra.BigOperators.Ring.Finset

/-- Counting values is counting the keys that hold them. -/
theorem Dict.countP_values {α : Type} (d : Dict Nat α) (p : α → Bool) {bound : Nat}
    (below : ∀ k, d.get? k ≠ none → k < bound) :
    d.values.countP p = ∑ k ∈ Finset.range bound, if (d.get? k).any p then 1 else 0 := by
  have keys : ((d.entries.filter fun e => p e.2).map Prod.fst).toFinset =
      (Finset.range bound).filter fun k => (d.get? k).any p := by
    ext k
    simp only [List.mem_toFinset, List.mem_map, List.mem_filter, Prod.exists, exists_and_right, exists_eq_right,
      Finset.mem_filter, Finset.mem_range, Option.any_eq_true]
    constructor
    · rintro ⟨v, mem, holds⟩
      have stored := Dict.get?_eq_some_iff.mpr mem
      exact ⟨below k (by simp [stored]), v, stored, holds⟩
    · rintro ⟨-, v, stored, holds⟩
      exact ⟨v, Dict.get?_eq_some_iff.mp stored, holds⟩
  have distinct : ((d.entries.filter fun e => p e.2).map Prod.fst).Nodup :=
    d.nodup.sublist (List.filter_sublist.map _)
  rw [← Finset.card_filter, ← keys, List.toFinset_card_of_nodup distinct, Dict.values, List.countP_map,
    List.length_map, List.countP_eq_length_filter]
  rfl

namespace DeliveryService

/-- What happens at a hub: its three methods, and `get` on one of the queues it gave out. -/
inductive HubCall
  | subscribe (orderId : UUID)
  | unsubscribe (orderId : UUID) (handle : Nat)
  | publish (event : TrackingEvent)
  | get (handle : Nat)

/-- A hub with the queues that were unsubscribed, and the events put into and taken from each queue. -/
structure HubHistory where
  hub : TrackingHub
  detached : Dict Nat Subscription := .empty
  put : Nat → List TrackingEvent := fun _ => []
  taken : Nat → List TrackingEvent := fun _ => []

namespace HubHistory

def queue? (s : HubHistory) (handle : Nat) : Option Subscription :=
  (s.hub.subscribers.get? handle).or (s.detached.get? handle)

/-- The events that wait in a queue. -/
def waiting (s : HubHistory) (handle : Nat) : List TrackingEvent :=
  (s.queue? handle).elim [] Subscription.queue

def log (s : HubHistory) (handle : Nat) : QueueLog TrackingEvent :=
  ⟨s.put handle, s.taken handle, s.waiting handle⟩

/-- `publish` puts the event into this queue. -/
def receives (hub : TrackingHub) (event : TrackingEvent) (handle : Nat) : Bool :=
  (hub.subscribers.get? handle).any fun subscriber => subscriber.orderId = event.orderId

/-- The queue leaves the hub, and whoever holds it keeps it. -/
def detach (s : HubHistory) (orderId : UUID) (handle : Nat) : Dict Nat Subscription :=
  match s.hub.subscribers.get? handle with
  | some subscriber => if subscriber.orderId = orderId then s.detached.set handle subscriber else s.detached
  | none => s.detached

/-- `get` on a queue, subscribed or not. -/
def takeFrom (s : HubHistory) (handle : Nat) : HubHistory :=
  let taken := Function.update s.taken handle (s.taken handle ++ (s.waiting handle).head?.toList)
  match s.hub.subscribers.get? handle with
  | some subscriber => { s with hub := s.hub.dequeue handle subscriber, taken }
  | none => match s.detached.get? handle with
    | some subscriber => { s with
        detached := s.detached.set handle { subscriber with queue := subscriber.queue.tail }, taken }
    | none => s

def after (s : HubHistory) : HubCall → HubHistory
  | .subscribe orderId => { s with hub := (s.hub.subscribe orderId).2 }
  | .unsubscribe orderId handle => { s with
      hub := s.hub.unsubscribe orderId handle, detached := s.detach orderId handle }
  | .publish event => { s with
      hub := s.hub.publish event
      put := fun handle => if receives s.hub event handle then s.put handle ++ [event] else s.put handle }
  | .get handle => s.takeFrom handle

/-- One call; `get` on an empty queue waits. -/
def Step (s : HubHistory) (call : HubCall) (s' : HubHistory) : Prop :=
  (∀ handle, call = .get handle → s.waiting handle ≠ []) ∧ s' = s.after call

/-- Handles are given out one after the other, and a queue is subscribed or detached. -/
structure WellFormed (s : HubHistory) : Prop where
  subscribed : ∀ handle, s.hub.subscribers.get? handle ≠ none → handle < s.hub.nextHandle
  detached : ∀ handle, s.detached.get? handle ≠ none → handle < s.hub.nextHandle
  apart : ∀ handle, s.hub.subscribers.get? handle ≠ none → s.detached.get? handle = none

variable {s s' : HubHistory} {call : HubCall} {handle : Nat}

theorem waiting_subscribed {subscriber : Subscription} (found : s.hub.subscribers.get? handle = some subscriber) :
    s.waiting handle = subscriber.queue := by
  simp [waiting, queue?, found]

theorem waiting_detached (gone : s.hub.subscribers.get? handle = none) :
    s.waiting handle = (s.detached.get? handle).elim [] Subscription.queue := by
  simp [waiting, queue?, gone]

theorem get?_unsubscribe (hub : TrackingHub) (orderId : UUID) (handle other : Nat) :
    (hub.unsubscribe orderId handle).subscribers.get? other =
      if other = handle ∧ (hub.subscribers.get? handle).map Subscription.orderId = some orderId then none
      else hub.subscribers.get? other := by
  unfold TrackingHub.unsubscribe
  cases found : hub.subscribers.get? handle with
  | none => simp
  | some subscriber =>
    by_cases own : subscriber.orderId = orderId
    · simp [own, Dict.get?_erase]
    · simp [own]

theorem unsubscribe_eq (hub : TrackingHub) (orderId : UUID) (handle : Nat) :
    ∃ subscribers, hub.unsubscribe orderId handle = { hub with subscribers } := by
  unfold TrackingHub.unsubscribe
  split
  · split_ifs
    · exact ⟨_, rfl⟩
    · exact ⟨_, rfl⟩
  · exact ⟨_, rfl⟩

theorem takeFrom_hub (s : HubHistory) (handle : Nat) :
    ∃ subscribers, (s.takeFrom handle).hub = { s.hub with subscribers } := by
  unfold takeFrom
  split
  · exact ⟨_, rfl⟩
  · split
    · exact ⟨_, rfl⟩
    · exact ⟨_, rfl⟩

theorem get?_detach (s : HubHistory) (orderId : UUID) (handle other : Nat) :
    (s.detach orderId handle).get? other =
      if other = handle ∧ (s.hub.subscribers.get? handle).map Subscription.orderId = some orderId then
        s.hub.subscribers.get? handle
      else s.detached.get? other := by
  unfold detach
  cases found : s.hub.subscribers.get? handle with
  | none => simp
  | some subscriber =>
    by_cases own : subscriber.orderId = orderId
    · simp [own, Dict.get?_set]
    · simp [own]

theorem get?_subscribed (hub : TrackingHub) (orderId : UUID) (other : Nat) :
    (hub.subscribe orderId).2.subscribers.get? other =
      if other = hub.nextHandle then some { orderId } else hub.subscribers.get? other := by
  simp [TrackingHub.subscribe, Dict.get?_set]

theorem takeFrom_subscribed {subscriber : Subscription} (found : s.hub.subscribers.get? handle = some subscriber) :
    s.takeFrom handle = { s with
      hub := s.hub.dequeue handle subscriber
      taken := Function.update s.taken handle (s.taken handle ++ (s.waiting handle).head?.toList) } := by
  simp [takeFrom, found]

theorem takeFrom_detached {subscriber : Subscription} (gone : s.hub.subscribers.get? handle = none)
    (found : s.detached.get? handle = some subscriber) : s.takeFrom handle = { s with
      detached := s.detached.set handle { subscriber with queue := subscriber.queue.tail }
      taken := Function.update s.taken handle (s.taken handle ++ (s.waiting handle).head?.toList) } := by
  simp [takeFrom, gone, found]

theorem WellFormed.step (wf : s.WellFormed) (step : Step s call s') : s'.WellFormed := by
  obtain ⟨-, rfl⟩ := step
  cases call with
  | subscribe orderId =>
    refine ⟨fun other found => ?_, fun other found => ?_, fun other found => ?_⟩
    · simp only [after, get?_subscribed] at found
      change other < s.hub.nextHandle + 1
      split_ifs at found with new
      · omega
      · have := wf.subscribed other found
        omega
    · change other < s.hub.nextHandle + 1
      have := wf.detached other found
      omega
    · simp only [after, get?_subscribed] at found
      by_contra kept
      split_ifs at found with new
      · have := wf.detached other kept
        omega
      · exact kept (wf.apart other found)
  | unsubscribe orderId handle =>
    have kept : (s.hub.unsubscribe orderId handle).nextHandle = s.hub.nextHandle := by
      rw [(unsubscribe_eq s.hub orderId handle).choose_spec]
    refine ⟨fun other found => ?_, fun other found => ?_, fun other found => ?_⟩
    · simp only [after, get?_unsubscribe] at found
      simp only [after, kept]
      split_ifs at found
      · exact absurd rfl found
      · exact wf.subscribed other found
    · simp only [after, get?_detach] at found
      simp only [after, kept]
      split_ifs at found with here
      · exact wf.subscribed other (here.1 ▸ found)
      · exact wf.detached other found
    · simp only [after, get?_unsubscribe] at found
      simp only [after, get?_detach]
      split_ifs at found ⊢ with here
      · exact absurd rfl found
      · exact wf.apart other found
  | publish event =>
    have same (other : Nat) : (s.hub.publish event).subscribers.get? other ≠ none →
        s.hub.subscribers.get? other ≠ none := by
      intro found missing
      simp [TrackingHub.publish, missing] at found
    exact ⟨fun other found => wf.subscribed other (same other found), wf.detached,
      fun other found => wf.apart other (same other found)⟩
  | get handle =>
    cases found : s.hub.subscribers.get? handle with
    | some subscriber =>
      have same (other : Nat) : (s.hub.dequeue handle subscriber).subscribers.get? other ≠ none →
          s.hub.subscribers.get? other ≠ none := by
        intro stored missing
        simp only [TrackingHub.dequeue, Dict.get?_set] at stored
        split_ifs at stored with here
        · rw [here, found] at missing
          cases missing
        · exact stored missing
      simp only [after, takeFrom_subscribed found]
      exact ⟨fun other stored => wf.subscribed other (same other stored), wf.detached,
        fun other stored => wf.apart other (same other stored)⟩
    | none =>
      cases held : s.detached.get? handle with
      | none => simpa [after, takeFrom, found, held] using wf
      | some subscriber =>
        simp only [after, takeFrom_detached found held]
        refine ⟨wf.subscribed, fun other stored => ?_, fun other stored => ?_⟩
        · simp only [Dict.get?_set] at stored
          split_ifs at stored with here
          · exact here ▸ wf.detached handle (by simp [held])
          · exact wf.detached other stored
        · have other_ne : other ≠ handle := fun here => stored (here ▸ found)
          simp only [Dict.get?_set_of_ne _ _ other_ne]
          exact wf.apart other stored

theorem waiting_subscribe (wf : s.WellFormed) (orderId : UUID) (other : Nat) :
    (s.after (.subscribe orderId)).waiting other = s.waiting other := by
  simp only [waiting, queue?, after, get?_subscribed]
  split_ifs with new
  · have unused : s.hub.subscribers.get? other = none := by
      by_contra found
      have := wf.subscribed other found
      omega
    have empty : s.detached.get? other = none := by
      by_contra found
      have := wf.detached other found
      omega
    simp [unused, empty]
  · rfl

theorem waiting_unsubscribe (s : HubHistory) (orderId : UUID) (handle other : Nat) :
    (s.after (.unsubscribe orderId handle)).waiting other = s.waiting other := by
  simp only [waiting, queue?, after, get?_unsubscribe, get?_detach]
  split_ifs with here
  · obtain ⟨rfl, own⟩ := here
    cases found : s.hub.subscribers.get? other with
    | none => simp [found] at own
    | some subscriber => rfl
  · rfl

theorem log_subscribe (wf : s.WellFormed) (orderId : UUID) (other : Nat) :
    (s.after (.subscribe orderId)).log other = s.log other := by
  rw [log, waiting_subscribe wf]
  rfl

theorem log_unsubscribe (s : HubHistory) (orderId : UUID) (handle other : Nat) :
    (s.after (.unsubscribe orderId handle)).log other = s.log other := by
  rw [log, waiting_unsubscribe]
  rfl

theorem full_iff {hub : TrackingHub} {queue : List TrackingEvent} (positive : 1 ≤ hub.queueSize)
    (bounded : (queue.length : Int) ≤ hub.queueSize) :
    hub.full queue = true ↔ (queue.length : Int) = hub.queueSize := by
  simp only [TrackingHub.full, Bool.and_eq_true, decide_eq_true_eq]
  omega

/-- `publish` leaves the event in the queues of its order. -/
theorem log_publish (s : HubHistory) (event : TrackingEvent) (handle : Nat) : (s.after (.publish event)).log handle =
    if receives s.hub event handle then { s.log handle with
      put := s.put handle ++ [event], waiting := s.hub.offer event (s.waiting handle) }
    else s.log handle := by
  have taken : (s.after (.publish event)).taken handle = s.taken handle := rfl
  cases found : s.hub.subscribers.get? handle with
  | none => simp [log, waiting, queue?, after, receives, TrackingHub.publish, found]
  | some subscriber =>
    have stored : (s.after (.publish event)).hub.subscribers.get? handle = _ := get?_publish found
    by_cases own : subscriber.orderId = event.orderId
    · have put : (s.after (.publish event)).put handle = s.put handle ++ [event] := by
        simp [after, receives, found, own]
      simp [log, put, taken, waiting_subscribed stored, waiting_subscribed found, receives, found, own]
    · have put : (s.after (.publish event)).put handle = s.put handle := by
        simp [after, receives, found, own]
      simp [log, put, taken, waiting_subscribed stored, waiting_subscribed found, receives, found, own]

theorem publish_change (positive : 1 ≤ s.hub.queueSize) (sound : (s.log handle).Sound s.hub.queueSize)
    (event : TrackingEvent) : (s.log handle).Change s.hub.queueSize ((s.after (.publish event)).log handle) := by
  have bounded : ((s.waiting handle).length : Int) ≤ s.hub.queueSize := sound.bounded
  rw [log_publish]
  split_ifs
  · by_cases full : ((s.waiting handle).length : Int) = s.hub.queueSize
    · rw [TrackingHub.offer, if_pos ((full_iff positive bounded).mpr full)]
      cases queued : s.waiting handle with
      | nil =>
        simp only [queued, List.length_nil] at full
        omega
      | cons oldest rest => exact .replaced event queued full
    · rw [TrackingHub.offer, if_neg (fun h => full ((full_iff positive bounded).mp h))]
      exact .stored event (lt_of_le_of_ne bounded full)
  · exact .same

theorem waiting_takeFrom (s : HubHistory) (handle other : Nat) :
    (s.takeFrom handle).waiting other = if other = handle then (s.waiting handle).tail else s.waiting other := by
  cases found : s.hub.subscribers.get? handle with
  | some subscriber =>
    rw [waiting_subscribed found, takeFrom_subscribed found]
    simp only [waiting, queue?, TrackingHub.dequeue, Dict.get?_set]
    split_ifs <;> rfl
  | none =>
    rw [waiting_detached found]
    cases held : s.detached.get? handle with
    | some subscriber =>
      rw [takeFrom_detached found held]
      simp only [waiting, queue?, Dict.get?_set]
      split_ifs with here
      · simp [here, found]
      · rfl
    | none =>
      have kept : s.takeFrom handle = s := by simp [takeFrom, found, held]
      rw [kept]
      split_ifs with here
      · simp [here, waiting_detached found, held]
      · rfl

theorem taken_takeFrom (filled : s.waiting handle ≠ []) (other : Nat) : (s.takeFrom handle).taken other =
    if other = handle then s.taken handle ++ (s.waiting handle).head?.toList else s.taken other := by
  have update : (s.takeFrom handle).taken =
      Function.update s.taken handle (s.taken handle ++ (s.waiting handle).head?.toList) := by
    cases found : s.hub.subscribers.get? handle with
    | some subscriber => rw [takeFrom_subscribed found]
    | none =>
      cases held : s.detached.get? handle with
      | some subscriber => rw [takeFrom_detached found held]
      | none =>
        rw [waiting_detached found, held] at filled
        exact absurd rfl filled
  rw [update, Function.update_apply]

theorem put_takeFrom (s : HubHistory) (handle : Nat) : (s.takeFrom handle).put = s.put := by
  unfold takeFrom
  split
  · rfl
  · split <;> rfl

theorem log_get (filled : s.waiting handle ≠ []) (other : Nat) : (s.after (.get handle)).log other =
    if other = handle then { s.log handle with
      taken := s.taken handle ++ (s.waiting handle).head?.toList, waiting := (s.waiting handle).tail }
    else s.log other := by
  have put : (s.after (.get handle)).put = s.put := put_takeFrom s handle
  have taken := taken_takeFrom filled other
  have waiting := waiting_takeFrom s handle other
  change (s.after (.get handle)).taken other = _ at taken
  change (s.after (.get handle)).waiting other = _ at waiting
  simp only [log, put, taken, waiting]
  split_ifs with here
  · rw [here]
  · rfl

theorem get_change {other : Nat} (filled : s.waiting handle ≠ []) :
    (s.log other).Change s.hub.queueSize ((s.after (.get handle)).log other) := by
  rw [log_get filled]
  split_ifs with here
  · subst here
    obtain ⟨oldest, rest, queued⟩ := List.exists_cons_of_ne_nil filled
    rw [queued]
    exact .taken queued
  · exact .same

/-- What a call does to the history of any one queue. -/
theorem log_change (wf : s.WellFormed) (positive : 1 ≤ s.hub.queueSize)
    (sound : (s.log handle).Sound s.hub.queueSize) (step : Step s call s') :
    (s.log handle).Change s.hub.queueSize (s'.log handle) := by
  obtain ⟨filled, rfl⟩ := step
  cases call with
  | subscribe orderId =>
    rw [log_subscribe wf]
    exact .same
  | unsubscribe orderId other =>
    rw [log_unsubscribe]
    exact .same
  | publish event => exact publish_change positive sound event
  | get other => exact get_change (filled other rfl)

/-- `publish` finds this queue full and makes room. -/
def drops (hub : TrackingHub) (event : TrackingEvent) (subscriber : Subscription) : Bool :=
  subscriber.orderId = event.orderId && hub.full subscriber.queue

theorem length_offer (hub : TrackingHub) (event : TrackingEvent) (queue : List TrackingEvent) :
    ((hub.offer event queue).length : Int) = queue.length + if hub.full queue then 0 else 1 := by
  unfold TrackingHub.offer
  split_ifs with full
  · simp only [TrackingHub.full, Bool.and_eq_true, decide_eq_true_eq] at full
    simp
    omega
  · simp

theorem any_drops (s : HubHistory) (event : TrackingEvent) (handle : Nat) :
    (s.hub.subscribers.get? handle).any (drops s.hub event) =
      (receives s.hub event handle && s.hub.full (s.waiting handle)) := by
  cases found : s.hub.subscribers.get? handle with
  | none => simp [receives, found]
  | some subscriber => simp [receives, found, drops, waiting_subscribed found]

theorem lost_publish (s : HubHistory) (event : TrackingEvent) (handle : Nat) :
    ((s.after (.publish event)).log handle).lost =
      (s.log handle).lost + if (s.hub.subscribers.get? handle).any (drops s.hub event) then 1 else 0 := by
  rw [log_publish, any_drops]
  cases receives s.hub event handle with
  | false => simp
  | true =>
    simp only [if_true, QueueLog.lost, log, length_offer, List.length_append, List.length_singleton, Bool.true_and]
    split_ifs
    · omega
    · omega

theorem lost_get (filled : s.waiting handle ≠ []) (other : Nat) :
    ((s.after (.get handle)).log other).lost = (s.log other).lost := by
  rw [log_get filled]
  split_ifs with here
  · obtain ⟨oldest, rest, queued⟩ := List.exists_cons_of_ne_nil filled
    simp [QueueLog.lost, log, here, queued]
    omega
  · rfl

/-- The accounts of a hub whose queues hold `size` events: every queue is sound, handles that were not given out
have no history, and the counter is the sum of what the queues lost. -/
structure Accounted (size : Int) (s : HubHistory) : Prop where
  wellFormed : s.WellFormed
  capacity : s.hub.queueSize = size
  sound : ∀ handle, (s.log handle).Sound size
  unused : ∀ handle, s.hub.nextHandle ≤ handle → (s.log handle).lost = 0
  total : (s.hub.droppedUpdates : Int) = ∑ handle ∈ Finset.range s.hub.nextHandle, (s.log handle).lost

variable {size : Int}

/-- A call that publishes nothing only changes the subscribers, and counts the handles that it gives out. -/
theorem quiet_hub (step : Step s call s') (quiet : ∀ event, call ≠ .publish event) :
    ∃ subscribers, s'.hub = { s.hub with subscribers } ∨
      s'.hub = { s.hub with subscribers, nextHandle := s.hub.nextHandle + 1 } := by
  obtain ⟨-, rfl⟩ := step
  cases call with
  | subscribe orderId => exact ⟨_, .inr rfl⟩
  | unsubscribe orderId handle =>
    obtain ⟨subscribers, shape⟩ := unsubscribe_eq s.hub orderId handle
    exact ⟨subscribers, .inl shape⟩
  | publish event => exact absurd rfl (quiet event)
  | get handle =>
    obtain ⟨subscribers, shape⟩ := takeFrom_hub s handle
    exact ⟨subscribers, .inl shape⟩

theorem quiet_lost (wf : s.WellFormed) (step : Step s call s') (quiet : ∀ event, call ≠ .publish event)
    (handle : Nat) : (s'.log handle).lost = (s.log handle).lost := by
  obtain ⟨filled, rfl⟩ := step
  cases call with
  | subscribe orderId => rw [log_subscribe wf]
  | unsubscribe orderId other => rw [log_unsubscribe]
  | publish event => exact absurd rfl (quiet event)
  | get other => exact lost_get (filled other rfl) handle

theorem Accounted.quiet (accounted : s.Accounted size) (positive : 1 ≤ size) (step : Step s call s')
    (quiet : ∀ event, call ≠ .publish event) : s'.Accounted size := by
  obtain ⟨wf, rfl, sound, unused, total⟩ := accounted
  have sound' handle : (s'.log handle).Sound s.hub.queueSize :=
    (sound handle).change (log_change wf positive (sound handle) step)
  have lost := quiet_lost wf step quiet
  obtain ⟨subscribers, same | grown⟩ := quiet_hub step quiet
  · refine ⟨wf.step step, by rw [same], sound', ?_, ?_⟩
    · simpa only [same, lost] using unused
    · simpa only [same, lost] using total
  · refine ⟨wf.step step, by rw [grown], sound', fun handle new => ?_, ?_⟩
    · simp only [grown] at new
      rw [lost]
      exact unused handle (by omega)
    · simp only [grown, lost, Finset.sum_range_succ, unused s.hub.nextHandle (by omega)]
      simpa using total

theorem Accounted.publish (accounted : s.Accounted size) (positive : 1 ≤ size) (event : TrackingEvent) :
    (s.after (.publish event)).Accounted size := by
  obtain ⟨wf, rfl, sound, unused, total⟩ := accounted
  have step : Step s (.publish event) (s.after (.publish event)) := ⟨by simp, rfl⟩
  refine ⟨wf.step step, rfl, fun handle => ?_, fun handle new => ?_, ?_⟩
  · exact (sound handle).change (log_change wf positive (sound handle) step)
  · have unknown : s.hub.subscribers.get? handle = none := by
      by_contra found
      have := wf.subscribed handle found
      change s.hub.nextHandle ≤ handle at new
      omega
    rw [lost_publish, unused handle new, unknown]
    rfl
  · have counted := Dict.countP_values s.hub.subscribers (drops s.hub event) wf.subscribed
    have dropped : (s.after (.publish event)).hub.droppedUpdates =
        s.hub.droppedUpdates + s.hub.subscribers.values.countP (drops s.hub event) := rfl
    have next : (s.after (.publish event)).hub.nextHandle = s.hub.nextHandle := rfl
    simp only [dropped, next, lost_publish, Finset.sum_add_distrib, counted, ← total]
    push_cast
    rfl

theorem Accounted.step (accounted : s.Accounted size) (positive : 1 ≤ size) (step : Step s call s') :
    s'.Accounted size := by
  cases call with
  | publish event => exact step.2 ▸ accounted.publish positive event
  | subscribe | unsubscribe | get => exact accounted.quiet positive step (by simp)

/-- Only a publication that finds a full queue loses an event, and that is the oldest one. -/
theorem publishes_of_lost (accounted : s.Accounted size) (positive : 1 ≤ size) (step : Step s call s')
    (changed : (s'.log handle).lost ≠ (s.log handle).lost) : ∃ event, call = .publish event ∧
      ((s.waiting handle).length : Int) = size ∧ s'.waiting handle = (s.waiting handle).tail ++ [event] := by
  obtain ⟨wf, rfl, sound, -, -⟩ := accounted
  cases call with
  | subscribe | unsubscribe | get => exact absurd (quiet_lost wf step (by simp) handle) changed
  | publish event =>
    obtain ⟨-, rfl⟩ := step
    rw [lost_publish, any_drops] at changed
    obtain ⟨own, full⟩ : receives s.hub event handle = true ∧ s.hub.full (s.waiting handle) = true := by
      simpa using changed
    have shape := congrArg QueueLog.waiting (log_publish s event handle)
    rw [if_pos own] at shape
    refine ⟨event, rfl, (full_iff positive (sound handle).bounded).mp full, shape.trans ?_⟩
    simp [TrackingHub.offer, full]

/-- The order that a queue is subscribed to. -/
def subscribedTo (s : HubHistory) (handle : Nat) : Option UUID :=
  (s.hub.subscribers.get? handle).map Subscription.orderId

/-- The order that a queue was made for. -/
def madeFor (s : HubHistory) (handle : Nat) : Option UUID := (s.queue? handle).map Subscription.orderId

theorem madeFor_of_subscribedTo {orderId : UUID} (subscribed : s.subscribedTo handle = some orderId) :
    s.madeFor handle = some orderId := by
  obtain ⟨subscriber, found, own⟩ := Option.map_eq_some_iff.mp subscribed
  simp [madeFor, queue?, found, own]

theorem receives_iff (event : TrackingEvent) :
    receives s.hub event handle = true ↔ s.subscribedTo handle = some event.orderId := by
  simp only [receives, subscribedTo, Option.any_eq_true, decide_eq_true_eq, Option.map_eq_some_iff]

theorem subscribedTo_after (s : HubHistory) (call : HubCall) (handle : Nat) :
    (s.after call).subscribedTo handle = match call with
      | .subscribe orderId => if handle = s.hub.nextHandle then some orderId else s.subscribedTo handle
      | .unsubscribe orderId other =>
        if handle = other ∧ s.subscribedTo handle = some orderId then none else s.subscribedTo handle
      | _ => s.subscribedTo handle := by
  cases call with
  | subscribe orderId =>
    simp only [after, subscribedTo, get?_subscribed]
    split_ifs <;> rfl
  | unsubscribe orderId other =>
    simp only [after, subscribedTo, get?_unsubscribe]
    by_cases here : handle = other
    · subst here
      simp only [true_and]
      split_ifs <;> rfl
    · simp [here]
  | publish event =>
    simp only [after, subscribedTo, TrackingHub.publish, Dict.get?_mapValues, Option.map_map]
    refine Option.map_congr fun subscriber _ => ?_
    simp only [Function.comp_apply]
    split_ifs <;> rfl
  | get other =>
    cases found : s.hub.subscribers.get? other with
    | some subscriber =>
      simp only [after, takeFrom_subscribed found, subscribedTo, TrackingHub.dequeue, Dict.get?_set]
      split_ifs with here
      · simp [here, found]
      · rfl
    | none =>
      cases held : s.detached.get? other with
      | some subscriber => simp only [after, takeFrom_detached found held, subscribedTo]
      | none => simp only [after, takeFrom, found, held]

theorem madeFor_eq (s : HubHistory) (handle : Nat) :
    s.madeFor handle = (s.subscribedTo handle).or ((s.detached.get? handle).map Subscription.orderId) := by
  simp only [madeFor, queue?, subscribedTo]
  cases s.hub.subscribers.get? handle <;> rfl

theorem madeFor_after (s : HubHistory) (call : HubCall) (handle : Nat) :
    (s.after call).madeFor handle = match call with
      | .subscribe orderId => if handle = s.hub.nextHandle then some orderId else s.madeFor handle
      | _ => s.madeFor handle := by
  rw [madeFor_eq, subscribedTo_after]
  cases call with
  | subscribe orderId =>
    simp only [after]
    split_ifs
    · rfl
    · exact (madeFor_eq s handle).symm
  | unsubscribe orderId other =>
    rw [madeFor_eq]
    simp only [after, get?_detach]
    by_cases here : handle = other
    · subst here
      by_cases own : s.subscribedTo handle = some orderId
      · have found := own
        simp only [subscribedTo] at found
        simp [own, found]
      · have other := own
        simp only [subscribedTo] at other
        simp [own, other]
    · simp [here]
  | publish event => exact (madeFor_eq s handle).symm
  | get other =>
    rw [madeFor_eq]
    cases found : s.hub.subscribers.get? other with
    | some subscriber => simp only [after, takeFrom_subscribed found]
    | none =>
      cases held : s.detached.get? other with
      | none => simp only [after, takeFrom, found, held]
      | some subscriber =>
        simp only [after, takeFrom_detached found held, Dict.get?_set]
        split_ifs with here
        · simp [here, held]
        · rfl

theorem put_after (s : HubHistory) (call : HubCall) (handle : Nat) :
    (s.after call).put handle = match call with
      | .publish event =>
        if s.subscribedTo handle = some event.orderId then s.put handle ++ [event] else s.put handle
      | _ => s.put handle := by
  cases call with
  | subscribe | unsubscribe => rfl
  | publish event =>
    simp only [after, receives_iff]
  | get other => simp only [after, put_takeFrom]

/-- What an observer of one queue and one order has seen: whether the queue is subscribed, and the events that
were published for the order in the meantime. -/
structure Watch where
  active : Bool := false
  events : List TrackingEvent := []

def Watch.see (orderId : UUID) (handle : Nat) (watch : Watch) (t : Transition HubHistory HubCall) : Watch :=
  match t.label with
  | .subscribe order => if order = orderId ∧ (t.pre.hub.subscribe order).1 = handle then
      { watch with active := true } else watch
  | .unsubscribe order other => if order = orderId ∧ other = handle then { watch with active := false } else watch
  | .publish event => if watch.active = true ∧ event.orderId = orderId then
      { watch with events := watch.events ++ [event] } else watch
  | .get _ => watch

/-- The events that were published for an order while a queue was subscribed to it. -/
def publishedWhile (orderId : UUID) (handle : Nat) (trace : List (Transition HubHistory HubCall)) :
    List TrackingEvent :=
  (trace.foldl (Watch.see orderId handle) {}).events

/-- A `subscribe` of this order has returned this queue. -/
def Subscribes (orderId : UUID) (handle : Nat) (t : Transition HubHistory HubCall) : Prop :=
  t.label = .subscribe orderId ∧ (t.pre.hub.subscribe orderId).1 = handle

/-- The observer agrees with the hub. -/
structure Witnessed (orderId : UUID) (handle : Nat) (watch : Watch) (s : HubHistory) : Prop where
  active : watch.active = true ↔ s.subscribedTo handle = some orderId
  own : s.madeFor handle = some orderId → s.put handle = watch.events
  other : s.madeFor handle ≠ some orderId → watch.events = []
  unused : s.madeFor handle = none → s.put handle = []

variable {orderId : UUID} {watch : Watch}

theorem madeFor_nextHandle (wf : s.WellFormed) : s.madeFor s.hub.nextHandle = none := by
  have free : s.hub.subscribers.get? s.hub.nextHandle = none := by
    by_contra found
    have := wf.subscribed _ found
    omega
  have unheld : s.detached.get? s.hub.nextHandle = none := by
    by_contra found
    have := wf.detached _ found
    omega
  simp [madeFor, queue?, free, unheld]

theorem Witnessed.subscribe (witnessed : Witnessed orderId handle watch s) (wf : s.WellFormed) (order : UUID) :
    Witnessed orderId handle (watch.see orderId handle ⟨s, .subscribe order, s.after (.subscribe order)⟩)
      (s.after (.subscribe order)) := by
  have new := madeFor_nextHandle wf
  have given : (s.hub.subscribe order).1 = s.hub.nextHandle := rfl
  obtain ⟨active, own, other, unused⟩ := witnessed
  by_cases here : handle = s.hub.nextHandle
  · subst here
    have silent : s.subscribedTo s.hub.nextHandle ≠ some orderId := by
      intro subscribed
      rw [madeFor_of_subscribedTo subscribed] at new
      cases new
    have nothing : watch.events = [] := other (by simp [new])
    by_cases same : order = orderId
    · subst same
      constructor <;> simp [Watch.see, subscribedTo_after, madeFor_after, put_after, given, nothing, unused new]
    · have inactive : watch.active = false := by simpa [silent] using active
      constructor <;> simp [Watch.see, subscribedTo_after, madeFor_after, given, same, nothing, inactive]
  · have elsewhere : s.hub.nextHandle ≠ handle := fun h => here h.symm
    constructor <;> simpa [Watch.see, subscribedTo_after, madeFor_after, put_after, given, here, elsewhere]

theorem Witnessed.unsubscribe (witnessed : Witnessed orderId handle watch s) (order : UUID) (queue : Nat) :
    Witnessed orderId handle
      (watch.see orderId handle ⟨s, .unsubscribe order queue, s.after (.unsubscribe order queue)⟩)
      (s.after (.unsubscribe order queue)) := by
  obtain ⟨active, own, other, unused⟩ := witnessed
  have events : (watch.see orderId handle ⟨s, .unsubscribe order queue, s.after (.unsubscribe order queue)⟩).events =
      watch.events := by
    simp only [Watch.see]
    split_ifs <;> rfl
  refine ⟨?_, ?_, ?_, ?_⟩
  · simp only [Watch.see, subscribedTo_after]
    by_cases left : order = orderId ∧ queue = handle
    · obtain ⟨rfl, rfl⟩ := left
      by_cases own : s.subscribedTo queue = some order <;> simp [own]
    · rw [if_neg left, active]
      split_ifs with gone
      · refine iff_of_false (fun subscribed => ?_) (by simp)
        exact left ⟨Option.some.inj (gone.2.symm.trans subscribed), gone.1.symm⟩
      · rfl
  · simpa only [events, madeFor_after, put_after] using own
  · simpa only [events, madeFor_after] using other
  · simpa only [madeFor_after, put_after] using unused

theorem Witnessed.publish (witnessed : Witnessed orderId handle watch s) (event : TrackingEvent) :
    Witnessed orderId handle (watch.see orderId handle ⟨s, .publish event, s.after (.publish event)⟩)
      (s.after (.publish event)) := by
  obtain ⟨active, own, other, unused⟩ := witnessed
  simp only [Watch.see]
  by_cases seen : watch.active = true ∧ event.orderId = orderId
  · have subscribed := active.mp seen.1
    have made := madeFor_of_subscribedTo subscribed
    rw [if_pos seen]
    refine ⟨?_, fun _ => ?_, fun h => ?_, fun h => ?_⟩
    · simpa only [subscribedTo_after] using active
    · simp [put_after, subscribed, seen.2, own made]
    · exact absurd made (by simpa only [madeFor_after] using h)
    · rw [madeFor_after, made] at h
      cases h
  · rw [if_neg seen]
    refine ⟨?_, fun h => ?_, fun h => ?_, fun h => ?_⟩
    · simpa only [subscribedTo_after] using active
    · rw [madeFor_after] at h
      have ignored : s.subscribedTo handle ≠ some event.orderId := by
        intro subscribed
        have same := Option.some.inj ((madeFor_of_subscribedTo subscribed).symm.trans h)
        exact seen ⟨active.mpr (same ▸ subscribed), same⟩
      simp [put_after, ignored, own h]
    · exact other (by simpa only [madeFor_after] using h)
    · rw [madeFor_after] at h
      have ignored : s.subscribedTo handle ≠ some event.orderId := by
        intro subscribed
        rw [madeFor_of_subscribedTo subscribed] at h
        cases h
      simp [put_after, ignored, unused h]

theorem Witnessed.step (witnessed : Witnessed orderId handle watch s) (wf : s.WellFormed) (step : Step s call s') :
    Witnessed orderId handle (watch.see orderId handle ⟨s, call, s'⟩) s' := by
  obtain ⟨-, rfl⟩ := step
  cases call with
  | subscribe order => exact witnessed.subscribe wf order
  | unsubscribe order queue => exact witnessed.unsubscribe order queue
  | publish event => exact witnessed.publish event
  | get queue =>
    obtain ⟨active, own, other, unused⟩ := witnessed
    constructor <;> simpa only [Watch.see, subscribedTo_after, madeFor_after, put_after]

/-- A hub with nothing in it. -/
def fresh (size : Int) : HubHistory := { hub := { queueSize := size } }

variable {trace : List (Transition HubHistory HubCall)}

theorem accounted_fresh (positive : 1 ≤ size) : (fresh size).Accounted size where
  wellFormed := ⟨by simp [fresh], by simp [fresh], by simp [fresh]⟩
  capacity := rfl
  sound _ := QueueLog.sound_empty (by omega)
  unused _ _ := rfl
  total := rfl

theorem witnessed_run (positive : 1 ≤ size) (run : Exec Step (fresh size) trace s) :
    Witnessed orderId handle (trace.foldl (Watch.see orderId handle) {}) s := by
  induction run with
  | start => exact ⟨by simp [fresh, subscribedTo], by simp [fresh, madeFor, queue?], by simp, fun _ => rfl⟩
  | next previous taken ih =>
    have accounted := previous.invariant (accounted_fresh positive) fun _ _ _ h step => h.step positive step
    rw [List.foldl_append]
    exact ih.step accounted.wellFormed taken

theorem madeFor_kept (wf : s.WellFormed) (made : s.madeFor handle = some orderId) (call : HubCall) :
    (s.after call).madeFor handle = some orderId := by
  rw [madeFor_after]
  cases call with
  | subscribe order =>
    have old : handle ≠ s.hub.nextHandle := by
      rintro rfl
      rw [madeFor_nextHandle wf] at made
      cases made
    simpa [old] using made
  | unsubscribe | publish | get => exact made

theorem madeFor_run (positive : 1 ≤ size) (run : Exec Step (fresh size) trace s) {t : Transition HubHistory HubCall}
    (mem : t ∈ trace) (subscribes : Subscribes orderId handle t) : s.madeFor handle = some orderId := by
  obtain ⟨earlier, later, rfl⟩ := List.append_of_mem mem
  obtain ⟨before, step, rest⟩ := run.split
  have accounted : t.post.Accounted size :=
    (before.invariant (accounted_fresh positive) fun _ _ _ h step => h.step positive step).step positive step
  have made : t.post.madeFor handle = some orderId := by
    rw [step.2, subscribes.1, madeFor_after]
    exact if_pos subscribes.2.symm
  -- a queue never changes its order
  refine (rest.invariant (I := fun s => s.Accounted size ∧ s.madeFor handle = some orderId) ⟨accounted, made⟩ ?_).2
  intro s call s' h step
  exact ⟨h.1.step positive step, step.2 ▸ madeFor_kept h.1.wellFormed h.2 call⟩

/-- Whatever is done to a hub with queues of at least one event: a queue was given exactly the events that were
published for its order while it was subscribed; it holds the last of them, within its bound; what was taken from
it came in that order; an event is dropped only by a publication that finds the queue full, as its oldest; and the
counter is the number of events that were put into queues and are neither taken nor still there. -/
theorem hub_accounts_for_events (positive : 1 ≤ size) (run : Exec Step (fresh size) trace s) :
    (∀ orderId handle, (∃ t ∈ trace, Subscribes orderId handle t) →
      s.put handle = publishedWhile orderId handle trace) ∧
    (∀ handle, ((s.waiting handle).length : Int) ≤ size ∧ s.waiting handle <:+ s.put handle ∧
      (s.taken handle).Sublist (s.put handle)) ∧
    (∀ t ∈ trace, ∀ handle, (t.post.log handle).lost ≠ (t.pre.log handle).lost → ∃ event,
      t.label = .publish event ∧ ((t.pre.waiting handle).length : Int) = size ∧
      t.post.waiting handle = (t.pre.waiting handle).tail ++ [event]) ∧
    (s.hub.droppedUpdates : Int) = ∑ handle ∈ Finset.range s.hub.nextHandle,
      (((s.put handle).length : Int) - (s.taken handle).length - (s.waiting handle).length) := by
  have accounts : s.Accounted size :=
    run.invariant (accounted_fresh positive) fun _ _ _ accounted step => accounted.step positive step
  refine ⟨?_, fun handle => ?_, fun t mem handle changed => ?_, accounts.total⟩
  · rintro orderId handle ⟨t, mem, subscribes⟩
    exact (witnessed_run positive run).own (madeFor_run positive run mem subscribes)
  · have sound := accounts.sound handle
    exact ⟨sound.bounded, sound.suffix, sound.taken_sublist⟩
  · obtain ⟨before, step, -⟩ := run.invariant_transition (accounted_fresh positive)
      (fun _ _ _ accounted step => accounted.step positive step) mem
    exact publishes_of_lost before positive step changed

def positionUpdate (sequence : Int) : TrackingEvent := { orderId := 7, status := "picked_up", sequence }

/-- A subscriber that leaves after one event, slower than the positions come in. -/
def slowSubscriber : List HubCall :=
  [.subscribe 7, .publish (positionUpdate 1), .publish (positionUpdate 2), .get 0, .unsubscribe 7 0,
    .publish (positionUpdate 3)]

theorem hub_accounts_for_slow_subscriber : ∃ trace s, Exec Step (fresh 1) trace s ∧ s.hub.droppedUpdates = 1 ∧
    s.put 0 = [positionUpdate 1, positionUpdate 2] ∧ publishedWhile 7 0 trace = s.put 0 ∧
    ∑ handle ∈ Finset.range s.hub.nextHandle,
      (((s.put handle).length : Int) - (s.taken handle).length - (s.waiting handle).length) = 1 := by
  have run : Exec Step (fresh 1) (Exec.traceOf after (fresh 1) slowSubscriber)
      (slowSubscriber.foldl after (fresh 1)) := by
    refine Exec.ofGuard _ after (fresh 1) slowSubscriber fun t mem handle asked => ?_
    simp only [slowSubscriber, Exec.traceOf, List.mem_cons, List.not_mem_nil, or_false] at mem
    rcases mem with rfl | rfl | rfl | rfl | rfl | rfl
    all_goals cases asked
    exact List.cons_ne_nil (positionUpdate 2) []
  obtain ⟨put, -, -, total⟩ := hub_accounts_for_events (by decide) run
  have dropped : (slowSubscriber.foldl after (fresh 1)).hub.droppedUpdates = 1 := by rfl
  refine ⟨_, _, run, dropped, by rfl, ?_, ?_⟩
  · exact (put 7 0 ⟨_, List.mem_cons_self, rfl, rfl⟩).symm
  · rw [← total, dropped]
    rfl

end HubHistory

end DeliveryService
