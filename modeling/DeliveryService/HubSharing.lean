import DeliveryService.HubAccounts

namespace DeliveryService

/-- A queue is taken from and unsubscribed only by whoever holds it. -/
def HubCall.Spares (queue : Nat) : HubCall → Prop
  | .get other => other ≠ queue
  | .unsubscribe _ other => other ≠ queue
  | _ => True

namespace HubHistory

variable {s s' : HubHistory} {call : HubCall} {queue : Nat}

/-- Nothing was taken from a queue that was never given out. -/
def Untouched (s : HubHistory) : Prop := ∀ queue, s.madeFor queue = none → s.taken queue = []

theorem taken_after (step : Step s call s') (spares : call.Spares queue) : s'.taken queue = s.taken queue := by
  obtain ⟨ready, rfl⟩ := step
  cases call with
  | subscribe | unsubscribe | publish => rfl
  | get other =>
    have elsewhere : queue ≠ other := fun same => spares same.symm
    simp only [after, taken_takeFrom (ready other rfl), if_neg elsewhere]

theorem madeFor_of_waiting (filled : s.waiting queue ≠ []) : s.madeFor queue ≠ none := by
  intro unknown
  have none_there : s.queue? queue = none := by simpa [madeFor] using unknown
  simp [waiting, none_there] at filled

theorem Untouched.step (untouched : s.Untouched) (step : Step s call s') : s'.Untouched := by
  intro queue unknown
  obtain ⟨ready, rfl⟩ := step
  rw [madeFor_after] at unknown
  cases call with
  | subscribe orderId =>
    simp only at unknown
    split_ifs at unknown
    exact untouched queue unknown
  | unsubscribe | publish => exact untouched queue unknown
  | get other =>
    have elsewhere : queue ≠ other := by
      rintro rfl
      exact madeFor_of_waiting (ready queue rfl) unknown
    rw [taken_after ⟨ready, rfl⟩ (fun same => elsewhere same.symm)]
    exact untouched queue unknown

theorem subscribedTo_kept (wf : s.WellFormed) (made : s.madeFor queue ≠ none) (step : Step s call s')
    (spares : call.Spares queue) : s'.subscribedTo queue = s.subscribedTo queue := by
  obtain ⟨-, rfl⟩ := step
  rw [subscribedTo_after]
  cases call with
  | subscribe orderId =>
    have old : queue ≠ s.hub.nextHandle := by
      rintro rfl
      exact made (madeFor_nextHandle wf)
    exact if_neg old
  | unsubscribe orderId other =>
    have elsewhere : queue ≠ other := fun same => spares same.symm
    exact if_neg fun gone => elsewhere gone.1
  | publish | get => rfl

/-- All calls but `get` go through at once. -/
theorem step_now (s : HubHistory) (call : HubCall) (free : ∀ handle, call ≠ .get handle) :
    Step s call (s.after call) :=
  ⟨fun handle asked => absurd asked (free handle), rfl⟩

end HubHistory

end DeliveryService
