import DeliveryService.RefreshSessions

namespace DeliveryService

open InMemoryRefreshSessionRepository

/-- The sessions of a family in the order in which they were issued. -/
structure FamilyChain (s : InMemoryRefreshSessionRepository) (familyId : UUID) (chain : List UUID) : Prop where
  path : SuccessorPath s.successor chain
  members : ∀ jti, jti ∈ chain ↔ ∃ session, s.sessions.get? jti = some session ∧ session.familyId = familyId
  live_last : ∀ jti session, s.sessions.get? jti = some session → session.familyId = familyId →
    session.Live → chain.getLast? = some jti

def Chained (s : InMemoryRefreshSessionRepository) : Prop := ∀ familyId, ∃ chain, FamilyChain s familyId chain

/-- At most one session of the family is live, a replacement stays in the family, and every session
but the first replaced exactly one session. -/
structure SingleChain (s : InMemoryRefreshSessionRepository) (familyId : UUID) : Prop where
  one_live : ∀ jti jti' session session', s.sessions.get? jti = some session →
    s.sessions.get? jti' = some session' → session.familyId = familyId → session'.familyId = familyId →
    session.Live → session'.Live → jti = jti'
  successor_stays : ∀ jti session next, s.sessions.get? jti = some session → session.familyId = familyId →
    session.replacementJti = some next → ∃ session', s.sessions.get? next = some session' ∧
      session'.familyId = familyId
  one_predecessor : ∃ first, ∀ jti session, s.sessions.get? jti = some session → session.familyId = familyId →
    (jti = first → ∀ previous, s.successor previous ≠ some jti) ∧
    (jti ≠ first → ∃! previous, s.successor previous = some jti)

/-- The family exists and all of its sessions are revoked. -/
def FamilyRevoked (s : InMemoryRefreshSessionRepository) (familyId : UUID) : Prop :=
  s.HasFamily familyId ∧ ∀ jti session, s.sessions.get? jti = some session → session.familyId = familyId →
    session.revokedAt ≠ none

variable {s s' : InMemoryRefreshSessionRepository} {familyId : UUID} {chain : List UUID}

theorem successor_of_get? {jti : UUID} {session : RefreshSession} (h : s.sessions.get? jti = some session) :
    s.successor jti = session.replacementJti := by
  simp [successor, h]

theorem FamilyChain.congr (h : FamilyChain s familyId chain)
    (same : ∀ jti session, session.familyId = familyId →
      (s'.sessions.get? jti = some session ↔ s.sessions.get? jti = some session)) :
    FamilyChain s' familyId chain := by
  refine ⟨h.path.congr ?_, ?_, ?_⟩
  · intro jti hm
    obtain ⟨session, stored, family⟩ := (h.members jti).mp hm
    rw [successor_of_get? stored, successor_of_get? ((same jti session family).mpr stored)]
  · intro jti
    rw [h.members jti]
    constructor
    · rintro ⟨session, stored, family⟩
      exact ⟨session, (same jti session family).mpr stored, family⟩
    · rintro ⟨session, stored, family⟩
      exact ⟨session, (same jti session family).mp stored, family⟩
  · intro jti session stored family live
    exact h.live_last jti session ((same jti session family).mp stored) family live

/-- A chain survives any change that keeps families and replacements and makes no session live. -/
theorem FamilyChain.weaken (h : FamilyChain s familyId chain)
    (change : ∀ jti, (s.sessions.get? jti = none ∧ s'.sessions.get? jti = none) ∨
      ∃ before after, s.sessions.get? jti = some before ∧ s'.sessions.get? jti = some after ∧
        after.familyId = before.familyId ∧ after.replacementJti = before.replacementJti ∧
        (after.Live → before.Live)) : FamilyChain s' familyId chain := by
  refine ⟨h.path.congr ?_, ?_, ?_⟩
  · intro jti _
    rcases change jti with ⟨gone, gone'⟩ | ⟨before, after, stored, stored', _, link, _⟩
    · simp [successor, gone, gone']
    · rw [successor_of_get? stored, successor_of_get? stored', link]
  · intro jti
    rw [h.members jti]
    rcases change jti with ⟨gone, gone'⟩ | ⟨before, after, stored, stored', family, _, _⟩
    · simp [gone, gone']
    · simp [stored, stored', family]
  · intro jti session found family live
    rcases change jti with ⟨_, gone'⟩ | ⟨before, after, stored, stored', same, _, was⟩
    · simp [gone'] at found
    · obtain rfl : after = session := Option.some.inj (stored'.symm.trans found)
      exact h.live_last jti before stored (same ▸ family) (was live)

theorem chained_register {session : RefreshSession} (chained : Chained s)
    (fresh : s.sessions.get? session.jti = none) (new : ¬ s.HasFamily session.familyId)
    (unused : session.Unused) : Chained (s.put session) := by
  intro familyId
  by_cases own : familyId = session.familyId
  · subst own
    have stored : (s.put session).sessions.get? session.jti = some session := by simp [get?_putSession]
    have alone : ∀ jti other, (s.put session).sessions.get? jti = some other →
        other.familyId = session.familyId → jti = session.jti := by
      intro jti other found family
      by_contra different
      rw [get?_putSession, if_neg different] at found
      exact new ⟨jti, other, found, family⟩
    refine ⟨[session.jti], .singleton ?_, ?_, ?_⟩
    · rw [successor_of_get? stored]
      exact unused.2.2
    · intro jti
      rw [List.mem_singleton]
      constructor
      · rintro rfl
        exact ⟨session, stored, rfl⟩
      · rintro ⟨other, found, family⟩
        exact alone jti other found family
    · intro jti other found family _
      rw [alone jti other found family]
      rfl
  · obtain ⟨chain, h⟩ := chained familyId
    refine ⟨chain, h.congr ?_⟩
    rintro jti other rfl
    rw [get?_putSession]
    split
    next here =>
      subst here
      simp only [Option.some.injEq, fresh, reduceCtorEq, iff_false]
      rintro rfl
      exact own rfl
    next => rfl

theorem chained_revokeFamily (chained : Chained s) (family : UUID) (now : Int) :
    Chained (s.revokeFamily family now) := by
  intro familyId
  obtain ⟨chain, h⟩ := chained familyId
  refine ⟨chain, h.weaken fun jti => ?_⟩
  rw [get?_revokeFamily]
  cases s.sessions.get? jti with
  | none => exact .inl ⟨rfl, rfl⟩
  | some session =>
    exact .inr ⟨session, session.revokeIn family now, rfl, rfl, revokeIn_familyId _ _ _,
      revokeIn_replacementJti _ _ _, live_of_revokeIn⟩

theorem chained_expire {current : RefreshSession} {jti : UUID} {now : Int} (chained : Chained s)
    (stored : s.sessions.get? jti = some current) : Chained (s.put { current with revokedAt := some now }) := by
  have key := s.keyed jti current stored
  intro familyId
  obtain ⟨chain, h⟩ := chained familyId
  refine ⟨chain, h.weaken fun other => ?_⟩
  rw [get?_putSession]
  split
  next here =>
    have here : other = jti := here.trans key
    subst here
    exact .inr ⟨current, _, stored, rfl, rfl, rfl, fun live => by simp [RefreshSession.Live] at live⟩
  next =>
    cases found : s.sessions.get? other with
    | none => exact .inl ⟨rfl, rfl⟩
    | some session => exact .inr ⟨session, session, rfl, rfl, rfl, rfl, id⟩

section

variable {current replacement : RefreshSession} {jti : UUID} {now : Int}
  (lookup : ∀ x, s'.sessions.get? x = if x = replacement.jti then some replacement
    else if x = jti then some { current with usedAt := some now, replacementJti := some replacement.jti }
    else s.sessions.get? x)
  (stored : s.sessions.get? jti = some current) (fresh : s.sessions.get? replacement.jti = none)
  (family : replacement.familyId = current.familyId)

include lookup stored fresh family

/-- Rotation moves the live end of the chain to the replacement. -/
theorem FamilyChain.rotated (h : FamilyChain s current.familyId chain) (live : current.Live)
    (unused : replacement.Unused) : FamilyChain s' current.familyId (chain ++ [replacement.jti]) := by
  have other : jti ≠ replacement.jti := by
    rintro rfl
    simp [stored] at fresh
  have last := h.live_last jti current stored rfl live
  have absent : replacement.jti ∉ chain := by
    intro hm
    obtain ⟨_, found, _⟩ := (h.members _).mp hm
    simp [fresh] at found
  refine ⟨h.path.snoc last absent ?_ ?_ ?_, ?_, ?_⟩
  · intro x hx inner
    have outer : x ≠ replacement.jti := fun e => absent (e ▸ hx)
    simp [successor, lookup, outer, inner]
  · simp [successor, lookup, other]
  · simpa [successor, lookup] using unused.2.2
  · intro x
    rw [List.mem_append, List.mem_singleton, h.members, lookup]
    split
    next here => simp [here, family]
    next outer =>
      split
      next here => simp [here, stored]
      next => simp [outer]
  · intro x session found fam alive
    rw [lookup] at found
    split at found
    next here => simp [here]
    next =>
      split at found
      next =>
        obtain rfl := Option.some.inj found
        simp [RefreshSession.Live] at alive
      next inner =>
        have ends := h.live_last x session found fam alive
        exact absurd (Option.some.inj (ends.symm.trans last)) inner

theorem FamilyChain.apart (h : FamilyChain s familyId chain) (own : familyId ≠ current.familyId) :
    FamilyChain s' familyId chain := by
  refine h.congr ?_
  rintro x session rfl
  rw [lookup]
  split
  next here =>
    simp only [here, fresh, Option.some.injEq, reduceCtorEq, iff_false]
    rintro rfl
    exact own family
  next =>
    split
    next here =>
      simp only [here, stored, Option.some.injEq]
      constructor
      · rintro rfl
        exact absurd rfl own
      · rintro rfl
        exact absurd rfl own
    next => rfl

end

theorem chained_rotated {current replacement : RefreshSession} {jti : UUID} {now : Int} (chained : Chained s)
    (stored : s.sessions.get? jti = some current) (live : current.Live)
    (family : replacement.familyId = current.familyId) (fresh : s.sessions.get? replacement.jti = none)
    (unused : replacement.Unused) :
    Chained ((s.put { current with usedAt := some now, replacementJti := some replacement.jti }).put
      replacement) := by
  have key := s.keyed jti current stored
  have lookup : ∀ x, ((s.put { current with usedAt := some now, replacementJti := some replacement.jti }).put
      replacement).sessions.get? x = if x = replacement.jti then some replacement
        else if x = jti then some { current with usedAt := some now, replacementJti := some replacement.jti }
        else s.sessions.get? x := by
    intro x
    rw [get?_putSession, get?_putSession, key]
  intro familyId
  obtain ⟨chain, h⟩ := chained familyId
  by_cases own : familyId = current.familyId
  · subst own
    exact ⟨_, h.rotated lookup stored fresh family live unused⟩
  · exact ⟨_, h.apart lookup stored fresh family own⟩

theorem register_fresh {session : RefreshSession} (fresh : s.sessions.get? session.jti = none) :
    s.register session = (.ok (), s.put session) := by
  simp [register, Dict.contains, fresh]

theorem chained_step {call : RefreshCall} (chained : Chained s) (step : RefreshStep s call s') : Chained s' := by
  cases step with
  | register fresh new unused =>
    rw [register_fresh fresh]
    exact chained_register chained fresh new unused
  | @rotate presentedJti familyId subject replacement now unused =>
    generalize result : s.rotate presentedJti familyId subject replacement now = answer
    have effect := result ▸ rotate_effect s presentedJti familyId subject replacement now
    obtain ⟨_, after⟩ := answer
    cases effect with
    | refused => exact chained
    | reused _ _ => exact chained_revokeFamily chained familyId now
    | expired stored _ => exact chained_expire chained stored
    | rotated stored family live _ same fresh =>
      exact chained_rotated chained stored live (same.trans family.symm) fresh unused

theorem chained_run {trace : List (Transition InMemoryRefreshSessionRepository RefreshCall)}
    (run : Exec RefreshStep .empty trace s) : Chained s := by
  refine run.invariant ?_ fun _ _ _ => chained_step
  intro familyId
  refine ⟨[], ⟨by simp, by simp, by simp⟩, ?_, ?_⟩
  · simp [InMemoryRefreshSessionRepository.empty]
  · simp [InMemoryRefreshSessionRepository.empty]

theorem FamilyChain.mem_of_successor (h : FamilyChain s familyId chain) (chained : Chained s) {jti previous : UUID}
    (hm : jti ∈ chain) (link : s.successor previous = some jti) : previous ∈ chain := by
  obtain ⟨session, stored, next⟩ := Option.bind_eq_some_iff.mp link
  obtain ⟨chain', h'⟩ := chained session.familyId
  have here : previous ∈ chain' := (h'.members previous).mpr ⟨session, stored, rfl⟩
  obtain ⟨target, found, family⟩ := (h.members jti).mp hm
  obtain ⟨target', found', family'⟩ := (h'.members jti).mp (h'.path.mem_of_next here link)
  obtain rfl : target = target' := Option.some.inj (found.symm.trans found')
  exact (h.members previous).mpr ⟨session, stored, family'.symm.trans family⟩

theorem singleChain_of_chained (chained : Chained s) (familyId : UUID) : SingleChain s familyId := by
  obtain ⟨chain, h⟩ := chained familyId
  refine ⟨?_, ?_, ?_⟩
  · intro jti jti' session session' stored stored' family family' live live'
    have last := h.live_last jti session stored family live
    have last' := h.live_last jti' session' stored' family' live'
    exact Option.some.inj (last.symm.trans last')
  · intro jti session next stored family link
    have hm := (h.members jti).mpr ⟨session, stored, family⟩
    exact (h.members next).mp (h.path.mem_of_next hm ((successor_of_get? stored).trans link))
  · refine ⟨chain.headD 0, fun jti session stored family => ?_⟩
    have hm := (h.members jti).mpr ⟨session, stored, family⟩
    have head : jti = chain.headD 0 ↔ chain.head? = some jti := by
      cases chain with
      | nil => simp at hm
      | cons first rest => simp [eq_comm]
    rw [Ne, head]
    constructor
    · intro first previous link
      exact h.path.next_ne_head (h.mem_of_successor chained hm link) link first
    · intro inner
      obtain ⟨previous, here, link⟩ := h.path.exists_previous hm inner
      refine ⟨previous, link, fun other link' => ?_⟩
      exact h.path.eq_of_next_eq (h.mem_of_successor chained hm link') here link' link

theorem successor_of_live {jti : UUID} {session : RefreshSession} (chained : Chained s)
    (stored : s.sessions.get? jti = some session) (live : session.Live) : s.successor jti = none := by
  obtain ⟨chain, h⟩ := chained session.familyId
  exact h.path.ended jti (h.live_last jti session stored rfl live)

theorem successor_kept {call : RefreshCall} {jti next : UUID} (chained : Chained s)
    (step : RefreshStep s call s') (link : s.successor jti = some next) : s'.successor jti = some next := by
  obtain ⟨session, stored, replaced⟩ := Option.bind_eq_some_iff.mp link
  have elsewhere : ∀ new : RefreshSession, new.jti ≠ jti → (s.put new).sessions.get? jti = some session := by
    intro new other
    rw [get?_putSession, if_neg (Ne.symm other), stored]
  -- a live session has no successor yet
  have unlinked : ∀ {key : UUID} {current : RefreshSession}, s.sessions.get? key = some current → current.Live →
      current.jti ≠ jti := by
    intro key current found live same
    have own := s.keyed _ _ found
    rw [← same, own, successor_of_live chained found live] at link
    cases link
  cases step with
  | @register new fresh _ _ =>
    have other : new.jti ≠ jti := by
      rintro rfl
      simp [stored] at fresh
    rw [register_fresh fresh, successor_of_get? (elsewhere new other), replaced]
  | @rotate presentedJti familyId subject replacement now unused =>
    generalize result : s.rotate presentedJti familyId subject replacement now = answer
    have effect := result ▸ rotate_effect s presentedJti familyId subject replacement now
    obtain ⟨_, after⟩ := answer
    cases effect with
    | refused => exact link
    | reused _ _ =>
      have kept : (s.revokeFamily familyId now).sessions.get? jti = some (session.revokeIn familyId now) := by
        rw [get?_revokeFamily, stored]
        rfl
      exact (successor_of_get? kept).trans ((revokeIn_replacementJti _ _ _).trans replaced)
    | @expired current found live =>
      have other := unlinked found live
      exact (successor_of_get? (elsewhere { current with revokedAt := some now } other)).trans replaced
    | @rotated current found _ live _ _ fresh =>
      have other := unlinked found live
      have other' : replacement.jti ≠ jti := by
        rintro rfl
        simp [stored] at fresh
      have kept : ((s.put { current with usedAt := some now, replacementJti := some replacement.jti }).put
          replacement).sessions.get? jti = some session := by
        rw [get?_putSession, if_neg (Ne.symm other')]
        exact elsewhere _ other
      exact (successor_of_get? kept).trans replaced

theorem familyRevoked_reused {presentedJti : UUID} {subject : String} {replacement : RefreshSession} {now : Int}
    (h : (s.rotate presentedJti familyId subject replacement now).1 = .reused) :
    FamilyRevoked (s.rotate presentedJti familyId subject replacement now).2 familyId := by
  have effect := rotate_effect s presentedJti familyId subject replacement now
  rw [h] at effect
  generalize (s.rotate presentedJti familyId subject replacement now).2 = after at effect ⊢
  cases effect with
  | @reused current stored family =>
    refine ⟨⟨presentedJti, current.revokeIn familyId now, ?_, (revokeIn_familyId _ _ _).trans family⟩, ?_⟩
    · rw [get?_revokeFamily, stored]
      rfl
    · intro jti session found member
      rw [get?_revokeFamily, Option.map_eq_some_iff] at found
      obtain ⟨before, _, rfl⟩ := found
      exact revokeIn_revoked ((revokeIn_familyId _ _ _).symm.trans member)

theorem familyRevoked_put {session : RefreshSession} (revoked : FamilyRevoked s familyId)
    (h : session.familyId = familyId → session.revokedAt ≠ none)
    (kept : ∀ old, s.sessions.get? session.jti = some old → old.familyId = session.familyId) :
    FamilyRevoked (s.put session) familyId := by
  obtain ⟨⟨jti, member, stored, family⟩, all⟩ := revoked
  constructor
  · by_cases here : jti = session.jti
    · refine ⟨jti, session, by rw [get?_putSession, if_pos here], ?_⟩
      rw [← kept member (here ▸ stored), family]
    · exact ⟨jti, member, by rw [get?_putSession, if_neg here, stored], family⟩
  · intro other found stored' member'
    rw [get?_putSession] at stored'
    split at stored'
    next =>
      obtain rfl := Option.some.inj stored'
      exact h member'
    next => exact all other found stored' member'

theorem familyRevoked_revokeFamily (revoked : FamilyRevoked s familyId) (family : UUID) (now : Int) :
    FamilyRevoked (s.revokeFamily family now) familyId := by
  obtain ⟨⟨jti, member, stored, own⟩, all⟩ := revoked
  refine ⟨⟨jti, member.revokeIn family now, ?_, (revokeIn_familyId _ _ _).trans own⟩, ?_⟩
  · rw [get?_revokeFamily, stored]
    rfl
  · intro other found stored' member'
    rw [get?_revokeFamily, Option.map_eq_some_iff] at stored'
    obtain ⟨before, was, rfl⟩ := stored'
    have dead := all other before was ((revokeIn_familyId _ _ _).symm.trans member')
    rw [RefreshSession.revokeIn, if_neg fun h => dead h.2]
    exact dead

theorem not_live_of_familyRevoked {jti : UUID} {session : RefreshSession} (revoked : FamilyRevoked s familyId)
    (stored : s.sessions.get? jti = some session) (live : session.Live) : session.familyId ≠ familyId :=
  fun family => revoked.2 jti session stored family live.2

theorem familyRevoked_step {call : RefreshCall} (revoked : FamilyRevoked s familyId)
    (step : RefreshStep s call s') : FamilyRevoked s' familyId := by
  cases step with
  | @register session fresh new _ =>
    rw [register_fresh fresh]
    refine familyRevoked_put revoked (fun own => absurd (own ▸ revoked.1) new) fun old stored => ?_
    simp [fresh] at stored
  | @rotate presentedJti family subject replacement now _ =>
    generalize result : s.rotate presentedJti family subject replacement now = answer
    have effect := result ▸ rotate_effect s presentedJti family subject replacement now
    obtain ⟨_, after⟩ := answer
    cases effect with
    | refused => exact revoked
    | reused _ _ => exact familyRevoked_revokeFamily revoked family now
    | @expired current stored live =>
      have key := s.keyed _ _ stored
      refine familyRevoked_put revoked (fun _ => by simp) fun old was => ?_
      obtain rfl : current = old := Option.some.inj (stored.symm.trans (key ▸ was))
      rfl
    | @rotated current stored own live _ same fresh =>
      have foreign := not_live_of_familyRevoked revoked stored live
      have key := s.keyed _ _ stored
      refine familyRevoked_put (familyRevoked_put revoked (fun h => absurd h foreign) fun old was => ?_)
        (fun h => absurd (own.trans (same.symm.trans h)) foreign) fun old was => ?_
      · obtain rfl : current = old := Option.some.inj (stored.symm.trans (key ▸ was))
        rfl
      · rw [get?_putSession] at was
        split at was
        next => rw [← Option.some.inj was, own, same]
        next => simp [fresh] at was

theorem rotate_step_post {presentedJti : UUID} {subject : String} {replacement : RefreshSession} {now : Int}
    (step : RefreshStep s (.rotate presentedJti familyId subject replacement now) s') :
    s' = (s.rotate presentedJti familyId subject replacement now).2 := by
  cases step
  rfl

theorem rotate_of_familyRevoked {presentedJti : UUID} {subject : String} {replacement : RefreshSession}
    {now : Int} (revoked : FamilyRevoked s familyId) :
    (s.rotate presentedJti familyId subject replacement now).1 = .reused ∨
      (s.rotate presentedJti familyId subject replacement now).1 = .invalid := by
  have effect := rotate_effect s presentedJti familyId subject replacement now
  generalize s.rotate presentedJti familyId subject replacement now = answer at effect ⊢
  obtain ⟨result, after⟩ := answer
  cases effect with
  | refused => exact .inr rfl
  | reused _ _ => exact .inl rfl
  | expired _ _ => exact .inr rfl
  | rotated stored own live _ _ _ => exact absurd own (not_live_of_familyRevoked revoked stored live)

/-- Every refresh family is a single chain with at most one live end, and a detected reuse ends it. -/
theorem refresh_family_single_chain {trace : List (Transition InMemoryRefreshSessionRepository RefreshCall)}
    (run : Exec RefreshStep .empty trace s) :
    (∀ familyId, SingleChain s familyId) ∧
    (∀ t ∈ trace, ∀ jti next, t.pre.successor jti = some next → t.post.successor jti = some next) ∧
    ∀ earlier later t presentedJti familyId subject replacement now, trace = earlier ++ t :: later →
      t.label = .rotate presentedJti familyId subject replacement now →
      (t.pre.rotate presentedJti familyId subject replacement now).1 = .reused →
      (∀ jti session, t.post.sessions.get? jti = some session → session.familyId = familyId →
        session.revokedAt ≠ none) ∧
      ∀ t' ∈ later, ∀ presentedJti' subject' replacement' now',
        t'.label = .rotate presentedJti' familyId subject' replacement' now' →
        (t'.pre.rotate presentedJti' familyId subject' replacement' now').1 = .reused ∨
          (t'.pre.rotate presentedJti' familyId subject' replacement' now').1 = .invalid := by
  refine ⟨singleChain_of_chained (chained_run run), ?_, ?_⟩
  · intro t ht jti next link
    obtain ⟨earlier, later, rfl⟩ := List.append_of_mem ht
    obtain ⟨before, step, _⟩ := run.split
    exact successor_kept (chained_run before) step link
  · rintro earlier later t presentedJti familyId subject replacement now rfl shape reused
    obtain ⟨_, step, rest⟩ := run.split
    rw [shape] at step
    have revoked : FamilyRevoked t.post familyId := by
      rw [rotate_step_post step]
      exact familyRevoked_reused reused
    refine ⟨revoked.2, fun t' ht' presentedJti' subject' replacement' now' _ => ?_⟩
    have before := (rest.invariant_transition (I := fun s => FamilyRevoked s familyId) revoked
      (fun _ _ _ => familyRevoked_step) ht').1
    exact rotate_of_familyRevoked before

/-- A session is rotated and its spent token is presented once more. -/
def reuseAfterRotation : List (Transition InMemoryRefreshSessionRepository RefreshCall) :=
  Exec.traceOf (fun s call => match call with
    | .register session => (s.register session).2
    | .rotate presentedJti familyId subject replacement now =>
      (s.rotate presentedJti familyId subject replacement now).2) .empty
    [.register ⟨1, 10, "customer:7", 1000, none, none, none⟩,
      .rotate 1 10 "customer:7" ⟨2, 10, "customer:7", 2000, none, none, none⟩ 5,
      .rotate 1 10 "customer:7" ⟨3, 10, "customer:7", 2000, none, none, none⟩ 6,
      .rotate 2 10 "customer:7" ⟨4, 10, "customer:7", 2000, none, none, none⟩ 7]

theorem refresh_family_after_reuse : ∃ s, Exec RefreshStep .empty reuseAfterRotation s ∧
    SingleChain s 10 ∧ (s.sessions.get? 2).map RefreshSession.revokedAt = some (some 6) := by
  have run : Exec RefreshStep .empty reuseAfterRotation _ :=
    (((Exec.start.next (.register rfl (by simp [HasFamily, InMemoryRefreshSessionRepository.empty])
      (by decide))).next (.rotate (by decide))).next (.rotate (by decide))).next (.rotate (by decide))
  exact ⟨_, run, (refresh_family_single_chain run).1 10, by decide +kernel⟩

end DeliveryService
