import DeliveryService.Dict
import DeliveryService.Exec

namespace DeliveryService

/-- A value of Redis and the millisecond at which it expires. -/
structure RedisEntry where
  value : String
  expiresAt : Nat
deriving DecidableEq

/-- The clock of Redis and its keys; an expired entry is not seen by any command. -/
structure Redis where
  now : Nat
  entries : Dict String RedisEntry

namespace Redis

/-- `GET` -/
def get (redis : Redis) (key : String) : Option String :=
  ((redis.entries.get? key).filter fun entry => redis.now < entry.expiresAt).map RedisEntry.value

/-- `SET key value NX PX ttl` -/
def setNxPx (redis : Redis) (key value : String) (ttlMs : Nat) : Bool × Redis :=
  if (redis.get key).isSome then (false, redis)
  else (true, { redis with entries := redis.entries.set key ⟨value, redis.now + ttlMs⟩ })

/-- `DEL` -/
def del (redis : Redis) (key : String) : Nat × Redis :=
  (if (redis.get key).isSome then 1 else 0, { redis with entries := redis.entries.erase key })

/-- `RELEASE_IF_OWNER` -/
def releaseIfOwner (redis : Redis) (key token : String) : Nat × Redis :=
  if redis.get key = some token then redis.del key else (0, redis)

end Redis

@[ext]
structure RedisLease where
  key : String
  token : String
deriving DecidableEq

namespace RedisLease

/-- `acquire` with the token that `secrets` gives it. -/
def acquire (redis : Redis) (key : String) (ttlMs : Int) (token : String) :
    Except String (Option RedisLease) × Redis :=
  if ttlMs ≤ 0 then (.error "lease TTL must be positive", redis)
  else
    let (acquired, redis) := redis.setNxPx key token ttlMs.toNat
    (.ok (if acquired then some ⟨key, token⟩ else none), redis)

def release (lease : RedisLease) (redis : Redis) : Bool × Redis :=
  let (deleted, redis) := redis.releaseIfOwner lease.key lease.token
  (deleted ≠ 0, redis)

end RedisLease

/-- What happens to Redis, in the order in which it executes the commands; a release may come at any time,
more than once and from any client. -/
inductive LeaseCall
  | acquire (client : Nat) (key : String) (ttlMs : Int) (token : String)
  | release (client : Nat) (lease : RedisLease)
  | elapse (ms : Nat)

/-- A lease that a client was given, with its expiry. -/
structure Grant where
  client : Nat
  lease : RedisLease
  expiresAt : Nat
deriving DecidableEq

/-- Redis, the leases given so far and those whose release returned `True`. -/
structure LeaseHistory where
  redis : Redis
  grants : List Grant
  released : List RedisLease

namespace LeaseHistory

def init (now : Nat) : LeaseHistory := ⟨⟨now, .empty⟩, [], []⟩

def after (s : LeaseHistory) : LeaseCall → LeaseHistory
  | .acquire client key ttlMs token =>
    match RedisLease.acquire s.redis key ttlMs token with
    | (.ok (some lease), redis) =>
      ⟨redis, s.grants ++ [⟨client, lease, s.redis.now + ttlMs.toNat⟩], s.released⟩
    | (_, redis) => ⟨redis, s.grants, s.released⟩
  | .release _ lease =>
    match lease.release s.redis with
    | (true, redis) => ⟨redis, s.grants, s.released ++ [lease]⟩
    | (false, redis) => ⟨redis, s.grants, s.released⟩
  | .elapse ms => { s with redis := { s.redis with now := s.redis.now + ms } }

end LeaseHistory

/-- The token that a call brings along. -/
def LeaseCall.token? : LeaseCall → Option String
  | .acquire _ _ _ token => some token
  | _ => none

/-- What holds after the calls that used the given tokens. -/
structure LeaseInvariant (tokens : List String) (s : LeaseHistory) : Prop where
  used : ∀ grant ∈ s.grants, grant.lease.token ∈ tokens
  distinct : (s.grants.map fun grant => grant.lease.token).Nodup
  owned : ∀ key entry, s.redis.entries.get? key = some entry → ∃ grant ∈ s.grants,
    grant.lease = ⟨key, entry.value⟩ ∧ grant.expiresAt = entry.expiresAt ∧ grant.lease ∉ s.released
  kept : ∀ grant ∈ s.grants, s.redis.now < grant.expiresAt → grant.lease ∉ s.released →
    s.redis.entries.get? grant.lease.key = some ⟨grant.lease.token, grant.expiresAt⟩
  past : ∀ lease ∈ s.released, lease.token ∈ tokens

section

variable {tokens : List String} {s : LeaseHistory} {redis : Redis} {lease : RedisLease}

theorem get_eq_some_iff {key token : String} : redis.get key = some token ↔
    ∃ entry, redis.entries.get? key = some entry ∧ redis.now < entry.expiresAt ∧ entry.value = token := by
  simp only [Redis.get, Option.map_eq_some_iff, Option.filter_eq_some_iff, decide_eq_true_eq]
  constructor
  · rintro ⟨entry, ⟨found, live⟩, value⟩
    exact ⟨entry, found, live, value⟩
  · rintro ⟨entry, found, live, value⟩
    exact ⟨entry, ⟨found, live⟩, value⟩

/-- The script removes the value if it is the caller's, and does nothing else. -/
theorem release_eq (lease : RedisLease) (redis : Redis) :
    lease.release redis = if redis.get lease.key = some lease.token then
      (true, { redis with entries := redis.entries.erase lease.key }) else (false, redis) := by
  unfold RedisLease.release Redis.releaseIfOwner
  split_ifs with own
  · simp [Redis.del, own]
  · rfl

theorem acquire_cases (redis : Redis) (key : String) (ttlMs : Int) (token : String) :
    (0 < ttlMs ∧ redis.get key = none ∧ RedisLease.acquire redis key ttlMs token =
      (.ok (some ⟨key, token⟩), { redis with entries := redis.entries.set key ⟨token, redis.now + ttlMs.toNat⟩ })) ∨
    ∃ answer, RedisLease.acquire redis key ttlMs token = (answer, redis) ∧ ∀ other, answer ≠ .ok (some other) := by
  unfold RedisLease.acquire Redis.setNxPx
  split_ifs with positive taken
  · exact .inr ⟨_, rfl, by simp⟩
  · exact .inr ⟨_, rfl, by simp⟩
  · exact .inl ⟨by omega, by simpa using taken, rfl⟩

theorem LeaseInvariant.more (inv : LeaseInvariant tokens s) (extra : List String) :
    LeaseInvariant (tokens ++ extra) s where
  used grant mem := List.mem_append_left _ (inv.used grant mem)
  distinct := inv.distinct
  owned := inv.owned
  kept := inv.kept
  past lease mem := List.mem_append_left _ (inv.past lease mem)

/-- A stored value that is seen is the token of a lease that was given and not released. -/
theorem LeaseInvariant.seen (inv : LeaseInvariant tokens s) {key token : String}
    (stored : s.redis.get key = some token) :
    ∃ grant ∈ s.grants, grant.lease = ⟨key, token⟩ ∧ s.redis.now < grant.expiresAt ∧ grant.lease ∉ s.released := by
  obtain ⟨entry, found, live, rfl⟩ := get_eq_some_iff.mp stored
  obtain ⟨grant, mem, lease, expires, open'⟩ := inv.owned key entry found
  exact ⟨grant, mem, lease, expires ▸ live, open'⟩

/-- Two leases with one token are one lease. -/
theorem LeaseInvariant.same_grant (inv : LeaseInvariant tokens s) {grant grant' : Grant} (mem : grant ∈ s.grants)
    (mem' : grant' ∈ s.grants) (token : grant.lease.token = grant'.lease.token) : grant = grant' :=
  List.inj_on_of_nodup_map inv.distinct mem mem' token

/-- A lease is stored exactly until it expires or its owner releases it. -/
theorem LeaseInvariant.stored_iff (inv : LeaseInvariant tokens s) {grant : Grant} (mem : grant ∈ s.grants) :
    s.redis.get grant.lease.key = some grant.lease.token ↔
      s.redis.now < grant.expiresAt ∧ grant.lease ∉ s.released := by
  constructor
  · intro stored
    obtain ⟨other, mem', lease, live, open'⟩ := inv.seen stored
    have token : other.lease.token = grant.lease.token := by rw [lease]
    obtain rfl := inv.same_grant mem' mem token
    exact ⟨live, open'⟩
  · rintro ⟨live, open'⟩
    exact get_eq_some_iff.mpr ⟨_, inv.kept grant mem live open', live, rfl⟩

theorem LeaseInvariant.acquire (inv : LeaseInvariant tokens s) (client : Nat) (key : String) (ttlMs : Int)
    {token : String} (fresh : token ∉ tokens) :
    LeaseInvariant (tokens ++ [token]) (s.after (.acquire client key ttlMs token)) := by
  rcases acquire_cases s.redis key ttlMs token with ⟨positive, free, made⟩ | ⟨answer, made, refused⟩
  · simp only [LeaseHistory.after, made]
    have unreleased : (⟨key, token⟩ : RedisLease) ∉ s.released := fun mem => fresh (inv.past _ mem)
    refine ⟨fun grant mem => ?_, ?_, fun key' entry found => ?_, fun grant mem live open' => ?_, fun lease mem => ?_⟩
    · rcases List.mem_append.mp mem with old | new
      · exact List.mem_append_left _ (inv.used grant old)
      · rw [List.mem_singleton.mp new]
        exact List.mem_append_right _ List.mem_cons_self
    · rw [List.map_append, List.map_singleton, ← List.concat_eq_append, List.nodup_concat]
      refine ⟨fun mem => ?_, inv.distinct⟩
      obtain ⟨grant, given, same⟩ := List.mem_map.mp mem
      have token : grant.lease.token = token := same
      exact fresh (token ▸ inv.used grant given)
    · rw [Dict.get?_set] at found
      split_ifs at found with here
      · obtain rfl := Option.some.inj found
        exact ⟨_, List.mem_append_right _ List.mem_cons_self, by rw [here], rfl, unreleased⟩
      · obtain ⟨grant, given, rest⟩ := inv.owned key' entry found
        exact ⟨grant, List.mem_append_left _ given, rest⟩
    · rcases List.mem_append.mp mem with old | new
      · have stored := inv.kept grant old live open'
        have other : grant.lease.key ≠ key := by
          rintro rfl
          have visible := get_eq_some_iff.mpr ⟨_, stored, live, rfl⟩
          rw [free] at visible
          simp at visible
        rw [Dict.get?_set_of_ne _ _ other]
        exact stored
      · rw [List.mem_singleton.mp new]
        exact Dict.get?_set_self ..
    · exact List.mem_append_left _ (inv.past lease mem)
  · have same : s.after (.acquire client key ttlMs token) = s := by
      simp only [LeaseHistory.after, made]
    rw [same]
    exact inv.more [token]

theorem LeaseInvariant.release (inv : LeaseInvariant tokens s) (client : Nat) (lease : RedisLease) :
    LeaseInvariant tokens (s.after (.release client lease)) := by
  by_cases own : s.redis.get lease.key = some lease.token
  · have made := release_eq lease s.redis
    rw [if_pos own] at made
    simp only [LeaseHistory.after, made]
    obtain ⟨holder, given, same, -, -⟩ := inv.seen own
    refine ⟨inv.used, inv.distinct, fun key entry found => ?_, fun grant mem live open' => ?_, fun other mem => ?_⟩
    · rw [Dict.get?_erase] at found
      split_ifs at found with here
      obtain ⟨grant, mem, shape, expires, open'⟩ := inv.owned key entry found
      refine ⟨grant, mem, shape, expires, fun taken => ?_⟩
      rcases List.mem_append.mp taken with old | new
      · exact open' old
      · have lease_eq := List.mem_singleton.mp new
        rw [shape] at lease_eq
        exact here (congrArg RedisLease.key lease_eq)
    · rw [List.mem_append, not_or] at open'
      have stored := inv.kept grant mem live open'.1
      have other : grant.lease.key ≠ lease.key := by
        intro key
        have visible := get_eq_some_iff.mpr ⟨_, stored, live, rfl⟩
        rw [key, own] at visible
        have whole : grant.lease = lease := RedisLease.ext key (Option.some.inj visible).symm
        exact open'.2 (List.mem_singleton.mpr whole)
      rw [Dict.get?_erase, if_neg other]
      exact stored
    · rcases List.mem_append.mp mem with old | new
      · exact inv.past other old
      · rw [List.mem_singleton.mp new]
        have token : holder.lease.token = lease.token := by rw [same]
        exact token ▸ inv.used holder given
  · have made := release_eq lease s.redis
    rw [if_neg own] at made
    simpa only [LeaseHistory.after, made] using inv

theorem LeaseInvariant.elapse (inv : LeaseInvariant tokens s) (ms : Nat) :
    LeaseInvariant tokens (s.after (.elapse ms)) where
  used := inv.used
  distinct := inv.distinct
  owned := inv.owned
  kept grant mem live open' := inv.kept grant mem (Nat.lt_of_le_of_lt (Nat.le_add_right _ ms) live) open'
  past := inv.past

theorem LeaseInvariant.call (inv : LeaseInvariant tokens s) (call : LeaseCall)
    (fresh : ∀ token, call.token? = some token → token ∉ tokens) :
    LeaseInvariant (tokens ++ call.token?.toList) (s.after call) := by
  cases call with
  | acquire client key ttlMs token => exact inv.acquire client key ttlMs (fresh token rfl)
  | release client lease => simpa [LeaseCall.token?] using inv.release client lease
  | elapse ms => simpa [LeaseCall.token?] using inv.elapse ms

/-- The history after some calls, from an empty Redis at any time. -/
def leaseHistory (start : Nat) (calls : List LeaseCall) : LeaseHistory :=
  calls.foldl LeaseHistory.after (.init start)

theorem leaseHistory_invariant (start : Nat) {calls : List LeaseCall}
    (distinct : (calls.filterMap LeaseCall.token?).Nodup) :
    LeaseInvariant (calls.filterMap LeaseCall.token?) (leaseHistory start calls) := by
  induction calls using List.reverseRecOn with
  | nil => exact ⟨by simp [leaseHistory, LeaseHistory.init], by simp [leaseHistory, LeaseHistory.init],
      by simp [leaseHistory, LeaseHistory.init], by simp [leaseHistory, LeaseHistory.init],
      by simp [leaseHistory, LeaseHistory.init]⟩
  | append_singleton calls call ih =>
    have shape : (calls ++ [call]).filterMap LeaseCall.token? =
        calls.filterMap LeaseCall.token? ++ call.token?.toList := by
      rw [List.filterMap_append]
      cases token : call.token? <;> simp [token]
    rw [shape, List.nodup_append] at distinct
    rw [shape, leaseHistory, List.foldl_concat]
    refine (ih distinct.1).call call fun token brought used => ?_
    exact distinct.2.2 token used token (by simp [brought]) rfl

theorem get_erase (redis : Redis) (key other : String) :
    Redis.get { redis with entries := redis.entries.erase key } other =
      if other = key then none else redis.get other := by
  unfold Redis.get
  rw [Dict.get?_erase]
  split_ifs <;> rfl

/-- A release never touches the lease of another client. -/
theorem release_keeps (redis : Redis) {lease held : RedisLease} (other : held ≠ lease) :
    (lease.release redis).2.get held.key = some held.token ↔ redis.get held.key = some held.token := by
  rw [release_eq]
  split_ifs with own
  · rw [get_erase]
    split_ifs with here
    · rw [here, own]
      simp only [Option.some.injEq, false_iff]
      intro token
      exact other (RedisLease.ext here token.symm)
    · rfl
  · rfl

/-- A lease is removed only by its owner or by time. After any calls with different tokens a lease is stored
exactly while it has not expired and was not released, no two leases of a key are so at once, and a release
returns whether its own token is stored, removes that and nothing else. -/
theorem lease_removed_by_owner_or_time (start : Nat) {calls : List LeaseCall}
    (distinct : (calls.filterMap LeaseCall.token?).Nodup) :
    let s := leaseHistory start calls
    (∀ grant ∈ s.grants, s.redis.get grant.lease.key = some grant.lease.token ↔
      s.redis.now < grant.expiresAt ∧ grant.lease ∉ s.released) ∧
    (∀ key token, s.redis.get key = some token → ∃ grant ∈ s.grants, grant.lease = ⟨key, token⟩) ∧
    (∀ grant ∈ s.grants, ∀ grant' ∈ s.grants, grant.lease.key = grant'.lease.key →
      s.redis.now < grant.expiresAt → grant.lease ∉ s.released →
      s.redis.now < grant'.expiresAt → grant'.lease ∉ s.released → grant = grant') ∧
    ∀ lease : RedisLease,
      ((lease.release s.redis).1 = true ↔ s.redis.get lease.key = some lease.token) ∧
      ((lease.release s.redis).1 = true → (lease.release s.redis).2.get lease.key = none ∧
        ∀ key ≠ lease.key, (lease.release s.redis).2.get key = s.redis.get key) ∧
      ((lease.release s.redis).1 = false → (lease.release s.redis).2 = s.redis) ∧
      (∀ grant ∈ s.grants, grant.lease = lease → grant.expiresAt ≤ s.redis.now → (lease.release s.redis).1 = false) ∧
      ∀ grant ∈ s.grants, grant.lease ≠ lease →
        ((lease.release s.redis).2.get grant.lease.key = some grant.lease.token ↔
          s.redis.get grant.lease.key = some grant.lease.token) := by
  intro s
  have inv : LeaseInvariant (calls.filterMap LeaseCall.token?) s := leaseHistory_invariant start distinct
  refine ⟨fun grant mem => inv.stored_iff mem, fun key token stored => ?_, ?_, fun lease => ?_⟩
  · obtain ⟨grant, mem, shape, -⟩ := inv.seen stored
    exact ⟨grant, mem, shape⟩
  · intro grant mem grant' mem' key live open' live' open''
    have stored := (inv.stored_iff mem).mpr ⟨live, open'⟩
    have stored' := (inv.stored_iff mem').mpr ⟨live', open''⟩
    rw [key, stored'] at stored
    exact inv.same_grant mem mem' (Option.some.inj stored).symm
  · refine ⟨?_, ?_, ?_, ?_, fun grant _ other => release_keeps s.redis other⟩
    · rw [release_eq]
      split_ifs with own <;> simp [own]
    · rw [release_eq]
      split_ifs with own
      · intro _
        refine ⟨by rw [get_erase, if_pos rfl], fun key other => by rw [get_erase, if_neg other]⟩
      · simp
    · rw [release_eq]
      split_ifs with own
      · simp
      · exact fun _ => rfl
    · rintro grant mem rfl expired
      have gone : s.redis.get grant.lease.key ≠ some grant.lease.token := by
        intro stored
        exact absurd ((inv.stored_iff mem).mp stored).1 (by omega)
      rw [release_eq, if_neg gone]

end

/-- The first lease expires, a second client takes the key, and the first releases late. -/
def handOver : List LeaseCall :=
  [.acquire 1 "warm:zone" 100 "old", .elapse 150, .acquire 2 "warm:zone" 100 "new"]

theorem late_release_keeps_new_lease :
    (RedisLease.release ⟨"warm:zone", "old"⟩ (leaseHistory 0 handOver).redis).1 = false ∧
      (RedisLease.release ⟨"warm:zone", "old"⟩ (leaseHistory 0 handOver).redis).2.get "warm:zone" = some "new" := by
  have distinct : (handOver.filterMap LeaseCall.token?).Nodup := by decide
  obtain ⟨answer, -, unchanged, -, -⟩ := (lease_removed_by_owner_or_time 0 distinct).2.2.2 ⟨"warm:zone", "old"⟩
  have stored : (leaseHistory 0 handOver).redis.get "warm:zone" = some "new" := by decide
  have refused : (RedisLease.release ⟨"warm:zone", "old"⟩ (leaseHistory 0 handOver).redis).1 = false := by
    rw [Bool.eq_false_iff, ne_eq, answer, stored]
    decide
  exact ⟨refused, by rw [unchanged refused, stored]⟩

end DeliveryService
