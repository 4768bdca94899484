import DeliveryService.Dict
import DeliveryService.Exec
import DeliveryService.JsonText
import DeliveryService.Uuid

namespace DeliveryService

/-- Times and durations of the cache are counted in microseconds. -/
structure CacheEntry where
  value : String
  expiresAt : Int

structure InMemoryTTLCache where
  entries : Dict String CacheEntry := .empty

namespace InMemoryTTLCache

def get (cache : InMemoryTTLCache) (now : Int) (key : String) : Option String × InMemoryTTLCache :=
  match cache.entries.get? key with
  | none => (none, cache)
  | some entry =>
    if entry.expiresAt ≤ now then (none, ⟨cache.entries.erase key⟩) else (some entry.value, cache)

def set (cache : InMemoryTTLCache) (now : Int) (key value : String) (ttl : Int) : Except Error InMemoryTTLCache :=
  if ttl ≤ 0 then .error (.valueError "cache TTL must be positive")
  else .ok ⟨cache.entries.set key ⟨value, now + ttl⟩⟩

def delete (cache : InMemoryTTLCache) (key : String) : InMemoryTTLCache := ⟨cache.entries.erase key⟩

end InMemoryTTLCache

/-- A zone within the bounds of its fields. -/
structure DeliveryZoneRead where
  id : UUID
  name : String
  version : Int
  named : 1 ≤ name.length ∧ name.length ≤ 120
  positive : 1 ≤ version
deriving DecidableEq

/-- `model_dump_json` and `model_validate_json`, which reads back what the former writes. -/
structure ZoneCodec where
  modelDumpJson : DeliveryZoneRead → String
  modelValidateJson : String → Option DeliveryZoneRead
  roundTrip : ∀ zone, modelValidateJson (modelDumpJson zone) = some zone

/-- What `__init__` accepts, with the codec of the zones. -/
structure DeliveryZoneCacheAside where
  codec : ZoneCodec
  ttl : Int := 60 * 1000000
  ttlPositive : 0 < ttl

/-- The next operation that a call of `get` awaits, or its result. -/
inductive GetStage
  | reading
  | discarding
  | loading
  | storing (zone : DeliveryZoneRead)
  | returned (zone : DeliveryZoneRead)
  | failed

/-- A call of `get`, with the zones that were invalidated before it started. -/
structure GetCall where
  zoneId : UUID
  stage : GetStage := .reading
  since : List DeliveryZoneRead

/-- The table of zones, the cache, the calls of `get`, and the zones that were committed and those that were
invalidated after their commit so far. -/
structure ZoneSystem where
  source : Dict UUID DeliveryZoneRead
  cache : InMemoryTTLCache
  calls : Dict Nat GetCall := .empty
  committed : List DeliveryZoneRead := []
  invalidated : List DeliveryZoneRead := []

inductive ZoneEvent
  | start (call : Nat) (zoneId : UUID)
  | read (call : Nat)
  | discard (call : Nat)
  | load (call : Nat)
  | store (call : Nat)
  | commit (zone : DeliveryZoneRead)
  | invalidate (zone : DeliveryZoneRead)

namespace DeliveryZoneCacheAside

variable (aside : DeliveryZoneCacheAside)

def key (zoneId : UUID) : String := "delivery:cache:v1:zone:" ++ zoneId.str

/-- How `get` goes on with what the cache has returned. -/
def afterRead : Option String → GetStage
  | none => .loading
  | some cached => match aside.codec.modelValidateJson cached with
    | some zone => .returned zone
    | none => .discarding

/-- How `get` goes on with what the source has returned. -/
def afterLoad : Option DeliveryZoneRead → GetStage
  | some zone => .storing zone
  | none => .failed

end DeliveryZoneCacheAside

namespace ZoneSystem

def moved (s : ZoneSystem) (call : Nat) (running : GetCall) (stage : GetStage) : ZoneSystem :=
  { s with calls := s.calls.set call { running with stage } }

def invalidate (s : ZoneSystem) (zone : DeliveryZoneRead) : ZoneSystem :=
  { s with
    cache := s.cache.delete (DeliveryZoneCacheAside.key zone.id)
    invalidated := s.invalidated ++ [zone] }

end ZoneSystem

open DeliveryZoneCacheAside in
/-- The steps of any number of calls of `get`, of writers that commit a higher version of a zone, and of those that
invalidate a zone that was committed: its writer, or a consumer that repeats the call. -/
inductive ZoneStep (aside : DeliveryZoneCacheAside) : ZoneSystem → ZoneEvent → ZoneSystem → Prop
  | start {s} (call : Nat) (zoneId : UUID) : s.calls.get? call = none →
      ZoneStep aside s (.start call zoneId) { s with
        calls := s.calls.set call { zoneId, since := s.invalidated } }
  | read {s call running} (now : Int) : s.calls.get? call = some running → running.stage = .reading →
      ZoneStep aside s (.read call) (ZoneSystem.moved
        { s with cache := (s.cache.get now (key running.zoneId)).2 } call running
        (aside.afterRead (s.cache.get now (key running.zoneId)).1))
  | discard {s call running} : s.calls.get? call = some running → running.stage = .discarding →
      ZoneStep aside s (.discard call)
        (ZoneSystem.moved { s with cache := s.cache.delete (key running.zoneId) } call running .loading)
  | load {s call running} : s.calls.get? call = some running → running.stage = .loading →
      ZoneStep aside s (.load call) (s.moved call running (afterLoad (s.source.get? running.zoneId)))
  | store {s call running zone cache} (now : Int) : s.calls.get? call = some running → running.stage = .storing zone →
      s.cache.set now (key running.zoneId) (aside.codec.modelDumpJson zone) aside.ttl = .ok cache →
      ZoneStep aside s (.store call) (ZoneSystem.moved { s with cache } call running (.returned zone))
  | commit {s} (zone : DeliveryZoneRead) :
      (∀ current, s.source.get? zone.id = some current → current.version < zone.version) →
      ZoneStep aside s (.commit zone) { s with
        source := s.source.set zone.id zone, committed := s.committed ++ [zone] }
  | invalidate {s} (zone : DeliveryZoneRead) : zone ∈ s.committed →
      ZoneStep aside s (.invalidate zone) (s.invalidate zone)

/-- No zone of the list is a higher version of this one. -/
def Covers (invalidated : List DeliveryZoneRead) (zoneId : UUID) (zone : DeliveryZoneRead) : Prop :=
  ∀ other ∈ invalidated, other.id = zoneId → other.version ≤ zone.version

/-- A call that writes to the cache has not loaded its zone before a higher version was committed and invalidated. -/
def WritesCurrent (s : ZoneSystem) : ZoneEvent → Prop
  | .store call => ∀ running zone, s.calls.get? call = some running → running.stage = .storing zone →
      Covers s.invalidated running.zoneId zone
  | _ => True

section

open DeliveryZoneCacheAside

variable {aside : DeliveryZoneCacheAside} {s s' : ZoneSystem} {label : ZoneEvent} {call : Nat} {running : GetCall}
  {zone : DeliveryZoneRead}

theorem key_injective : Function.Injective key :=
  fun _ _ same => UUID.str_injective ((String.append_right_inj _).mp same)

/-- The invalidated zones were committed, the source and the cache hold nothing older than they, and no call holds
anything older than those that were invalidated before it started. -/
structure Current (aside : DeliveryZoneCacheAside) (s : ZoneSystem) : Prop where
  source : ∀ zone ∈ s.committed, ∃ current, s.source.get? zone.id = some current ∧ zone.version ≤ current.version
  committed : ∀ zone ∈ s.invalidated, zone ∈ s.committed
  cached : ∀ zoneId entry zone, s.cache.entries.get? (key zoneId) = some entry →
    aside.codec.modelValidateJson entry.value = some zone → Covers s.invalidated zoneId zone
  since : ∀ call running, s.calls.get? call = some running → ∀ zone ∈ running.since, zone ∈ s.invalidated
  held : ∀ call running zone, s.calls.get? call = some running →
    running.stage = .storing zone ∨ running.stage = .returned zone → Covers running.since running.zoneId zone

theorem Covers.earlier {zones later : List DeliveryZoneRead} {zoneId : UUID} (covers : Covers later zoneId zone)
    (grown : ∀ other ∈ zones, other ∈ later) : Covers zones zoneId zone :=
  fun other mem same => covers other (grown other mem) same

/-- A call goes on, with a zone in its hands that is new enough. -/
theorem Current.moved {stage : GetStage} (current : Current aside s) (found : s.calls.get? call = some running)
    (enough : ∀ zone, stage = .storing zone ∨ stage = .returned zone → Covers s.invalidated running.zoneId zone) :
    Current aside (s.moved call running stage) where
  source := current.source
  committed := current.committed
  cached := current.cached
  since other later there := by
    simp only [ZoneSystem.moved, Dict.get?_set] at there
    split_ifs at there with same
    · obtain rfl := Option.some.inj there
      exact current.since call running found
    · exact current.since other later there
  held other later zone there holds := by
    simp only [ZoneSystem.moved, Dict.get?_set] at there
    split_ifs at there with same
    · obtain rfl := Option.some.inj there
      exact (enough zone holds).earlier (current.since call running found)
    · exact current.held other later zone there holds

/-- The cache has lost some of its entries. -/
theorem Current.evicted {cache : InMemoryTTLCache} (current : Current aside s)
    (fewer : ∀ key entry, cache.entries.get? key = some entry → s.cache.entries.get? key = some entry) :
    Current aside { s with cache } where
  source := current.source
  committed := current.committed
  cached zoneId entry zone there valid := current.cached zoneId entry zone (fewer _ _ there) valid
  since := current.since
  held := current.held

theorem get?_delete_subset (cache : InMemoryTTLCache) (dropped key : String) {entry : CacheEntry}
    (there : (cache.delete dropped).entries.get? key = some entry) : cache.entries.get? key = some entry := by
  simp only [InMemoryTTLCache.delete, Dict.get?_erase] at there
  split_ifs at there
  exact there

theorem get?_get_subset (cache : InMemoryTTLCache) (now : Int) (asked key : String) {entry : CacheEntry}
    (there : (cache.get now asked).2.entries.get? key = some entry) : cache.entries.get? key = some entry := by
  unfold InMemoryTTLCache.get at there
  split at there
  · exact there
  · split_ifs at there
    · exact get?_delete_subset cache asked key there
    · exact there

theorem get_hit {cache : InMemoryTTLCache} {now : Int} {asked text : String}
    (hit : (cache.get now asked).1 = some text) :
    ∃ entry, cache.entries.get? asked = some entry ∧ entry.value = text := by
  unfold InMemoryTTLCache.get at hit
  split at hit
  · cases hit
  · rename_i entry found
    split_ifs at hit
    exact ⟨entry, found, Option.some.inj hit⟩

/-- A hit returns what the cache holds. -/
theorem Current.afterRead (current : Current aside s) {now : Int} {zoneId : UUID}
    (holds : aside.afterRead (s.cache.get now (key zoneId)).1 = .storing zone ∨
      aside.afterRead (s.cache.get now (key zoneId)).1 = .returned zone) : Covers s.invalidated zoneId zone := by
  cases hit : (s.cache.get now (key zoneId)).1 with
  | none => simp [hit, DeliveryZoneCacheAside.afterRead] at holds
  | some text =>
    obtain ⟨entry, found, rfl⟩ := get_hit hit
    cases valid : aside.codec.modelValidateJson entry.value with
    | none => simp [hit, DeliveryZoneCacheAside.afterRead, valid] at holds
    | some cached =>
      simp only [hit, DeliveryZoneCacheAside.afterRead, valid, reduceCtorEq, GetStage.returned.injEq, false_or] at holds
      exact holds ▸ current.cached zoneId entry cached found valid

/-- The source holds nothing older than what was invalidated. -/
theorem Current.afterLoad (current : Current aside s) {zoneId : UUID}
    (holds : DeliveryZoneCacheAside.afterLoad (s.source.get? zoneId) = .storing zone ∨
      DeliveryZoneCacheAside.afterLoad (s.source.get? zoneId) = .returned zone) : Covers s.invalidated zoneId zone := by
  cases found : s.source.get? zoneId with
  | none => simp [found, DeliveryZoneCacheAside.afterLoad] at holds
  | some loaded =>
    simp only [found, DeliveryZoneCacheAside.afterLoad, GetStage.storing.injEq, reduceCtorEq, or_false] at holds
    subst holds
    rintro other mem rfl
    obtain ⟨newest, there, least⟩ := current.source other (current.committed other mem)
    obtain rfl := Option.some.inj (found.symm.trans there)
    exact least

/-- What is written to the cache is not older than what was invalidated. -/
theorem Current.stored {cache : InMemoryTTLCache} {now : Int} {zoneId : UUID} (current : Current aside s)
    (written : s.cache.set now (key zoneId) (aside.codec.modelDumpJson zone) aside.ttl = .ok cache)
    (covers : Covers s.invalidated zoneId zone) : Current aside { s with cache } where
  source := current.source
  committed := current.committed
  cached other entry cached there valid := by
    have positive : ¬ aside.ttl ≤ 0 := not_le.mpr aside.ttlPositive
    rw [InMemoryTTLCache.set, if_neg positive] at written
    obtain rfl := Except.ok.inj written
    simp only [Dict.get?_set] at there
    split_ifs at there with same
    · obtain rfl := Option.some.inj there
      obtain rfl := Option.some.inj ((aside.codec.roundTrip zone).symm.trans valid)
      rw [key_injective same]
      exact covers
    · exact current.cached other entry cached there valid
  since := current.since
  held := current.held

theorem Current.started (current : Current aside s) (zoneId : UUID) :
    Current aside { s with calls := s.calls.set call { zoneId, since := s.invalidated } } where
  source := current.source
  committed := current.committed
  cached := current.cached
  since other running there := by
    simp only [Dict.get?_set] at there
    split_ifs at there
    · obtain rfl := Option.some.inj there
      exact fun _ mem => mem
    · exact current.since other running there
  held other running zone there holds := by
    simp only [Dict.get?_set] at there
    split_ifs at there
    · obtain rfl := Option.some.inj there
      simp at holds
    · exact current.held other running zone there holds

theorem Current.commit (current : Current aside s)
    (higher : ∀ before, s.source.get? zone.id = some before → before.version < zone.version) :
    Current aside { s with source := s.source.set zone.id zone, committed := s.committed ++ [zone] } where
  source other mem := by
    simp only [Dict.get?_set]
    rcases List.mem_append.mp mem with old | new
    · obtain ⟨newest, there, least⟩ := current.source other old
      by_cases same : other.id = zone.id
      · have := higher newest (same ▸ there)
        exact ⟨zone, if_pos same, by omega⟩
      · exact ⟨newest, by rw [if_neg same, there], least⟩
    · obtain rfl := List.mem_singleton.mp new
      exact ⟨other, if_pos rfl, le_rfl⟩
  committed other mem := List.mem_append_left _ (current.committed other mem)
  cached := current.cached
  since := current.since
  held := current.held

/-- The key of the zone is gone, so that nothing older is left in the cache. -/
theorem Current.invalidate (current : Current aside s) (known : zone ∈ s.committed) :
    Current aside (s.invalidate zone) where
  source := current.source
  committed other mem := by
    rcases List.mem_append.mp mem with old | new
    · exact current.committed other old
    · exact List.mem_singleton.mp new ▸ known
  cached zoneId entry cached there valid := by
    have left := get?_delete_subset _ _ _ there
    have apart : zoneId ≠ zone.id := by
      rintro rfl
      simp [ZoneSystem.invalidate, InMemoryTTLCache.delete, Dict.get?_erase] at there
    intro other mem same
    rcases List.mem_append.mp mem with old | new
    · exact current.cached zoneId entry cached left valid other old same
    · rw [List.mem_singleton.mp new] at same
      exact absurd same.symm apart
  since other running there zone mem := List.mem_append_left _ (current.since other running there zone mem)
  held := current.held

theorem Current.step (current : Current aside s) (step : ZoneStep aside s label s')
    (writes : WritesCurrent s label) : Current aside s' := by
  cases step with
  | start call zoneId => exact current.started zoneId
  | @read call running now found =>
    have evicted := current.evicted fun other entry there =>
      get?_get_subset s.cache now (key running.zoneId) other there
    exact evicted.moved found fun zone holds => current.afterRead holds
  | @discard call running found =>
    have evicted := current.evicted fun other entry there =>
      get?_delete_subset s.cache (key running.zoneId) other there
    exact evicted.moved found fun zone holds => by simp at holds
  | load found => exact current.moved found fun zone holds => current.afterLoad holds
  | @store call running zone cache now found stage written =>
    have covers := writes running zone found stage
    refine (current.stored written covers).moved found fun other holds => ?_
    simp only [reduceCtorEq, GetStage.returned.injEq, false_or] at holds
    exact holds ▸ covers
  | commit zone higher => exact current.commit higher
  | invalidate zone known => exact current.invalidate known

theorem writesCurrent_of_held (found : s.calls.get? call = some running) (storing : running.stage = .storing zone)
    (covers : Covers s.invalidated running.zoneId zone) : WritesCurrent s (.store call) := by
  intro other loaded there holds
  obtain rfl := Option.some.inj (found.symm.trans there)
  obtain rfl := GetStage.storing.inj (storing.symm.trans holds)
  exact covers

/-- A table and a cache, before any call. -/
def ZoneSystem.initial (source : Dict UUID DeliveryZoneRead) (cache : InMemoryTTLCache) : ZoneSystem :=
  { source, cache }

variable {source : Dict UUID DeliveryZoneRead} {cache : InMemoryTTLCache}
  {trace : List (Transition ZoneSystem ZoneEvent)}

theorem current_run (run : Exec (ZoneStep aside) (.initial source cache) trace s)
    (writes : ∀ t ∈ trace, WritesCurrent t.pre t.label) : Current aside s := by
  refine run.invariant_while ?_ (fun _ _ _ current step meets => current.step step meets) writes
  constructor
  all_goals simp [ZoneSystem.initial, Covers]

/-- In every run in which no call writes to the cache a zone that it loaded before a higher version was committed and
invalidated, a call returns nothing older than what was invalidated before it started. -/
theorem invalidation_effective (run : Exec (ZoneStep aside) (.initial source cache) trace s)
    (writes : ∀ t ∈ trace, WritesCurrent t.pre t.label) (found : s.calls.get? call = some running)
    (returned : running.stage = .returned zone) : Covers running.since running.zoneId zone :=
  (current_run run writes).held call running zone found (.inr returned)

/-- After a write that does not meet the condition, the next call can return the old zone. -/
theorem stale_write_returned (run : Exec (ZoneStep aside) (.initial source cache) trace s) (other : Nat)
    (found : s.calls.get? call = some running) (storing : running.stage = .storing zone)
    (stale : ¬ Covers s.invalidated running.zoneId zone) (unused : s.calls.get? other = none) :
    ∃ trace s' later, Exec (ZoneStep aside) (.initial source cache) trace s' ∧ s'.calls.get? other = some later ∧
      later.stage = .returned zone ∧ ¬ Covers later.since later.zoneId zone := by
  have apart : other ≠ call := by
    rintro rfl
    rw [found] at unused
    cases unused
  have positive : ¬ aside.ttl ≤ 0 := not_le.mpr aside.ttlPositive
  have written : s.cache.set 0 (key running.zoneId) (aside.codec.modelDumpJson zone) aside.ttl =
      .ok ⟨s.cache.entries.set (key running.zoneId) ⟨aside.codec.modelDumpJson zone, 0 + aside.ttl⟩⟩ := by
    rw [InMemoryTTLCache.set, if_neg positive]
  have stored := run.next (.store 0 found storing written)
  have free : ((s.calls.set call { running with stage := .returned zone }).get? other) = none := by
    rw [Dict.get?_set_of_ne _ _ apart, unused]
  have started := stored.next (.start other running.zoneId free)
  have whole := started.next (.read 0 (Dict.get?_set_self ..) rfl)
  refine ⟨_, _, _, whole, Dict.get?_set_self .., ?_, stale⟩
  simp [ZoneSystem.moved, InMemoryTTLCache.get, positive, afterRead, aside.codec.roundTrip]

end

/-- The fields of a zone, in their order. -/
def DeliveryZoneRead.fields (zone : DeliveryZoneRead) : Payload :=
  [("id", .str zone.id.str), ("name", .str zone.name), ("version", .int zone.version)]

/-- A zone from the fields of an object, with the checks of its model. -/
def zoneOfFields : List (String × PyJson.Json) → Option DeliveryZoneRead
  | [(first, .str id), (second, .str name), (third, .int version)] =>
    if valid : (first = "id" ∧ second = "name" ∧ third = "version") ∧
        (1 ≤ name.length ∧ name.length ≤ 120) ∧ 1 ≤ version then
      (UUID.parse id.toList).map fun id => ⟨id, name, version, valid.2.1, valid.2.2⟩
    else none
  | _ => none

/-- Zones as compact JSON objects. -/
def compactZones : ZoneCodec where
  modelDumpJson zone := String.ofList (dumps exactFloats zone.fields)
  modelValidateJson text :=
    match PyJson.loads (reader exactFloats ⟨1, 1, text.toList.length, le_rfl⟩) text.toList with
    | .ok (.dict fields) => zoneOfFields fields
    | _ => none
  roundTrip zone := by
    have printable : ∀ field ∈ zone.fields,
        field.2.Printable ⟨1, 1, (dumps exactFloats zone.fields).length, le_rfl⟩ := by
      simp only [DeliveryZoneRead.fields, List.mem_cons, List.not_mem_nil, or_false, forall_eq_or_imp, forall_eq,
        JsonValue.Printable, true_and]
      simp [dumps, dumpsField, dumpsValue, jsonInt_signed]
      omega
    have distinct : (zone.fields.map Prod.fst).Nodup := by simp [DeliveryZoneRead.fields]
    rw [String.toList_ofList, loads_dumps (by simp [DeliveryZoneRead.fields]) printable distinct]
    simp [DeliveryZoneRead.fields, JsonValue.loaded, zoneOfFields, UUID.parse_str, zone.named, zone.positive]

/-- The zones of the service, cached for a minute. -/
def zoneQueries : DeliveryZoneCacheAside where
  codec := compactZones
  ttlPositive := by decide

def oldTown (version : Nat) : DeliveryZoneRead where
  id := 7
  name := "Old Town"
  version := version + 1
  named := by decide
  positive := by omega

def knownZones : Dict UUID DeliveryZoneRead := Dict.empty.set 7 (oldTown 0)

theorem set_zone (cache : InMemoryTTLCache) (now : Int) (zoneId : UUID) (zone : DeliveryZoneRead) :
    cache.set now (DeliveryZoneCacheAside.key zoneId) (zoneQueries.codec.modelDumpJson zone) zoneQueries.ttl =
      .ok ⟨cache.entries.set (DeliveryZoneCacheAside.key zoneId)
        ⟨zoneQueries.codec.modelDumpJson zone, now + zoneQueries.ttl⟩⟩ :=
  if_neg (by decide)

theorem oldTown_higher (current : DeliveryZoneRead) (there : knownZones.get? (oldTown 1).id = some current) :
    current.version < (oldTown 1).version := by
  obtain rfl := Option.some.inj ((Dict.get?_set_self ..).symm.trans there)
  decide

theorem read_miss {aside : DeliveryZoneCacheAside} {s : ZoneSystem} {call : Nat} {running : GetCall} (now : Int)
    (found : s.calls.get? call = some running) (reading : running.stage = .reading)
    (miss : (s.cache.get now (DeliveryZoneCacheAside.key running.zoneId)).1 = none) :
    ZoneStep aside s (.read call) (ZoneSystem.moved
      { s with cache := (s.cache.get now (DeliveryZoneCacheAside.key running.zoneId)).2 } call running .loading) := by
  have step : ZoneStep aside s (.read call) _ := .read now found reading
  rwa [miss] at step

theorem get_deleted (cache : InMemoryTTLCache) (now : Int) (key : String) :
    ((cache.delete key).get now key).1 = none := by
  simp [InMemoryTTLCache.get, InMemoryTTLCache.delete, Dict.get?_erase]

/-- A call that loads before the commit, and writes to the cache before the invalidation. -/
theorem invalidation_effective_after_write : ∃ trace s running,
    Exec (ZoneStep zoneQueries) (.initial knownZones {}) trace s ∧ s.calls.get? 1 = some running ∧
    running.since = [oldTown 1] ∧ running.stage = .returned (oldTown 1) ∧
    Covers running.since running.zoneId (oldTown 1) := by
  have first : Exec (ZoneStep zoneQueries) (.initial knownZones {}) _ _ := Exec.start.next (.start 0 7 rfl)
  have missed := first.next (.read 0 (Dict.get?_set_self ..) rfl)
  have loaded := missed.next (.load (Dict.get?_set_self ..) rfl)
  have committed := loaded.next (.commit (oldTown 1) oldTown_higher)
  have stored := committed.next (.store 0 (Dict.get?_set_self ..) rfl (set_zone ..))
  have invalidated := stored.next (.invalidate (oldTown 1) (List.mem_append_right _ (List.mem_singleton.mpr rfl)))
  have second := invalidated.next (.start 1 7 rfl)
  have reads := second.next (read_miss 0 (Dict.get?_set_self ..) rfl (get_deleted ..))
  have loads := reads.next (.load (Dict.get?_set_self ..) rfl)
  have run := loads.next (.store 0 (Dict.get?_set_self ..) rfl (set_zone ..))
  refine ⟨_, _, _, run, Dict.get?_set_self .., rfl, rfl, ?_⟩
  refine invalidation_effective run ?_ (Dict.get?_set_self ..) rfl
  simp only [List.nil_append, List.cons_append, List.forall_mem_cons]
  refine ⟨trivial, trivial, trivial, trivial, ?_, trivial, trivial, trivial, trivial, ?_, by simp⟩
  · exact writesCurrent_of_held (Dict.get?_set_self ..) rfl fun _ mem _ => (List.not_mem_nil mem).elim
  · refine writesCurrent_of_held (Dict.get?_set_self ..) rfl fun other mem _ => ?_
    exact le_of_eq (congrArg DeliveryZoneRead.version (List.mem_singleton.mp mem))

/-- A call that loads before the commit, and writes to the cache after the invalidation. -/
theorem invalidation_undone_by_slow_call : ¬ ∀ aside source cache trace s call running zone,
    Exec (ZoneStep aside) (.initial source cache) trace s → s.calls.get? call = some running →
    running.stage = .returned zone → Covers running.since running.zoneId zone := by
  intro all
  have first : Exec (ZoneStep zoneQueries) (.initial knownZones {}) _ _ := Exec.start.next (.start 0 7 rfl)
  have missed := first.next (.read 0 (Dict.get?_set_self ..) rfl)
  have loaded := missed.next (.load (Dict.get?_set_self ..) rfl)
  have committed := loaded.next (.commit (oldTown 1) oldTown_higher)
  have invalidated := committed.next (.invalidate (oldTown 1) (List.mem_append_right _ (List.mem_singleton.mpr rfl)))
  have stale : ¬ Covers [oldTown 1] 7 (oldTown 0) := by
    intro covers
    have := covers (oldTown 1) (List.mem_singleton.mpr rfl) rfl
    simp [oldTown] at this
  obtain ⟨trace, s, running, run, found, returned, old⟩ :=
    stale_write_returned invalidated 1 (Dict.get?_set_self ..) rfl stale rfl
  exact old (all _ _ _ _ _ _ _ _ run found returned)

end DeliveryService
