import Mathlib.Data.Bool.AllAny
import DeliveryService.Exec
import DeliveryService.Dict
import DeliveryService.Security

namespace DeliveryService

/-- The Argon2 hasher: a random salt goes into every hash it makes. -/
structure PasswordHasher where
  hash : (password salt : String) → String
  verify : (expected password : String) → Bool
  checkNeedsRehash : (expected : String) → Bool
  dummyPasswordHash : String

structure PasswordCheck where
  verified : Bool
  replacementHash : Option String

def checkPassword (hasher : PasswordHasher) (password expected salt : String) : PasswordCheck :=
  if hasher.verify expected password then
    ⟨true, if hasher.checkNeedsRehash expected then some (hasher.hash password salt) else none⟩
  else ⟨false, none⟩

structure InMemoryIdentityRepository where
  passwords : Dict String String
  tenants : Dict String UUID

namespace InMemoryIdentityRepository

def empty : InMemoryIdentityRepository := ⟨.empty, .empty⟩

/-- The new contents, or `none` where `add` answers `False`. -/
def add (identities : InMemoryIdentityRepository) (subject passwordHash : String)
    (tenantId : UUID) : Option InMemoryIdentityRepository :=
  if identities.passwords.contains subject then none
  else some ⟨identities.passwords.set subject passwordHash, identities.tenants.set subject tenantId⟩

def replacePasswordHash (identities : InMemoryIdentityRepository)
    (subject expected replacement : String) : InMemoryIdentityRepository :=
  if identities.passwords.get? subject = some expected then
    { identities with passwords := identities.passwords.set subject replacement }
  else identities

end InMemoryIdentityRepository

/-- The body of POST /auth/register, with the salt its hash will draw. -/
structure Registration where
  subject : String
  password : String
  salt : String

/-- `^customer:[0-9a-fA-F-]{36}$` and a password of 12 to 256 characters. -/
def Registration.valid (registration : Registration) : Bool :=
  let text := registration.subject.toList
  text.take 9 = "customer:".toList && (text.drop 9).length = 36 && (text.drop 9).all UUID.plain &&
    12 ≤ registration.password.length && registration.password.length ≤ 256

/-- The requested subject with its letters in lower case. -/
def Registration.lowerSubject (registration : Registration) : String :=
  String.ofList (registration.subject.toList.map Char.toLower)

section

variable (folding : PyText.CaseFolding) (hasher : PasswordHasher)

def registerIdentity (identities : InMemoryIdentityRepository) (registration : Registration) :
    Except HTTPException String × InMemoryIdentityRepository :=
  if registration.valid then
    match normalizeLoginSubject folding registration.subject with
    | none => (.error ⟨500, "internal_error", []⟩, identities)
    | some subject =>
      match parseSubject subject with
      | .error refused => (.error refused, identities)
      | .ok _ =>
        match identities.add subject (hasher.hash registration.password registration.salt)
            defaultTenantId with
        | none => (.error ⟨409, "identity already exists", []⟩, identities)
        | some stored => (.ok subject, stored)
  else (.error ⟨422, "request_invalid", []⟩, identities)

/-- `password_hash or DUMMY_PASSWORD_HASH` -/
def orDummy : Option String → String
  | some expected => if expected = "" then hasher.dummyPasswordHash else expected
  | none => hasher.dummyPasswordHash

/-- The part of `issue_token` behind a verified password, with the claims of the access token. -/
def issueVerified (identities : InMemoryIdentityRepository) (subject expected : String)
    (check : PasswordCheck) : Except HTTPException AccessClaims × InMemoryIdentityRepository :=
  let identities := match check.replacementHash with
    | some replacement => identities.replacePasswordHash subject expected replacement
    | none => identities
  match parseSubject subject with
  | .error refused => (.error refused, identities)
  | .ok _ =>
    match identities.tenants.get? subject with
    | none => (.error ⟨401, "invalid credentials", []⟩, identities)
    | some tenantId => (.ok ⟨subject, tenantId.str⟩, identities)

/-- The credential check of `issue_token` for a request that its rate limit has let pass. -/
def issueToken (identities : InMemoryIdentityRepository) (username password salt : String) :
    Except HTTPException AccessClaims × InMemoryIdentityRepository :=
  let subject := (normalizeLoginSubject folding username).getD "invalid-subject"
  let passwordHash := identities.passwords.get? subject
  let boundedPassword := if password.length ≤ 1024 then password else "invalid-password"
  let check := checkPassword hasher boundedPassword (orDummy hasher passwordHash) salt
  match passwordHash with
  | none => (.error ⟨401, "invalid credentials", []⟩, identities)
  | some expected =>
    if ¬ check.verified ∨ 1024 < password.length then
      (.error ⟨401, "invalid credentials", []⟩, identities)
    else issueVerified identities subject expected check

/-- The actor a client acts as after logging in. -/
def loginActor (identities : InMemoryIdentityRepository) (username password salt : String) :
    Except HTTPException Actor := do
  let claims ← (issueToken folding hasher identities username password salt).1
  actorFromClaims claims

def RegisterStep (s : InMemoryIdentityRepository) (registration : Registration)
    (s' : InMemoryIdentityRepository) : Prop :=
  s' = (registerIdentity folding hasher s registration).2

/-- Different stored subjects authorize as different users, also through a login. -/
structure DistinctActors (identities : InMemoryIdentityRepository) : Prop where
  parsed : ∀ first ∈ identities.passwords.keys, ∀ second ∈ identities.passwords.keys,
    first ≠ second → parseSubject first ≠ parseSubject second
  login : ∀ username password salt actor,
    loginActor folding hasher identities username password salt = .ok actor →
    ∀ other ∈ identities.passwords.keys, normalizeLoginSubject folding username ≠ some other →
    ∀ role userId, parseSubject other = .ok (role, userId) → actor.userId ≠ userId

/-- A stored identity has the digits of the requested subject, letter case aside, with its hyphens
in other places. -/
def Respells (identities : InMemoryIdentityRepository) (registration : Registration) : Prop :=
  registration.valid = true ∧ ∃ stored ∈ identities.passwords.keys,
    stored ≠ registration.lowerSubject ∧
    stored.toList.filter (· ≠ '-') = registration.lowerSubject.toList.filter (· ≠ '-')

end

theorem plain_ascii {c : Char} (h : UUID.plain c = true) : c.toNat < 128 := by
  by_contra hc
  have hv : UUID.hexValue c = none := by
    unfold UUID.hexValue
    split_ifs <;> first | omega | rfl
  have hd : c ≠ '-' := by
    rintro rfl
    exact hc (by decide)
  simp [UUID.plain, hv, hd] at h

theorem plain_toLower {c : Char} (h : UUID.plain c = true) :
    UUID.plain c.toLower = true ∧ ¬ (65 ≤ c.toLower.toNat ∧ c.toLower.toNat ≤ 70) ∧
      PyText.isSpace c = false ∧ 32 ≤ c.toLower.toNat ∧ c.toLower.toNat ≠ 127 := by
  have table : ∀ n < 128, UUID.plain (Char.ofNat n) = true →
      UUID.plain (Char.ofNat n).toLower = true ∧
      ¬ (65 ≤ (Char.ofNat n).toLower.toNat ∧ (Char.ofNat n).toLower.toNat ≤ 70) ∧
      PyText.isSpace (Char.ofNat n) = false ∧ 32 ≤ (Char.ofNat n).toLower.toNat ∧
      (Char.ofNat n).toLower.toNat ≠ 127 := by decide
  have entry := table c.toNat (plain_ascii h)
  rw [Char.ofNat_toNat] at entry
  exact entry h

theorem Registration.valid_subject {registration : Registration} (h : registration.valid = true) :
    ∃ raw, registration.subject.toList = "customer:".toList ++ raw ∧ raw.length = 36 ∧
      ∀ c ∈ raw, UUID.plain c = true := by
  simp only [Registration.valid, Bool.and_eq_true, decide_eq_true_eq, List.all_eq_true] at h
  refine ⟨registration.subject.toList.drop 9, ?_, h.1.1.1.2, h.1.1.2⟩
  rw [← h.1.1.1.1, List.take_append_drop]

theorem normalizeLoginSubject_valid (folding : PyText.CaseFolding) {registration : Registration}
    (h : registration.valid = true) : normalizeLoginSubject folding registration.subject =
      some registration.lowerSubject := by
  obtain ⟨raw, hs, size, hp⟩ := Registration.valid_subject h
  have role : ∀ c ∈ "customer:".toList, c.toNat < 128 ∧ PyText.isSpace c = false ∧
      32 ≤ c.toLower.toNat ∧ c.toLower.toNat ≠ 127 := List.all_iff_forall_prop.mp (by decide)
  have each : ∀ c ∈ registration.subject.toList, c.toNat < 128 ∧ PyText.isSpace c = false ∧
      32 ≤ c.toLower.toNat ∧ c.toLower.toNat ≠ 127 := by
    intro c hc
    rw [hs] at hc
    rcases List.mem_append.mp hc with hm | hm
    · exact role c hm
    · have := plain_toLower (hp c hm)
      exact ⟨plain_ascii (hp c hm), this.2.2⟩
  have stripped := PyText.strip_of_forall_not (fun c hc => (each c hc).2.1)
  have folded := folding.casefold_ascii (fun c hc => (each c hc).1)
  have total : registration.subject.toList.length = 45 := by simp [hs, size]
  have printable : (registration.subject.toList.map Char.toLower).any
      (fun c => c.toNat < 32 || c.toNat = 127) = false := by
    simp only [List.any_map, List.any_eq_false, Function.comp_apply, Bool.or_eq_true,
      decide_eq_true_eq, not_or]
    intro c hc
    have := (each c hc).2.2
    omega
  simp only [normalizeLoginSubject, stripped, folded, List.length_map, total, printable]
  simp [Registration.lowerSubject]

/-- The shape of every stored subject: a lower-case plain spelling that parses. -/
def Registered (subject : String) (userId : UUID) : Prop :=
  ∃ raw, subject.toList = "customer:".toList ++ raw ∧ (∀ c ∈ raw, UUID.plain c = true) ∧
    (∀ c ∈ raw, ¬ (65 ≤ c.toNat ∧ c.toNat ≤ 70)) ∧ UUID.parse raw = some userId

theorem parseSubject_customer {subject : String} {raw : List Char}
    (h : subject.toList = "customer:".toList ++ raw) :
    parseSubject subject = match UUID.parse raw with
      | some userId => .ok ("customer", userId)
      | none => .error invalidSubject := by
  have shape : subject.toList = "customer".toList ++ ':' :: raw := by rw [h]; rfl
  have parts : PyText.partition ':' ("customer".toList ++ ':' :: raw) = ("customer".toList, some raw) :=
    PyText.partition_append (by decide)
  simp only [parseSubject, shape, parts, String.ofList_toList]
  cases UUID.parse raw <;> simp

theorem Registered.parseSubject {subject : String} {userId : UUID} (h : Registered subject userId) :
    parseSubject subject = .ok ("customer", userId) := by
  obtain ⟨raw, hs, _, _, hu⟩ := h
  rw [parseSubject_customer hs, hu]

theorem Registered.same_user_iff {first second : String} {a b : UUID}
    (ha : Registered first a) (hb : Registered second b) :
    a = b ↔ first.toList.filter (· ≠ '-') = second.toList.filter (· ≠ '-') := by
  obtain ⟨rawA, sa, plainA, lowerA, parseA⟩ := ha
  obtain ⟨rawB, sb, plainB, lowerB, parseB⟩ := hb
  rw [sa, sb, List.filter_append, List.filter_append, List.append_cancel_left_eq]
  constructor
  · rintro rfl
    refine UUID.digits_eq_of_parse_eq plainA plainB ?_ parseA parseB
    rintro c (hc | hc)
    · exact lowerA c hc
    · exact lowerB c hc
  · intro he
    have := UUID.parse_congr_digits plainA plainB he
    rw [parseA, parseB] at this
    exact Option.some.inj this

theorem lowerSubject_toList {registration : Registration} {raw : List Char}
    (hs : registration.subject.toList = "customer:".toList ++ raw) :
    registration.lowerSubject.toList = "customer:".toList ++ raw.map Char.toLower := by
  rw [Registration.lowerSubject, String.toList_ofList, hs, List.map_append]
  exact congrArg (· ++ raw.map Char.toLower) (by decide)

theorem lowerSubject_registered {registration : Registration} {raw : List Char} {userId : UUID}
    (hs : registration.subject.toList = "customer:".toList ++ raw)
    (hp : ∀ c ∈ raw, UUID.plain c = true) (hu : UUID.parse (raw.map Char.toLower) = some userId) :
    Registered registration.lowerSubject userId := by
  refine ⟨raw.map Char.toLower, lowerSubject_toList hs, ?_, ?_, hu⟩
  · intro c hc
    obtain ⟨d, hd, rfl⟩ := List.mem_map.mp hc
    exact (plain_toLower (hp d hd)).1
  · intro c hc
    obtain ⟨d, hd, rfl⟩ := List.mem_map.mp hc
    exact (plain_toLower (hp d hd)).2.1

section

variable {folding : PyText.CaseFolding} {hasher : PasswordHasher}
  {s s' : InMemoryIdentityRepository} {registration : Registration}

/-- Everything one registration can do: be refused for its form, for digits that are no UUID or for
a subject that is stored, or store its lower-case subject. -/
theorem registerStep_cases (h : RegisterStep folding hasher s registration s') :
    (registration.valid = false ∧ s' = s) ∨
    (registration.valid = true ∧ s' = s ∧ ∀ userId,
      ¬ Registered registration.lowerSubject userId) ∨
    (registration.valid = true ∧ s' = s ∧
      registration.lowerSubject ∈ s.passwords.keys) ∨
    (registration.valid = true ∧
      registration.lowerSubject ∉ s.passwords.keys ∧
      (∃ userId, Registered registration.lowerSubject userId) ∧
      ∃ hash, s'.passwords =
        s.passwords.set registration.lowerSubject hash) := by
  obtain rfl := h
  cases hv : registration.valid with
  | false => exact Or.inl ⟨rfl, by simp [registerIdentity, hv]⟩
  | true =>
    obtain ⟨raw, hs, _, hp⟩ := Registration.valid_subject hv
    have shape := lowerSubject_toList hs
    simp only [registerIdentity, hv, ↓reduceIte, normalizeLoginSubject_valid folding hv,
      parseSubject_customer shape]
    cases hu : UUID.parse (raw.map Char.toLower) with
    | none =>
      refine Or.inr (Or.inl ⟨trivial, rfl, ?_⟩)
      rintro userId hr
      have parsed := hr.parseSubject
      rw [parseSubject_customer shape, hu] at parsed
      simp at parsed
    | some userId =>
      have registered := lowerSubject_registered hs hp hu
      simp only [InMemoryIdentityRepository.add]
      split
      next taken =>
        split at taken
        next present =>
          refine Or.inr (Or.inr (Or.inl ⟨trivial, rfl, Dict.mem_keys_iff.mpr ?_⟩))
          exact Option.isSome_iff_exists.mp present
        next => simp at taken
      next stored taken =>
        split at taken
        next => simp at taken
        next absent =>
          obtain rfl := Option.some.inj taken
          refine Or.inr (Or.inr (Or.inr ⟨trivial, ?_, ⟨userId, registered⟩, _, rfl⟩))
          intro present
          obtain ⟨hash, hash_eq⟩ := Dict.mem_keys_iff.mp present
          simp [Dict.contains, hash_eq] at absent

theorem issueVerified_ok {subject expected : String} {check : PasswordCheck} {claims : AccessClaims}
    (h : (issueVerified s subject expected check).1 = .ok claims) : claims.sub = subject := by
  unfold issueVerified at h
  generalize (match check.replacementHash with
    | some replacement => s.replacePasswordHash subject expected replacement
    | none => s) = current at h
  simp only at h
  split at h
  next => simp at h
  next =>
    split at h
    next => simp at h
    next => rw [← Except.ok.inj h]

theorem issueToken_ok {username password salt : String} {claims : AccessClaims}
    (h : (issueToken folding hasher s username password salt).1 = .ok claims) :
    claims.sub = (normalizeLoginSubject folding username).getD "invalid-subject" ∧
      claims.sub ∈ s.passwords.keys := by
  unfold issueToken at h
  generalize (normalizeLoginSubject folding username).getD "invalid-subject" = subject at h ⊢
  generalize (if password.length ≤ 1024 then password else "invalid-password") = bounded at h
  simp only at h
  split at h
  next => simp at h
  next expected stored =>
    have present := Dict.mem_keys_iff.mpr ⟨expected, stored⟩
    split at h
    next => simp at h
    next =>
      have sub := issueVerified_ok h
      exact ⟨sub, sub ▸ present⟩

theorem actorFromClaims_ok {claims : AccessClaims} {actor : Actor}
    (h : actorFromClaims claims = .ok actor) :
    ∃ role, parseSubject claims.sub = .ok (role, actor.userId) := by
  simp only [actorFromClaims] at h
  cases hp : parseSubject claims.sub with
  | error refused => simp [hp, bind, Except.bind] at h
  | ok pair =>
    simp only [hp, bind, Except.bind] at h
    split at h
    next =>
      obtain rfl := Except.ok.inj h
      exact ⟨pair.1, rfl⟩
    next => simp [throw, throwThe, MonadExceptOf.throw] at h

theorem loginActor_subject {username password salt : String} {actor : Actor}
    (h : loginActor folding hasher s username password salt = .ok actor) :
    ∃ subject role, normalizeLoginSubject folding username = some subject ∧
      subject ∈ s.passwords.keys ∧ parseSubject subject = .ok (role, actor.userId) := by
  simp only [loginActor] at h
  cases hi : (issueToken folding hasher s username password salt).1 with
  | error refused => simp [hi, bind, Except.bind] at h
  | ok claims =>
    simp only [hi, bind, Except.bind] at h
    obtain ⟨sub, present⟩ := issueToken_ok hi
    obtain ⟨role, parsed⟩ := actorFromClaims_ok h
    cases hn : normalizeLoginSubject folding username with
    | none =>
      have refused : parseSubject "invalid-subject" = .error invalidSubject := by decide
      rw [hn, Option.getD_none] at sub
      rw [sub, refused] at parsed
      simp at parsed
    | some subject =>
      rw [hn, Option.getD_some] at sub
      exact ⟨subject, role, rfl, sub ▸ present, sub ▸ parsed⟩

/-- Every stored subject is a registered spelling. -/
def AllRegistered (identities : InMemoryIdentityRepository) : Prop :=
  ∀ subject ∈ identities.passwords.keys, ∃ userId, Registered subject userId

theorem mem_keys_set {d : Dict String String} {k k' v : String} :
    k' ∈ (d.set k v).keys ↔ k' = k ∨ k' ∈ d.keys := by
  simp only [Dict.mem_keys_iff, Dict.get?_set]
  by_cases h : k' = k <;> simp [h]

/-- A subject that is valid, parsed and not stored yet is stored. -/
theorem keys_registered {who : String × UUID} (valid : registration.valid = true)
    (parsed : parseSubject registration.lowerSubject = .ok who)
    (absent : s.passwords.get? registration.lowerSubject = none) {subject : String} :
    subject ∈ (registerIdentity folding hasher s registration).2.passwords.keys ↔
      subject = registration.lowerSubject ∨ subject ∈ s.passwords.keys := by
  have added : s.passwords.contains registration.lowerSubject = false := by simp [Dict.contains, absent]
  simp only [registerIdentity, valid, if_true, normalizeLoginSubject_valid folding valid, parsed,
    InMemoryIdentityRepository.add, added, Bool.false_eq_true, if_false]
  exact mem_keys_set

theorem registerStep_registered (old : AllRegistered s)
    (h : RegisterStep folding hasher s registration s') : AllRegistered s' := by
  obtain ⟨_, rfl⟩ | ⟨_, rfl, _⟩ | ⟨_, rfl, _⟩ | ⟨_, _, new, hash, stored⟩ := registerStep_cases h
  · exact old
  · exact old
  · exact old
  · intro subject hm
    rw [stored] at hm
    rcases mem_keys_set.mp hm with rfl | hm
    · exact new
    · exact old subject hm

/-- Over registered subjects, acting as different users only depends on how the subjects parse. -/
theorem distinctActors_iff (registered : AllRegistered s) :
    DistinctActors folding hasher s ↔ ∀ first ∈ s.passwords.keys, ∀ second ∈ s.passwords.keys,
      first.toList.filter (· ≠ '-') = second.toList.filter (· ≠ '-') → first = second := by
  constructor
  · intro distinct first hf second hs same
    obtain ⟨a, ha⟩ := registered first hf
    obtain ⟨b, hb⟩ := registered second hs
    by_contra different
    apply distinct.parsed first hf second hs different
    rw [ha.parseSubject, hb.parseSubject, (ha.same_user_iff hb).mpr same]
  · intro unique
    refine ⟨?_, ?_⟩
    · intro first hf second hs different parsed
      obtain ⟨a, ha⟩ := registered first hf
      obtain ⟨b, hb⟩ := registered second hs
      rw [ha.parseSubject, hb.parseSubject] at parsed
      have user : a = b := (Prod.mk.inj (Except.ok.inj parsed)).2
      exact different (unique first hf second hs ((ha.same_user_iff hb).mp user))
    · intro username password salt actor login other ho distinct role userId parsed same
      obtain ⟨subject, role', hn, hs, actual⟩ := loginActor_subject login
      obtain ⟨a, ha⟩ := registered subject hs
      obtain ⟨b, hb⟩ := registered other ho
      rw [ha.parseSubject] at actual
      rw [hb.parseSubject] at parsed
      have userA : a = actor.userId := (Prod.mk.inj (Except.ok.inj actual)).2
      have userB : b = userId := (Prod.mk.inj (Except.ok.inj parsed)).2
      have equal := unique subject hs other ho ((ha.same_user_iff hb).mp (by rw [userA, userB, same]))
      exact distinct (by rw [hn, equal])

/-- A registration leaves the actors distinct exactly when it respells no stored identity. -/
theorem registerStep_distinct_iff (registered : AllRegistered s)
    (distinct : DistinctActors folding hasher s) (h : RegisterStep folding hasher s registration s') :
    DistinctActors folding hasher s' ↔ ¬ Respells s registration := by
  have unique := (distinctActors_iff registered).mp distinct
  rw [distinctActors_iff (registerStep_registered registered h)]
  obtain ⟨hv, rfl⟩ | ⟨_, rfl, unparsed⟩ | ⟨_, rfl, present⟩ | ⟨hv, absent, new, hash, stored⟩ :=
    registerStep_cases h
  · simp only [Respells, hv, Bool.false_eq_true, false_and, not_false_eq_true, iff_true]
    exact unique
  · refine iff_of_true unique ?_
    rintro ⟨hv, stored, hm, _, same⟩
    -- the stored spelling parses, so the requested one with the same digits would too
    obtain ⟨userId, hr⟩ := registered stored hm
    obtain ⟨raw, hs, _, hp⟩ := Registration.valid_subject hv
    obtain ⟨rawS, ss, plainS, _, parseS⟩ := hr
    rw [ss, lowerSubject_toList hs, List.filter_append, List.filter_append,
      List.append_cancel_left_eq] at same
    have plainR : ∀ c ∈ raw.map Char.toLower, UUID.plain c = true := by
      intro c hc
      obtain ⟨d, hd, rfl⟩ := List.mem_map.mp hc
      exact (plain_toLower (hp d hd)).1
    have parsed := (UUID.parse_congr_digits plainS plainR same).symm.trans parseS
    exact unparsed userId (lowerSubject_registered hs hp parsed)
  · refine iff_of_true unique ?_
    rintro ⟨_, stored, hm, different, same⟩
    exact different (unique stored hm _ present same)
  · constructor
    · rintro all ⟨_, old, hm, different, same⟩
      refine different (all old ?_ _ ?_ same)
      · exact stored ▸ mem_keys_set.mpr (Or.inr hm)
      · exact stored ▸ mem_keys_set.mpr (Or.inl rfl)
    · intro fresh first hf second hs same
      rw [stored] at hf hs
      rcases mem_keys_set.mp hf with rfl | hf <;> rcases mem_keys_set.mp hs with rfl | hs
      · rfl
      · by_contra different
        exact fresh ⟨hv, second, hs, fun e => different e.symm, same.symm⟩
      · by_contra different
        exact fresh ⟨hv, first, hf, different, same⟩
      · exact unique first hf second hs same

/-- Over a whole run of registrations, no two identities share an actor exactly when no request
respells an identity that is stored at that moment. -/
theorem distinct_actors_iff_no_respelling {trace : List (Transition InMemoryIdentityRepository Registration)}
    (run : Exec (RegisterStep folding hasher) .empty trace s) :
    (∀ t ∈ trace, DistinctActors folding hasher t.post) ↔ ∀ t ∈ trace, ¬ Respells t.pre t.label := by
  have nobody : AllRegistered .empty := fun subject hm => by
    simp [Dict.mem_keys_iff, InMemoryIdentityRepository.empty] at hm
  refine run.good_iff_steps AllRegistered (DistinctActors folding hasher) (fun s request => ¬ Respells s request)
    nobody ?_ (fun _ _ _ => registerStep_registered) (fun _ _ _ => registerStep_distinct_iff)
  refine (distinctActors_iff nobody).mpr ?_
  intro first hf
  simp [Dict.mem_keys_iff, InMemoryIdentityRepository.empty] at hf

end

/-- A hasher that keeps salt and password in clear, for runs on fixed inputs. -/
def clearHasher : PasswordHasher :=
  ⟨fun password salt => salt ++ "$" ++ password, fun expected password => expected.endsWith password,
    fun _ => false, ""⟩

def canonicalRegistration : Registration :=
  ⟨"customer:00000000-0000-0000-0000-00000000000A", "correct horse battery", "a"⟩

/-- The same digits with the first hyphen one place further left. -/
def respelledRegistration : Registration :=
  ⟨"customer:0000000-00000-0000-0000-00000000000a", "attacker password", "b"⟩

/-- Another customer. -/
def secondRegistration : Registration :=
  ⟨"customer:00000000-0000-0000-0000-00000000000b", "another password", "b"⟩

/-- The identities after the first of these registrations. -/
def firstIdentity : InMemoryIdentityRepository :=
  (registerIdentity PyText.asciiFolding clearHasher .empty canonicalRegistration).2

theorem keys_firstIdentity {subject : String} :
    subject ∈ firstIdentity.passwords.keys ↔ subject = "customer:00000000-0000-0000-0000-00000000000a" := by
  have valid : canonicalRegistration.valid = true := by decide +kernel
  have lower : canonicalRegistration.lowerSubject = "customer:00000000-0000-0000-0000-00000000000a" := by
    decide +kernel
  have parsed : parseSubject canonicalRegistration.lowerSubject = .ok ("customer", 10) := by
    rw [lower]
    decide +kernel
  have nobody : subject ∉ InMemoryIdentityRepository.empty.passwords.keys := by
    simp [Dict.mem_keys_iff, InMemoryIdentityRepository.empty]
  rw [firstIdentity, keys_registered valid parsed rfl, lower, or_iff_left nobody]

/-- A further registration of another subject. -/
theorem keys_further {registration : Registration} {text subject : String} {who : String × UUID}
    (valid : registration.valid = true) (lower : registration.lowerSubject = text)
    (parsed : parseSubject text = .ok who) (other : text ≠ "customer:00000000-0000-0000-0000-00000000000a") :
    subject ∈ (registerIdentity PyText.asciiFolding clearHasher firstIdentity registration).2.passwords.keys ↔
      subject = text ∨ subject = "customer:00000000-0000-0000-0000-00000000000a" := by
  have absent : firstIdentity.passwords.get? registration.lowerSubject = none := by
    rw [ne_eq, ← keys_firstIdentity, Dict.mem_keys_iff, ← lower] at other
    exact Option.eq_none_iff_forall_ne_some.mpr (not_exists.mp other)
  rw [keys_registered valid (lower ▸ parsed) absent, keys_firstIdentity, lower]

/-- The identities after both. -/
def twoIdentities : InMemoryIdentityRepository :=
  (registerIdentity PyText.asciiFolding clearHasher firstIdentity secondRegistration).2

theorem lowerSubject_second : secondRegistration.lowerSubject = "customer:00000000-0000-0000-0000-00000000000b" := by
  decide +kernel

theorem parseSubject_second :
    parseSubject "customer:00000000-0000-0000-0000-00000000000b" = .ok ("customer", 11) := by
  decide +kernel

theorem distinct_actors_after_two_registrations :
    (∀ subject, subject ∈ twoIdentities.passwords.keys ↔
      subject = "customer:00000000-0000-0000-0000-00000000000b" ∨
        subject = "customer:00000000-0000-0000-0000-00000000000a") ∧
    DistinctActors PyText.asciiFolding clearHasher twoIdentities := by
  have first : RegisterStep PyText.asciiFolding clearHasher .empty canonicalRegistration firstIdentity := rfl
  have second : RegisterStep PyText.asciiFolding clearHasher firstIdentity secondRegistration twoIdentities := rfl
  have digits : "customer:00000000-0000-0000-0000-00000000000a".toList.filter (· ≠ '-') ≠
      "customer:00000000-0000-0000-0000-00000000000b".toList.filter (· ≠ '-') := by decide +kernel
  have all := (distinct_actors_iff_no_respelling ((Exec.start.next first).next second)).mpr (by
    simp only [List.nil_append, List.singleton_append, List.mem_cons, List.not_mem_nil, or_false, forall_eq_or_imp,
      forall_eq]
    constructor
    · rintro ⟨_, stored, hm, _⟩
      simp [Dict.mem_keys_iff, InMemoryIdentityRepository.empty] at hm
    · rintro ⟨_, stored, hm, _, same⟩
      rw [keys_firstIdentity.mp hm, lowerSubject_second] at same
      exact digits same)
  have distinct := all _ (List.mem_append_right _ (List.mem_singleton_self _))
  dsimp only at distinct
  refine ⟨fun subject => ?_, distinct⟩
  rw [twoIdentities]
  exact keys_further (by decide +kernel) lowerSubject_second parseSubject_second (by decide +kernel)

theorem two_spellings_share_an_actor :
    ¬ ∀ (folding : PyText.CaseFolding) (hasher : PasswordHasher) trace s,
      Exec (RegisterStep folding hasher) .empty trace s → DistinctActors folding hasher s := by
  intro all
  have first : RegisterStep PyText.asciiFolding clearHasher .empty canonicalRegistration firstIdentity := rfl
  have second : RegisterStep PyText.asciiFolding clearHasher firstIdentity respelledRegistration
      (registerIdentity PyText.asciiFolding clearHasher firstIdentity respelledRegistration).2 := rfl
  have distinct := all PyText.asciiFolding clearHasher _ _ ((Exec.start.next first).next second)
  have lower : respelledRegistration.lowerSubject = "customer:0000000-00000-0000-0000-00000000000a" := by decide +kernel
  have parsed : parseSubject "customer:0000000-00000-0000-0000-00000000000a" = .ok ("customer", 10) := by
    decide +kernel
  have other : "customer:0000000-00000-0000-0000-00000000000a" ≠ "customer:00000000-0000-0000-0000-00000000000a" := by
    decide +kernel
  have valid : respelledRegistration.valid = true := by decide +kernel
  have stored := (keys_further valid lower parsed other).mpr (.inr rfl)
  have added := (keys_further valid lower parsed other).mpr (.inl rfl)
  apply distinct.parsed _ stored _ added other.symm
  rw [parsed]
  decide +kernel

end DeliveryService
