import DeliveryService.Digests
import DeliveryService.RateLimit
import DeliveryService.Uuid

namespace DeliveryService

/-- The nearest integer to a quotient, the even one of two. -/
def roundHalfEven (n d : Nat) : Nat :=
  if 2 * (n % d) < d ∨ 2 * (n % d) = d ∧ n / d % 2 = 0 then n / d else n / d + 1

/-- `int(delta.total_seconds())` for a duration in microseconds. The seconds are a double, the quotient
rounded to 53 significant bits. -/
def wholeSeconds (microseconds : Nat) : Nat :=
  let scale := 2 ^ (52 - Nat.log2 (microseconds / 1000000))
  roundHalfEven (microseconds * scale) 1000000 / scale

/-- 1970-01-01 -/
def epoch : Int := 719162 * microsecondsPerDay

/-- `int(moment.timestamp())`, which truncates towards zero. -/
def Moment.timestamp (t : Moment) : Int :=
  if epoch ≤ t.1 then wholeSeconds (t.1 - epoch).toNat else -wholeSeconds (epoch - t.1).toNat

/-- `[0-9a-f-]{36}` and the other parts of `PROOF_KEY`. -/
def proofKey : PyRegex.Pattern :=
  PyRegex.literal "proofs/" * PyRegex.oneOf ('-' :: PyRegex.lowerHex) ^ 36 * PyRegex.literal "/" *
    PyRegex.oneOf ('-' :: PyRegex.lowerHex) ^ 36 * PyRegex.literal "/" * PyRegex.oneOf PyRegex.lowerHex ^ 64 *
    PyRegex.literal "." * (PyRegex.literal "png" + PyRegex.literal "jpg")

/-- A byte of `quote_plus`. -/
def quotePlusByte (b : UInt8) : List Char :=
  let c := Char.ofNat b.toNat
  if b.toNat < 128 ∧ (c.isAlphanum ∨ c ∈ "_.-~".toList) then [c]
  else if c = ' ' then ['+']
  else ['%', (Nat.digitChar (b.toNat / 16)).toUpper, (Nat.digitChar (b.toNat % 16)).toUpper]

def quotePlus (text : String) : String := String.ofList ((encodeUtf8 text).flatMap quotePlusByte)

inductive ProofLinkError
  | valueError (message : String)
  | invalidProofLink (message : String)
  | typeError
  | overflowError
deriving DecidableEq, Repr

structure SignedProofLink where
  url : String
  expiresAt : Moment
deriving DecidableEq

/-- A signer that the constructor accepted. -/
structure ProofLinkSigner where
  secret : Bytes
  maxTtlSeconds : Int
  basePath : String
  long : 32 ≤ secret.length
  bounded : 1 ≤ maxTtlSeconds ∧ maxTtlSeconds ≤ 3600

namespace ProofLinkSigner

/-- `ProofLinkSigner.__init__` -/
def init (secret : String) (maxTtlSeconds : Int) (basePath : String) : Except ProofLinkError ProofLinkSigner :=
  if long : ¬ 32 ≤ (encodeUtf8 secret).length then
    .error (.valueError "proof link secret must contain at least 32 bytes")
  else if bounded : ¬ (1 ≤ maxTtlSeconds ∧ maxTtlSeconds ≤ 3600) then
    .error (.valueError "proof link max TTL must be between 1 and 3600 seconds")
  else .ok ⟨encodeUtf8 secret, maxTtlSeconds, basePath, not_not.mp long, not_not.mp bounded⟩

def message (operation key : String) (expires : Int) : Bytes :=
  encodeUtf8 ("delivery.proof.v1\n" ++ operation ++ "\n" ++ key ++ "\n" ++ toString expires)

def sign (sha : Sha256) (signer : ProofLinkSigner) (key : String) (expires : Int) : String :=
  sha.hmacHexdigest signer.secret (message "GET" key expires)

/-- The address of a link, with `urlencode` of its three parameters. -/
def url (signer : ProofLinkSigner) (key : String) (expires : Int) (signature : String) : String :=
  signer.basePath ++ "?key=" ++ quotePlus key ++ "&expires=" ++ quotePlus (toString expires) ++ "&signature=" ++
    quotePlus signature

def issueGet (sha : Sha256) (signer : ProofLinkSigner) (key : String) (now : Moment) (ttlSeconds : Int) :
    Except ProofLinkError SignedProofLink :=
  if ¬ PyRegex.fullmatch proofKey key then .error (.valueError "unsafe proof object key")
  else if ¬ (1 ≤ ttlSeconds ∧ ttlSeconds ≤ signer.maxTtlSeconds) then
    .error (.valueError "proof link TTL exceeds policy")
  else match now.shift (ttlSeconds * 1000000) with
    | none => .error .overflowError
    | some expiresAt =>
      let expires := expiresAt.timestamp
      .ok ⟨signer.url key expires (signer.sign sha key expires), expiresAt⟩

def verifyGet (sha : Sha256) (signer : ProofLinkSigner) (key : String) (expires : Int) (signature : String)
    (now : Moment) : Except ProofLinkError Unit :=
  let current := now.timestamp
  if ¬ PyRegex.fullmatch proofKey key then .error (.invalidProofLink "invalid proof key")
  else if expires < current ∨ current + signer.maxTtlSeconds < expires then
    .error (.invalidProofLink "proof link expired or exceeds policy")
  else if signature.length ≠ 64 then .error (.invalidProofLink "invalid proof signature")
  else match compareDigest (signer.sign sha key expires) signature with
    | none => .error .typeError
    | some false => .error (.invalidProofLink "invalid proof signature")
    | some true => .ok ()

end ProofLinkSigner

section

variable {sha : Sha256} {signer : ProofLinkSigner} {key : String} {now later expiresAt : Moment} {ttl : Int}

theorem roundHalfEven_bounds (n d : Nat) : n / d ≤ roundHalfEven n d ∧ roundHalfEven n d ≤ n / d + 1 ∧
    (2 * (n % d) < d → roundHalfEven n d = n / d) := by
  unfold roundHalfEven
  split_ifs with down
  · exact ⟨le_rfl, Nat.le_succ _, fun _ => rfl⟩
  · exact ⟨Nat.le_succ _, le_rfl, fun below => absurd (.inl below) down⟩

theorem log2_le_of_lt {n bound : Nat} (h : n < 2 ^ (bound + 1)) : Nat.log2 n ≤ bound := by
  by_cases zero : n = 0
  · rw [zero]
    exact Nat.zero_le bound
  · exact Nat.le_of_lt_succ ((Nat.log2_lt zero).mpr h)

/-- Below 2^34 seconds the doubles are dense enough that no time rounds up to the next second. -/
theorem wholeSeconds_of_lt {microseconds : Nat} (small : microseconds < 2 ^ 34 * 1000000) :
    wholeSeconds microseconds = microseconds / 1000000 := by
  have exponent : Nat.log2 (microseconds / 1000000) ≤ 33 := log2_le_of_lt (by omega)
  obtain ⟨extra, shape⟩ : ∃ extra, 52 - Nat.log2 (microseconds / 1000000) = 19 + extra :=
    ⟨52 - Nat.log2 (microseconds / 1000000) - 19, by omega⟩
  unfold wholeSeconds
  rw [shape]
  have large : 524288 ≤ 2 ^ (19 + extra) := by
    rw [pow_add]
    exact Nat.le_mul_of_pos_right _ (Nat.two_pow_pos extra)
  generalize 2 ^ (19 + extra) = scale at large ⊢
  -- at most 999999 of the next second's 1000000 parts are there, so half a unit is missing to it
  have lower : microseconds / 1000000 * scale * 1000000 ≤ microseconds * scale := by
    calc microseconds / 1000000 * scale * 1000000
        = microseconds / 1000000 * 1000000 * scale := by ring
      _ ≤ microseconds * scale := Nat.mul_le_mul_right _ (Nat.div_mul_le_self _ _)
  have upper : microseconds * scale + scale ≤ (microseconds / 1000000 + 1) * scale * 1000000 := by
    calc microseconds * scale + scale
        = (microseconds + 1) * scale := by ring
      _ ≤ (microseconds / 1000000 + 1) * 1000000 * scale := Nat.mul_le_mul_right _ (by omega)
      _ = (microseconds / 1000000 + 1) * scale * 1000000 := by ring
  obtain ⟨atLeast, atMost, down⟩ := roundHalfEven_bounds (microseconds * scale) 1000000
  refine Nat.div_eq_of_lt_le ?_ ?_
  · omega
  · by_cases last : microseconds * scale / 1000000 + 1 < (microseconds / 1000000 + 1) * scale
    · omega
    · rw [down (by omega)]
      omega

/-- The instants whose distance from 1970 is below 2^34 seconds, from the year 1425 to the year 2514. -/
def Moment.Exact (t : Moment) : Prop := epoch - 2 ^ 34 * 1000000 < t.1 ∧ t.1 < epoch + 2 ^ 34 * 1000000

instance instDecidableExact (t : Moment) : Decidable t.Exact :=
  inferInstanceAs (Decidable (epoch - 2 ^ 34 * 1000000 < t.1 ∧ t.1 < epoch + 2 ^ 34 * 1000000))

theorem timestamp_of_exact {t : Moment} (near : t.Exact) : t.timestamp = (t.1 - epoch).tdiv 1000000 := by
  obtain ⟨lower, upper⟩ := near
  unfold Moment.timestamp
  split_ifs with after
  · rw [wholeSeconds_of_lt (by omega), Int.tdiv_eq_ediv_of_nonneg (by omega)]
    omega
  · rw [wholeSeconds_of_lt (by omega), ← neg_sub epoch, Int.neg_tdiv, Int.tdiv_eq_ediv_of_nonneg (by omega)]
    omega

theorem sign_length (sha : Sha256) (signer : ProofLinkSigner) (key : String) (expires : Int) :
    (signer.sign sha key expires).length = 64 := by
  rw [← String.length_toList]
  exact sha.hmacHexdigest_length _ _

/-- A link with its own signature passes exactly when its time is right. -/
theorem verifyGet_sign (sha : Sha256) (signer : ProofLinkSigner) (matching : PyRegex.fullmatch proofKey key = true)
    (expires : Int) (later : Moment) :
    signer.verifyGet sha key expires (signer.sign sha key expires) later = .ok () ↔
      later.timestamp ≤ expires ∧ expires ≤ later.timestamp + signer.maxTtlSeconds := by
  have genuine : compareDigest (signer.sign sha key expires) (signer.sign sha key expires) = some true := by
    have plain : IsAscii (signer.sign sha key expires) := hexText_ascii _
    rw [compareDigest_of_ascii plain plain, beq_self_eq_true]
  unfold ProofLinkSigner.verifyGet
  simp only [matching, not_true_eq_false, if_false, sign_length, ne_eq, genuine]
  split_ifs with late
  · simp only [false_iff]
    omega
  · simp only [true_iff]
    omega

theorem issueGet_ok (sha : Sha256) (signer : ProofLinkSigner) (matching : PyRegex.fullmatch proofKey key = true)
    (policy : 1 ≤ ttl ∧ ttl ≤ signer.maxTtlSeconds) (ends : now.shift (ttl * 1000000) = some expiresAt) :
    signer.issueGet sha key now ttl =
      .ok ⟨signer.url key expiresAt.timestamp (signer.sign sha key expiresAt.timestamp), expiresAt⟩ := by
  simp only [ProofLinkSigner.issueGet, matching, not_true_eq_false, if_false, policy, and_self, ends]

theorem tdiv_second (a : Int) : a.tdiv 1000000 = if 0 ≤ a then a / 1000000 else -(-a / 1000000) := by
  split_ifs with nonneg
  · exact Int.tdiv_eq_ediv_of_nonneg nonneg
  · have flipped := Int.tdiv_eq_ediv_of_nonneg (show 0 ≤ -a by omega) (b := 1000000)
    rw [Int.neg_tdiv] at flipped
    omega

/-- The policy never refuses a link early while the whole seconds are exact. -/
theorem timestamp_within_policy (nearLater : later.Exact) (nearEnd : expiresAt.Exact) (order : now.1 ≤ later.1)
    (policy : 1 ≤ ttl ∧ ttl ≤ signer.maxTtlSeconds) (ends : expiresAt.1 = now.1 + ttl * 1000000) :
    expiresAt.timestamp ≤ later.timestamp + signer.maxTtlSeconds := by
  rw [timestamp_of_exact nearLater, timestamp_of_exact nearEnd, tdiv_second, tdiv_second]
  split_ifs with after before <;> omega

/-- A link is accepted as long as the whole second of the clock is not past the whole second of its
announced end. From 1970 to 2514 this is until the end of the second that holds the announced end. -/
theorem proof_link_lifetime (sha : Sha256) (signer : ProofLinkSigner)
    (matching : PyRegex.fullmatch proofKey key = true) (policy : 1 ≤ ttl ∧ ttl ≤ signer.maxTtlSeconds)
    (order : now.1 ≤ later.1) (ends : now.shift (ttl * 1000000) = some expiresAt) :
    ∃ expires signature,
      signer.issueGet sha key now ttl = .ok ⟨signer.url key expires signature, expiresAt⟩ ∧
      (signer.verifyGet sha key expires signature later = .ok () ↔ later.timestamp ≤ expiresAt.timestamp ∧
        expiresAt.timestamp ≤ later.timestamp + signer.maxTtlSeconds) ∧
      (later.Exact → expiresAt.Exact → (signer.verifyGet sha key expires signature later = .ok () ↔
        (later.1 - epoch).tdiv 1000000 ≤ (expiresAt.1 - epoch).tdiv 1000000)) ∧
      (epoch ≤ now.1 → later.Exact → expiresAt.Exact →
        (signer.verifyGet sha key expires signature later = .ok () ↔
          later.1 < epoch + ((expiresAt.1 - epoch) / 1000000 + 1) * 1000000)) := by
  have value := shift_eq_some ends
  have exact : later.Exact → expiresAt.Exact →
      (signer.verifyGet sha key expiresAt.timestamp (signer.sign sha key expiresAt.timestamp) later = .ok () ↔
        (later.1 - epoch).tdiv 1000000 ≤ (expiresAt.1 - epoch).tdiv 1000000) := by
    intro nearLater nearEnd
    have within := timestamp_within_policy nearLater nearEnd order policy value
    rw [verifyGet_sign sha signer matching, ← timestamp_of_exact nearLater, ← timestamp_of_exact nearEnd]
    exact and_iff_left within
  refine ⟨_, _, issueGet_ok sha signer matching policy ends, verifyGet_sign sha signer matching _ later, exact, ?_⟩
  intro started nearLater nearEnd
  rw [exact nearLater nearEnd, tdiv_second, tdiv_second, if_pos (by omega), if_pos (by omega)]
  omega

end

/-- The key of a proof of an order. -/
def proofObjectKey (tenantId orderId : UUID) (digest suffix : String) : String :=
  "proofs/" ++ tenantId.str ++ "/" ++ orderId.str ++ "/" ++ digest ++ suffix

theorem uuid_within (id : UUID) : PyRegex.Within ('-' :: PyRegex.lowerHex) id.str.toList := by
  intro c mem
  rw [UUID.str, String.toList_ofList] at mem
  rcases UUID.mem_hyphenate mem with digit | rfl
  · obtain ⟨d, listed, rfl⟩ := List.mem_map.mp digit
    have small := id.hexDigits_spec.2.1 d (List.mem_reverse.mp listed)
    exact List.mem_cons_of_mem _ (digitChar_lowerHex d small)
  · exact List.mem_cons_self

/-- Every key that is built from identifiers, a digest and a known suffix has the form `PROOF_KEY`. -/
theorem fullmatch_proofObjectKey (tenantId orderId : UUID) {digest suffix : String}
    (size : digest.toList.length = 64) (hex : PyRegex.Within PyRegex.lowerHex digest.toList)
    (known : suffix = ".png" ∨ suffix = ".jpg") :
    PyRegex.fullmatch proofKey (proofObjectKey tenantId orderId digest suffix) = true := by
  rw [PyRegex.fullmatch_iff]
  have tenant := PyRegex.mem_oneOf_pow.mpr ⟨tenantId.str_length, uuid_within tenantId⟩
  have order := PyRegex.mem_oneOf_pow.mpr ⟨orderId.str_length, uuid_within orderId⟩
  have content := PyRegex.mem_oneOf_pow.mpr ⟨size, hex⟩
  have named : ∃ extension, suffix.toList = ".".toList ++ extension ∧
      extension ∈ (PyRegex.literal "png" + PyRegex.literal "jpg").matches' := by
    rcases known with rfl | rfl
    · exact ⟨"png".toList, by decide, PyRegex.mem_add.mpr (.inl (PyRegex.mem_literal.mpr rfl))⟩
    · exact ⟨"jpg".toList, by decide, PyRegex.mem_add.mpr (.inr (PyRegex.mem_literal.mpr rfl))⟩
  obtain ⟨extension, ends, matching⟩ := named
  have joined : (proofObjectKey tenantId orderId digest suffix).toList = "proofs/".toList ++ tenantId.str.toList ++
      "/".toList ++ orderId.str.toList ++ "/".toList ++ digest.toList ++ ".".toList ++ extension := by
    simp only [proofObjectKey, String.toList_append, ends, List.append_assoc]
  have word : ∀ text, text.toList ∈ (PyRegex.literal text).matches' := fun text => PyRegex.mem_literal.mpr rfl
  rw [joined]
  refine PyRegex.append_mem (PyRegex.append_mem (PyRegex.append_mem (PyRegex.append_mem (PyRegex.append_mem
    (PyRegex.append_mem (PyRegex.append_mem (word _) tenant) (word _)) order) (word _)) content) (word _)) matching

/-- The SHA-256 digest of a small image and the HMAC of its link under the secret of `testSigner`. -/
def imageDigest : Bytes :=
  [119, 111, 48, 220, 193, 51, 41, 154, 117, 194, 141, 66, 90, 48, 160, 151, 136, 180, 163, 202, 98, 206, 51, 73,
    210, 120, 21, 136, 140, 229, 38, 47]

def imageMac : Bytes :=
  [95, 54, 116, 89, 155, 77, 211, 146, 54, 48, 37, 79, 217, 63, 64, 64, 142, 214, 44, 70, 23, 208, 129, 198, 128,
    170, 117, 225, 105, 251, 209, 214]

theorem imageDigest_size (_message : Bytes) : imageDigest.length = 32 := rfl

theorem imageMac_size (_key _message : Bytes) : imageMac.length = 32 := rfl

/-- The functions of SHA-256 on the image and its link. -/
def imageSha : Sha256 := ⟨fun _ => imageDigest, fun _ _ => imageMac, imageDigest_size, imageMac_size⟩

def testSecret : Bytes := encodeUtf8 "test-proof-link-secret-that-is-long-enough"

theorem testSecret_long : 32 ≤ testSecret.length := by decide

theorem testTtl_bounded : (1 : Int) ≤ 300 ∧ (300 : Int) ≤ 3600 := by decide

def testSigner : ProofLinkSigner := ⟨testSecret, 300, "/api/v1/proof-objects", testSecret_long, testTtl_bounded⟩

def imageKey : String := proofObjectKey 1 2 (hexText imageDigest) ".png"

theorem imageKey_matches : PyRegex.fullmatch proofKey imageKey = true :=
  fullmatch_proofObjectKey 1 2 (hexText_length imageDigest) (hexText_within imageDigest) (.inl rfl)

/-- Half a second after the start of 2026, a minute later, and 0.3 seconds after that. -/
def linkIssued : Moment := ⟨739616 * microsecondsPerDay + 500000, by decide⟩

def linkEnds : Moment := ⟨739616 * microsecondsPerDay + 60500000, by decide⟩

def linkOutlived : Moment := ⟨739616 * microsecondsPerDay + 60800000, by decide⟩

theorem proof_link_lifetime_example : ∃ expires signature,
    testSigner.issueGet imageSha imageKey linkIssued 60 = .ok ⟨testSigner.url imageKey expires signature, linkEnds⟩ ∧
      testSigner.verifyGet imageSha imageKey expires signature linkOutlived = .ok () := by
  obtain ⟨expires, signature, issued, -, -, lives⟩ := proof_link_lifetime imageSha testSigner imageKey_matches
    (by decide) (show linkIssued.1 ≤ linkOutlived.1 by decide) (show linkIssued.shift (60 * 1000000) = some linkEnds
      by decide)
  exact ⟨expires, signature, issued, (lives (by decide) (by decide) (by decide)).mpr (by decide)⟩

/-- A link is still accepted 0.3 seconds after the end that was announced with it. -/
theorem proof_link_outlives_announced_end :
    ¬ ∀ (sha : Sha256) (signer : ProofLinkSigner) (key : String) (now later : Moment) (ttl : Int)
      (link : SignedProofLink) (expires : Int) (signature : String),
      PyRegex.fullmatch proofKey key = true → 1 ≤ ttl ∧ ttl ≤ signer.maxTtlSeconds → now.1 ≤ later.1 →
      signer.issueGet sha key now ttl = .ok link → link.url = signer.url key expires signature →
      (signer.verifyGet sha key expires signature later = .ok () ↔ later.1 ≤ link.expiresAt.1) := by
  intro all
  have issued := issueGet_ok imageSha testSigner imageKey_matches
    (show 1 ≤ (60 : Int) ∧ 60 ≤ testSigner.maxTtlSeconds by decide)
    (show linkIssued.shift (60 * 1000000) = some linkEnds by decide)
  have accepted := (verifyGet_sign imageSha testSigner imageKey_matches linkEnds.timestamp linkOutlived).mpr (by decide)
  have inTime := (all imageSha testSigner imageKey linkIssued linkOutlived 60 _ _ _ imageKey_matches (by decide)
    (by decide) issued rfl).mp accepted
  exact absurd inTime (by decide)

end DeliveryService
