import DeliveryService.Digests
import DeliveryService.PyText

namespace DeliveryService

/-- The result of `secrets.token_urlsafe`. -/
structure UrlSafeToken where
  text : String
  nonempty : text ≠ ""
  ascii : IsAscii text

/-- `_csrf_key` for a JWT secret. -/
def csrfKey (sha : Sha256) (jwtSecret : String) : Bytes :=
  sha.hmac (encodeUtf8 jwtSecret) (encodeUtf8 "delivery-service:csrf:v1")

/-- `_message` -/
def csrfMessage (sessionJti nonce : String) : Bytes :=
  encodeUtf8 (toString sessionJti.length ++ "!" ++ sessionJti ++ "!" ++ toString nonce.length ++ "!" ++ nonce)

def csrfSignature (sha : Sha256) (jwtSecret sessionJti nonce : String) : String :=
  sha.hmacHexdigest (csrfKey sha jwtSecret) (csrfMessage sessionJti nonce)

def newCsrfToken (sha : Sha256) (jwtSecret sessionJti : String) (nonce : UrlSafeToken) : String :=
  csrfSignature sha jwtSecret sessionJti nonce.text ++ "." ++ nonce.text

/-- The checks on a header that equals the cookie; `none` is the `TypeError` of `compare_digest`. -/
def verifySubmitted (sha : Sha256) (jwtSecret header sessionJti : String) : Option Bool :=
  match PyText.partition '.' header.toList with
  | (_, none) => some false
  | (before, some after) =>
    let suppliedSignature := String.ofList before
    let nonce := String.ofList after
    if suppliedSignature = "" ∨ nonce = "" then some false
    else compareDigest suppliedSignature (csrfSignature sha jwtSecret sessionJti nonce)

def verifyCsrfToken (sha : Sha256) (jwtSecret : String) (cookieToken headerToken : Option String)
    (sessionJti : String) : Option Bool :=
  match cookieToken, headerToken with
  | some cookie, some header =>
    if cookie = "" ∨ header = "" then some false
    else match compareDigest cookie header with
      | none => none
      | some false => some false
      | some true => verifySubmitted sha jwtSecret header sessionJti
  | _, _ => some false

section

variable (sha : Sha256) (jwtSecret : String) {sessionJti : String} {cookieToken headerToken : Option String}

/-- Cookie and header are the same token, signed for the session. -/
def SignedFor (sessionJti : String) (cookieToken headerToken : Option String) : Prop :=
  ∃ nonce, nonce ≠ "" ∧
    cookieToken = some (csrfSignature sha jwtSecret sessionJti nonce ++ "." ++ nonce) ∧ headerToken = cookieToken

/-- Both values are there and not empty, and one has a character outside ASCII. -/
def BeyondAscii (cookieToken headerToken : Option String) : Prop :=
  ∃ cookie header, cookieToken = some cookie ∧ headerToken = some header ∧ cookie ≠ "" ∧ header ≠ "" ∧
    ¬ (IsAscii cookie ∧ IsAscii header)

theorem dot_notMem_signature (nonce : String) : '.' ∉ (csrfSignature sha jwtSecret sessionJti nonce).toList := by
  intro mem
  exact absurd (hexText_within _ _ mem) (by decide)

theorem signature_ne_empty (nonce : String) : csrfSignature sha jwtSecret sessionJti nonce ≠ "" := by
  intro empty
  have size := sha.hmacHexdigest_length (csrfKey sha jwtSecret) (csrfMessage sessionJti nonce)
  rw [csrfSignature] at empty
  rw [empty] at size
  simp at size

theorem ascii_of_token {text : String} (ascii : IsAscii text) {before after : List Char}
    (parts : PyText.partition '.' text.toList = (before, some after)) : IsAscii (String.ofList before) := by
  intro c mem
  rw [String.toList_ofList] at mem
  refine ascii c ?_
  rw [PyText.eq_of_partition parts]
  exact List.mem_append_left _ mem

theorem partition_token (nonce : String) : PyText.partition '.'
    (csrfSignature sha jwtSecret sessionJti nonce ++ "." ++ nonce).toList =
      ((csrfSignature sha jwtSecret sessionJti nonce).toList, some nonce.toList) := by
  have dot : ".".toList = ['.'] := by decide
  rw [String.toList_append, String.toList_append, dot, List.append_assoc, List.singleton_append]
  exact PyText.partition_append (dot_notMem_signature sha jwtSecret nonce)

theorem token_of_partition {header : String} {before after : List Char}
    (parts : PyText.partition '.' header.toList = (before, some after)) :
    header = String.ofList before ++ "." ++ String.ofList after := by
  apply String.toList_injective
  simp [PyText.eq_of_partition parts]

/-- An ASCII header passes the second comparison exactly when it is a token signed for the session. -/
theorem verifySubmitted_eq (sessionJti : String) {header : String} (ascii : IsAscii header) :
    ∃ passed, verifySubmitted sha jwtSecret header sessionJti = some passed ∧
      (passed = true ↔
        ∃ nonce, nonce ≠ "" ∧ header = csrfSignature sha jwtSecret sessionJti nonce ++ "." ++ nonce) := by
  have signed : ∀ nonce, header = csrfSignature sha jwtSecret sessionJti nonce ++ "." ++ nonce →
      PyText.partition '.' header.toList =
        ((csrfSignature sha jwtSecret sessionJti nonce).toList, some nonce.toList) := by
    rintro nonce rfl
    exact partition_token sha jwtSecret nonce
  unfold verifySubmitted
  split
  next parts =>
    refine ⟨false, rfl, by simp, ?_⟩
    rintro ⟨nonce, -, token⟩
    rw [signed nonce token] at parts
    simp at parts
  next before after parts =>
    have token := token_of_partition parts
    have supplied := ascii_of_token ascii parts
    have same : ∀ nonce, header = csrfSignature sha jwtSecret sessionJti nonce ++ "." ++ nonce →
        String.ofList before = csrfSignature sha jwtSecret sessionJti nonce ∧ String.ofList after = nonce := by
      intro nonce shape
      rw [signed nonce shape] at parts
      obtain ⟨rfl, found⟩ := Prod.mk.inj parts
      rw [String.ofList_toList, ← Option.some.inj found, String.ofList_toList]
      exact ⟨rfl, rfl⟩
    simp only
    split_ifs with empty
    · refine ⟨false, rfl, by simp, ?_⟩
      rintro ⟨nonce, nonempty, shape⟩
      obtain ⟨signature, rest⟩ := same nonce shape
      rw [signature, rest] at empty
      exact absurd empty (not_or.mpr ⟨signature_ne_empty sha jwtSecret nonce, nonempty⟩)
    · have expected : IsAscii (csrfSignature sha jwtSecret sessionJti (String.ofList after)) := hexText_ascii _
      rw [compareDigest_of_ascii supplied expected]
      refine ⟨_, rfl, ?_⟩
      rw [beq_iff_eq]
      constructor
      · intro equal
        exact ⟨String.ofList after, (not_or.mp empty).2, equal ▸ token⟩
      · rintro ⟨nonce, -, shape⟩
        obtain ⟨signature, rest⟩ := same nonce shape
        rw [signature, rest]

theorem raises_beyond_ascii (sessionJti : String) (beyond : BeyondAscii cookieToken headerToken) :
    verifyCsrfToken sha jwtSecret cookieToken headerToken sessionJti = none := by
  obtain ⟨cookie, header, rfl, rfl, left, right, other⟩ := beyond
  have raised : compareDigest cookie header = none := by rw [compareDigest, if_neg other]
  simp only [verifyCsrfToken, left, right, or_self, if_false, raised]

theorem not_signedFor_of_ne (sessionJti : String) {cookie header : String} (other : cookie ≠ header) :
    ¬ SignedFor sha jwtSecret sessionJti (some cookie) (some header) := by
  rintro ⟨nonce, -, -, same⟩
  exact other (Option.some.inj same).symm

theorem not_signedFor_empty (sessionJti : String) {cookie header : String} (empty : cookie = "" ∨ header = "") :
    ¬ SignedFor sha jwtSecret sessionJti (some cookie) (some header) := by
  rintro ⟨nonce, nonempty, token, same⟩
  have filled : csrfSignature sha jwtSecret sessionJti nonce ++ "." ++ nonce ≠ "" := by simp
  obtain rfl := Option.some.inj token
  obtain rfl := Option.some.inj same
  exact absurd empty (not_or.mpr ⟨filled, filled⟩)

theorem signedFor_self (sessionJti token : String) :
    SignedFor sha jwtSecret sessionJti (some token) (some token) ↔
      ∃ nonce, nonce ≠ "" ∧ token = csrfSignature sha jwtSecret sessionJti nonce ++ "." ++ nonce := by
  simp [SignedFor]

/-- Without a character outside ASCII the answer is exact. -/
theorem verifyCsrfToken_exact (sessionJti : String) (within : ¬ BeyondAscii cookieToken headerToken) :
    ∃ passed, verifyCsrfToken sha jwtSecret cookieToken headerToken sessionJti = some passed ∧
      (passed = true ↔ SignedFor sha jwtSecret sessionJti cookieToken headerToken) := by
  cases cookieToken with
  | none => exact ⟨false, rfl, by simp [SignedFor]⟩
  | some cookie =>
    cases headerToken with
    | none => exact ⟨false, rfl, by simp [SignedFor]⟩
    | some header =>
      by_cases empty : cookie = "" ∨ header = ""
      · refine ⟨false, by simp only [verifyCsrfToken, if_pos empty], ?_⟩
        simp only [Bool.false_eq_true, false_iff]
        exact not_signedFor_empty sha jwtSecret sessionJti empty
      · obtain ⟨left, right⟩ := not_or.mp empty
        have ascii : IsAscii cookie ∧ IsAscii header := by
          by_contra other
          exact within ⟨cookie, header, rfl, rfl, left, right, other⟩
        simp only [verifyCsrfToken, if_neg empty, compareDigest_of_ascii ascii.1 ascii.2]
        by_cases same : cookie = header
        · subst same
          obtain ⟨passed, answered, signed⟩ := verifySubmitted_eq sha jwtSecret sessionJti ascii.1
          refine ⟨passed, by simpa using answered, ?_⟩
          rw [signed, signedFor_self]
        · rw [beq_false_of_ne same]
          refine ⟨false, rfl, ?_⟩
          simp only [Bool.false_eq_true, false_iff]
          exact not_signedFor_of_ne sha jwtSecret sessionJti same

theorem not_beyondAscii {token : String} (ascii : IsAscii token) : ¬ BeyondAscii (some token) (some token) := by
  rintro ⟨cookie, header, sent, sent', -, -, other⟩
  exact other ⟨Option.some.inj sent ▸ ascii, Option.some.inj sent' ▸ ascii⟩

theorem newCsrfToken_ascii (sessionJti : String) (nonce : UrlSafeToken) :
    IsAscii (newCsrfToken sha jwtSecret sessionJti nonce) := by
  intro c mem
  rw [newCsrfToken, String.toList_append, String.toList_append] at mem
  rcases List.mem_append.mp mem with early | late
  · rcases List.mem_append.mp early with signature | dot
    · exact hexText_ascii _ c signature
    · have plain : IsAscii "." := by decide
      exact plain c dot
  · exact nonce.ascii c late

/-- Verification is exact and does not raise, except where both values are given and one has a character
outside ASCII; there it raises. A new token verifies for its session. -/
theorem csrf_verification_exact_iff (sha : Sha256) (jwtSecret sessionJti : String)
    (cookieToken headerToken : Option String) :
    ((∃ passed, verifyCsrfToken sha jwtSecret cookieToken headerToken sessionJti = some passed ∧
        (passed = true ↔ SignedFor sha jwtSecret sessionJti cookieToken headerToken)) ↔
      ¬ BeyondAscii cookieToken headerToken) ∧
    ∀ nonce : UrlSafeToken, verifyCsrfToken sha jwtSecret (some (newCsrfToken sha jwtSecret sessionJti nonce))
      (some (newCsrfToken sha jwtSecret sessionJti nonce)) sessionJti = some true := by
  refine ⟨⟨?_, verifyCsrfToken_exact sha jwtSecret sessionJti⟩, fun nonce => ?_⟩
  · rintro ⟨passed, answered, -⟩ beyond
    rw [raises_beyond_ascii sha jwtSecret sessionJti beyond] at answered
    simp at answered
  · have within := not_beyondAscii (newCsrfToken_ascii sha jwtSecret sessionJti nonce)
    obtain ⟨passed, answered, signed⟩ := verifyCsrfToken_exact sha jwtSecret sessionJti within
    rw [answered, signed.mpr ⟨nonce.text, nonce.nonempty, rfl, rfl⟩]

end

def emptySha : Sha256 := ⟨fun _ => emptyDigest, fun _ _ => emptyMac, emptyDigest_size, emptyMac_size⟩

/-- A header of one letter outside ASCII raises before anything is signed. -/
theorem non_ascii_header_raises :
    ¬ ∀ (sha : Sha256) (jwtSecret sessionJti : String) (cookieToken headerToken : Option String),
      ∃ passed, verifyCsrfToken sha jwtSecret cookieToken headerToken sessionJti = some passed ∧
        (passed = true ↔ SignedFor sha jwtSecret sessionJti cookieToken headerToken) := by
  intro all
  have beyond : BeyondAscii (some "token") (some "é") :=
    ⟨"token", "é", rfl, rfl, by decide, by decide, by decide⟩
  obtain ⟨passed, answered, -⟩ := all emptySha "" "" (some "token") (some "é")
  rw [raises_beyond_ascii emptySha "" "" beyond] at answered
  simp at answered

end DeliveryService
