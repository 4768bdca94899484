import DeliveryService.Csrf
import DeliveryService.JsonText
import DeliveryService.ProofLinks
import DeliveryService.SelfDelimiting

namespace DeliveryService

def asciiBytes (text : String) : Bytes := text.toList.map fun c => UInt8.ofNat c.toNat

/-- `str.encode("ascii")`; `none` is its `UnicodeEncodeError`. -/
def encodeAscii (text : String) : Option Bytes := if IsAscii text then some (asciiBytes text) else none

/-- `signed_payload`; 10 is the newline. -/
def signedPayload (timestampBytes payload : Bytes) : Bytes :=
  encodeUtf8 "delivery.payment.v1\n" ++ timestampBytes ++ 10 :: payload

def verifyWebhookSignature (sha : Sha256) (payload : Bytes) (signature : String) (secret : Bytes)
    (timestamp : String) : Bool :=
  if signature.length ≠ 64 then false
  else match fromHex signature.toList with
    | none => false
    | some supplied => match encodeAscii timestamp with
      | none => false
      | some timestampBytes => sha.hmac secret (signedPayload timestampBytes payload) == supplied

/-- A token of this signature and this nonce passes for the session. -/
def CsrfAccepts (sha : Sha256) (jwtSecret signature sessionJti nonce : String) : Prop :=
  ∃ cookie header, PyText.partition '.' header.toList = (signature.toList, some nonce.toList) ∧
    verifyCsrfToken sha jwtSecret cookie (some header) sessionJti = some true

/-- A link of this signature passes at some time for the key and the end that it names. -/
def LinkAccepts (sha : Sha256) (secret : Bytes) (signature key : String) (expires : Int) : Prop :=
  ∃ (signer : ProofLinkSigner) (now : Moment), signer.secret = secret ∧
    signer.verifyGet sha key expires signature now = .ok ()

/-- A timestamp of ASCII characters other than the newline. -/
def PlainTimestamp (timestamp : String) : Prop := IsAscii timestamp ∧ '\n' ∉ timestamp.toList

section

variable {sha : Sha256}

theorem eq_of_no_collision {key message message' : Bytes} (free : ¬ sha.HmacCollision key message message')
    (same : sha.hmac key message = sha.hmac key message') : message = message' := by
  by_contra other
  exact free ⟨other, same⟩

theorem map_asciiBytes {text : String} (ascii : IsAscii text) :
    (asciiBytes text).map (fun b => Char.ofNat b.toNat) = text.toList := by
  rw [asciiBytes, List.map_map]
  refine (List.map_congr_left fun c mem => ?_).trans (List.map_id _)
  have small := ascii c mem
  have value : (UInt8.ofNat c.toNat).toNat = c.toNat := UInt8.toNat_ofNat_of_lt' (by simp only [UInt8.size]; omega)
  simp only [Function.comp_apply, value, Char.ofNat_toNat, id_eq]

theorem asciiBytes_inj {a b : String} (left : IsAscii a) (right : IsAscii b) (same : asciiBytes a = asciiBytes b) :
    a = b := by
  apply String.toList_injective
  rw [← map_asciiBytes left, ← map_asciiBytes right, same]

theorem newline_notMem_asciiBytes {text : String} (plain : PlainTimestamp text) : (10 : UInt8) ∉ asciiBytes text := by
  intro mem
  have listed : Char.ofNat (10 : UInt8).toNat ∈ (asciiBytes text).map fun b => Char.ofNat b.toNat :=
    List.mem_map_of_mem mem
  rw [map_asciiBytes plain.1] at listed
  exact plain.2 listed

/-- A text behind its length and an exclamation mark. -/
def lengthFramed (text : List Char) : List Char := Nat.toDigits 10 text.length ++ ['!'] ++ text

theorem selfDelimiting_lengthFramed : SelfDelimiting lengthFramed := by
  have size : SelfDelimiting fun n => Nat.toDigits 10 n ++ ['!'] :=
    SelfDelimiting.ended toDigits_injective (notMem_toDigits rfl)
  exact size.lengthPrefixed

theorem csrfMessage_eq (jti nonce : String) : csrfMessage jti nonce =
    encodeUtf8 (String.ofList (lengthFramed jti.toList ++ '!' :: lengthFramed nonce.toList)) := by
  have mark : "!".toList = ['!'] := by decide
  refine congrArg encodeUtf8 (String.toList_injective ?_)
  simp only [String.toList_append, String.toList_ofList, toList_toString_nat, mark, lengthFramed, String.length_toList,
    List.append_assoc, List.cons_append, List.nil_append]

theorem csrfMessage_inj {jti nonce jti' nonce' : String} (same : csrfMessage jti nonce = csrfMessage jti' nonce') :
    jti = jti' ∧ nonce = nonce' := by
  rw [csrfMessage_eq, csrfMessage_eq] at same
  have text := String.ofList_injective (encodeUtf8_injective same)
  obtain ⟨first, rest⟩ := selfDelimiting_lengthFramed _ _ _ _ text
  have second := selfDelimiting_lengthFramed.injective (List.cons.inj rest).2
  exact ⟨String.toList_injective first, String.toList_injective second⟩

theorem proofMessage_inj {operation key key' : String} {expires expires' : Int}
    (same : ProofLinkSigner.message operation key expires = ProofLinkSigner.message operation key' expires') :
    key = key' ∧ expires = expires' := by
  have text := congrArg String.toList (encodeUtf8_injective same)
  have newline : "\n".toList = ['\n'] := by decide
  simp only [String.toList_append, toList_toString_int, newline, List.append_assoc, List.append_cancel_left_eq,
    List.singleton_append] at text
  have free := notMem_jsonInt (c := '\n') rfl (by decide)
  obtain ⟨keys, ends⟩ := SelfDelimiting.split_last (free expires) (free expires') text
  exact ⟨String.toList_injective (List.cons.inj keys).2, jsonInt_injective ends⟩

theorem signedPayload_inj {timestamp timestamp' : String} {payload payload' : Bytes} (plain : PlainTimestamp timestamp)
    (plain' : PlainTimestamp timestamp')
    (same : signedPayload (asciiBytes timestamp) payload = signedPayload (asciiBytes timestamp') payload') :
    timestamp = timestamp' ∧ payload = payload' := by
  simp only [signedPayload, List.append_assoc, List.append_cancel_left_eq] at same
  obtain ⟨times, payloads⟩ :=
    SelfDelimiting.split_first (newline_notMem_asciiBytes plain) (newline_notMem_asciiBytes plain') same
  exact ⟨asciiBytes_inj plain.1 plain'.1 times, payloads⟩

theorem signature_of_csrfAccepts {jwtSecret signature jti nonce : String}
    (accepted : CsrfAccepts sha jwtSecret signature jti nonce) :
    signature = csrfSignature sha jwtSecret jti nonce := by
  obtain ⟨cookie, header, parts, verified⟩ := accepted
  have within : ¬ BeyondAscii cookie (some header) := by
    intro beyond
    rw [raises_beyond_ascii sha jwtSecret jti beyond] at verified
    cases verified
  obtain ⟨passed, answered, signed⟩ := verifyCsrfToken_exact sha jwtSecret jti within
  obtain ⟨other, -, token, equal⟩ := signed.mp (Option.some.inj (answered.symm.trans verified))
  obtain rfl := Option.some.inj (equal.trans token)
  rw [partition_token] at parts
  obtain ⟨signatures, nonces⟩ := Prod.mk.inj parts
  rw [← String.toList_injective signatures, String.toList_injective (Option.some.inj nonces)]

theorem signature_of_linkAccepts {secret : Bytes} {signature key : String} {expires : Int}
    (accepted : LinkAccepts sha secret signature key expires) :
    signature = sha.hmacHexdigest secret (ProofLinkSigner.message "GET" key expires) := by
  obtain ⟨signer, now, rfl, verified⟩ := accepted
  unfold ProofLinkSigner.verifyGet at verified
  simp only at verified
  split_ifs at verified
  split at verified
  next => cases verified
  next => cases verified
  next equal =>
    unfold compareDigest at equal
    split_ifs at equal
    exact (beq_iff_eq.mp (Option.some.inj equal)).symm

theorem hmac_of_verifyWebhookSignature {payload secret : Bytes} {signature timestamp : String}
    (accepted : verifyWebhookSignature sha payload signature secret timestamp = true) :
    fromHex signature.toList = some (sha.hmac secret (signedPayload (asciiBytes timestamp) payload)) := by
  unfold verifyWebhookSignature at accepted
  split_ifs at accepted
  split at accepted
  next => cases accepted
  next supplied read =>
    unfold encodeAscii at accepted
    split_ifs at accepted
    rw [read, beq_iff_eq.mp accepted]

/-- The three kinds of signed messages are unambiguous. So a signature that is accepted for one tuple is accepted
for no other tuple of its kind under the same key, unless the two messages collide. -/
theorem signed_messages_unambiguous (sha : Sha256) :
    (∀ jti nonce jti' nonce', csrfMessage jti nonce = csrfMessage jti' nonce' → jti = jti' ∧ nonce = nonce') ∧
    (∀ key expires key' expires', PyRegex.fullmatch proofKey key = true → PyRegex.fullmatch proofKey key' = true →
      ProofLinkSigner.message "GET" key expires = ProofLinkSigner.message "GET" key' expires' →
      key = key' ∧ expires = expires') ∧
    (∀ timestamp payload timestamp' payload', PlainTimestamp timestamp → PlainTimestamp timestamp' →
      signedPayload (asciiBytes timestamp) payload = signedPayload (asciiBytes timestamp') payload' →
      timestamp = timestamp' ∧ payload = payload') ∧
    (∀ jwtSecret signature jti nonce jti' nonce',
      ¬ sha.HmacCollision (csrfKey sha jwtSecret) (csrfMessage jti nonce) (csrfMessage jti' nonce') →
      CsrfAccepts sha jwtSecret signature jti nonce → CsrfAccepts sha jwtSecret signature jti' nonce' →
      jti = jti' ∧ nonce = nonce') ∧
    (∀ secret signature key expires key' expires',
      ¬ sha.HmacCollision secret (ProofLinkSigner.message "GET" key expires)
        (ProofLinkSigner.message "GET" key' expires') →
      LinkAccepts sha secret signature key expires → LinkAccepts sha secret signature key' expires' →
      key = key' ∧ expires = expires') ∧
    ∀ secret signature timestamp payload timestamp' payload', PlainTimestamp timestamp → PlainTimestamp timestamp' →
      ¬ sha.HmacCollision secret (signedPayload (asciiBytes timestamp) payload)
        (signedPayload (asciiBytes timestamp') payload') →
      verifyWebhookSignature sha payload signature secret timestamp = true →
      verifyWebhookSignature sha payload' signature secret timestamp' = true →
      timestamp = timestamp' ∧ payload = payload' := by
  refine ⟨fun _ _ _ _ => csrfMessage_inj, fun _ _ _ _ _ _ => proofMessage_inj, fun _ _ _ _ => signedPayload_inj,
    ?_, ?_, ?_⟩
  · intro jwtSecret signature jti nonce jti' nonce' free accepted accepted'
    have texts := (signature_of_csrfAccepts accepted).symm.trans (signature_of_csrfAccepts accepted')
    exact csrfMessage_inj (eq_of_no_collision free (hexText_injective texts))
  · intro secret signature key expires key' expires' free accepted accepted'
    have texts := (signature_of_linkAccepts accepted).symm.trans (signature_of_linkAccepts accepted')
    exact proofMessage_inj (eq_of_no_collision free (hexText_injective texts))
  · intro secret signature timestamp payload timestamp' payload' plain plain' free accepted accepted'
    have bytes := (hmac_of_verifyWebhookSignature accepted).symm.trans (hmac_of_verifyWebhookSignature accepted')
    exact signedPayload_inj plain plain' (eq_of_no_collision free (Option.some.inj bytes))

end

/-- The key that comes from the secret `sessionSecret`, and the HMACs under it of two pairs
whose texts run together in the same way. -/
def sessionKey : Bytes :=
  [208, 128, 193, 144, 182, 243, 81, 90, 148, 201, 109, 201, 245, 185, 254, 137, 80, 8, 82, 89, 205, 195, 239, 180,
    173, 18, 170, 124, 98, 65, 65, 203]

def shortMac : Bytes :=
  [197, 174, 89, 175, 94, 103, 17, 78, 73, 30, 22, 136, 179, 26, 242, 171, 216, 170, 29, 193, 147, 80, 177, 98, 31,
    123, 136, 13, 233, 86, 56, 214]

def longMac : Bytes :=
  [95, 113, 76, 14, 176, 60, 52, 16, 82, 64, 221, 53, 193, 167, 173, 85, 124, 91, 196, 15, 114, 238, 122, 255, 182,
    97, 81, 33, 66, 120, 249, 140]

def sessionMac (_key message : Bytes) : Bytes :=
  if message = csrfMessage "1" "23" then shortMac
  else if message = csrfMessage "12" "3" then longMac
  else sessionKey

theorem sessionMac_size (key message : Bytes) : (sessionMac key message).length = 32 := by
  unfold sessionMac
  split_ifs <;> rfl

def sessionSha : Sha256 := ⟨fun _ => emptyDigest, sessionMac, emptyDigest_size, sessionMac_size⟩

def sessionSecret : String := "test-jwt-secret-that-is-long-enough"

def sessionSignature : String := csrfSignature sessionSha sessionSecret "1" "23"

theorem signature_of_short_session_only :
    CsrfAccepts sessionSha sessionSecret sessionSignature "1" "23" ∧
      ¬ CsrfAccepts sessionSha sessionSecret sessionSignature "12" "3" := by
  have apart : csrfMessage "12" "3" ≠ csrfMessage "1" "23" := fun same => absurd (csrfMessage_inj same).1 (by decide)
  have free : ¬ sessionSha.HmacCollision (csrfKey sessionSha sessionSecret)
      (csrfMessage "1" "23") (csrfMessage "12" "3") := by
    rintro ⟨-, same⟩
    have macs : shortMac = longMac := by simpa [sessionSha, sessionMac, apart] using same
    exact absurd macs (by decide)
  have ascii : IsAscii (sessionSignature ++ "." ++ "23") :=
    newCsrfToken_ascii sessionSha sessionSecret "1" ⟨"23", by decide, by decide⟩
  have within := not_beyondAscii ascii
  have accepted : CsrfAccepts sessionSha sessionSecret sessionSignature "1" "23" := by
    obtain ⟨passed, answered, signed⟩ :=
      verifyCsrfToken_exact sessionSha sessionSecret "1" within
    rw [signed.mpr ⟨"23", by decide, rfl, rfl⟩] at answered
    exact ⟨_, _, partition_token _ _ _, answered⟩
  refine ⟨accepted, fun other => ?_⟩
  have same := (signed_messages_unambiguous sessionSha).2.2.2.1 _ _ _ _ _ _ free accepted other
  exact absurd same.1 (by decide)

end DeliveryService
