import DeliveryService.ProofInspection
import DeliveryService.Endpoints
import DeliveryService.SqlSpecs

namespace DeliveryService

inductive ProofKind
  | pickup
  | delivery
deriving DecidableEq, Repr

def ProofKind.value : ProofKind → String
  | .pickup => "pickup"
  | .delivery => "delivery"

/-- The settings of the upload endpoint within their bounds, and the signer that is made from them. -/
structure ProofSettings where
  sha : Sha256
  folding : PyText.CaseFolding
  maxUploadBytes : Int
  linkTtlSeconds : Int
  signer : ProofLinkSigner
  upload_bounds : 0 < maxUploadBytes ∧ maxUploadBytes ≤ 20 * 1024 * 1024
  ttl_bounds : 30 ≤ linkTtlSeconds ∧ linkTtlSeconds ≤ 900
  signer_ttl : signer.maxTtlSeconds = linkTtlSeconds

/-- A request with the orders that the service finds, the two readings of the clock and the identifier that
`uuid4` gives the row. The clock leaves room for a link before the year 10000. -/
structure UploadRequest where
  actor : Actor
  orders : Dict UUID DeliveryOrder
  orderId : UUID
  file : UploadFile
  proofKind : ProofKind
  createdAt : Moment
  issuedAt : Moment
  rowId : UUID
  room : issuedAt.1 + 900 * 1000000 < 3652059 * microsecondsPerDay

inductive UploadFailure
  | raised (error : Error)
  | upload (error : UploadError)
  | link (error : ProofLinkError)
deriving DecidableEq

structure UploadAnswer where
  location : String
  key : String
  proofKind : ProofKind
  mediaType : String
  size : Nat
  sha256 : String
  downloadUrl : String
  downloadExpiresAt : Moment
deriving DecidableEq

/-- The private objects, which both deployments keep in memory, and the metadata. -/
structure ProofStore (μ : Type) where
  objects : Dict String (Bytes × String)
  metadata : μ

/-- `upload_proof` up to the upload that it stores. -/
def admitProof (settings : ProofSettings) (request : UploadRequest) : Except UploadFailure ValidatedProof :=
  match request.orders.get? request.orderId with
  | none => .error (.raised (.orderNotFound request.orderId))
  | some order =>
    if ¬ ownsOrder request.actor order then .error (.raised (forbidden "order access denied"))
    else match (inspectProof settings.sha settings.folding request.file request.actor.tenantId request.orderId
        settings.maxUploadBytes).1 with
      | .error raised => .error (.upload raised)
      | .ok validated => .ok validated

/-- The answer to a stored proof. -/
def proofAnswer (settings : ProofSettings) (request : UploadRequest) (proof : StoredProof) :
    Except UploadFailure UploadAnswer :=
  match settings.signer.issueGet settings.sha proof.key request.issuedAt settings.linkTtlSeconds with
  | .error raised => .error (.link raised)
  | .ok signed => .ok {
      location := "/api/v1/orders/" ++ request.orderId.str ++ "/proofs/" ++ proof.sha256, key := proof.key
      proofKind := request.proofKind, mediaType := proof.mediaType, size := proof.size, sha256 := proof.sha256
      downloadUrl := signed.url, downloadExpiresAt := signed.expiresAt }

/-- `upload_proof` over a metadata repository. -/
def uploadProof {μ : Type} (add : StoredProof → UploadRequest → μ → Except Error μ) (settings : ProofSettings)
    (s : ProofStore μ) (request : UploadRequest) : Except UploadFailure UploadAnswer × ProofStore μ :=
  match admitProof settings request with
  | .error failed => (.error failed, s)
  | .ok validated =>
    let proof := validated.metadata
    let objects := s.objects.set proof.key (validated.content, proof.mediaType)
    match add proof request s.metadata with
    | .error raised => (.error (.raised raised), ⟨objects, s.metadata⟩)
    | .ok metadata => (proofAnswer settings request proof, ⟨objects, metadata⟩)

abbrev ProofAddress := UUID × UUID × String

def StoredProof.address (proof : StoredProof) : ProofAddress := (proof.tenantId, proof.orderId, proof.sha256)

namespace InMemoryProofMetadataRepository

abbrev Records := Dict ProofAddress StoredProof

def add (proof : StoredProof) (_request : UploadRequest) (records : Records) : Except Error Records :=
  .ok (records.set proof.address proof)

def find (records : Records) (address : ProofAddress) : Except Error (Option StoredProof) :=
  .ok (records.get? address)

/-- `upload_proof` on the repository in memory. -/
def upload (settings : ProofSettings) (s : ProofStore Records) (request : UploadRequest) :
    Except UploadFailure UploadAnswer × ProofStore Records :=
  uploadProof add settings s request

end InMemoryProofMetadataRepository

structure ProofMetadataRow where
  id : UUID
  tenantId : UUID
  orderId : UUID
  objectKey : String
  proofKind : String
  mediaType : String
  sizeBytes : Nat
  sha256 : String
  createdAt : Moment
deriving DecidableEq

namespace SqlAlchemyProofMetadataRepository

/-- The rows of `proof_metadata` in the order of their `INSERT`. -/
abbrev Rows := List ProofMetadataRow

def rowOf (proof : StoredProof) (request : UploadRequest) : ProofMetadataRow where
  id := request.rowId
  tenantId := proof.tenantId
  orderId := proof.orderId
  objectKey := proof.key
  proofKind := request.proofKind.value
  mediaType := proof.mediaType
  sizeBytes := proof.size
  sha256 := proof.sha256
  createdAt := request.createdAt

def proofOf (row : ProofMetadataRow) : StoredProof where
  key := row.objectKey
  tenantId := row.tenantId
  orderId := row.orderId
  mediaType := row.mediaType
  size := row.sizeBytes
  sha256 := row.sha256

/-- The tests of the columns of a row. -/
def columnChecks (row : ProofMetadataRow) : Checks :=
  [(fitsVarchar 300 row.objectKey, .dataError "object_key"), (fitsVarchar 20 row.proofKind, .dataError "proof_kind"),
    (fitsVarchar 100 row.mediaType, .dataError "media_type"), (fitsInteger row.sizeBytes, .dataError "size_bytes"),
    (fitsVarchar 64 row.sha256, .dataError "sha256"),
    (row.proofKind ∈ ["pickup", "delivery"], .integrityError "ck_proof_metadata_kind"),
    (0 < row.sizeBytes, .integrityError "ck_proof_metadata_size")]

/-- The keys of a row against the stored ones. -/
def keyChecks (orders : Dict UUID DeliveryOrder) (rows : Rows) (row : ProofMetadataRow) : Checks :=
  [(row.id ∉ rows.map ProofMetadataRow.id, .integrityError "proof_metadata_pkey"),
    (row.objectKey ∉ rows.map ProofMetadataRow.objectKey, .integrityError "uq_proof_metadata_object_key"),
    ((proofOf row).address ∉ rows.map fun stored => (proofOf stored).address,
      .integrityError "uq_proof_metadata_digest"),
    ((orders.get? row.orderId).isSome, .integrityError "fk_proof_metadata_order")]

def add (proof : StoredProof) (request : UploadRequest) (rows : Rows) : Except Error Rows :=
  let row := rowOf proof request
  match (columnChecks row ++ keyChecks request.orders rows row).refusal with
  | some refusal => .error refusal
  | none => .ok (rows ++ [row])

/-- The row that the query selects. -/
def rowAt (rows : Rows) (address : ProofAddress) : Option StoredProof :=
  (rows.find? fun row => (proofOf row).address = address).map proofOf

/-- PostgreSQL takes no text with a NUL as the parameter of a query. -/
def find (rows : Rows) (address : ProofAddress) : Except Error (Option StoredProof) :=
  if Char.ofNat 0 ∈ address.2.2.toList then .error (.dataError "sha256") else .ok (rowAt rows address)

/-- `upload_proof` in a transaction of its own, which an exception rolls back. -/
def upload (settings : ProofSettings) (s : ProofStore Rows) (request : UploadRequest) :
    Except UploadFailure UploadAnswer × ProofStore Rows :=
  match uploadProof add settings s request with
  | (.ok answer, s') => (.ok answer, s')
  | (.error failed, s') => (.error failed, { s' with metadata := s.metadata })

end SqlAlchemyProofMetadataRepository

section

variable {settings : ProofSettings} {request : UploadRequest} {validated : ValidatedProof}

/-- What inspection promises of a proof that it lets through. -/
structure StoredProof.Inspected (settings : ProofSettings) (request : UploadRequest) (proof : StoredProof) : Prop where
  order : proof.orderId = request.orderId
  digest : proof.sha256.toList.length = 64 ∧ PyRegex.Within PyRegex.lowerHex proof.sha256.toList
  media : proof.mediaType = "image/png" ∨ proof.mediaType = "image/jpeg"
  key : ∃ suffix, (suffix = ".png" ∨ suffix = ".jpg") ∧
    proof.key = proofObjectKey proof.tenantId proof.orderId proof.sha256 suffix
  size : 0 < proof.size ∧ (proof.size : Int) ≤ settings.maxUploadBytes

theorem readProof_size {maxBytes : Int} {reads seen chunks : List Bytes} {size total : Nat}
    (counted : size = seen.flatten.length) (within : seen = [] ∨ (size : Int) ≤ maxBytes)
    (read : (readProof maxBytes reads seen size).1 = .ok (chunks, total)) :
    total = chunks.flatten.length ∧ (chunks = [] ∨ (total : Int) ≤ maxBytes) := by
  induction reads generalizing seen size with
  | nil =>
    obtain ⟨rfl, rfl⟩ := Prod.mk.inj (Except.ok.inj read)
    exact ⟨counted, within⟩
  | cons chunk later ih =>
    simp only [readProof] at read
    split_ifs at read with empty large
    · obtain ⟨rfl, rfl⟩ := Prod.mk.inj (Except.ok.inj read)
      exact ⟨counted, within⟩
    · exact ih (by simp [counted]) (.inr (by omega)) read

theorem flatten_pos_of_supported {chunks : List Bytes} (image : Supported chunks.flatten) :
    0 < chunks.flatten.length ∧ chunks ≠ [] := by
  have bytes : 0 < chunks.flatten.length := by
    rcases image with ⟨rest, same⟩ | ⟨rest, same⟩
    · rw [← same, List.length_append]
      exact Nat.add_pos_left (by decide) _
    · rw [← same, List.length_append]
      exact Nat.add_pos_left (by decide) _
  refine ⟨bytes, ?_⟩
  rintro rfl
  simp at bytes

theorem detectImage_ok {body : Bytes} {mediaType suffix : String}
    (detected : detectImage body = .ok (mediaType, suffix)) :
    Supported body ∧ (mediaType = "image/png" ∨ mediaType = "image/jpeg") ∧ (suffix = ".png" ∨ suffix = ".jpg") := by
  rcases detectImage_cases body with ⟨png, -, found⟩ | ⟨jpeg, -, found⟩ | ⟨-, found⟩
  · obtain ⟨rfl, rfl⟩ := Prod.mk.inj (Except.ok.inj (detected.symm.trans found))
    exact ⟨.inl png, .inl rfl, .inl rfl⟩
  · obtain ⟨rfl, rfl⟩ := Prod.mk.inj (Except.ok.inj (detected.symm.trans found))
    exact ⟨.inr jpeg, .inr rfl, .inr rfl⟩
  · rw [found] at detected
    simp at detected

/-- The proof that inspection makes of the bytes it has read. -/
theorem inspectProof_ok {sha : Sha256} {folding : PyText.CaseFolding} {file : UploadFile} {tenantId orderId : UUID}
    {maxBytes : Int} (inspected : (inspectProof sha folding file tenantId orderId maxBytes).1 = .ok validated) :
    ∃ mediaType suffix, (mediaType = "image/png" ∨ mediaType = "image/jpeg") ∧ (suffix = ".png" ∨ suffix = ".jpg") ∧
      0 < validated.content.length ∧ (validated.content.length : Int) ≤ maxBytes ∧
      validated.metadata = ⟨proofObjectKey tenantId orderId (sha.hexdigest validated.content) suffix, tenantId, orderId,
        mediaType, validated.content.length, sha.hexdigest validated.content⟩ := by
  have sizes : ∀ chunks total, (readProof maxBytes file.reads [] 0).1 = .ok (chunks, total) →
      total = chunks.flatten.length ∧ (chunks = [] ∨ (total : Int) ≤ maxBytes) :=
    fun chunks total => readProof_size rfl (.inl rfl)
  unfold inspectProof at inspected
  rcases result : readProof maxBytes file.reads [] 0 with ⟨raised | ⟨chunks, total⟩, left⟩
  · simp [result] at inspected
  · obtain ⟨counted, within⟩ := sizes chunks total (by rw [result])
    have same : validateProof sha folding file.filename tenantId orderId chunks total =
        validateProof sha folding file.filename tenantId orderId [chunks.flatten] total := by
      simp only [validateProof, List.flatten_singleton]
    simp only [result, same] at inspected
    cases detected : detectImage chunks.flatten with
    | error raised =>
      simp only [validateProof, List.flatten_singleton, detected, bind, Except.bind, reduceCtorEq] at inspected
    | ok found =>
      obtain ⟨mediaType, suffix⟩ := found
      obtain ⟨image, media, known⟩ := detectImage_ok detected
      obtain ⟨bytes, some_chunk⟩ := flatten_pos_of_supported image
      rw [validateProof_of_detected sha folding total detected] at inspected
      split_ifs at inspected with named
      cases inspected
      exact ⟨mediaType, suffix, media, known, bytes, counted ▸ within.resolve_left some_chunk, by rw [counted]⟩

theorem admitProof_ok (admitted : admitProof settings request = .ok validated) :
    (request.orders.get? request.orderId).isSome ∧ validated.metadata.Inspected settings request := by
  unfold admitProof at admitted
  cases found : request.orders.get? request.orderId with
  | none => simp [found] at admitted
  | some order =>
    simp only [found] at admitted
    split_ifs at admitted with owner
    cases inspected : (inspectProof settings.sha settings.folding request.file request.actor.tenantId request.orderId
        settings.maxUploadBytes).1 with
    | error raised => simp [inspected] at admitted
    | ok proof =>
      have same : proof = validated := by simpa [inspected] using admitted
      subst same
      obtain ⟨mediaType, suffix, media, known, bytes, within, made⟩ := inspectProof_ok inspected
      refine ⟨rfl, ?_⟩
      rw [made]
      exact ⟨rfl, ⟨settings.sha.hexdigest_length _, hexText_within _⟩, media, ⟨suffix, known, rfl⟩, bytes, within⟩

theorem nul_notMem_of_within {chars text : List Char} (inside : PyRegex.Within chars text)
    (plain : Char.ofNat 0 ∉ chars) : Char.ofNat 0 ∉ text := fun mem => plain (inside _ mem)

/-- A key has 149 characters, none of them NUL. -/
theorem fitsVarchar_proofObjectKey (tenantId orderId : UUID) {digest suffix : String}
    (size : digest.toList.length = 64) (hex : PyRegex.Within PyRegex.lowerHex digest.toList)
    (known : suffix = ".png" ∨ suffix = ".jpg") :
    fitsVarchar 300 (proofObjectKey tenantId orderId digest suffix) = true := by
  have tail : suffix.toList.length = 4 ∧ Char.ofNat 0 ∉ suffix.toList := by
    rcases known with rfl | rfl <;> decide
  have tenant := nul_notMem_of_within (uuid_within tenantId) (by decide)
  have order := nul_notMem_of_within (uuid_within orderId) (by decide)
  have content := nul_notMem_of_within hex (by decide)
  have fixed : Char.ofNat 0 ∉ "proofs/".toList ∧ Char.ofNat 0 ∉ "/".toList := by decide
  have lengths : "proofs/".toList.length = 7 ∧ "/".toList.length = 1 := by decide
  simp only [fitsVarchar, proofObjectKey, String.toList_append, List.length_append, List.mem_append, size, tail,
    tenantId.str_length, orderId.str_length, lengths, tenant, order, content, fixed, or_self, not_false_eq_true,
    decide_true, Bool.and_true]
  decide

/-- The digest of a key follows the two identifiers at fixed places. -/
theorem proofObjectKey_injective {tenantId orderId tenantId' orderId' : UUID} {digest digest' suffix suffix' : String}
    (size : digest.toList.length = 64) (size' : digest'.toList.length = 64)
    (same : proofObjectKey tenantId orderId digest suffix = proofObjectKey tenantId' orderId' digest' suffix') :
    tenantId = tenantId' ∧ orderId = orderId' ∧ digest = digest' := by
  have chars := congrArg String.toList same
  simp only [proofObjectKey, String.toList_append, List.append_assoc] at chars
  have afterWord := List.append_cancel_left chars
  obtain ⟨tenant, rest⟩ := List.append_inj afterWord (by rw [UUID.str_length, UUID.str_length])
  obtain ⟨order, rest⟩ := List.append_inj (List.append_cancel_left rest) (by rw [UUID.str_length, UUID.str_length])
  obtain ⟨content, -⟩ := List.append_inj (List.append_cancel_left rest) (by rw [size, size'])
  exact ⟨UUID.str_injective (String.toList_injective tenant), UUID.str_injective (String.toList_injective order),
    String.toList_injective content⟩

theorem address_of_key {proof proof' : StoredProof} {request' : UploadRequest}
    (inspected : proof.Inspected settings request) (inspected' : proof'.Inspected settings request')
    (same : proof.key = proof'.key) : proof.address = proof'.address := by
  obtain ⟨suffix, -, key⟩ := inspected.key
  obtain ⟨suffix', -, key'⟩ := inspected'.key
  rw [key, key'] at same
  obtain ⟨tenant, order, content⟩ := proofObjectKey_injective inspected.digest.1 inspected'.digest.1 same
  rw [StoredProof.address, StoredProof.address, tenant, order, content]

namespace SqlAlchemyProofMetadataRepository

theorem columnChecks_pass {proof : StoredProof} (inspected : proof.Inspected settings request) :
    ∀ check ∈ columnChecks (rowOf proof request), check.1 = true := by
  obtain ⟨suffix, known, key⟩ := inspected.key
  have keyFits : fitsVarchar 300 proof.key = true :=
    key ▸ fitsVarchar_proofObjectKey _ _ inspected.digest.1 inspected.digest.2 known
  have kindFits : fitsVarchar 20 request.proofKind.value = true ∧ request.proofKind.value ∈ ["pickup", "delivery"] := by
    cases request.proofKind <;> decide
  have mediaFits : fitsVarchar 100 proof.mediaType = true := by
    rcases inspected.media with media | media <;> rw [media] <;> decide
  have sizeFits : fitsInteger proof.size = true := by
    have bound := settings.upload_bounds.2
    have size := inspected.size.2
    simp only [fitsInteger, Bool.and_eq_true, decide_eq_true_eq]
    omega
  have digestFits : fitsVarchar 64 proof.sha256 = true := by
    simp only [fitsVarchar, inspected.digest.1, le_refl, decide_true, Bool.true_and, decide_eq_true_eq]
    exact nul_notMem_of_within inspected.digest.2 (by decide)
  simp [columnChecks, rowOf, keyFits, kindFits, mediaFits, sizeFits, digestFits, inspected.size.1]

end SqlAlchemyProofMetadataRepository

theorem proofAnswer_ok {proof : StoredProof} (inspected : proof.Inspected settings request) :
    ∃ answer, proofAnswer settings request proof = .ok answer ∧ answer.key = proof.key ∧ answer.size = proof.size ∧
      answer.sha256 = proof.sha256 := by
  obtain ⟨suffix, known, key⟩ := inspected.key
  have matching : PyRegex.fullmatch proofKey proof.key = true :=
    key ▸ fullmatch_proofObjectKey _ _ inspected.digest.1 inspected.digest.2 known
  have ttl := settings.ttl_bounds
  have policy : 1 ≤ settings.linkTtlSeconds ∧ settings.linkTtlSeconds ≤ settings.signer.maxTtlSeconds := by
    rw [settings.signer_ttl]
    omega
  have start := request.issuedAt.2.1
  have room := request.room
  have ends : request.issuedAt.shift (settings.linkTtlSeconds * 1000000) =
      some ⟨request.issuedAt.1 + settings.linkTtlSeconds * 1000000, by omega, by omega⟩ := by
    unfold Moment.shift
    rw [dif_pos ⟨by omega, by omega⟩]
  rw [proofAnswer, issueGet_ok settings.sha settings.signer matching policy ends]
  exact ⟨_, rfl, rfl, rfl, rfl⟩

/-- The proof that a request stores, if it comes to that. -/
def UploadRequest.stored (settings : ProofSettings) (request : UploadRequest) : Option StoredProof :=
  match admitProof settings request with
  | .ok validated => some validated.metadata
  | .error _ => none

theorem inspected_of_stored {proof : StoredProof} (stored : request.stored settings = some proof) :
    (request.orders.get? request.orderId).isSome ∧ proof.Inspected settings request := by
  unfold UploadRequest.stored at stored
  split at stored
  next validated admitted =>
    obtain rfl := Option.some.inj stored
    exact admitProof_ok admitted
  next => simp at stored

/-- What a request is answered when nothing stands in the way of its metadata. -/
def UploadRequest.plainAnswer (settings : ProofSettings) (request : UploadRequest) :
    Except UploadFailure UploadAnswer :=
  match admitProof settings request with
  | .ok validated => proofAnswer settings request validated.metadata
  | .error failed => .error failed

theorem plainAnswer_of_stored {proof : StoredProof} (stored : request.stored settings = some proof) :
    ∃ answer, request.plainAnswer settings = .ok answer ∧ answer.key = proof.key ∧ answer.size = proof.size ∧
      answer.sha256 = proof.sha256 := by
  have inspected := (inspected_of_stored stored).2
  unfold UploadRequest.stored at stored
  unfold UploadRequest.plainAnswer
  split at stored
  next validated admitted =>
    obtain rfl := Option.some.inj stored
    simpa only [admitted] using proofAnswer_ok inspected
  next => simp at stored

/-- The repository in memory answers every request as if it were the first, and keeps its proof. -/
theorem InMemoryProofMetadataRepository.upload_eq (s : ProofStore Records) :
    (upload settings s request).1 = request.plainAnswer settings ∧
      (upload settings s request).2.metadata = match request.stored settings with
        | some proof => s.metadata.set proof.address proof
        | none => s.metadata := by
  unfold upload uploadProof UploadRequest.plainAnswer UploadRequest.stored
  cases admitProof settings request with
  | error failed => exact ⟨rfl, rfl⟩
  | ok validated => exact ⟨rfl, rfl⟩

namespace SqlAlchemyProofMetadataRepository

theorem add_refused (request : UploadRequest) {proof : StoredProof} {rows : Rows}
    (taken : proof.address ∈ rows.map fun row => (proofOf row).address) :
    ∃ refusal, add proof request rows = .error refusal := by
  unfold add
  cases checked : (columnChecks (rowOf proof request) ++
      keyChecks request.orders rows (rowOf proof request)).refusal with
  | some refusal => exact ⟨refusal, by simp only [checked]⟩
  | none =>
    have unique : proof.address ∉ rows.map fun row => (proofOf row).address := by
      have passed := Checks.refusal_eq_none.mp checked (_, _)
        (List.mem_append_right _ (List.mem_cons_of_mem _ (List.mem_cons_of_mem _ List.mem_cons_self)))
      exact of_decide_eq_true passed
    exact absurd taken unique

theorem add_accepted {proof : StoredProof} {rows : Rows} (inspected : proof.Inspected settings request)
    (known : (request.orders.get? request.orderId).isSome) (fresh : request.rowId ∉ rows.map ProofMetadataRow.id)
    (before : ∀ row ∈ rows, ∃ other, (proofOf row).Inspected settings other)
    (free : proof.address ∉ rows.map fun row => (proofOf row).address) :
    add proof request rows = .ok (rows ++ [rowOf proof request]) := by
  have keyFree : proof.key ∉ rows.map ProofMetadataRow.objectKey := by
    intro taken
    obtain ⟨row, mem, same⟩ := List.mem_map.mp taken
    obtain ⟨other, inspected'⟩ := before row mem
    exact free (List.mem_map.mpr ⟨row, mem, address_of_key inspected' inspected same⟩)
  have keysPass : ∀ check ∈ keyChecks request.orders rows (rowOf proof request), check.1 = true := by
    have order : (request.orders.get? proof.orderId).isSome := inspected.order ▸ known
    have address : (proofOf (rowOf proof request)).address ∉ rows.map fun row => (proofOf row).address := free
    simp only [keyChecks, List.forall_mem_cons, decide_eq_true_eq]
    exact ⟨fresh, keyFree, address, order, fun _ h => absurd h List.not_mem_nil⟩
  have passed : (columnChecks (rowOf proof request) ++ keyChecks request.orders rows (rowOf proof request)).refusal =
      none := by
    refine Checks.refusal_eq_none.mpr fun check mem => ?_
    rcases List.mem_append.mp mem with own | against
    · exact columnChecks_pass inspected check own
    · exact keysPass check against
  simp only [add, passed]

/-- A request that stores nothing is answered without a look at the table. -/
theorem upload_of_not_stored {s : ProofStore Rows} (nothing : request.stored settings = none) :
    (upload settings s request).1 = request.plainAnswer settings ∧
      (upload settings s request).2.metadata = s.metadata := by
  unfold UploadRequest.stored at nothing
  unfold upload uploadProof UploadRequest.plainAnswer
  cases admitted : admitProof settings request with
  | error failed => exact ⟨rfl, rfl⟩
  | ok validated => simp [admitted] at nothing

theorem upload_of_add {s : ProofStore Rows} {proof : StoredProof} {rows : Rows}
    (stored : request.stored settings = some proof) (added : add proof request s.metadata = .ok rows) :
    (upload settings s request).1 = request.plainAnswer settings ∧ (upload settings s request).2.metadata = rows := by
  obtain ⟨answer, answered, -⟩ := plainAnswer_of_stored stored
  unfold UploadRequest.stored at stored
  unfold UploadRequest.plainAnswer at answered ⊢
  unfold upload uploadProof
  cases admitted : admitProof settings request with
  | error failed => simp [admitted] at stored
  | ok validated =>
    simp only [admitted] at stored answered
    obtain rfl := Option.some.inj stored
    simp only [added, answered, and_self]

theorem upload_of_refusal {s : ProofStore Rows} {proof : StoredProof} {refusal : Error}
    (stored : request.stored settings = some proof) (refused : add proof request s.metadata = .error refusal) :
    (upload settings s request).1 = .error (.raised refusal) := by
  unfold UploadRequest.stored at stored
  unfold upload uploadProof
  cases admitted : admitProof settings request with
  | error failed => simp [admitted] at stored
  | ok validated =>
    simp only [admitted] at stored
    obtain rfl := Option.some.inj stored
    simp only [refused]

end SqlAlchemyProofMetadataRepository

/-- The outcomes of requests one after the other, and what is stored after them. -/
def uploadOutcomes {μ : Type} (upload : ProofStore μ → UploadRequest → Except UploadFailure UploadAnswer × ProofStore μ)
    (s : ProofStore μ) (requests : List UploadRequest) : List (Except UploadFailure UploadAnswer) :=
  (Exec.traceOf (fun s request => (upload s request).2) s requests).map fun t => (upload t.pre t.label).1

def storeAfter {μ : Type} (upload : ProofStore μ → UploadRequest → Except UploadFailure UploadAnswer × ProofStore μ)
    (s : ProofStore μ) (requests : List UploadRequest) : ProofStore μ :=
  requests.foldl (fun s request => (upload s request).2) s

theorem uploadOutcomes_concat {μ : Type}
    (upload : ProofStore μ → UploadRequest → Except UploadFailure UploadAnswer × ProofStore μ) (s : ProofStore μ)
    (requests : List UploadRequest) (last : UploadRequest) :
    uploadOutcomes upload s (requests ++ [last]) =
      uploadOutcomes upload s requests ++ [(upload (storeAfter upload s requests) last).1] := by
  simp only [uploadOutcomes, Exec.traceOf_append, Exec.traceOf, List.map_append, List.map_cons, List.map_nil,
    storeAfter]

theorem storeAfter_concat {μ : Type}
    (upload : ProofStore μ → UploadRequest → Except UploadFailure UploadAnswer × ProofStore μ) (s : ProofStore μ)
    (requests : List UploadRequest) (last : UploadRequest) :
    storeAfter upload s (requests ++ [last]) = (upload (storeAfter upload s requests) last).2 :=
  List.foldl_concat ..

/-- The proofs that the requests store, in their order. -/
def storedProofs (settings : ProofSettings) (requests : List UploadRequest) : List StoredProof :=
  requests.filterMap (UploadRequest.stored settings)

/-- No two requests store a proof of one order with one digest. -/
def NoRepeat (settings : ProofSettings) (requests : List UploadRequest) : Prop :=
  ((storedProofs settings requests).map StoredProof.address).Nodup

theorem storedProofs_concat (requests : List UploadRequest) (last : UploadRequest) :
    storedProofs settings (requests ++ [last]) = storedProofs settings requests ++ (last.stored settings).toList := by
  rw [storedProofs, List.filterMap_append]
  cases stored : last.stored settings <;> simp [stored, storedProofs]

theorem noRepeat_concat (requests : List UploadRequest) (last : UploadRequest) :
    NoRepeat settings (requests ++ [last]) ↔ NoRepeat settings requests ∧ ∀ proof, last.stored settings = some proof →
      proof.address ∉ (storedProofs settings requests).map StoredProof.address := by
  rw [NoRepeat, storedProofs_concat]
  cases stored : last.stored settings with
  | none => simp [NoRepeat]
  | some proof =>
    rw [Option.toList_some, List.map_append, List.map_singleton, ← List.concat_eq_append, List.nodup_concat]
    simp only [NoRepeat, Option.some.injEq, forall_eq', and_comm]

section InMemory

open InMemoryProofMetadataRepository

abbrev emptyMemory : ProofStore Records := ⟨.empty, .empty⟩

theorem inMemory_outcomes (requests : List UploadRequest) :
    uploadOutcomes (upload settings) emptyMemory requests = requests.map (UploadRequest.plainAnswer settings) := by
  induction requests using List.reverseRecOn with
  | nil => rfl
  | append_singleton requests last ih =>
    rw [uploadOutcomes_concat, ih, (upload_eq _).1, List.map_append, List.map_singleton]

theorem inMemory_found {requests : List UploadRequest} (distinct : NoRepeat settings requests) :
    ∀ proof ∈ storedProofs settings requests,
      (storeAfter (upload settings) emptyMemory requests).metadata.get? proof.address = some proof := by
  induction requests using List.reverseRecOn with
  | nil => simp [storedProofs]
  | append_singleton requests last ih =>
    intro proof mem
    obtain ⟨before, new⟩ := (noRepeat_concat requests last).mp distinct
    rw [storedProofs_concat, List.mem_append] at mem
    rw [storeAfter_concat, (upload_eq _).2]
    cases stored : last.stored settings with
    | none =>
      simp only [stored, Option.toList_none, List.not_mem_nil, or_false] at mem
      exact ih before proof mem
    | some added =>
      simp only [stored, Option.toList_some, List.mem_singleton] at mem
      rcases mem with old | rfl
      · have other : proof.address ≠ added.address := by
          intro same
          exact new added stored (same ▸ List.mem_map_of_mem old)
        rw [Dict.get?_set_of_ne _ _ other]
        exact ih before proof old
      · exact Dict.get?_set_self ..

end InMemory

section Sql

open SqlAlchemyProofMetadataRepository

abbrev emptyTable : ProofStore Rows := ⟨.empty, []⟩

/-- The table holds the proofs of the requests, each under the identifier of its own request. -/
structure HoldsProofs (settings : ProofSettings) (requests : List UploadRequest) (rows : Rows) : Prop where
  proofs : rows.map proofOf = storedProofs settings requests
  origins : ∀ row ∈ rows, ∃ request ∈ requests, row.id = request.rowId ∧ (proofOf row).Inspected settings request

theorem HoldsProofs.addresses {requests : List UploadRequest} {rows : Rows}
    (held : HoldsProofs settings requests rows) :
    (rows.map fun row => (proofOf row).address) = (storedProofs settings requests).map StoredProof.address := by
  rw [← held.proofs, List.map_map]
  rfl

/-- A request that repeats nothing is answered and stored as if it were the first. -/
theorem HoldsProofs.upload {requests : List UploadRequest} {s : ProofStore Rows} {last : UploadRequest}
    (held : HoldsProofs settings requests s.metadata) (fresh : last.rowId ∉ requests.map UploadRequest.rowId)
    (free : ∀ proof, last.stored settings = some proof →
      proof.address ∉ (storedProofs settings requests).map StoredProof.address) :
    (SqlAlchemyProofMetadataRepository.upload settings s last).1 = last.plainAnswer settings ∧
      HoldsProofs settings (requests ++ [last])
        (SqlAlchemyProofMetadataRepository.upload settings s last).2.metadata := by
  have origins : ∀ row ∈ s.metadata, ∃ request ∈ requests ++ [last], row.id = request.rowId ∧
      (proofOf row).Inspected settings request := by
    intro row mem
    obtain ⟨request, made, rest⟩ := held.origins row mem
    exact ⟨request, List.mem_append_left _ made, rest⟩
  cases stored : last.stored settings with
  | none =>
    obtain ⟨answered, kept⟩ := upload_of_not_stored (s := s) stored
    refine ⟨answered, ?_⟩
    rw [kept]
    exact ⟨by simp [storedProofs_concat, stored, held.proofs], origins⟩
  | some proof =>
    obtain ⟨known, inspected⟩ := inspected_of_stored stored
    have newId : last.rowId ∉ s.metadata.map ProofMetadataRow.id := by
      intro taken
      obtain ⟨row, mem, same⟩ := List.mem_map.mp taken
      obtain ⟨request, made, own, -⟩ := held.origins row mem
      exact fresh (List.mem_map.mpr ⟨request, made, own.symm.trans same⟩)
    have before : ∀ row ∈ s.metadata, ∃ other, (proofOf row).Inspected settings other := by
      intro row mem
      obtain ⟨request, -, -, other⟩ := held.origins row mem
      exact ⟨request, other⟩
    have added := add_accepted inspected known newId before (held.addresses ▸ free proof stored)
    obtain ⟨answered, kept⟩ := upload_of_add stored added
    refine ⟨answered, ?_⟩
    rw [kept]
    refine ⟨?_, fun row mem => ?_⟩
    · rw [List.map_append, held.proofs, storedProofs_concat, stored]
      rfl
    · rcases List.mem_append.mp mem with old | new
      · exact origins row old
      · rw [List.mem_singleton.mp new]
        exact ⟨last, by simp, rfl, inspected⟩

theorem sql_outcomes {requests : List UploadRequest} (fresh : (requests.map UploadRequest.rowId).Nodup)
    (distinct : NoRepeat settings requests) :
    uploadOutcomes (SqlAlchemyProofMetadataRepository.upload settings) emptyTable requests =
        requests.map (UploadRequest.plainAnswer settings) ∧
      HoldsProofs settings requests
        (storeAfter (SqlAlchemyProofMetadataRepository.upload settings) emptyTable requests).metadata := by
  induction requests using List.reverseRecOn with
  | nil => exact ⟨rfl, rfl, by simp [storeAfter]⟩
  | append_singleton requests last ih =>
    rw [List.map_append, List.map_singleton, ← List.concat_eq_append, List.nodup_concat] at fresh
    obtain ⟨before, new⟩ := (noRepeat_concat requests last).mp distinct
    obtain ⟨outcomes, held⟩ := ih fresh.2 before
    obtain ⟨answered, next⟩ := held.upload fresh.1 new
    rw [uploadOutcomes_concat, storeAfter_concat, outcomes, answered, List.map_append, List.map_singleton]
    exact ⟨rfl, next⟩

/-- The first repeated proof is refused by the unique keys. -/
theorem distinct_of_sql_outcomes {requests : List UploadRequest} (fresh : (requests.map UploadRequest.rowId).Nodup)
    (same : uploadOutcomes (SqlAlchemyProofMetadataRepository.upload settings) emptyTable requests =
      requests.map (UploadRequest.plainAnswer settings)) : NoRepeat settings requests := by
  induction requests using List.reverseRecOn with
  | nil => exact List.nodup_nil
  | append_singleton requests last ih =>
    rw [List.map_append, List.map_singleton, ← List.concat_eq_append, List.nodup_concat] at fresh
    rw [uploadOutcomes_concat, List.map_append, List.map_singleton] at same
    obtain ⟨earlier, answered⟩ := List.append_inj' same rfl
    have before := ih fresh.2 earlier
    have held := (sql_outcomes fresh.2 before).2
    refine (noRepeat_concat requests last).mpr ⟨before, fun proof stored taken => ?_⟩
    obtain ⟨refusal, refused⟩ := add_refused last (held.addresses ▸ taken)
    obtain ⟨answer, plain, -⟩ := plainAnswer_of_stored stored
    have raised := upload_of_refusal stored refused
    rw [raised, plain] at answered
    simp at answered

theorem find?_address {proofs : List StoredProof} (distinct : (proofs.map StoredProof.address).Nodup)
    {proof : StoredProof} (mem : proof ∈ proofs) :
    (proofs.find? fun other => decide (other.address = proof.address)) = some proof := by
  induction proofs with
  | nil => simp at mem
  | cons first rest ih =>
    rw [List.map_cons, List.nodup_cons] at distinct
    rcases List.mem_cons.mp mem with rfl | mem
    · simp
    · have other : first.address ≠ proof.address := by
        intro same
        exact distinct.1 (same ▸ List.mem_map_of_mem mem)
      rw [List.find?_cons_of_neg (by simpa using other)]
      exact ih distinct.2 mem

theorem sql_found {requests : List UploadRequest} (fresh : (requests.map UploadRequest.rowId).Nodup)
    (distinct : NoRepeat settings requests) : ∀ proof ∈ storedProofs settings requests,
      find (storeAfter (SqlAlchemyProofMetadataRepository.upload settings) emptyTable requests).metadata proof.address =
        .ok (some proof) := by
  intro proof mem
  have held := (sql_outcomes fresh distinct).2
  have first := find?_address distinct mem
  rw [← held.proofs, List.find?_map] at first
  obtain ⟨request, -, stored⟩ := List.mem_filterMap.mp mem
  have plain : Char.ofNat 0 ∉ proof.address.2.2.toList :=
    nul_notMem_of_within (inspected_of_stored stored).2.digest.2 (by decide)
  rw [find, if_neg plain]
  exact congrArg Except.ok first

/-- The two repositories answer every request alike, and both keep returning every proof that was stored. -/
structure RetrySafe (settings : ProofSettings) (requests : List UploadRequest) : Prop where
  outcomes : uploadOutcomes (InMemoryProofMetadataRepository.upload settings) emptyMemory requests =
    uploadOutcomes (SqlAlchemyProofMetadataRepository.upload settings) emptyTable requests
  found : ∀ before later, requests = before ++ later → ∀ proof ∈ storedProofs settings before,
    InMemoryProofMetadataRepository.find
        (storeAfter (InMemoryProofMetadataRepository.upload settings) emptyMemory requests).metadata proof.address =
      .ok (some proof) ∧
    SqlAlchemyProofMetadataRepository.find
        (storeAfter (SqlAlchemyProofMetadataRepository.upload settings) emptyTable requests).metadata proof.address =
      .ok (some proof)

/-- Uploads are safe to retry on both repositories exactly when nothing is retried: as long as no upload
that passes inspection has the tenant, order and digest of an earlier one. -/
theorem uploads_retry_safe_iff (settings : ProofSettings) {requests : List UploadRequest}
    (fresh : (requests.map UploadRequest.rowId).Nodup) :
    RetrySafe settings requests ↔ NoRepeat settings requests := by
  constructor
  · intro safe
    have same := safe.outcomes
    rw [inMemory_outcomes] at same
    exact distinct_of_sql_outcomes fresh same.symm
  · intro distinct
    refine ⟨by rw [inMemory_outcomes, (sql_outcomes fresh distinct).1], ?_⟩
    intro before later shape proof mem
    have stored : proof ∈ storedProofs settings requests := by
      rw [shape, storedProofs, List.filterMap_append]
      exact List.mem_append_left _ mem
    exact ⟨congrArg Except.ok (inMemory_found distinct proof stored), sql_found fresh distinct proof stored⟩

end Sql

end

/-- A JPEG signature followed by five bytes, its SHA-256 digest and the HMAC of its link. -/
def photoBody : Bytes := jpegSignature ++ [0x70, 0x68, 0x6f, 0x74, 0x6f]

def photoDigest : Bytes :=
  [146, 59, 175, 0, 85, 191, 132, 32, 0, 83, 31, 78, 163, 110, 75, 57, 38, 5, 146, 107, 146, 183, 156, 47, 209, 217,
    150, 127, 91, 98, 131, 252]

def photoMac : Bytes :=
  [117, 223, 73, 195, 218, 218, 160, 147, 42, 99, 50, 158, 172, 32, 167, 136, 8, 48, 218, 41, 251, 21, 223, 214, 171,
    225, 166, 90, 38, 204, 66, 107]

def photoKey : String := proofObjectKey 1 2 (hexText photoDigest) ".jpg"

def uploadDigest (body : Bytes) : Bytes := if body = photoBody then photoDigest else imageDigest

def uploadMac (message : Bytes) : Bytes :=
  if message = ProofLinkSigner.message "GET" photoKey linkEnds.timestamp then photoMac else imageMac

theorem uploadDigest_size (body : Bytes) : (uploadDigest body).length = 32 := by
  unfold uploadDigest
  split_ifs <;> rfl

theorem uploadMac_size (_key message : Bytes) : (uploadMac message).length = 32 := by
  unfold uploadMac
  split_ifs <;> rfl

/-- The functions of SHA-256 on the image and the photo, and on their links. -/
def uploadSha : Sha256 := ⟨uploadDigest, fun _ => uploadMac, uploadDigest_size, uploadMac_size⟩

def testUploads : ProofSettings where
  sha := uploadSha
  folding := PyText.asciiFolding
  maxUploadBytes := 5 * 1024 * 1024
  linkTtlSeconds := 300
  signer := testSigner
  upload_bounds := by decide
  ttl_bounds := by decide
  signer_ttl := rfl

def proofOrder : DeliveryOrder where
  id := 2
  tenantId := 1
  customerId := 3
  pickupAddress := "Red street, 1"
  destinationAddress := "Blue street, 2"
  weightGrams := 500
  status := .created
  courierId := none
  version := 1
  createdAt := (Generated.numbered 2).now

/-- Five minutes before `linkEnds`. -/
def uploadedAt : Moment := ⟨739616 * microsecondsPerDay - 239500000, by decide⟩

/-- The customer of the order uploads a file. -/
def fileUpload (rowId : UUID) (name : String) (body : Bytes) : UploadRequest where
  actor := ⟨3, .customer, 1⟩
  orders := Dict.empty.set 2 proofOrder
  orderId := 2
  file := ⟨some name, [body], false⟩
  proofKind := .delivery
  createdAt := uploadedAt
  issuedAt := uploadedAt
  rowId := rowId
  room := by decide

def imageUpload (rowId : UUID) : UploadRequest := fileUpload rowId "proof.png" imageBody

def photoUpload (rowId : UUID) : UploadRequest := fileUpload rowId "proof.jpg" photoBody

theorem imageUpload_stored : ∃ proof, (imageUpload 7).stored testUploads = some proof ∧
    proof.sha256 = hexText imageDigest :=
  ⟨_, rfl, rfl⟩

theorem photoUpload_stored : ∃ proof, (photoUpload 8).stored testUploads = some proof ∧
    proof.sha256 = hexText photoDigest :=
  ⟨_, rfl, rfl⟩

theorem imageUpload_stored_again : (imageUpload 8).stored testUploads = (imageUpload 7).stored testUploads := by
  unfold UploadRequest.stored admitProof
  rfl

/-- Two uploads of one order with different bytes. -/
theorem two_uploads_are_safe : (storedProofs testUploads [imageUpload 7, photoUpload 8]).length = 2 ∧
    RetrySafe testUploads [imageUpload 7, photoUpload 8] := by
  obtain ⟨image, stored, digest⟩ := imageUpload_stored
  obtain ⟨photo, stored', digest'⟩ := photoUpload_stored
  have both : storedProofs testUploads [imageUpload 7, photoUpload 8] = [image, photo] := by
    simp [storedProofs, stored, stored']
  have apart : image.address ≠ photo.address := by
    intro same
    have digests : image.sha256 = photo.sha256 := congrArg (fun place : ProofAddress => place.2.2) same
    rw [digest, digest'] at digests
    exact absurd (hexText_injective digests) (by decide)
  refine ⟨by simp [both], (uploads_retry_safe_iff testUploads (by decide)).mpr ?_⟩
  rw [NoRepeat, both]
  simpa using apart

/-- The same bytes a second time are accepted in memory and refused by PostgreSQL. -/
theorem repeated_image_upload_is_refused :
    ¬ ∀ (settings : ProofSettings) (requests : List UploadRequest),
      (requests.map UploadRequest.rowId).Nodup → RetrySafe settings requests := by
  intro all
  have fresh : ([imageUpload 7, imageUpload 8].map UploadRequest.rowId).Nodup := by decide
  have same := (all testUploads [imageUpload 7, imageUpload 8] fresh).outcomes
  rw [inMemory_outcomes] at same
  have distinct := distinct_of_sql_outcomes fresh same.symm
  obtain ⟨proof, stored, -⟩ := imageUpload_stored
  have again : (imageUpload 8).stored testUploads = some proof := imageUpload_stored_again.trans stored
  have new := ((noRepeat_concat [imageUpload 7] (imageUpload 8)).mp distinct).2 proof again
  exact new (by simp [storedProofs, stored])

end DeliveryService
