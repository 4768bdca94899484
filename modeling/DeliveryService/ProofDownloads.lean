import DeliveryService.ProofMetadata
import DeliveryService.QueryStrings

namespace DeliveryService

/-- A request to `download_proof` with the orders that the service finds. -/
structure DownloadRequest where
  actor : Actor
  orders : Dict UUID DeliveryOrder
  orderId : UUID
  sha256 : String

/-- A body with its media type and the headers that the two downloads add. -/
structure FileAnswer where
  content : Bytes
  mediaType : String
  headers : List (String × String)
deriving DecidableEq

/-- The headers of an attachment that is named after the first characters of the digest. -/
def attachmentHeaders (digest mediaType : String) : List (String × String) :=
  let suffix := if mediaType = "image/png" then ".png" else ".jpg"
  [("Content-Disposition", "attachment; filename=\"proof-" ++ String.ofList (digest.toList.take 12) ++ suffix ++ "\""),
    ("X-Content-Type-Options", "nosniff"), ("Cache-Control", "private, no-store")]

def downloadProof (find : ProofAddress → Except Error (Option StoredProof)) (objects : Dict String (Bytes × String))
    (request : DownloadRequest) : Except Error FileAnswer :=
  match request.orders.get? request.orderId with
  | none => .error (.orderNotFound request.orderId)
  | some order =>
    if ¬ ownsOrder request.actor order then .error (forbidden "order access denied")
    else match find (request.actor.tenantId, request.orderId, request.sha256) with
      | .error raised => .error raised
      | .ok none => .error (.http ⟨404, "proof not found", []⟩)
      | .ok (some proof) =>
        match objects.get? proof.key with
        | none => .error (.http ⟨404, "proof object not found", []⟩)
        | some (content, mediaType) =>
          if mediaType ≠ proof.mediaType then .error (.http ⟨500, "proof metadata mismatch", []⟩)
          else .ok ⟨content, proof.mediaType, attachmentHeaders request.sha256 proof.mediaType⟩

/-- `^[0-9a-f]{64}$` -/
def signaturePattern : PyRegex.Pattern := PyRegex.oneOf PyRegex.lowerHex ^ 64

/-- The validated parameters of `download_presigned_proof`. -/
structure PresignedQuery where
  key : String
  expires : Int
  signature : String
  sized : 1 ≤ key.length ∧ key.length ≤ 300
  positive : 0 < expires
  hexadecimal : PyRegex.fullmatch signaturePattern signature = true

/-- The parameters of a query, where `readInt` is the reading of an integer; `none` is the answer 422. -/
def PresignedQuery.read (readInt : String → Option Int) (query : List Char) : Option PresignedQuery := do
  let params ← parseQsl query
  let key ← queryParam params "key"
  let expires ← (queryParam params "expires").bind readInt
  let signature ← queryParam params "signature"
  if valid : (1 ≤ key.length ∧ key.length ≤ 300) ∧ 0 < expires ∧ PyRegex.fullmatch signaturePattern signature = true then
    some ⟨key, expires, signature, valid.1, valid.2.1, valid.2.2⟩
  else none

/-- The part of a key between its last slash and the dot of its extension. -/
def keyDigest (key : String) : String :=
  String.ofList (PyText.partition '.' ((key.toList.splitOn '/').getLast?.getD [])).1

def linkRefused : UploadFailure := .raised (.http ⟨403, "invalid or expired proof link", []⟩)

def downloadPresignedProof (sha : Sha256) (signer : ProofLinkSigner) (objects : Dict String (Bytes × String))
    (query : PresignedQuery) (now : Moment) : Except UploadFailure FileAnswer :=
  match signer.verifyGet sha query.key query.expires query.signature now with
  | .error (.invalidProofLink _) => .error linkRefused
  | .error raised => .error (.link raised)
  | .ok () =>
    match objects.get? query.key with
    | none => .error (.raised (.http ⟨404, "proof object not found", []⟩))
    | some (content, mediaType) => .ok ⟨content, mediaType, attachmentHeaders (keyDigest query.key) mediaType⟩

/-- The bytes that a request stores, if it comes to that. -/
def UploadRequest.body (settings : ProofSettings) (request : UploadRequest) : Option Bytes :=
  match admitProof settings request with
  | .ok validated => some validated.content
  | .error _ => none

/-- What an upload does to the objects and to what is found of the metadata, on either repository. -/
inductive UploadEffect {μ : Type} (found : μ → ProofAddress → Option StoredProof) (settings : ProofSettings)
    (request : UploadRequest) (s : ProofStore μ) : Except UploadFailure UploadAnswer × ProofStore μ → Prop
  | refused {failed} : admitProof settings request = .error failed → UploadEffect found settings request s (.error failed, s)
  | recorded {validated metadata} : admitProof settings request = .ok validated →
      (∀ address, found metadata address = if address = validated.metadata.address then some validated.metadata
        else found s.metadata address) →
      UploadEffect found settings request s (proofAnswer settings request validated.metadata,
        ⟨s.objects.set validated.metadata.key (validated.content, validated.metadata.mediaType), metadata⟩)
  | unrecorded {validated raised} : admitProof settings request = .ok validated →
      UploadEffect found settings request s (.error (.raised raised),
        ⟨s.objects.set validated.metadata.key (validated.content, validated.metadata.mediaType), s.metadata⟩)

section

variable {settings : ProofSettings} {request request' : UploadRequest} {validated validated' : ValidatedProof}

theorem InMemoryProofMetadataRepository.upload_effect (s : ProofStore Records) :
    UploadEffect Dict.get? settings request s (upload settings s request) := by
  unfold upload uploadProof
  cases admitted : admitProof settings request with
  | error failed => exact .refused admitted
  | ok validated => exact .recorded admitted fun address => Dict.get?_set ..

namespace SqlAlchemyProofMetadataRepository

theorem add_ok {proof : StoredProof} {rows rows' : Rows} (added : add proof request rows = .ok rows') :
    rows' = rows ++ [rowOf proof request] ∧ proof.address ∉ rows.map fun row => (proofOf row).address := by
  constructor
  · unfold add at added
    simp only at added
    split at added
    next => cases added
    next => exact (Except.ok.inj added).symm
  · intro taken
    obtain ⟨refusal, refused⟩ := add_refused request taken
    rw [refused] at added
    cases added

theorem rowAt_concat {proof : StoredProof} {rows : Rows}
    (free : proof.address ∉ rows.map fun row => (proofOf row).address) (address : ProofAddress) :
    rowAt (rows ++ [rowOf proof request]) address =
      if address = proof.address then some proof else rowAt rows address := by
  have last : proofOf (rowOf proof request) = proof := rfl
  rw [rowAt, rowAt, List.find?_append]
  split_ifs with same
  · have absent : rows.find? (fun row => decide ((proofOf row).address = address)) = none := by
      rw [List.find?_eq_none]
      intro row mem
      have other : (proofOf row).address ≠ address := fun equal => free (List.mem_map.mpr ⟨row, mem, equal.trans same⟩)
      simpa using other
    rw [absent, Option.none_or, List.find?_singleton, if_pos (by simp [last, same]), Option.map_some, last]
  · rw [List.find?_singleton, if_neg (by simpa [last] using Ne.symm same), Option.or_none]

theorem upload_effect (s : ProofStore Rows) : UploadEffect rowAt settings request s (upload settings s request) := by
  unfold upload uploadProof
  cases admitted : admitProof settings request with
  | error failed => exact .refused admitted
  | ok validated =>
    cases added : add validated.metadata request s.metadata with
    | error raised =>
      simp only [added]
      exact .unrecorded admitted
    | ok rows =>
      obtain ⟨answer, answered, -⟩ := proofAnswer_ok (admitProof_ok admitted).2
      obtain ⟨rfl, free⟩ := add_ok added
      simp only [added, answered]
      rw [← answered]
      exact .recorded admitted (rowAt_concat free)

end SqlAlchemyProofMetadataRepository

/-- What an admitted upload is stored as: its place follows from the actor, the order and the bytes. -/
structure ValidatedProof.MadeBy (settings : ProofSettings) (request : UploadRequest) (validated : ValidatedProof) :
    Prop where
  address : validated.metadata.address =
    (request.actor.tenantId, request.orderId, settings.sha.hexdigest validated.content)
  key : ∃ suffix, detectImage validated.content = .ok (validated.metadata.mediaType, suffix) ∧
    validated.metadata.key =
      proofObjectKey request.actor.tenantId request.orderId (settings.sha.hexdigest validated.content) suffix

theorem validateProof_ok {sha : Sha256} {folding : PyText.CaseFolding} {filename : Option String}
    {tenantId orderId : UUID} {chunks : List Bytes} {size : Nat}
    (valid : validateProof sha folding filename tenantId orderId chunks size = .ok validated) :
    ∃ suffix, detectImage validated.content = .ok (validated.metadata.mediaType, suffix) ∧
      validated.metadata = ⟨proofObjectKey tenantId orderId (sha.hexdigest validated.content) suffix, tenantId, orderId,
        validated.metadata.mediaType, size, sha.hexdigest validated.content⟩ := by
  cases detected : detectImage chunks.flatten with
  | error raised => simp only [validateProof, detected, bind, Except.bind, reduceCtorEq] at valid
  | ok found =>
    obtain ⟨mediaType, suffix⟩ := found
    simp only [validateProof, detected, bind, Except.bind] at valid
    split_ifs at valid
    cases valid
    exact ⟨suffix, detected, rfl⟩

theorem madeBy_of_admitted (admitted : admitProof settings request = .ok validated) :
    validated.MadeBy settings request := by
  unfold admitProof at admitted
  split at admitted
  next => cases admitted
  next order found =>
    split_ifs at admitted with owner
    split at admitted
    next => cases admitted
    next inspected =>
      cases admitted
      unfold inspectProof at inspected
      rcases result : readProof settings.maxUploadBytes request.file.reads [] 0 with ⟨raised | ⟨chunks, total⟩, left⟩
      · simp [result] at inspected
      · simp only [result] at inspected
        obtain ⟨suffix, detected, made⟩ := validateProof_ok inspected
        refine ⟨?_, suffix, detected, ?_⟩
        · rw [made]
          rfl
        · rw [made]

theorem suffix_of_key {tenantId orderId : UUID} {digest suffix suffix' : String}
    (same : proofObjectKey tenantId orderId digest suffix = proofObjectKey tenantId orderId digest suffix') :
    suffix = suffix' := by
  have chars := congrArg String.toList same
  simp only [proofObjectKey, String.toList_append] at chars
  exact String.toList_injective (List.append_cancel_left chars)

theorem mediaType_of_suffix {body body' : Bytes} {mediaType mediaType' suffix : String}
    (detected : detectImage body = .ok (mediaType, suffix)) (detected' : detectImage body' = .ok (mediaType', suffix)) :
    mediaType = mediaType' := by
  have shape : ∀ {body : Bytes} {mediaType : String}, detectImage body = .ok (mediaType, suffix) →
      mediaType = if suffix = ".png" then "image/png" else "image/jpeg" := by
    intro body mediaType detected
    rcases detectImage_cases body with ⟨-, -, found⟩ | ⟨-, -, found⟩ | ⟨-, found⟩
    · obtain ⟨rfl, rfl⟩ := Prod.mk.inj (Except.ok.inj (detected.symm.trans found))
      rfl
    · obtain ⟨rfl, rfl⟩ := Prod.mk.inj (Except.ok.inj (detected.symm.trans found))
      rfl
    · rw [found] at detected
      cases detected
  rw [shape detected, shape detected']

/-- Uploads that share a key share everything but, after a collision, their bytes. -/
theorem ValidatedProof.MadeBy.same_key (made : validated.MadeBy settings request)
    (made' : validated'.MadeBy settings request') (same : validated.metadata.key = validated'.metadata.key) :
    validated.metadata.address = validated'.metadata.address ∧
      validated.metadata.mediaType = validated'.metadata.mediaType ∧
      settings.sha.hexdigest validated.content = settings.sha.hexdigest validated'.content := by
  obtain ⟨suffix, detected, key⟩ := made.key
  obtain ⟨suffix', detected', key'⟩ := made'.key
  rw [key, key'] at same
  obtain ⟨tenant, order, digest⟩ :=
    proofObjectKey_injective (settings.sha.hexdigest_length _) (settings.sha.hexdigest_length _) same
  rw [tenant, order, digest] at same
  obtain rfl := suffix_of_key same
  exact ⟨by rw [made.address, made'.address, tenant, order, digest], mediaType_of_suffix detected detected', digest⟩

/-- The objects and the metadata after some requests: every object and every record comes from one of them,
and no record is without its object. -/
structure Shelved (settings : ProofSettings) (requests : List UploadRequest)
    (found : ProofAddress → Option StoredProof) (objects : Dict String (Bytes × String)) : Prop where
  object : ∀ key content mediaType, objects.get? key = some (content, mediaType) → ∃ request ∈ requests, ∃ validated,
    admitProof settings request = .ok validated ∧ validated.metadata.key = key ∧ validated.content = content ∧
      validated.metadata.mediaType = mediaType
  record : ∀ address proof, found address = some proof → proof.address = address ∧ ∃ request ∈ requests, ∃ validated,
    admitProof settings request = .ok validated ∧ validated.metadata = proof
  complete : ∀ address proof, found address = some proof → ∃ stored, objects.get? proof.key = some stored

variable {μ : Type} {found : μ → ProofAddress → Option StoredProof} {s : ProofStore μ} {requests : List UploadRequest}
  {upload : ProofStore μ → UploadRequest → Except UploadFailure UploadAnswer × ProofStore μ}
  {outcome : Except UploadFailure UploadAnswer × ProofStore μ}

theorem Shelved.put {found : ProofAddress → Option StoredProof} {objects : Dict String (Bytes × String)}
    (shelved : Shelved settings requests found objects) (admitted : admitProof settings request = .ok validated) :
    Shelved settings (requests ++ [request]) found
      (objects.set validated.metadata.key (validated.content, validated.metadata.mediaType)) where
  object key content mediaType stored := by
    rw [Dict.get?_set] at stored
    split_ifs at stored with here
    · obtain ⟨rfl, rfl⟩ := Prod.mk.inj (Option.some.inj stored)
      exact ⟨request, by simp, validated, admitted, here.symm, rfl, rfl⟩
    · obtain ⟨origin, mem, rest⟩ := shelved.object key content mediaType stored
      exact ⟨origin, List.mem_append_left _ mem, rest⟩
  record address proof listed := by
    obtain ⟨own, origin, mem, rest⟩ := shelved.record address proof listed
    exact ⟨own, origin, List.mem_append_left _ mem, rest⟩
  complete address proof listed := by
    rw [Dict.get?_set]
    split_ifs
    · exact ⟨_, rfl⟩
    · exact shelved.complete address proof listed

theorem Shelved.after_effect (shelved : Shelved settings requests (found s.metadata) s.objects)
    (effect : UploadEffect found settings request s outcome) :
    Shelved settings (requests ++ [request]) (found outcome.2.metadata) outcome.2.objects := by
  cases effect with
  | refused _ =>
    refine ⟨fun key content mediaType stored => ?_, fun address proof listed => ?_, shelved.complete⟩
    · obtain ⟨origin, mem, rest⟩ := shelved.object key content mediaType stored
      exact ⟨origin, List.mem_append_left _ mem, rest⟩
    · obtain ⟨own, origin, mem, rest⟩ := shelved.record address proof listed
      exact ⟨own, origin, List.mem_append_left _ mem, rest⟩
  | unrecorded admitted => exact shelved.put admitted
  | @recorded validated metadata admitted recorded =>
    have put := shelved.put admitted
    refine ⟨put.object, fun address proof listed => ?_, fun address proof listed => ?_⟩
    · rw [recorded] at listed
      split_ifs at listed with here
      · obtain rfl := Option.some.inj listed
        exact ⟨here.symm, request, by simp, validated, admitted, rfl⟩
      · exact put.record address proof listed
    · rw [recorded] at listed
      split_ifs at listed with here
      · obtain rfl := Option.some.inj listed
        exact ⟨_, Dict.get?_set_self ..⟩
      · exact put.complete address proof listed

theorem shelved_storeAfter (effect : ∀ s request, UploadEffect found settings request s (upload s request))
    (nothing : ∀ address, found s.metadata address = none) (bare : s.objects = .empty) (requests : List UploadRequest) :
    Shelved settings requests (found (storeAfter upload s requests).metadata) (storeAfter upload s requests).objects := by
  induction requests using List.reverseRecOn with
  | nil =>
    refine ⟨fun key content mediaType stored => ?_, fun address proof listed => ?_, fun address proof listed => ?_⟩
    · simp [storeAfter, bare] at stored
    · simp [storeAfter, nothing] at listed
    · simp [storeAfter, nothing] at listed
  | append_singleton requests last ih =>
    rw [storeAfter_concat]
    exact ih.after_effect (effect _ last)

theorem UploadEffect.listed {address : ProofAddress} (effect : UploadEffect found settings request s outcome)
    (listed : (found s.metadata address).isSome = true) : (found outcome.2.metadata address).isSome = true := by
  cases effect with
  | refused _ => exact listed
  | unrecorded _ => exact listed
  | recorded _ recorded =>
    rw [recorded]
    split_ifs
    · rfl
    · exact listed

theorem listed_storeAfter {address : ProofAddress}
    (effect : ∀ s request, UploadEffect found settings request s (upload s request)) (later : List UploadRequest)
    (listed : (found s.metadata address).isSome = true) :
    (found (storeAfter upload s later).metadata address).isSome = true := by
  induction later using List.reverseRecOn with
  | nil => exact listed
  | append_singleton later last ih =>
    rw [storeAfter_concat]
    exact (effect _ last).listed ih

/-- An upload that is answered has been admitted and recorded. -/
theorem UploadEffect.accepted {answer : UploadAnswer} (effect : UploadEffect found settings request s outcome)
    (answered : outcome.1 = .ok answer) : ∃ validated, admitProof settings request = .ok validated ∧
      (found outcome.2.metadata validated.metadata.address).isSome = true ∧
      proofAnswer settings request validated.metadata = .ok answer := by
  cases effect with
  | refused _ => cases answered
  | unrecorded _ => cases answered
  | recorded admitted recorded =>
    refine ⟨_, admitted, ?_, answered⟩
    rw [recorded, if_pos rfl]
    rfl

theorem proofAnswer_fields {proof : StoredProof} {answer : UploadAnswer}
    (answered : proofAnswer settings request proof = .ok answer) :
    answer.sha256 = proof.sha256 ∧ answer.mediaType = proof.mediaType ∧ answer.key = proof.key := by
  unfold proofAnswer at answered
  split at answered
  next => cases answered
  next =>
    cases answered
    exact ⟨rfl, rfl, rfl⟩

/-- The actor may read the order that is stored under the id. -/
def DownloadRequest.Permitted (request : DownloadRequest) : Prop :=
  ∃ order, request.orders.get? request.orderId = some order ∧ ownsOrder request.actor order = true

def DownloadRequest.address (request : DownloadRequest) : ProofAddress :=
  (request.actor.tenantId, request.orderId, request.sha256)

/-- No two uploads of different bytes have one digest. -/
def NoCollision (settings : ProofSettings) (requests : List UploadRequest) : Prop :=
  ∀ request ∈ requests, ∀ request' ∈ requests, ∀ body ∈ request.body settings, ∀ body' ∈ request'.body settings,
    ¬ settings.sha.Collision body body'

theorem body_of_admitted (admitted : admitProof settings request = .ok validated) :
    validated.content ∈ request.body settings := by
  simp [UploadRequest.body, admitted]

theorem NoCollision.same_body (free : NoCollision settings requests) (mem : request ∈ requests)
    (mem' : request' ∈ requests) (admitted : admitProof settings request = .ok validated)
    (admitted' : admitProof settings request' = .ok validated')
    (same : settings.sha.hexdigest validated.content = settings.sha.hexdigest validated'.content) :
    validated.content = validated'.content := by
  by_contra other
  exact free request mem request' mem' _ (body_of_admitted admitted) _ (body_of_admitted admitted')
    ⟨other, hexText_injective same⟩

/-- A record leads to an object of its own media type with the bytes of its digest. -/
theorem Shelved.retrieve {found : ProofAddress → Option StoredProof} {objects : Dict String (Bytes × String)}
    {address : ProofAddress} {proof : StoredProof} (shelved : Shelved settings requests found objects)
    (listed : found address = some proof) : ∃ request ∈ requests, ∃ validated,
      admitProof settings request = .ok validated ∧ validated.metadata.address = address ∧
      objects.get? proof.key = some (validated.content, proof.mediaType) ∧
      validated.metadata.mediaType = proof.mediaType := by
  obtain ⟨own, origin, -, recorded, admitted, rfl⟩ := shelved.record address proof listed
  obtain ⟨⟨content, mediaType⟩, stored⟩ := shelved.complete address _ listed
  obtain ⟨request, mem, validated, admitted', key, rfl, rfl⟩ := shelved.object _ content mediaType stored
  obtain ⟨address', media, -⟩ := (madeBy_of_admitted admitted').same_key (madeBy_of_admitted admitted) key
  exact ⟨request, mem, validated, admitted', address'.trans own, by rw [stored, media], media⟩

theorem downloadProof_listed {find : ProofAddress → Except Error (Option StoredProof)}
    {objects : Dict String (Bytes × String)} {d : DownloadRequest} {proof : StoredProof} {content : Bytes}
    (permitted : d.Permitted) (listed : find d.address = .ok (some proof))
    (stored : objects.get? proof.key = some (content, proof.mediaType)) :
    downloadProof find objects d = .ok ⟨content, proof.mediaType, attachmentHeaders d.sha256 proof.mediaType⟩ := by
  obtain ⟨order, known, owner⟩ := permitted
  have listed' : find (d.actor.tenantId, d.orderId, d.sha256) = .ok (some proof) := listed
  simp only [downloadProof, known, owner, not_true_eq_false, if_false, listed', stored, ne_eq]

/-- The query of a repository: it fails for some texts and finds what there is otherwise. -/
structure Searches {μ : Type} (find : μ → ProofAddress → Except Error (Option StoredProof))
    (found : μ → ProofAddress → Option StoredProof) (unsearchable : String → Prop) : Prop where
  fails : ∀ metadata address, unsearchable address.2.2 → find metadata address = .error (.dataError "sha256")
  finds : ∀ metadata address, ¬ unsearchable address.2.2 → find metadata address = .ok (found metadata address)
  digest : ∀ (sha : Sha256) body, ¬ unsearchable (sha.hexdigest body)

/-- What downloads answer after some uploads on a repository that cannot search for some texts. -/
structure FaithfulDownloads {μ : Type} (find : μ → ProofAddress → Except Error (Option StoredProof))
    (unsearchable : String → Prop)
    (upload : ProofStore μ → UploadRequest → Except UploadFailure UploadAnswer × ProofStore μ) (start : ProofStore μ)
    (settings : ProofSettings) (requests : List UploadRequest) : Prop where
  served : ∀ earlier request later answer, requests = earlier ++ request :: later →
    (upload (storeAfter upload start earlier) request).1 = .ok answer → ∀ d : DownloadRequest, d.Permitted →
    d.address = (request.actor.tenantId, request.orderId, answer.sha256) → ∃ body ∈ request.body settings,
      downloadProof (find (storeAfter upload start requests).metadata) (storeAfter upload start requests).objects d =
        .ok ⟨body, answer.mediaType, attachmentHeaders answer.sha256 answer.mediaType⟩
  genuine : ∀ d file,
    downloadProof (find (storeAfter upload start requests).metadata) (storeAfter upload start requests).objects d =
      .ok file → d.Permitted ∧ ∃ request ∈ requests, ∃ body ∈ request.body settings,
        d.address = (request.actor.tenantId, request.orderId, settings.sha.hexdigest body) ∧ file.content = body
  refused : ∀ d raised,
    downloadProof (find (storeAfter upload start requests).metadata) (storeAfter upload start requests).objects d =
      .error raised → raised = .orderNotFound d.orderId ∨ raised = forbidden "order access denied" ∨
        raised = .http ⟨404, "proof not found", []⟩ ∨ unsearchable d.sha256 ∧ raised = .dataError "sha256"
  failed : ∀ d, d.Permitted → unsearchable d.sha256 →
    downloadProof (find (storeAfter upload start requests).metadata) (storeAfter upload start requests).objects d =
      .error (.dataError "sha256")

theorem ValidatedProof.MadeBy.same_media (made : validated.MadeBy settings request)
    (made' : validated'.MadeBy settings request') (same : validated.content = validated'.content) :
    validated.metadata.mediaType = validated'.metadata.mediaType := by
  obtain ⟨suffix, detected, -⟩ := made.key
  obtain ⟨suffix', detected', -⟩ := made'.key
  rw [same, detected'] at detected
  exact (Prod.mk.inj (Except.ok.inj detected)).1.symm

/-- The bytes of an admitted upload are found again under its address. -/
theorem Shelved.served {found : ProofAddress → Option StoredProof} {objects : Dict String (Bytes × String)}
    (shelved : Shelved settings requests found objects) (free : NoCollision settings requests) (mem : request ∈ requests)
    (admitted : admitProof settings request = .ok validated)
    (listed : (found validated.metadata.address).isSome = true) :
    ∃ proof, found validated.metadata.address = some proof ∧ proof.mediaType = validated.metadata.mediaType ∧
      objects.get? proof.key = some (validated.content, proof.mediaType) := by
  obtain ⟨proof, recorded⟩ := Option.isSome_iff_exists.mp listed
  obtain ⟨request', mem', validated', admitted', address, stored, media⟩ := shelved.retrieve recorded
  have made := madeBy_of_admitted admitted
  have made' := madeBy_of_admitted admitted'
  have digest : settings.sha.hexdigest validated'.content = settings.sha.hexdigest validated.content := by
    have places := made'.address.symm.trans (address.trans made.address)
    exact congrArg (fun place : ProofAddress => place.2.2) places
  have bytes := free.same_body mem' mem admitted' admitted digest
  exact ⟨proof, recorded, media.symm.trans (made'.same_media made bytes), bytes ▸ stored⟩

section

variable {find : μ → ProofAddress → Except Error (Option StoredProof)} {unsearchable : String → Prop}
  {objects : Dict String (Bytes × String)} {metadata : μ} {d : DownloadRequest}

theorem Searches.ok_iff (searches : Searches find found unsearchable) {address : ProofAddress}
    {result : Option StoredProof} :
    find metadata address = .ok result ↔ ¬ unsearchable address.2.2 ∧ found metadata address = result := by
  by_cases barred : unsearchable address.2.2
  · simp [searches.fails metadata address barred, barred]
  · simp [searches.finds metadata address barred, barred]

theorem Searches.genuine (searches : Searches find found unsearchable)
    (shelved : Shelved settings requests (found metadata) objects) {file : FileAnswer}
    (answered : downloadProof (find metadata) objects d = .ok file) :
    d.Permitted ∧ ∃ request ∈ requests, ∃ body ∈ request.body settings,
      d.address = (request.actor.tenantId, request.orderId, settings.sha.hexdigest body) ∧ file.content = body := by
  unfold downloadProof at answered
  split at answered
  next => cases answered
  next order known =>
    split_ifs at answered with owner
    split at answered
    next => cases answered
    next => cases answered
    next proof listed =>
      obtain ⟨request, mem, validated, admitted, address, stored, -⟩ :=
        shelved.retrieve (searches.ok_iff.mp listed).2
      rw [stored] at answered
      simp only [ne_eq, not_true_eq_false, if_false] at answered
      cases answered
      refine ⟨⟨order, known, owner⟩, request, mem, _, body_of_admitted admitted, ?_, rfl⟩
      exact address.symm.trans (madeBy_of_admitted admitted).address

theorem Searches.refused (searches : Searches find found unsearchable)
    (shelved : Shelved settings requests (found metadata) objects) {raised : Error}
    (answered : downloadProof (find metadata) objects d = .error raised) :
    raised = .orderNotFound d.orderId ∨ raised = forbidden "order access denied" ∨
      raised = .http ⟨404, "proof not found", []⟩ ∨ unsearchable d.sha256 ∧ raised = .dataError "sha256" := by
  unfold downloadProof at answered
  split at answered
  next =>
    cases answered
    exact .inl rfl
  next order known =>
    split_ifs at answered with owner
    · split at answered
      next failure failed =>
        obtain rfl := Except.error.inj answered
        by_cases barred : unsearchable d.sha256
        · rw [searches.fails metadata _ barred] at failed
          exact .inr (.inr (.inr ⟨barred, (Except.error.inj failed).symm⟩))
        · rw [searches.finds metadata _ barred] at failed
          cases failed
      next =>
        cases answered
        exact .inr (.inr (.inl rfl))
      next proof listed =>
        obtain ⟨request, mem, validated, admitted, address, stored, -⟩ :=
          shelved.retrieve (searches.ok_iff.mp listed).2
        rw [stored] at answered
        simp at answered
    · cases answered
      exact .inr (.inl rfl)

theorem faithfulDownloads_of_effect {start : ProofStore μ} (searches : Searches find found unsearchable)
    (effect : ∀ s request, UploadEffect found settings request s (upload s request))
    (nothing : ∀ address, found start.metadata address = none) (bare : start.objects = .empty)
    (free : NoCollision settings requests) :
    FaithfulDownloads find unsearchable upload start settings requests := by
  have shelved := shelved_storeAfter effect nothing bare requests
  refine ⟨?_, fun d file => searches.genuine shelved, fun d raised => searches.refused shelved, ?_⟩
  · intro earlier request later answer split answered d permitted place
    obtain ⟨validated, admitted, listed, presented⟩ := (effect _ request).accepted answered
    obtain ⟨digest, media, -⟩ := proofAnswer_fields presented
    have made := madeBy_of_admitted admitted
    have kept : (found (storeAfter upload start requests).metadata validated.metadata.address).isSome = true := by
      rw [split, storeAfter, List.foldl_append, List.foldl_cons]
      exact listed_storeAfter effect later listed
    obtain ⟨proof, recorded, same, stored⟩ := shelved.served free (by simp [split]) admitted kept
    have sha256 : validated.metadata.sha256 = settings.sha.hexdigest validated.content :=
      congrArg (fun place : ProofAddress => place.2.2) made.address
    have here : d.address = validated.metadata.address := by rw [place, made.address, digest, sha256]
    have named : d.sha256 = answer.sha256 := congrArg (fun place : ProofAddress => place.2.2) place
    have plain : ¬ unsearchable d.address.2.2 := by
      rw [here, made.address]
      exact searches.digest _ _
    refine ⟨_, body_of_admitted admitted, ?_⟩
    rw [downloadProof_listed permitted (searches.ok_iff.mpr ⟨plain, here ▸ recorded⟩) stored, same, media, named]
  · rintro d ⟨order, known, owner⟩ barred
    have failed := searches.fails (storeAfter upload start requests).metadata
      (d.actor.tenantId, d.orderId, d.sha256) barred
    simp only [downloadProof, known, owner, not_true_eq_false, if_false, failed]

end

theorem InMemoryProofMetadataRepository.searches : Searches find Dict.get? fun _ => False :=
  ⟨fun _ _ => False.elim, fun _ _ _ => rfl, fun _ _ => not_false⟩

/-- The text has a character that PostgreSQL takes in no text. -/
def HasNul (text : String) : Prop := Char.ofNat 0 ∈ text.toList

theorem SqlAlchemyProofMetadataRepository.searches : Searches find rowAt HasNul where
  fails _ _ barred := if_pos barred
  finds _ _ plain := if_neg plain
  digest _ _ := nul_notMem_of_within (hexText_within _) (by decide)

/-- What was uploaded is what is downloaded, with either repository for the metadata: an upload that was
answered is served byte for byte to everyone who may read its order in its tenant, whatever is uploaded
later, nothing else is ever served, and no download fails for want of an object or over its media type. The
database alone fails, at a digest with a NUL. -/
theorem proofs_download_as_uploaded (settings : ProofSettings) {requests : List UploadRequest}
    (free : NoCollision settings requests) :
    FaithfulDownloads InMemoryProofMetadataRepository.find (fun _ => False)
        (InMemoryProofMetadataRepository.upload settings) emptyMemory settings requests ∧
      FaithfulDownloads SqlAlchemyProofMetadataRepository.find HasNul
        (SqlAlchemyProofMetadataRepository.upload settings) emptyTable settings requests :=
  ⟨faithfulDownloads_of_effect InMemoryProofMetadataRepository.searches
      (fun s _ => InMemoryProofMetadataRepository.upload_effect s) (fun _ => rfl) rfl free,
    faithfulDownloads_of_effect SqlAlchemyProofMetadataRepository.searches
      (fun s _ => SqlAlchemyProofMetadataRepository.upload_effect s) (fun _ => rfl) rfl free⟩

theorem UploadEffect.object_kept {key : String} (effect : UploadEffect found settings request s outcome)
    (kept : (s.objects.get? key).isSome = true) : (outcome.2.objects.get? key).isSome = true := by
  have put : ∀ validated : ValidatedProof, ((s.objects.set validated.metadata.key
      (validated.content, validated.metadata.mediaType)).get? key).isSome = true := by
    intro validated
    rw [Dict.get?_set]
    split_ifs
    · rfl
    · exact kept
  cases effect with
  | refused _ => exact kept
  | unrecorded _ => exact put _
  | recorded _ _ => exact put _

theorem object_kept_storeAfter {key : String}
    (effect : ∀ s request, UploadEffect found settings request s (upload s request)) (later : List UploadRequest)
    (kept : (s.objects.get? key).isSome = true) : ((storeAfter upload s later).objects.get? key).isSome = true := by
  induction later using List.reverseRecOn with
  | nil => exact kept
  | append_singleton later last ih =>
    rw [storeAfter_concat]
    exact (effect _ last).object_kept ih

theorem UploadEffect.object_put {answer : UploadAnswer} (effect : UploadEffect found settings request s outcome)
    (answered : outcome.1 = .ok answer) : (outcome.2.objects.get? answer.key).isSome = true := by
  cases effect with
  | refused _ => cases answered
  | unrecorded _ => cases answered
  | recorded _ _ =>
    rw [(proofAnswer_fields answered).2.2, Dict.get?_set_self]
    rfl

/-- The file name of a download by link is the one of the download by digest. -/
theorem keyDigest_proofObjectKey (tenantId orderId : UUID) {digest suffix : String}
    (hex : PyRegex.Within PyRegex.lowerHex digest.toList) (known : suffix = ".png" ∨ suffix = ".jpg") :
    keyDigest (proofObjectKey tenantId orderId digest suffix) = digest := by
  have slash : ∀ id : UUID, '/' ∉ id.str.toList := fun id mem => absurd (uuid_within id _ mem) (by decide)
  have plain : '/' ∉ digest.toList ∧ '.' ∉ digest.toList :=
    ⟨fun mem => absurd (hex _ mem) (by decide), fun mem => absurd (hex _ mem) (by decide)⟩
  obtain ⟨extension, ends, clean⟩ : ∃ extension, suffix.toList = '.' :: extension ∧ '/' ∉ extension := by
    rcases known with rfl | rfl
    · exact ⟨"png".toList, by decide, by decide⟩
    · exact ⟨"jpg".toList, by decide, by decide⟩
  let names := ["proofs".toList, tenantId.str.toList, orderId.str.toList, digest.toList ++ suffix.toList]
  have joined : (proofObjectKey tenantId orderId digest suffix).toList = ['/'].intercalate names := by
    simp [names, proofObjectKey, String.toList_append, List.intercalate]
  have apart : ∀ name ∈ names, '/' ∉ name := by
    simp only [names, List.forall_mem_cons, List.not_mem_nil, false_imp_iff, implies_true, and_true, ends]
    refine ⟨by decide, slash tenantId, slash orderId, ?_⟩
    simp [plain.1, clean]
  have parts : (['/'].intercalate names).splitOn '/' = names := List.splitOn_intercalate '/' apart (by simp [names])
  rw [keyDigest, joined, parts]
  simp only [names, List.getLast?_cons_cons, List.getLast?_singleton, Option.getD_some, ends]
  rw [PyText.partition_append plain.2, String.ofList_toList]

/-- A link with its own signature is accepted in time and refused as expired otherwise. -/
theorem verifyGet_sign_eq (sha : Sha256) (signer : ProofLinkSigner) {key : String}
    (matching : PyRegex.fullmatch proofKey key = true) (expires : Int) (later : Moment) :
    signer.verifyGet sha key expires (signer.sign sha key expires) later =
      if later.timestamp ≤ expires ∧ expires ≤ later.timestamp + signer.maxTtlSeconds then .ok ()
      else .error (.invalidProofLink "proof link expired or exceeds policy") := by
  split_ifs with time
  · exact (verifyGet_sign sha signer matching expires later).mpr time
  · unfold ProofLinkSigner.verifyGet
    simp only [matching, not_true_eq_false, if_false]
    rw [if_pos (by omega)]

theorem proofAnswer_link {proof : StoredProof} {answer : UploadAnswer}
    (answered : proofAnswer settings request proof = .ok answer) :
    PyRegex.fullmatch proofKey proof.key = true ∧
      request.issuedAt.shift (settings.linkTtlSeconds * 1000000) = some answer.downloadExpiresAt ∧
      answer.downloadUrl = settings.signer.url proof.key answer.downloadExpiresAt.timestamp
        (settings.signer.sign settings.sha proof.key answer.downloadExpiresAt.timestamp) := by
  unfold proofAnswer ProofLinkSigner.issueGet at answered
  split at answered
  next => cases answered
  next signed issued =>
    cases answered
    split_ifs at issued with unsafe_key policy
    split at issued
    next => cases issued
    next expiresAt ends =>
      cases issued
      exact ⟨by simpa using unsafe_key, ends, rfl⟩

theorem signature_hexadecimal (sha : Sha256) (signer : ProofLinkSigner) (key : String) (expires : Int) :
    PyRegex.fullmatch signaturePattern (signer.sign sha key expires) = true :=
  (PyRegex.fullmatch_iff ..).mpr (PyRegex.mem_oneOf_pow.mpr ⟨sha.hmacHexdigest_length _ _, hexText_within _⟩)

/-- The query of a link is read back as the key, the end and the signature that it was made of. -/
theorem read_urlencode {readInt : String → Option Int} (canonical : ∀ n : Int, readInt (toString n) = some n)
    {key signature : String} {expires : Int} (sized : 1 ≤ key.length ∧ key.length ≤ 300) (positive : 0 < expires)
    (hexadecimal : PyRegex.fullmatch signaturePattern signature = true) :
    PresignedQuery.read readInt (urlencode [("key", key), ("expires", toString expires), ("signature", signature)]) =
      some ⟨key, expires, signature, sized, positive, hexadecimal⟩ := by
  have first : queryParam [("key", key), ("expires", toString expires), ("signature", signature)] "key" = some key := rfl
  have second : queryParam [("key", key), ("expires", toString expires), ("signature", signature)] "expires" =
      some (toString expires) := rfl
  have third : queryParam [("key", key), ("expires", toString expires), ("signature", signature)] "signature" =
      some signature := rfl
  simp only [PresignedQuery.read, parseQsl_urlencode, Option.bind_eq_bind, Option.bind_some, first, second, third,
    canonical]
  rw [dif_pos ⟨sized, positive, hexadecimal⟩]

theorem key_sized (admitted : admitProof settings request = .ok validated) :
    1 ≤ validated.metadata.key.length ∧ validated.metadata.key.length ≤ 300 := by
  have inspected := (admitProof_ok admitted).2
  obtain ⟨suffix, known, key⟩ := inspected.key
  have fits := fitsVarchar_proofObjectKey validated.metadata.tenantId validated.metadata.orderId inspected.digest.1
    inspected.digest.2 known
  rw [← key, fitsVarchar, Bool.and_eq_true, decide_eq_true_eq] at fits
  have word : 7 ≤ validated.metadata.key.toList.length := by
    rw [key, proofObjectKey]
    simp only [String.toList_append, List.length_append]
    have start : "proofs/".toList.length = 7 := by decide
    omega
  rw [← String.length_toList]
  exact ⟨by omega, fits.1⟩

theorem le_wholeSeconds (microseconds : Nat) : microseconds / 1000000 ≤ wholeSeconds microseconds := by
  unfold wholeSeconds
  simp only
  generalize shape : 2 ^ (52 - Nat.log2 (microseconds / 1000000)) = scale
  have large : 0 < scale := shape ▸ Nat.two_pow_pos _
  calc microseconds / 1000000
      = microseconds * scale / (1000000 * scale) := (Nat.mul_div_mul_right _ _ large).symm
    _ = microseconds * scale / 1000000 / scale := (Nat.div_div_eq_div_mul _ _ _).symm
    _ ≤ roundHalfEven (microseconds * scale) 1000000 / scale := Nat.div_le_div_right (roundHalfEven_bounds _ _).1

theorem timestamp_pos {t : Moment} (after : epoch + 1000000 ≤ t.1) : 0 < t.timestamp := by
  have whole := le_wholeSeconds (t.1 - epoch).toNat
  have second : 1 ≤ (t.1 - epoch).toNat / 1000000 := by omega
  rw [Moment.timestamp, if_pos (by omega)]
  omega

/-- What the links of some uploads are worth after all of them. -/
def RedeemableLinks {μ : Type} (upload : ProofStore μ → UploadRequest → Except UploadFailure UploadAnswer × ProofStore μ)
    (start : ProofStore μ) (settings : ProofSettings) (requests : List UploadRequest) : Prop :=
  ∀ earlier request later answer, requests = earlier ++ request :: later →
    (upload (storeAfter upload start earlier) request).1 = .ok answer → epoch ≤ request.issuedAt.1 →
    ∃ query, answer.downloadUrl.toList = settings.signer.basePath.toList ++ '?' :: query ∧
      ∀ readInt : String → Option Int, (∀ n, readInt (toString n) = some n) → ∃ params body,
        PresignedQuery.read readInt query = some params ∧ body ∈ request.body settings ∧
        ∀ now : Moment, request.issuedAt.1 ≤ now.1 → now.Exact → answer.downloadExpiresAt.Exact →
          downloadPresignedProof settings.sha settings.signer (storeAfter upload start requests).objects params now =
            if now.timestamp ≤ answer.downloadExpiresAt.timestamp then
              .ok ⟨body, answer.mediaType, attachmentHeaders answer.sha256 answer.mediaType⟩
            else .error linkRefused

theorem redeemableLinks_of_effect {start : ProofStore μ}
    (effect : ∀ s request, UploadEffect found settings request s (upload s request))
    (nothing : ∀ address, found start.metadata address = none) (bare : start.objects = .empty)
    (free : NoCollision settings requests) : RedeemableLinks upload start settings requests := by
  have shelved := shelved_storeAfter effect nothing bare requests
  intro earlier request later answer split answered recent
  obtain ⟨validated, admitted, -, presented⟩ := (effect _ request).accepted answered
  obtain ⟨digest, media, keyed⟩ := proofAnswer_fields presented
  obtain ⟨matching, ends, link⟩ := proofAnswer_link presented
  have kept : ((storeAfter upload start requests).objects.get? validated.metadata.key).isSome = true := by
    rw [split, storeAfter, List.foldl_append, List.foldl_cons, ← keyed]
    exact object_kept_storeAfter effect later ((effect _ request).object_put answered)
  -- whoever stored last under the key stored the same bytes
  obtain ⟨⟨content, mediaType⟩, stored⟩ := Option.isSome_iff_exists.mp kept
  obtain ⟨request', mem', validated', admitted', key, rfl, rfl⟩ := shelved.object _ content mediaType stored
  have made := madeBy_of_admitted admitted
  have made' := madeBy_of_admitted admitted'
  obtain ⟨-, sameMedia, sameDigest⟩ := made'.same_key made key
  have bytes := free.same_body mem' (by simp [split]) admitted' admitted sameDigest
  rw [bytes, sameMedia, ← media] at stored
  have value := shift_eq_some ends
  have ttl := settings.ttl_bounds
  have policy : 1 ≤ settings.linkTtlSeconds ∧ settings.linkTtlSeconds ≤ settings.signer.maxTtlSeconds := by
    rw [settings.signer_ttl]
    omega
  have sha256 : validated.metadata.sha256 = settings.sha.hexdigest validated.content :=
    congrArg (fun place : ProofAddress => place.2.2) made.address
  have named : keyDigest validated.metadata.key = answer.sha256 := by
    obtain ⟨suffix, detected, place⟩ := made.key
    rw [place, digest, sha256]
    exact keyDigest_proofObjectKey _ _ (hexText_within _) (detectImage_ok detected).2.2
  refine ⟨_, by rw [link, url_eq], fun readInt canonical => ?_⟩
  have positive : 0 < answer.downloadExpiresAt.timestamp := timestamp_pos (by omega)
  refine ⟨_, validated.content, read_urlencode canonical (key_sized admitted) positive (signature_hexadecimal _ _ _ _),
    body_of_admitted admitted, fun now after near nearEnd => ?_⟩
  have within := timestamp_within_policy near nearEnd after policy value
  unfold downloadPresignedProof
  simp only [verifyGet_sign_eq _ _ matching, within, and_true]
  split_ifs
  · simp only [stored, named]
  · rfl

/-- The link of an answered upload, sent back as it is, gives anyone the uploaded bytes up to the second of
its announced end and nobody anything afterwards, whatever has been uploaded in between. The answer is the
one that `download_proof` gives to the people of the order. -/
theorem links_redeem_uploads (settings : ProofSettings) {requests : List UploadRequest}
    (free : NoCollision settings requests) :
    RedeemableLinks (InMemoryProofMetadataRepository.upload settings) emptyMemory settings requests ∧
      RedeemableLinks (SqlAlchemyProofMetadataRepository.upload settings) emptyTable settings requests :=
  ⟨redeemableLinks_of_effect (fun s _ => InMemoryProofMetadataRepository.upload_effect s) (fun _ => rfl) rfl free,
    redeemableLinks_of_effect (fun s _ => SqlAlchemyProofMetadataRepository.upload_effect s) (fun _ => rfl) rfl free⟩

end

/-- The image, and then the photo. -/
def twoUploads : List UploadRequest := [imageUpload 7, photoUpload 8]

theorem imageUpload_body : (imageUpload 7).body testUploads = some imageBody := by decide

theorem photoUpload_body : (photoUpload 8).body testUploads = some photoBody := by decide

theorem twoUploads_apart : NoCollision testUploads twoUploads := by
  have digests : ¬ testUploads.sha.Collision imageBody photoBody := by
    rintro ⟨-, same⟩
    exact absurd same (by decide)
  have digests' : ¬ testUploads.sha.Collision photoBody imageBody := by
    rintro ⟨-, same⟩
    exact absurd same (by decide)
  simp only [NoCollision, twoUploads, List.forall_mem_cons, List.not_mem_nil, false_imp_iff, implies_true, and_true,
    imageUpload_body, photoUpload_body, Option.mem_some_iff, forall_eq', digests, digests', not_false_eq_true, true_and]
  exact ⟨fun collision => collision.1 rfl, fun collision => collision.1 rfl⟩

theorem imageUpload_answered : ∃ answer,
    (InMemoryProofMetadataRepository.upload testUploads emptyMemory (imageUpload 7)).1 = .ok answer := by
  obtain ⟨proof, stored, -⟩ := imageUpload_stored
  obtain ⟨answer, answered, -⟩ := plainAnswer_of_stored stored
  exact ⟨answer, (InMemoryProofMetadataRepository.upload_eq _).1.trans answered⟩

/-- The image is served after the photo has been uploaded for the same order. -/
theorem image_downloads_as_uploaded : ∃ answer d,
    (InMemoryProofMetadataRepository.upload testUploads emptyMemory (imageUpload 7)).1 = .ok answer ∧
    downloadProof (InMemoryProofMetadataRepository.find (storeAfter (InMemoryProofMetadataRepository.upload testUploads)
        emptyMemory twoUploads).metadata)
      (storeAfter (InMemoryProofMetadataRepository.upload testUploads) emptyMemory twoUploads).objects d =
        .ok ⟨imageBody, answer.mediaType, attachmentHeaders answer.sha256 answer.mediaType⟩ := by
  obtain ⟨answer, answered⟩ := imageUpload_answered
  have faithful := (proofs_download_as_uploaded testUploads twoUploads_apart).1
  obtain ⟨body, content, served⟩ := faithful.served [] (imageUpload 7) [photoUpload 8] answer rfl answered
    ⟨⟨3, .customer, 1⟩, Dict.empty.set 2 proofOrder, 2, answer.sha256⟩ ⟨proofOrder, Dict.get?_set_self .., rfl⟩ rfl
  rw [imageUpload_body] at content
  obtain rfl := Option.some.inj content
  exact ⟨answer, _, answered, served⟩

/-- The link of the image, opened a minute before its end, when the photo has been uploaded too. -/
theorem image_link_redeems : ∃ answer query params,
    (InMemoryProofMetadataRepository.upload testUploads emptyMemory (imageUpload 7)).1 = .ok answer ∧
    answer.downloadUrl.toList = testSigner.basePath.toList ++ '?' :: query ∧
    PresignedQuery.read (fun text => some (PyJson.literalInt text.toList)) query = some params ∧
    downloadPresignedProof uploadSha testSigner
      (storeAfter (InMemoryProofMetadataRepository.upload testUploads) emptyMemory twoUploads).objects params
        linkIssued = .ok ⟨imageBody, answer.mediaType, attachmentHeaders answer.sha256 answer.mediaType⟩ := by
  obtain ⟨answer, answered⟩ := imageUpload_answered
  have links := (links_redeem_uploads testUploads twoUploads_apart).1
  obtain ⟨query, url, redeem⟩ := links [] (imageUpload 7) [photoUpload 8] answer rfl answered (by decide)
  obtain ⟨params, body, read, content, redeemed⟩ := redeem (fun text => some (PyJson.literalInt text.toList)) fun n => by
    rw [toList_toString_int, literalInt_jsonInt]
  rw [imageUpload_body] at content
  obtain rfl := Option.some.inj content
  refine ⟨answer, query, params, answered, url, read, ?_⟩
  obtain ⟨validated, -, -, presented⟩ := (@InMemoryProofMetadataRepository.upload_effect _ (imageUpload 7)
    emptyMemory).accepted answered
  have ends := shift_eq_some (proofAnswer_link presented).2.1
  have near : answer.downloadExpiresAt.Exact := by
    rw [Moment.Exact, ends]
    decide
  have opened := redeemed linkIssued (by decide) (by decide) near
  rwa [if_pos (by rw [timestamp_of_exact near, ends]; decide)] at opened

end DeliveryService
