import DeliveryService.ProofLinks
import DeliveryService.PyText

namespace DeliveryService

inductive UploadError
  | uploadTooLarge (message : String)
  | invalidUpload (message : String)
deriving DecidableEq, Repr

structure StoredProof where
  key : String
  tenantId : UUID
  orderId : UUID
  mediaType : String
  size : Nat
  sha256 : String
deriving DecidableEq

structure ValidatedProof where
  metadata : StoredProof
  content : Bytes
deriving DecidableEq

/-- An uploaded file: what the next reads return, and whether it is closed. -/
structure UploadFile where
  filename : Option String
  reads : List Bytes
  closed : Bool
deriving DecidableEq

def pngSignature : Bytes := [0x89, 0x50, 0x4e, 0x47, 0x0d, 0x0a, 0x1a, 0x0a]

def jpegSignature : Bytes := [0xff, 0xd8, 0xff]

/-- `PurePath.name`: the last part of a path other than an empty one and `.`. -/
def pathName (path : List Char) : List Char :=
  ((path.splitOn '/').filter fun part => part ≠ [] ∧ part ≠ ['.']).getLast?.getD []

/-- `str.rfind` of a character; `none` is its -1. -/
def rfind (c : Char) (text : List Char) : Option Nat :=
  (text.reverse.findIdx? (· = c)).map fun after => text.length - 1 - after

/-- `PurePath.suffix` -/
def pathSuffix (path : List Char) : List Char :=
  let name := pathName path
  match rfind '.' name with
  | some i => if 0 < i ∧ i < name.length - 1 then name.drop i else []
  | none => []

/-- `_detect_image` -/
def detectImage (body : Bytes) : Except UploadError (String × String) :=
  if pngSignature <+: body then .ok ("image/png", ".png")
  else if jpegSignature <+: body then .ok ("image/jpeg", ".jpg")
  else .error (.invalidUpload "proof is not a supported PNG or JPEG image")

/-- The folded extension of the name that came with the file. -/
def originalSuffix (folding : PyText.CaseFolding) (filename : Option String) : String :=
  String.ofList (folding.casefold (pathSuffix (filename.getD "").toList))

def expectedSuffixes (suffix : String) : List String :=
  if suffix = ".png" then [".png"] else [".jpg", ".jpeg"]

/-- The loop over the file, with the chunks so far and their size; it also returns the reads left. -/
def readProof (maxBytes : Int) : List Bytes → List Bytes → Nat → Except UploadError (List Bytes × Nat) × List Bytes
  | [], chunks, size => (.ok (chunks, size), [])
  | chunk :: later, chunks, size =>
    if chunk = [] then (.ok (chunks, size), later)
    else if maxBytes < ((size + chunk.length : Nat) : Int) then
      (.error (.uploadTooLarge "proof exceeds configured size limit"), later)
    else readProof maxBytes later (chunks ++ [chunk]) (size + chunk.length)

/-- The checks on the body once it is read. -/
def validateProof (sha : Sha256) (folding : PyText.CaseFolding) (filename : Option String) (tenantId orderId : UUID)
    (chunks : List Bytes) (size : Nat) : Except UploadError ValidatedProof := do
  let body := chunks.flatten
  let (mediaType, suffix) ← detectImage body
  let original := originalSuffix folding filename
  if original ≠ "" ∧ original ∉ expectedSuffixes suffix then
    .error (.invalidUpload "filename extension does not match detected image type")
  else
    let digest := sha.hexdigest body
    .ok ⟨⟨proofObjectKey tenantId orderId digest suffix, tenantId, orderId, mediaType, size, digest⟩, body⟩

def inspectProof (sha : Sha256) (folding : PyText.CaseFolding) (file : UploadFile) (tenantId orderId : UUID)
    (maxBytes : Int) : Except UploadError ValidatedProof × UploadFile :=
  let (read, left) := readProof maxBytes file.reads [] 0
  -- the `finally` closes the file before the body is looked at
  let file := { file with reads := left, closed := true }
  match read with
  | .error raised => (.error raised, file)
  | .ok (chunks, size) => (validateProof sha folding file.filename tenantId orderId chunks size, file)

section

variable (sha : Sha256) (folding : PyText.CaseFolding) {filename : Option String} {tenantId orderId : UUID}
  {maxBytes : Int} {body : Bytes} {chunks : List Bytes}

/-- One of the two signatures opens the body. -/
def Supported (body : Bytes) : Prop := pngSignature <+: body ∨ jpegSignature <+: body

/-- The name has an extension, and not one of the type that the signature shows. -/
def Contradicts (folding : PyText.CaseFolding) (filename : Option String) (body : Bytes) : Prop :=
  originalSuffix folding filename ≠ "" ∧
    (pngSignature <+: body → originalSuffix folding filename ≠ ".png") ∧
    (jpegSignature <+: body → originalSuffix folding filename ≠ ".jpg" ∧ originalSuffix folding filename ≠ ".jpeg")

instance instDecidableSupported (body : Bytes) : Decidable (Supported body) :=
  inferInstanceAs (Decidable (pngSignature <+: body ∨ jpegSignature <+: body))

instance instDecidableContradicts (folding : PyText.CaseFolding) (filename : Option String) (body : Bytes) :
    Decidable (Contradicts folding filename body) :=
  inferInstanceAs (Decidable (originalSuffix folding filename ≠ "" ∧
    (pngSignature <+: body → originalSuffix folding filename ≠ ".png") ∧
    (jpegSignature <+: body → originalSuffix folding filename ≠ ".jpg" ∧ originalSuffix folding filename ≠ ".jpeg")))

/-- The size test fires exactly when the body has a byte and is too long, whatever its chunks. -/
theorem readProof_eq (maxBytes : Int) (seen : List Bytes) (size : Nat) (nonempty : ∀ chunk ∈ chunks, chunk ≠ []) :
    (readProof maxBytes chunks seen size).1 =
      if chunks ≠ [] ∧ maxBytes < ((size + chunks.flatten.length : Nat) : Int) then
        .error (.uploadTooLarge "proof exceeds configured size limit")
      else .ok (seen ++ chunks, size + chunks.flatten.length) := by
  induction chunks generalizing seen size with
  | nil => simp [readProof]
  | cons chunk later ih =>
    have some_byte := nonempty chunk (by simp)
    have next := ih (seen ++ [chunk]) (size + chunk.length) fun c mem => nonempty c (by simp [mem])
    have total : size + (chunk :: later).flatten.length = size + chunk.length + later.flatten.length := by
      rw [List.flatten_cons, List.length_append, Nat.add_assoc]
    simp only [readProof, if_neg some_byte, total]
    by_cases large : maxBytes < ((size + chunk.length : Nat) : Int)
    · rw [if_pos large, if_pos ⟨List.cons_ne_nil _ _, by omega⟩]
    · rw [if_neg large, next, List.append_assoc, List.singleton_append]
      by_cases done : later = []
      · subst done
        rw [if_neg (by simp), if_neg (by simpa using large)]
      · simp only [ne_eq, done, not_false_eq_true, reduceCtorEq, true_and]

theorem flatten_ne_nil (nonempty : ∀ chunk ∈ chunks, chunk ≠ []) (joined : chunks.flatten = body) :
    chunks ≠ [] ↔ body ≠ [] := by
  rw [← joined, not_iff_not, List.flatten_eq_nil_iff]
  constructor
  · rintro rfl
    simp
  · intro all
    cases chunks with
    | nil => rfl
    | cons chunk later => exact absurd (all chunk (by simp)) (nonempty chunk (by simp))

theorem inspectProof_closed (file : UploadFile) :
    (inspectProof sha folding file tenantId orderId maxBytes).2.closed = true := by
  unfold inspectProof
  rcases readProof maxBytes file.reads [] 0 with ⟨_ | _, _⟩
  · rfl
  · rfl

/-- What becomes of a body, without its chunks. -/
theorem inspectProof_eq (nonempty : ∀ chunk ∈ chunks, chunk ≠ []) (joined : chunks.flatten = body) :
    (inspectProof sha folding ⟨filename, chunks, false⟩ tenantId orderId maxBytes).1 =
      if body ≠ [] ∧ maxBytes < (body.length : Int) then
        .error (.uploadTooLarge "proof exceeds configured size limit")
      else validateProof sha folding filename tenantId orderId [body] body.length := by
  have read := readProof_eq maxBytes [] 0 nonempty
  simp only [flatten_ne_nil nonempty joined, joined, Nat.zero_add, List.nil_append] at read
  unfold inspectProof
  simp only [read]
  split_ifs with large
  · rfl
  · simp only [validateProof, joined, List.flatten_singleton]

theorem not_png_of_jpeg (jpeg : jpegSignature <+: body) : ¬ pngSignature <+: body := by
  intro png
  obtain ⟨rest, rfl⟩ := jpeg
  simp [pngSignature, jpegSignature] at png

/-- The type and suffix of an image, by its signature. -/
theorem detectImage_cases (body : Bytes) :
    (pngSignature <+: body ∧ ¬ jpegSignature <+: body ∧ detectImage body = .ok ("image/png", ".png")) ∨
      (jpegSignature <+: body ∧ ¬ pngSignature <+: body ∧ detectImage body = .ok ("image/jpeg", ".jpg")) ∨
      (¬ Supported body ∧
        detectImage body = .error (.invalidUpload "proof is not a supported PNG or JPEG image")) := by
  by_cases png : pngSignature <+: body
  · have other : ¬ jpegSignature <+: body := fun jpeg => not_png_of_jpeg jpeg png
    exact .inl ⟨png, other, by rw [detectImage, if_pos png]⟩
  · by_cases jpeg : jpegSignature <+: body
    · exact .inr (.inl ⟨jpeg, png, by rw [detectImage, if_neg png, if_pos jpeg]⟩)
    · exact .inr (.inr ⟨not_or.mpr ⟨png, jpeg⟩, by rw [detectImage, if_neg png, if_neg jpeg]⟩)

theorem validateProof_of_detected {mediaType suffix : String} (size : Nat)
    (detected : detectImage body = .ok (mediaType, suffix)) :
    validateProof sha folding filename tenantId orderId [body] size =
      if originalSuffix folding filename ≠ "" ∧ originalSuffix folding filename ∉ expectedSuffixes suffix then
        .error (.invalidUpload "filename extension does not match detected image type")
      else .ok ⟨⟨proofObjectKey tenantId orderId (sha.hexdigest body) suffix, tenantId, orderId, mediaType, size,
        sha.hexdigest body⟩, body⟩ := by
  simp only [validateProof, List.flatten_singleton, detected, bind, Except.bind]

/-- A body that is not too long is refused for its content exactly when it is no image or has another name. -/
theorem validateProof_cases (size : Nat) :
    ((¬ Supported body ∨ Contradicts folding filename body) ∧ ∃ message,
        validateProof sha folding filename tenantId orderId [body] size = .error (.invalidUpload message)) ∨
      (¬ (¬ Supported body ∨ Contradicts folding filename body) ∧ ∃ mediaType suffix,
        (suffix = ".png" ∨ suffix = ".jpg") ∧
        validateProof sha folding filename tenantId orderId [body] size =
          .ok ⟨⟨proofObjectKey tenantId orderId (sha.hexdigest body) suffix, tenantId, orderId, mediaType, size,
            sha.hexdigest body⟩, body⟩) := by
  rcases detectImage_cases body with ⟨png, other, detected⟩ | ⟨jpeg, other, detected⟩ | ⟨unknown, detected⟩
  · have clash : Contradicts folding filename body ↔ originalSuffix folding filename ≠ "" ∧
        originalSuffix folding filename ∉ expectedSuffixes ".png" := by
      simp [Contradicts, png, other, expectedSuffixes]
    rw [validateProof_of_detected sha folding size detected]
    split_ifs with named
    · exact .inl ⟨.inr (clash.mpr named), _, rfl⟩
    · exact .inr ⟨not_or.mpr ⟨not_not.mpr (.inl png), clash.not.mpr named⟩, _, _, .inl rfl, rfl⟩
  · have clash : Contradicts folding filename body ↔ originalSuffix folding filename ≠ "" ∧
        originalSuffix folding filename ∉ expectedSuffixes ".jpg" := by
      simp [Contradicts, jpeg, other, expectedSuffixes]
    rw [validateProof_of_detected sha folding size detected]
    split_ifs with named
    · exact .inl ⟨.inr (clash.mpr named), _, rfl⟩
    · exact .inr ⟨not_or.mpr ⟨not_not.mpr (.inr jpeg), clash.not.mpr named⟩, _, _, .inr rfl, rfl⟩
  · refine .inl ⟨.inl unknown, "proof is not a supported PNG or JPEG image", ?_⟩
    simp only [validateProof, List.flatten_singleton, detected, bind, Except.bind]

theorem validateProof_not_uploadTooLarge (size : Nat) (message : String) :
    validateProof sha folding filename tenantId orderId [body] size ≠ .error (.uploadTooLarge message) := by
  rcases validateProof_cases sha folding size with ⟨-, other, invalid⟩ | ⟨-, mediaType, suffix, -, valid⟩
  · rw [invalid]
    simp
  · rw [valid]
    simp

/-- Inspection depends on the bytes of the upload only. A body that is not empty is too large exactly when it
is longer than the limit; any other body is invalid exactly when it has no image signature or its name
contradicts it, and else yields its bytes, size and digest under a key that can be signed. -/
theorem inspect_proof_by_content (filename : Option String) (tenantId orderId : UUID) (maxBytes : Int)
    (nonempty : ∀ chunk ∈ chunks, chunk ≠ []) (joined : chunks.flatten = body) :
    let outcome := inspectProof sha folding ⟨filename, chunks, false⟩ tenantId orderId maxBytes
    outcome.2.closed = true ∧
    ((∃ message, outcome.1 = .error (.uploadTooLarge message)) ↔ body ≠ [] ∧ maxBytes < (body.length : Int)) ∧
    (¬ (body ≠ [] ∧ maxBytes < (body.length : Int)) →
      ((∃ message, outcome.1 = .error (.invalidUpload message)) ↔
        ¬ Supported body ∨ Contradicts folding filename body) ∧
      (¬ (¬ Supported body ∨ Contradicts folding filename body) → ∃ proof, outcome.1 = .ok proof ∧
        proof.content = body ∧ proof.metadata.size = body.length ∧ proof.metadata.sha256 = sha.hexdigest body ∧
        PyRegex.fullmatch proofKey proof.metadata.key = true ∧
        ∀ (signer : ProofLinkSigner) (now expiresAt : Moment) (ttl : Int), 1 ≤ ttl ∧ ttl ≤ signer.maxTtlSeconds →
          now.shift (ttl * 1000000) = some expiresAt →
            ∃ link, signer.issueGet sha proof.metadata.key now ttl = .ok link)) ∧
    ∀ chunks' : List Bytes, (∀ chunk ∈ chunks', chunk ≠ []) → chunks'.flatten = body →
      (inspectProof sha folding ⟨filename, chunks', false⟩ tenantId orderId maxBytes).1 = outcome.1 := by
  intro outcome
  have result : outcome.1 = if body ≠ [] ∧ maxBytes < (body.length : Int) then
      .error (.uploadTooLarge "proof exceeds configured size limit")
    else validateProof sha folding filename tenantId orderId [body] body.length :=
    inspectProof_eq sha folding nonempty joined
  have matching : ∀ suffix, suffix = ".png" ∨ suffix = ".jpg" →
      PyRegex.fullmatch proofKey (proofObjectKey tenantId orderId (sha.hexdigest body) suffix) = true :=
    fun suffix known =>
      fullmatch_proofObjectKey tenantId orderId (sha.hexdigest_length body) (hexText_within _) known
  refine ⟨inspectProof_closed sha folding _, ?_, fun small => ?_, fun chunks' nonempty' joined' => ?_⟩
  · rw [result]
    split_ifs with large
    · exact ⟨fun _ => large, fun _ => ⟨_, rfl⟩⟩
    · refine ⟨?_, fun is_large => absurd is_large large⟩
      rintro ⟨message, raised⟩
      exact absurd raised (validateProof_not_uploadTooLarge sha folding body.length message)
  · rw [result, if_neg small]
    rcases validateProof_cases sha folding body.length with ⟨bad, other, invalid⟩ |
      ⟨good, mediaType, suffix, known, valid⟩
    · rw [invalid]
      exact ⟨⟨fun _ => bad, fun _ => ⟨other, rfl⟩⟩, fun good => absurd bad good⟩
    · rw [valid]
      refine ⟨⟨?_, fun bad => absurd bad good⟩, fun _ => ⟨_, rfl, rfl, rfl, rfl, ?_, ?_⟩⟩
      · rintro ⟨message, raised⟩
        simp at raised
      · exact matching suffix known
      · intro signer now expiresAt ttl policy ends
        exact ⟨_, issueGet_ok sha signer (matching suffix known) policy ends⟩
  · rw [inspectProof_eq sha folding nonempty' joined', result]

end

/-- A PNG signature followed by four bytes. -/
def imageBody : Bytes := pngSignature ++ [0x62, 0x6f, 0x64, 0x79]

theorem inspect_proof_in_two_chunks : ∃ proof,
    (inspectProof imageSha PyText.asciiFolding ⟨some "proof.PNG", [imageBody.take 5, imageBody.drop 5], false⟩ 1 2
      64).1 = .ok proof ∧ proof.content = imageBody ∧ proof.metadata.size = 12 := by
  have parts : ∀ chunk ∈ [imageBody.take 5, imageBody.drop 5], chunk ≠ [] := by decide
  have joined : [imageBody.take 5, imageBody.drop 5].flatten = imageBody := by decide
  have content := (inspect_proof_by_content imageSha PyText.asciiFolding (some "proof.PNG") 1 2 64 parts joined).2.2.1
    (by decide)
  obtain ⟨proof, valid, same, size, -⟩ := content.2 (by decide)
  exact ⟨proof, valid, same, size⟩

/-- An empty upload is no image under a negative limit too, though its length exceeds that limit. -/
theorem empty_upload_is_not_too_large :
    ¬ ∀ (sha : Sha256) (folding : PyText.CaseFolding) (filename : Option String) (tenantId orderId : UUID)
      (maxBytes : Int) (body : Bytes) (chunks : List Bytes), (∀ chunk ∈ chunks, chunk ≠ []) → chunks.flatten = body →
      ((∃ message, (inspectProof sha folding ⟨filename, chunks, false⟩ tenantId orderId maxBytes).1 =
        .error (.uploadTooLarge message)) ↔ maxBytes < (body.length : Int)) := by
  intro all
  obtain ⟨message, raised⟩ := (all imageSha PyText.asciiFolding none 1 2 (-1) [] [] (by simp) rfl).mpr (by decide)
  have refused : (inspectProof imageSha PyText.asciiFolding ⟨none, [], false⟩ 1 2 (-1)).1 =
      .error (.invalidUpload "proof is not a supported PNG or JPEG image") := by decide
  rw [refused] at raised
  simp at raised

end DeliveryService
