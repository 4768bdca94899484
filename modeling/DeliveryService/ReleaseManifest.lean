import DeliveryService.PyRegex
import DeliveryService.JsonText

namespace DeliveryService

open PyJson PyRegex

/-- `COMMIT_SHA` -/
def commitSha : Pattern := oneOf lowerHex ^ 40

/-- `[a-z0-9_.-]` -/
def imageNameChars : List Char := "abcdefghijklmnopqrstuvwxyz0123456789_.-".toList

/-- `PINNED_IMAGE` -/
def pinnedImage : Pattern :=
  literal "ghcr.io/" * atLeastOnce (oneOf imageNameChars) * literal "/" * atLeastOnce (oneOf imageNameChars) *
    literal "@sha256:" * oneOf lowerHex ^ 64

structure ReleaseManifest where
  commit : String
  image : String
  alembic : String
deriving DecidableEq

/-- What the verification can raise; `jsonDecodeError` is a `ValueError` of `json.loads`. -/
inductive ReleaseError
  | jsonDecodeError
  | valueError (message : String)
  | keyError
  | typeError
  | recursionError
deriving DecidableEq

def ReleaseError.isValueError : ReleaseError → Bool
  | .jsonDecodeError | .valueError _ => true
  | .keyError | .typeError | .recursionError => false

/-- `json.loads(raw)` -/
def decodeManifest (reader : Reader) (raw : String) : Except ReleaseError Json :=
  match loads reader raw.toList with
  | .ok value => .ok value
  | .error .valueError => .error .jsonDecodeError
  | .error .recursionError => .error .recursionError

/-- `decoded[key]` -/
def getitem (fields : List (String × Json)) (key : String) : Except ReleaseError Json :=
  match field? fields key with
  | some value => .ok value
  | none => .error .keyError

/-- The text of a string. -/
def text? : Json → Option String
  | .str text => some text
  | _ => none

/-- `value in revisions`, with the member. A set hashes what it is asked for, and lists and dictionaries have no
hash. -/
def member? (revisions : Finset String) : Json → Except ReleaseError (Option String)
  | .str revision => .ok (if revision ∈ revisions then some revision else none)
  | .list _ | .dict _ => .error .typeError
  | _ => .ok none

/-- The last check, given the member that `alembic` is. -/
def withRevision (commit image : String) : Option String → Except ReleaseError ReleaseManifest
  | none => .error (.valueError "database revision is outside the compatibility window")
  | some alembic => .ok ⟨commit, image, alembic⟩

/-- The checks of the fields of a manifest. -/
def verifyFields (fields : List (String × Json)) (expectedCommit : String) (compatibleRevisions : Finset String) :
    Except ReleaseError ReleaseManifest := do
  let commit ← getitem fields "commit"
  if text? commit ≠ some expectedCommit then
    .error (.valueError "release manifest belongs to another commit")
  else match text? (← getitem fields "image") with
    | none => .error (.valueError "image must be pinned by a sha256 digest")
    | some image =>
      if ¬ fullmatch pinnedImage image then
        .error (.valueError "image must be pinned by a sha256 digest")
      else
        let member ← member? compatibleRevisions (← getitem fields "alembic")
        withRevision expectedCommit image member

def verifyReleaseManifest (reader : Reader) (raw expectedCommit : String) (compatibleRevisions : Finset String) :
    Except ReleaseError ReleaseManifest := do
  match ← decodeManifest reader raw with
  | .dict fields =>
    if (fields.map Prod.fst).toFinset ≠ {"commit", "image", "alembic"} then
      .error (.valueError "unexpected release manifest fields")
    else if ¬ fullmatch commitSha expectedCommit then
      .error (.valueError "expected commit must be a full Git SHA")
    else verifyFields fields expectedCommit compatibleRevisions
  | _ => .error (.valueError "unexpected release manifest fields")

/-- A full Git SHA: forty lower-case hexadecimal digits. -/
def IsCommit (text : String) : Prop := text.toList.length = 40 ∧ Within lowerHex text.toList

/-- `ghcr.io/<owner>/<name>@sha256:<digest>` -/
def IsPinned (image : String) : Prop :=
  ∃ owner name digest : List Char,
    image.toList = "ghcr.io/".toList ++ owner ++ "/".toList ++ name ++ "@sha256:".toList ++ digest ∧
    (owner ≠ [] ∧ Within imageNameChars owner) ∧ (name ≠ [] ∧ Within imageNameChars name) ∧
    digest.length = 64 ∧ Within lowerHex digest

/-- A text is a manifest for the commit, whatever its revision is. -/
structure BindsCommit (reader : Reader) (raw expectedCommit : String) (fields : List (String × Json))
    (imageName : String) : Prop where
  object : loads reader raw.toList = .ok (.dict fields)
  keys : ∀ key, key ∈ fields.map Prod.fst ↔ key = "commit" ∨ key = "image" ∨ key = "alembic"
  sha : IsCommit expectedCommit
  commit : field? fields "commit" = some (.str expectedCommit)
  image : field? fields "image" = some (.str imageName)
  pinned : IsPinned imageName

/-- The manifests that the verification is documented to return. -/
def Documented (reader : Reader) (raw expectedCommit : String) (compatibleRevisions : Finset String)
    (manifest : ReleaseManifest) : Prop :=
  ∃ fields, BindsCommit reader raw expectedCommit fields manifest.image ∧ manifest.commit = expectedCommit ∧
    field? fields "alembic" = some (.str manifest.alembic) ∧ manifest.alembic ∈ compatibleRevisions

/-- The revision of a manifest for the commit is a list or a dictionary. -/
def UnhashableRevision (reader : Reader) (raw expectedCommit : String) : Prop :=
  ∃ fields image, BindsCommit reader raw expectedCommit fields image ∧
    ((∃ items, field? fields "alembic" = some (.list items)) ∨
      ∃ entries, field? fields "alembic" = some (.dict entries))

theorem fullmatch_commitSha (text : String) : fullmatch commitSha text = true ↔ IsCommit text := by
  rw [fullmatch_iff, commitSha, mem_oneOf_pow]
  rfl

theorem fullmatch_pinnedImage (image : String) : fullmatch pinnedImage image = true ↔ IsPinned image := by
  rw [fullmatch_iff]
  unfold pinnedImage IsPinned
  constructor
  · intro matched
    obtain ⟨_, mem₁, digest, hex, whole⟩ := mem_mul.mp matched
    obtain ⟨_, mem₂, sign, marked, rfl⟩ := mem_mul.mp mem₁
    obtain ⟨_, mem₃, name, named, rfl⟩ := mem_mul.mp mem₂
    obtain ⟨_, mem₄, slash, divided, rfl⟩ := mem_mul.mp mem₃
    obtain ⟨host, known, owner, owned, rfl⟩ := mem_mul.mp mem₄
    obtain rfl := mem_literal.mp known
    obtain rfl := mem_literal.mp divided
    obtain rfl := mem_literal.mp marked
    exact ⟨owner, name, digest, whole.symm, mem_atLeastOnce.mp owned, mem_atLeastOnce.mp named,
      mem_oneOf_pow.mp hex⟩
  · rintro ⟨owner, name, digest, whole, owned, named, hex⟩
    rw [whole]
    refine append_mem (append_mem (append_mem (append_mem (append_mem ?_ ?_) ?_) ?_) ?_) (mem_oneOf_pow.mpr hex)
    · exact mem_literal.mpr rfl
    · exact mem_atLeastOnce.mpr owned
    · exact mem_literal.mpr rfl
    · exact mem_atLeastOnce.mpr named
    · exact mem_literal.mpr rfl

theorem keys_toFinset_iff (fields : List (String × Json)) :
    (fields.map Prod.fst).toFinset = {"commit", "image", "alembic"} ↔
      ∀ key, key ∈ fields.map Prod.fst ↔ key = "commit" ∨ key = "image" ∨ key = "alembic" := by
  simp only [Finset.ext_iff, List.mem_toFinset, Finset.mem_insert, Finset.mem_singleton]

theorem field?_of_mem {fields : List (String × Json)} {key : String} (mem : key ∈ fields.map Prod.fst) :
    ∃ value, field? fields key = some value := by
  obtain ⟨field, inside, rfl⟩ := List.mem_map.mp mem
  have found : (fields.find? fun other => other.1 = field.1).isSome := by
    rw [List.find?_isSome]
    exact ⟨field, inside, by simp⟩
  obtain ⟨first, same⟩ := Option.isSome_iff_exists.mp found
  exact ⟨first.2, by rw [field?, same, Option.map_some]⟩

theorem text?_eq_some {value : Json} {text : String} : text? value = some text ↔ value = .str text := by
  cases value <;> simp [text?]

section

variable {reader : Reader} {raw expectedCommit : String} {compatibleRevisions : Finset String}
  {fields : List (String × Json)} {image : String}

/-- Of a manifest for the commit only the revision is left to check. -/
theorem BindsCommit.verify (binds : BindsCommit reader raw expectedCommit fields image) {revision : Json}
    (stored : field? fields "alembic" = some revision) :
    verifyReleaseManifest reader raw expectedCommit compatibleRevisions =
      (member? compatibleRevisions revision >>= withRevision expectedCommit image) := by
  have keys := (keys_toFinset_iff fields).mpr binds.keys
  have sha := (fullmatch_commitSha expectedCommit).mpr binds.sha
  have pinned := (fullmatch_pinnedImage image).mpr binds.pinned
  have decoded : decodeManifest reader raw = .ok (.dict fields) := by simp only [decodeManifest, binds.object]
  have commit : getitem fields "commit" = .ok (.str expectedCommit) := by simp only [getitem, binds.commit]
  have named : getitem fields "image" = .ok (.str image) := by simp only [getitem, binds.image]
  have found : getitem fields "alembic" = .ok revision := by simp only [getitem, stored]
  rw [verifyReleaseManifest, decoded]
  change (if _ then _ else if _ then _ else _) = _
  rw [if_neg (not_not.mpr keys), if_neg (not_not.mpr sha), verifyFields, commit]
  change (if _ then _ else _) = _
  rw [if_neg (not_not.mpr (text?_eq_some.mpr rfl)), named]
  change (if _ then _ else _) = _
  rw [if_neg (not_not.mpr pinned), found]
  rfl

/-- Every other text that is not nested too deep is refused with a `ValueError`. -/
theorem verify_unbound (other : ¬ ∃ fields image, BindsCommit reader raw expectedCommit fields image)
    (shallow : ¬ TooDeep reader raw.toList) :
    ∃ e, verifyReleaseManifest reader raw expectedCommit compatibleRevisions = .error e ∧ e.isValueError = true := by
  rw [← loads_recursion_iff] at shallow
  unfold verifyReleaseManifest decodeManifest
  cases read : loads reader raw.toList with
  | error e =>
    cases e with
    | valueError => exact ⟨_, rfl, rfl⟩
    | recursionError => exact absurd read shallow
  | ok value =>
    cases value with
    | dict fields =>
      simp only [bind, Except.bind]
      by_cases keys : (fields.map Prod.fst).toFinset = {"commit", "image", "alembic"}
      swap
      · exact ⟨_, if_pos keys, rfl⟩
      rw [if_neg (not_not.mpr keys)]
      by_cases sha : fullmatch commitSha expectedCommit = true
      swap
      · exact ⟨_, if_pos sha, rfl⟩
      rw [if_neg (not_not.mpr sha)]
      have named := (keys_toFinset_iff fields).mp keys
      obtain ⟨commit, bound⟩ := field?_of_mem ((named "commit").mpr (.inl rfl))
      obtain ⟨image, held⟩ := field?_of_mem ((named "image").mpr (.inr (.inl rfl)))
      have first : getitem fields "commit" = .ok commit := by simp only [getitem, bound]
      have second : getitem fields "image" = .ok image := by simp only [getitem, held]
      simp only [verifyFields, first, bind, Except.bind]
      by_cases same : text? commit = some expectedCommit
      swap
      · exact ⟨_, if_pos same, rfl⟩
      rw [if_neg (not_not.mpr same), second]
      obtain rfl := text?_eq_some.mp same
      cases image with
      | str image =>
        simp only [text?]
        by_cases pinned : fullmatch pinnedImage image = true
        swap
        · exact ⟨_, if_pos pinned, rfl⟩
        have binds : BindsCommit reader raw expectedCommit fields image :=
          ⟨read, named, (fullmatch_commitSha _).mp sha, bound, held, (fullmatch_pinnedImage _).mp pinned⟩
        exact absurd ⟨fields, image, binds⟩ other
      | _ => exact ⟨_, rfl, rfl⟩
    | _ => exact ⟨_, rfl, rfl⟩

theorem BindsCommit.unique {fields' : List (String × Json)} {image' : String}
    (binds : BindsCommit reader raw expectedCommit fields image)
    (binds' : BindsCommit reader raw expectedCommit fields' image') : fields' = fields ∧ image' = image := by
  have object := binds.object.symm.trans binds'.object
  obtain rfl : fields = fields' := by simpa using object
  have held := binds.image.symm.trans binds'.image
  exact ⟨rfl, by simpa using held.symm⟩

theorem BindsCommit.documented_iff (binds : BindsCommit reader raw expectedCommit fields image) {revision : Json}
    (stored : field? fields "alembic" = some revision) (compatibleRevisions : Finset String)
    (manifest : ReleaseManifest) :
    Documented reader raw expectedCommit compatibleRevisions manifest ↔
      manifest.commit = expectedCommit ∧ manifest.image = image ∧ revision = .str manifest.alembic ∧
        manifest.alembic ∈ compatibleRevisions := by
  constructor
  · rintro ⟨fields', binds', commit, held, member⟩
    obtain ⟨rfl, named⟩ := binds.unique binds'
    exact ⟨commit, named, Option.some.inj (stored.symm.trans held), member⟩
  · rintro ⟨commit, named, rfl, member⟩
    exact ⟨fields, named ▸ binds, commit, stored, member⟩

theorem BindsCommit.unhashable_iff (binds : BindsCommit reader raw expectedCommit fields image) {revision : Json}
    (stored : field? fields "alembic" = some revision) :
    UnhashableRevision reader raw expectedCommit ↔
      (∃ items, revision = .list items) ∨ ∃ entries, revision = .dict entries := by
  have held (value : Json) : field? fields "alembic" = some value ↔ revision = value := by
    rw [stored, Option.some.injEq]
  constructor
  · rintro ⟨fields', image', binds', kind⟩
    obtain ⟨rfl, rfl⟩ := binds.unique binds'
    simpa only [held] using kind
  · intro kind
    exact ⟨fields, image, binds, by simpa only [held] using kind⟩

end

/-- The verification of a text returns exactly the documented manifests and fails only with `ValueError`. -/
def VerifiesExactly (reader : Reader) (raw expectedCommit : String) (compatibleRevisions : Finset String) : Prop :=
  (∀ manifest, verifyReleaseManifest reader raw expectedCommit compatibleRevisions = .ok manifest ↔
    Documented reader raw expectedCommit compatibleRevisions manifest) ∧
  ∀ e, verifyReleaseManifest reader raw expectedCommit compatibleRevisions = .error e → e.isValueError = true

section

variable {reader : Reader} {raw expectedCommit : String} {compatibleRevisions : Finset String}
  {fields : List (String × Json)} {image : String}

theorem BindsCommit.verifies_of_member (binds : BindsCommit reader raw expectedCommit fields image)
    {revision : String} (stored : field? fields "alembic" = some (.str revision))
    (member : revision ∈ compatibleRevisions) : VerifiesExactly reader raw expectedCommit compatibleRevisions := by
  have returned : verifyReleaseManifest reader raw expectedCommit compatibleRevisions =
      .ok ⟨expectedCommit, image, revision⟩ := by
    rw [binds.verify stored]
    simp [member?, member, bind, Except.bind, withRevision]
  refine ⟨fun manifest => ?_, fun e raised => absurd (returned.symm.trans raised) nofun⟩
  rw [returned, binds.documented_iff stored]
  constructor
  · intro same
    obtain rfl := Except.ok.inj same
    exact ⟨rfl, rfl, rfl, member⟩
  · rintro ⟨commit, named, held, -⟩
    obtain rfl := Json.str.inj held
    rw [← commit, ← named]

/-- A refusal with a `ValueError` is right unless the revision is compatible. -/
theorem BindsCommit.verifies_of_refused (binds : BindsCommit reader raw expectedCommit fields image)
    {revision : Json} (stored : field? fields "alembic" = some revision) {e : ReleaseError}
    (raised : verifyReleaseManifest reader raw expectedCommit compatibleRevisions = .error e)
    (kind : e.isValueError = true) (other : ∀ text ∈ compatibleRevisions, revision ≠ .str text) :
    VerifiesExactly reader raw expectedCommit compatibleRevisions := by
  refine ⟨fun manifest => ?_, fun e' raised' => ?_⟩
  · rw [raised, binds.documented_iff stored]
    refine iff_of_false nofun ?_
    rintro ⟨-, -, held, inside⟩
    exact other manifest.alembic inside held
  · obtain rfl := Except.error.inj (raised.symm.trans raised')
    exact kind

/-- Whether the verification of a manifest for the commit is exact depends on the type of its revision. -/
theorem BindsCommit.verifies_iff (binds : BindsCommit reader raw expectedCommit fields image) {revision : Json}
    (stored : field? fields "alembic" = some revision) :
    VerifiesExactly reader raw expectedCommit compatibleRevisions ↔
      ¬ ((∃ items, revision = .list items) ∨ ∃ entries, revision = .dict entries) := by
  have read : verifyReleaseManifest reader raw expectedCommit compatibleRevisions = _ := binds.verify stored
  cases revision with
  | str revision =>
    refine iff_of_true ?_ (by simp)
    by_cases member : revision ∈ compatibleRevisions
    · exact binds.verifies_of_member stored member
    · refine binds.verifies_of_refused stored
        (e := .valueError "database revision is outside the compatibility window") ?_ rfl ?_
      · rw [read]
        simp [member?, member, bind, Except.bind, withRevision]
      · rintro text inside held
        obtain rfl := Json.str.inj held
        exact member inside
  | list items =>
    refine iff_of_false (fun verifies => ?_) (by simp)
    exact absurd (verifies.2 .typeError read) (by decide)
  | dict entries =>
    refine iff_of_false (fun verifies => ?_) (by simp)
    exact absurd (verifies.2 .typeError read) (by decide)
  | _ => exact iff_of_true (binds.verifies_of_refused stored read rfl (by simp)) (by simp)

end

/-- The exceptions are texts that nest deeper than `json.loads` follows, and manifests that are right up to a
revision that is a list or a dictionary: the set of revisions cannot hash that. -/
theorem release_manifest_exact_iff (reader : Reader) (raw expectedCommit : String)
    (compatibleRevisions : Finset String) :
    VerifiesExactly reader raw expectedCommit compatibleRevisions ↔
      ¬ TooDeep reader raw.toList ∧ ¬ UnhashableRevision reader raw expectedCommit := by
  by_cases bound : ∃ fields image, BindsCommit reader raw expectedCommit fields image
  · obtain ⟨fields, image, binds⟩ := bound
    obtain ⟨revision, stored⟩ := field?_of_mem ((binds.keys "alembic").mpr (.inr (.inr rfl)))
    have shallow : ¬ TooDeep reader raw.toList := by
      rw [← loads_recursion_iff, binds.object]
      nofun
    rw [binds.verifies_iff stored, binds.unhashable_iff stored]
    exact (and_iff_right shallow).symm
  · have undocumented (manifest : ReleaseManifest) :
        ¬ Documented reader raw expectedCommit compatibleRevisions manifest := by
      rintro ⟨fields, binds, -⟩
      exact bound ⟨fields, _, binds⟩
    have hashable : ¬ UnhashableRevision reader raw expectedCommit := by
      rintro ⟨fields, image, binds, -⟩
      exact bound ⟨fields, image, binds⟩
    by_cases deep : TooDeep reader raw.toList
    · have raised : verifyReleaseManifest reader raw expectedCommit compatibleRevisions = .error .recursionError := by
        rw [verifyReleaseManifest, decodeManifest, loads_recursion_iff.mpr deep]
        rfl
      refine iff_of_false (fun verifies => ?_) (fun kept => kept.1 deep)
      exact absurd (verifies.2 _ raised) (by decide)
    · obtain ⟨e, raised, kind⟩ :
          ∃ e, verifyReleaseManifest reader raw expectedCommit compatibleRevisions = .error e ∧ e.isValueError = true :=
        verify_unbound bound deep
      refine iff_of_true ⟨fun manifest => ?_, fun e' raised' => ?_⟩ ⟨deep, hashable⟩
      · exact iff_of_false (by simp [raised]) (undocumented manifest)
      · obtain rfl := Except.error.inj (raised.symm.trans raised')
        exact kind

/-- The text of a manifest whose revision is an empty list. -/
def listedRevision (commit image : String) : List Char :=
  ['\x7b'] ++ (jsonString "commit" ++ [':']) ++ jsonString commit ++ [','] ++ (jsonString "image" ++ [':']) ++
    jsonString image ++ [','] ++ (jsonString "alembic" ++ [':']) ++ ['[', ']', '\x7d']

theorem loads_listedRevision {reader : Reader} (nests : 2 ≤ reader.depth) (commit image : String) :
    loads reader (listedRevision commit image) =
      .ok (.dict [("commit", .str commit), ("image", .str image), ("alembic", .list [])]) := by
  have outer : ¬ reader.depth ≤ 0 := by omega
  have inner : ¬ reader.depth ≤ 1 := by omega
  have opened : ['\x7b'].foldlM (step reader) {} = .ok ⟨[.dict [] ""], .firstKey⟩ := by
    simp [step, stepBetween, isBlank, startValue, outer]
  have comma (fields : List (String × Json)) (key : String) :
      [','].foldlM (step reader) ⟨[.dict fields key], .comma⟩ = .ok ⟨[.dict fields key], .nextKey⟩ := rfl
  have closed (fields : List (String × Json)) (key : String) :
      ['[', ']', '\x7d'].foldlM (step reader) ⟨[.dict fields key], .value⟩ =
        .ok ⟨[], .done (.dict (assign fields key (.list [])))⟩ := by
    have entered : step reader ⟨[.dict fields key], .value⟩ '[' = .ok ⟨[.list [], .dict fields key], .firstItem⟩ := by
      simp [step, stepBetween, isBlank, startValue, inner]
    rw [List.foldlM_cons, entered]
    rfl
  unfold loads listedRevision
  simp only [List.foldlM_append, opened, comma, closed, scan_key (.inl rfl), scan_key (.inr rfl), scan_jsonString,
    complete, assign, bind, Except.bind]
  rfl

/-- An interpreter with the usual limits; the text has no floats. -/
def usualReader : Reader := ⟨fun _ => none, 1000, 4300⟩

def releaseCommit : String := String.ofList (List.replicate 40 'a')

def releaseImage : String :=
  String.ofList ("ghcr.io/".toList ++ "example".toList ++ "/".toList ++ "delivery-service".toList ++
    "@sha256:".toList ++ List.replicate 64 'b')

theorem releaseImage_pinned : IsPinned releaseImage := by
  have owner : Within imageNameChars "example".toList := within_of_all (by decide)
  have name : Within imageNameChars "delivery-service".toList := within_of_all (by decide)
  have digest : Within lowerHex (List.replicate 64 'b') := by
    intro c mem
    rw [(List.mem_replicate.mp mem).2]
    decide
  exact ⟨_, _, _, String.toList_ofList, ⟨by decide, owner⟩, ⟨by decide, name⟩, List.length_replicate, digest⟩

theorem releaseCommit_full : IsCommit releaseCommit := by
  have text : releaseCommit.toList = List.replicate 40 'a' := String.toList_ofList
  unfold IsCommit
  rw [text]
  refine ⟨List.length_replicate, fun c mem => ?_⟩
  rw [(List.mem_replicate.mp mem).2]
  decide

theorem listedRevision_binds : BindsCommit usualReader (String.ofList (listedRevision releaseCommit releaseImage))
    releaseCommit [("commit", .str releaseCommit), ("image", .str releaseImage), ("alembic", .list [])]
    releaseImage where
  object := by
    rw [String.toList_ofList]
    exact loads_listedRevision (by decide) releaseCommit releaseImage
  keys key := by simp
  sha := releaseCommit_full
  commit := by simp [field?]
  image := by simp [field?]
  pinned := releaseImage_pinned

/-- The revision is a list, and the verification fails with a `TypeError`. -/
theorem listed_revision_raises_type_error :
    verifyReleaseManifest usualReader (String.ofList (listedRevision releaseCommit releaseImage)) releaseCommit
      {"0006", "0007"} = .error .typeError ∧
    ¬ VerifiesExactly usualReader (String.ofList (listedRevision releaseCommit releaseImage)) releaseCommit
      {"0006", "0007"} := by
  have raised : verifyReleaseManifest usualReader (String.ofList (listedRevision releaseCommit releaseImage))
      releaseCommit {"0006", "0007"} = .error .typeError := by
    have stored : field? [("commit", .str releaseCommit), ("image", .str releaseImage), ("alembic", .list [])]
        "alembic" = some (.list []) := by simp [field?]
    rw [listedRevision_binds.verify stored]
    rfl
  exact ⟨raised, fun verifies => absurd (verifies.2 _ raised) (by decide)⟩

end DeliveryService
