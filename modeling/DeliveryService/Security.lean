import DeliveryService.Access

namespace DeliveryService

def invalidSubject : HTTPException := ⟨401, "invalid subject", bearerChallenge⟩

def parseSubject (subject : String) : Except HTTPException (String × UUID) :=
  let parts := PyText.partition ':' subject.toList
  let role := String.ofList parts.1
  match parts.2 with
  | none => .error invalidSubject
  | some rawUserId =>
    if role ∈ ["customer", "courier", "dispatcher"] then
      match UUID.parse rawUserId with
      | some userId => .ok (role, userId)
      | none => .error invalidSubject
    else .error invalidSubject

/-- The claims of a verified access token that authorization reads. -/
structure AccessClaims where
  sub : String
  tenant : String
deriving DecidableEq

def actorFromClaims (claims : AccessClaims) : Except HTTPException Actor := do
  let (role, userId) ← parseSubject claims.sub
  match Role.ofValue role, UUID.parse claims.tenant.toList with
  | some role, some tenantId => pure ⟨userId, role, tenantId⟩
  | _, _ => throw ⟨401, "invalid actor context", bearerChallenge⟩

/-- `normalize_login_subject`; `none` is its `ValueError`. -/
def normalizeLoginSubject (folding : PyText.CaseFolding) (raw : String) : Option String :=
  let normalized := folding.casefold (PyText.strip PyText.isSpace raw.toList)
  if ¬ (3 ≤ normalized.length ∧ normalized.length ≤ 160) then none
  else if normalized.any (fun c => c.toNat < 32 || c.toNat = 127) then none
  else some (String.ofList normalized)

end DeliveryService
