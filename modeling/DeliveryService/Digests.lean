import Mathlib.Data.Nat.Digits.Defs
import DeliveryService.PyRegex
import DeliveryService.Uuid

namespace DeliveryService

abbrev Bytes := List UInt8

/-- `str.encode("utf-8")` -/
def encodeUtf8 (text : String) : Bytes := text.toUTF8.data.toList

/-- `hashlib.sha256` and `hmac` over it; `digest_size` is 32. -/
structure Sha256 where
  digest : Bytes → Bytes
  hmac : (key message : Bytes) → Bytes
  digest_size : ∀ message, (digest message).length = 32
  hmac_size : ∀ key message, (hmac key message).length = 32

/-- The two digits of a byte. -/
def hexByte (b : UInt8) : List Char := [Nat.digitChar (b.toNat / 16), Nat.digitChar (b.toNat % 16)]

/-- `bytes.hex` -/
def hexText (bytes : Bytes) : String := String.ofList (bytes.flatMap hexByte)

/-- The white space between the bytes that `bytes.fromhex` reads. -/
def isHexSpace (c : Char) : Bool := c = ' ' || (9 ≤ c.toNat && c.toNat ≤ 13)

def hexPair (high low : Char) : Option UInt8 := do
  let high ← UUID.hexValue high
  let low ← UUID.hexValue low
  pure (UInt8.ofNat (16 * high + low))

/-- `bytes.fromhex`; `none` is its `ValueError`. -/
def fromHex : List Char → Option Bytes
  | [] => some []
  | [c] => if isHexSpace c then some [] else none
  | high :: low :: rest =>
    if isHexSpace high then fromHex (low :: rest)
    else do
      let byte ← hexPair high low
      let bytes ← fromHex rest
      pure (byte :: bytes)

def Sha256.hexdigest (sha : Sha256) (message : Bytes) : String := hexText (sha.digest message)

def Sha256.hmacHexdigest (sha : Sha256) (key message : Bytes) : String := hexText (sha.hmac key message)

def IsAscii (text : String) : Prop := ∀ c ∈ text.toList, c.toNat < 128

instance instDecidableIsAscii (text : String) : Decidable (IsAscii text) :=
  List.decidableBAll (fun c : Char => c.toNat < 128) text.toList

/-- `hmac.compare_digest` on two `str`; `none` is the `TypeError` for a character outside ASCII. -/
def compareDigest (a b : String) : Option Bool :=
  if IsAscii a ∧ IsAscii b then some (a == b) else none

theorem encodeUtf8_injective : Function.Injective encodeUtf8 := by
  intro a b same
  have bytes : a.toByteArray = b.toByteArray := ByteArray.ext (Array.toList_inj.mp same)
  exact String.toByteArray_inj.mp bytes

/-- Two different messages with one digest. -/
def Sha256.Collision (sha : Sha256) (message message' : Bytes) : Prop :=
  message ≠ message' ∧ sha.digest message = sha.digest message'

/-- Two different messages with one HMAC. -/
def Sha256.HmacCollision (sha : Sha256) (key message message' : Bytes) : Prop :=
  message ≠ message' ∧ sha.hmac key message = sha.hmac key message'

theorem digitChar_lowerHex : ∀ d < 16, Nat.digitChar d ∈ PyRegex.lowerHex := by decide

theorem ascii_of_lowerHex {c : Char} (mem : c ∈ PyRegex.lowerHex) : c.toNat < 128 := by
  have all : PyRegex.lowerHex.all (fun c => c.toNat < 128) = true := by decide
  simpa using List.all_eq_true.mp all c mem

theorem hexByte_within (b : UInt8) : PyRegex.Within PyRegex.lowerHex (hexByte b) := by
  intro c mem
  have bound := b.toNat_lt
  rcases List.mem_cons.mp mem with rfl | mem
  · exact digitChar_lowerHex _ (by omega)
  · rw [List.mem_singleton.mp mem]
    exact digitChar_lowerHex _ (by omega)

theorem hexText_length (bytes : Bytes) : (hexText bytes).toList.length = 2 * bytes.length := by
  rw [hexText, String.toList_ofList]
  induction bytes with
  | nil => rfl
  | cons b rest ih =>
    rw [List.flatMap_cons, List.length_append, ih, List.length_cons]
    simp only [hexByte, List.length_cons, List.length_nil]
    omega

theorem hexText_within (bytes : Bytes) : PyRegex.Within PyRegex.lowerHex (hexText bytes).toList := by
  intro c mem
  rw [hexText, String.toList_ofList] at mem
  obtain ⟨b, -, mem⟩ := List.mem_flatMap.mp mem
  exact hexByte_within b c mem

theorem hexText_ascii (bytes : Bytes) : IsAscii (hexText bytes) :=
  fun c mem => ascii_of_lowerHex (hexText_within bytes c mem)

theorem hexPair_hexByte (b : UInt8) :
    hexPair (Nat.digitChar (b.toNat / 16)) (Nat.digitChar (b.toNat % 16)) = some b := by
  have bound := b.toNat_lt
  have value : 16 * (b.toNat / 16) + b.toNat % 16 = b.toNat := Nat.div_add_mod b.toNat 16
  simp only [hexPair, UUID.hexValue_digitChar _ (by omega : b.toNat / 16 < 16),
    UUID.hexValue_digitChar _ (by omega : b.toNat % 16 < 16), Option.bind_eq_bind, Option.bind_some, value,
    UInt8.ofNat_toNat]
  rfl

theorem fromHex_hexText (bytes : Bytes) : fromHex (hexText bytes).toList = some bytes := by
  have solid : ∀ d < 16, isHexSpace (Nat.digitChar d) = false := by decide
  rw [hexText, String.toList_ofList]
  induction bytes with
  | nil => rfl
  | cons b rest ih =>
    have bound := b.toNat_lt
    rw [List.flatMap_cons, hexByte, List.cons_append, List.cons_append, List.nil_append, fromHex,
      solid _ (by omega : b.toNat / 16 < 16), hexPair_hexByte, ih]
    rfl

theorem hexText_injective : Function.Injective hexText := by
  intro a b same
  have read := fromHex_hexText a
  rw [same, fromHex_hexText b] at read
  exact (Option.some.inj read).symm

theorem Sha256.hexdigest_length (sha : Sha256) (message : Bytes) :
    (sha.hexdigest message).toList.length = 64 := by
  rw [hexdigest, hexText_length, sha.digest_size]

theorem Sha256.hmacHexdigest_length (sha : Sha256) (key message : Bytes) :
    (sha.hmacHexdigest key message).toList.length = 64 := by
  rw [hmacHexdigest, hexText_length, sha.hmac_size]

theorem compareDigest_of_ascii {a b : String} (left : IsAscii a) (right : IsAscii b) :
    compareDigest a b = some (a == b) := by
  rw [compareDigest, if_pos ⟨left, right⟩]

/-- The digest and the HMAC of empty input. -/
def emptyDigest : Bytes :=
  [227, 176, 196, 66, 152, 252, 28, 20, 154, 251, 244, 200, 153, 111, 185, 36, 39, 174, 65, 228, 100, 155, 147,
    76, 164, 149, 153, 27, 120, 82, 184, 85]

def emptyMac : Bytes :=
  [182, 19, 103, 154, 8, 20, 217, 236, 119, 47, 149, 215, 120, 195, 95, 197, 255, 22, 151, 196, 147, 113, 86,
    83, 198, 199, 18, 20, 66, 146, 197, 173]

theorem emptyDigest_size (_message : Bytes) : emptyDigest.length = 32 := rfl

theorem emptyMac_size (_key _message : Bytes) : emptyMac.length = 32 := rfl

end DeliveryService
