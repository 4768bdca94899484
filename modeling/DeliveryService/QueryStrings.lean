import DeliveryService.SignedMessages

namespace DeliveryService

/-- `urllib.parse.unquote_to_bytes`: a percent sign without two hexadecimal digits stands for itself. -/
def unquoteToBytes : List Char → Bytes
  | [] => []
  | [c] => encodeUtf8 (String.singleton c)
  | [c, d] => encodeUtf8 (String.singleton c) ++ encodeUtf8 (String.singleton d)
  | c :: high :: low :: rest =>
    if c = '%' then
      match hexPair high low with
      | some byte => byte :: unquoteToBytes rest
      | none => encodeUtf8 (String.singleton c) ++ unquoteToBytes (high :: low :: rest)
    else encodeUtf8 (String.singleton c) ++ unquoteToBytes (high :: low :: rest)

/-- A plus sign of a query stands for a space. -/
def plusToSpace (c : Char) : Char := if c = '+' then ' ' else c

/-- `unquote_plus` of a text whose bytes are UTF-8; `none` is a text that it mends with U+FFFD. -/
def unquotePlus (text : List Char) : Option String :=
  String.fromUTF8? ⟨(unquoteToBytes (text.map plusToSpace)).toArray⟩

/-- `parse_qsl(query, keep_blank_values=True)` -/
def parseQsl (query : List Char) : Option (List (String × String)) :=
  ((query.splitOn '&').filter (· ≠ [])).mapM fun pair => do
    let parts := PyText.partition '=' pair
    let name ← unquotePlus parts.1
    let value ← unquotePlus (parts.2.getD [])
    pure (name, value)

/-- The value of a parameter, the last one of several. -/
def queryParam (params : List (String × String)) (name : String) : Option String :=
  (params.reverse.find? fun param => param.1 = name).map Prod.snd

theorem unquoteToBytes_cons_of_ne {c : Char} (other : c ≠ '%') (rest : List Char) :
    unquoteToBytes (c :: rest) = encodeUtf8 (String.singleton c) ++ unquoteToBytes rest := by
  match rest with
  | [] => simp [unquoteToBytes]
  | [d] => rfl
  | high :: low :: more => rw [unquoteToBytes, if_neg other]

theorem unquoteToBytes_escape {high low : Char} {byte : UInt8} (pair : hexPair high low = some byte)
    (rest : List Char) : unquoteToBytes ('%' :: high :: low :: rest) = byte :: unquoteToBytes rest := by
  rw [unquoteToBytes, if_pos rfl, pair]

theorem encodeUtf8_singleton {c : Char} (small : c.toNat < 128) :
    encodeUtf8 (String.singleton c) = [UInt8.ofNat c.toNat] := by
  have value : c.val.toNat ≤ 127 := Nat.le_of_lt_succ small
  rw [encodeUtf8, String.toUTF8, String.toByteArray_singleton, List.utf8Encode_singleton, String.utf8EncodeChar]
  simp only [if_pos value]
  simp

theorem toNat_ofNat_small {n : Nat} (small : n < 256) : (Char.ofNat n).toNat = n := by
  have valid : n.isValidChar := .inl (by omega)
  rw [Char.ofNat, dif_pos valid]
  rfl

theorem hexPair_upper (b : UInt8) :
    hexPair (Nat.digitChar (b.toNat / 16)).toUpper (Nat.digitChar (b.toNat % 16)).toUpper = some b := by
  have digits : ∀ d < 16, UUID.hexValue (Nat.digitChar d).toUpper = some d := by decide
  have bound := b.toNat_lt
  have value : 16 * (b.toNat / 16) + b.toNat % 16 = b.toNat := Nat.div_add_mod b.toNat 16
  simp only [hexPair, digits _ (by omega : b.toNat / 16 < 16), digits _ (by omega : b.toNat % 16 < 16),
    Option.bind_eq_bind, Option.bind_some, value, UInt8.ofNat_toNat]
  rfl

/-- The characters that `quote_plus` writes. -/
def quoted : List Char := "0123456789abcdefghijklmnopqrstuvwxyzABCDEFGHIJKLMNOPQRSTUVWXYZ_.-~+%".toList

theorem quotePlusByte_quoted (b : UInt8) : ∀ c ∈ quotePlusByte b, c ∈ quoted := by
  have bound := b.toNat_lt
  have digits : ∀ d < 16, (Nat.digitChar d).toUpper ∈ quoted := by decide
  have kept : ∀ n < 128, (Char.ofNat n).isAlphanum ∨ Char.ofNat n ∈ "_.-~".toList → Char.ofNat n ∈ quoted := by decide
  intro c mem
  simp only [quotePlusByte] at mem
  split_ifs at mem with plain space
  · rw [List.mem_singleton.mp mem]
    exact kept b.toNat plain.1 plain.2
  · rw [List.mem_singleton.mp mem]
    decide
  · simp only [List.mem_cons, List.not_mem_nil, or_false] at mem
    rcases mem with rfl | rfl | rfl
    · decide
    · exact digits _ (by omega)
    · exact digits _ (by omega)

theorem quotePlus_quoted (text : String) : ∀ c ∈ (quotePlus text).toList, c ∈ quoted := by
  intro c mem
  rw [quotePlus, String.toList_ofList] at mem
  obtain ⟨b, -, mem⟩ := List.mem_flatMap.mp mem
  exact quotePlusByte_quoted b c mem

/-- What one byte was quoted to reads back as that byte. -/
theorem unquoteToBytes_quotePlusByte (b : UInt8) (rest : List Char) :
    unquoteToBytes ((quotePlusByte b).map plusToSpace ++ rest) = b :: unquoteToBytes rest := by
  have bound := b.toNat_lt
  have kept : ∀ n < 128, (Char.ofNat n).isAlphanum ∨ Char.ofNat n ∈ "_.-~".toList →
      plusToSpace (Char.ofNat n) = Char.ofNat n ∧ Char.ofNat n ≠ '%' := by decide
  have digits : ∀ d < 16, plusToSpace (Nat.digitChar d).toUpper = (Nat.digitChar d).toUpper := by decide
  simp only [quotePlusByte]
  split_ifs with plain space
  · obtain ⟨same, other⟩ := kept b.toNat plain.1 plain.2
    have small : (Char.ofNat b.toNat).toNat < 128 := by
      rw [toNat_ofNat_small bound]
      exact plain.1
    rw [List.map_singleton, same, List.singleton_append, unquoteToBytes_cons_of_ne other, encodeUtf8_singleton small,
      toNat_ofNat_small bound, UInt8.ofNat_toNat, List.singleton_append]
  · have number := congrArg Char.toNat space
    rw [toNat_ofNat_small bound] at number
    have byte : b = 32 := UInt8.toNat_inj.mp number
    rw [byte, List.map_singleton, show plusToSpace '+' = ' ' from rfl, List.singleton_append,
      unquoteToBytes_cons_of_ne (by decide), encodeUtf8_singleton (by decide)]
    rfl
  · rw [List.map_cons, List.map_cons, List.map_singleton, digits _ (by omega), digits _ (by omega)]
    exact unquoteToBytes_escape (hexPair_upper b) rest

theorem unquotePlus_quotePlus (text : String) : unquotePlus (quotePlus text).toList = some text := by
  have bytes : ∀ bytes : Bytes, unquoteToBytes ((bytes.flatMap quotePlusByte).map plusToSpace) = bytes := by
    intro bytes
    induction bytes with
    | nil => rfl
    | cons b rest ih => rw [List.flatMap_cons, List.map_append, unquoteToBytes_quotePlusByte, ih]
  have valid : text.toUTF8.IsValidUTF8 := text.isValidUTF8
  rw [unquotePlus, quotePlus, String.toList_ofList, bytes, encodeUtf8, Array.toArray_toList]
  simp only [String.fromUTF8?, dif_pos valid]
  rfl

/-- `urlencode` -/
def urlencode (params : List (String × String)) : List Char :=
  ['&'].intercalate (params.map fun param => (quotePlus param.1).toList ++ '=' :: (quotePlus param.2).toList)

theorem mapM_map_eq_some {α β : Type} {f : β → Option α} {g : α → β} (back : ∀ a, f (g a) = some a) (values : List α) :
    (values.map g).mapM f = some values := by
  induction values with
  | nil => rfl
  | cons a rest ih => simp [List.mapM_cons, back, ih]

/-- What `urlencode` wrote is read back, whatever the names and values are. -/
theorem parseQsl_urlencode (params : List (String × String)) : parseQsl (urlencode params) = some params := by
  have separators : '=' ∉ quoted ∧ '&' ∉ quoted := by decide
  have alone : ∀ pair ∈ params.map fun param => (quotePlus param.1).toList ++ '=' :: (quotePlus param.2).toList,
      '&' ∉ pair := by
    intro pair mem
    obtain ⟨param, -, rfl⟩ := List.mem_map.mp mem
    intro found
    rcases List.mem_append.mp found with name | value
    · exact separators.2 (quotePlus_quoted _ _ name)
    · rcases List.mem_cons.mp value with same | value
      · cases same
      · exact separators.2 (quotePlus_quoted _ _ value)
  have back : ∀ param : String × String, (do
      let parts := PyText.partition '=' ((quotePlus param.1).toList ++ '=' :: (quotePlus param.2).toList)
      let name ← unquotePlus parts.1
      let value ← unquotePlus (parts.2.getD [])
      pure (name, value)) = some param := by
    intro param
    rw [PyText.partition_append fun mem => separators.1 (quotePlus_quoted _ _ mem)]
    simp [unquotePlus_quotePlus]
  cases params with
  | nil => rfl
  | cons param rest =>
    rw [parseQsl, urlencode, List.splitOn_intercalate '&' alone (by simp), List.filter_eq_self.mpr]
    · exact mapM_map_eq_some back (param :: rest)
    · intro pair mem
      obtain ⟨param, -, rfl⟩ := List.mem_map.mp mem
      simp

theorem url_eq (signer : ProofLinkSigner) (key : String) (expires : Int) (signature : String) :
    (signer.url key expires signature).toList = signer.basePath.toList ++
      '?' :: urlencode [("key", key), ("expires", toString expires), ("signature", signature)] := by
  have names : quotePlus "key" = "key" ∧ quotePlus "expires" = "expires" ∧ quotePlus "signature" = "signature" := by
    decide
  simp [ProofLinkSigner.url, urlencode, names, String.toList_append, List.intercalate]

end DeliveryService
