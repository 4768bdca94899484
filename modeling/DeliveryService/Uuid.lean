import Mathlib.Data.Nat.Digits.Lemmas
import Mathlib.Order.Basic
import DeliveryService.PyText

namespace DeliveryService

/-- A UUID is its 128-bit integer, which is also how two of them compare. -/
structure UUID where
  int : Nat
  bound : int < 2 ^ 128
deriving DecidableEq

namespace UUID

theorem int_injective : Function.Injective UUID.int := by
  rintro ⟨a, _⟩ ⟨b, _⟩ rfl
  rfl

instance : LinearOrder UUID := LinearOrder.lift' UUID.int int_injective

instance (n : Nat) : OfNat UUID n := ⟨⟨n % 2 ^ 128, Nat.mod_lt _ (by decide)⟩⟩

/-- The value of a hexadecimal digit in either case. -/
def hexValue (c : Char) : Option Nat :=
  if 48 ≤ c.toNat ∧ c.toNat ≤ 57 then some (c.toNat - 48)
  else if 97 ≤ c.toNat ∧ c.toNat ≤ 102 then some (c.toNat - 87)
  else if 65 ≤ c.toNat ∧ c.toNat ≤ 70 then some (c.toNat - 55)
  else none

def hex (u : UUID) : List Char := (Nat.digitsAppend 16 32 u.int).reverse.map Nat.digitChar

/-- The 8-4-4-4-12 spelling. -/
def hyphenate (h : List Char) : List Char :=
  h.take 8 ++ '-' :: (h.drop 8).take 4 ++ '-' :: (h.drop 12).take 4 ++
    '-' :: (h.drop 16).take 4 ++ '-' :: h.drop 20

/-- `str(uuid)` -/
def str (u : UUID) : String := String.ofList (hyphenate u.hex)

/-- What is left of a spelling once URN prefixes, braces and hyphens are gone. -/
def digitsOf (text : List Char) : List Char :=
  (PyText.strip (fun c => c = '{' || c = '}')
    (PyText.removeAll "uuid:".toList 0 (PyText.removeAll "urn:".toList 0 text))).filter (· ≠ '-')

/-- `uuid.UUID(text)`; `none` is its `ValueError`. -/
def parse (text : List Char) : Option UUID :=
  let digits := digitsOf text
  if digits.length = 32 then do
    let values ← digits.mapM hexValue
    let int := Nat.ofDigits 16 values.reverse
    if h : int < 2 ^ 128 then some ⟨int, h⟩ else none
  else none

/-- The alphabet of the spellings the service accepts from outside: hexadecimal digits and hyphens. -/
def plain (c : Char) : Bool := (hexValue c).isSome || c = '-'

theorem digitsOf_plain {text : List Char} (h : ∀ c ∈ text, plain c = true) :
    digitsOf text = text.filter (· ≠ '-') := by
  have absent : ∀ c, plain c = false → c ∉ text := by
    intro c hc hm
    simp [h c hm] at hc
  have brace : ∀ c ∈ text, (c = '{' || c = '}') = false := by
    intro c hm
    have left : c ≠ '{' := fun e => absent '{' (by decide) (e ▸ hm)
    have right : c ≠ '}' := fun e => absent '}' (by decide) (e ▸ hm)
    simp [left, right]
  have prefixed : "urn:".toList = 'u' :: "rn:".toList := by decide
  have prefixed' : "uuid:".toList = 'u' :: "uid:".toList := by decide
  rw [digitsOf, prefixed, prefixed', PyText.removeAll_of_head_notMem (absent 'u' (by decide)),
    PyText.removeAll_of_head_notMem (absent 'u' (by decide)), PyText.strip_of_forall_not brace]

theorem hexValue_lt {c : Char} {v : Nat} (h : hexValue c = some v) : v < 16 := by
  unfold hexValue at h
  split_ifs at h <;> simp at h <;> omega

theorem mapM_hexValue_lt {text : List Char} {values : List Nat} (h : text.mapM hexValue = some values) :
    values.length = text.length ∧ ∀ v ∈ values, v < 16 := by
  induction text generalizing values with
  | nil => simp_all
  | cons c rest ih =>
    rw [List.mapM_cons] at h
    obtain ⟨v, hv, h⟩ := Option.bind_eq_some_iff.mp h
    obtain ⟨tail, ht, h⟩ := Option.bind_eq_some_iff.mp h
    cases Option.some.inj h
    obtain ⟨hl, hb⟩ := ih ht
    refine ⟨by simp [hl], ?_⟩
    intro x hx
    rcases List.mem_cons.mp hx with rfl | hx
    · exact hexValue_lt hv
    · exact hb x hx

/-- A successful parse reads 32 hexadecimal digits, most significant first. -/
theorem parse_eq_some_iff {text : List Char} {u : UUID} :
    parse text = some u ↔ (digitsOf text).length = 32 ∧
      ∃ values, (digitsOf text).mapM hexValue = some values ∧ Nat.ofDigits 16 values.reverse = u.int := by
  simp only [parse]
  split
  next hl =>
    constructor
    · intro h
      obtain ⟨values, hv, h⟩ := Option.bind_eq_some_iff.mp h
      split at h
      next hb => cases Option.some.inj h; exact ⟨hl, values, hv, rfl⟩
      next => simp at h
    · rintro ⟨_, values, hv, he⟩
      have hb : Nat.ofDigits 16 values.reverse < 2 ^ 128 := he ▸ u.bound
      simp only [hv, Option.bind_eq_bind, Option.bind_some, dif_pos hb, Option.some.injEq]
      exact int_injective he
  next hl => simp [hl]

theorem mapM_hexValue_inj {a b : List Char} {values : List Nat}
    (lower : ∀ c, c ∈ a ∨ c ∈ b → ¬ (65 ≤ c.toNat ∧ c.toNat ≤ 70))
    (ha : a.mapM hexValue = some values) (hb : b.mapM hexValue = some values) : a = b := by
  induction a generalizing b values with
  | nil =>
    obtain rfl : values = [] := by simpa using ha.symm
    have := (mapM_hexValue_lt hb).1
    simp only [List.length_nil] at this
    exact (List.length_eq_zero_iff.mp this.symm).symm
  | cons c rest ih =>
    rw [List.mapM_cons] at ha
    obtain ⟨v, hv, ha⟩ := Option.bind_eq_some_iff.mp ha
    obtain ⟨tail, ht, ha⟩ := Option.bind_eq_some_iff.mp ha
    cases Option.some.inj ha
    cases b with
    | nil => simp at hb
    | cons d others =>
      rw [List.mapM_cons] at hb
      obtain ⟨w, hw, hb⟩ := Option.bind_eq_some_iff.mp hb
      obtain ⟨tail', ht', hb⟩ := Option.bind_eq_some_iff.mp hb
      obtain ⟨rfl, rfl⟩ := List.cons.inj (Option.some.inj hb)
      have hc := lower c (by simp)
      have hd := lower d (by simp)
      have same : c = d := by
        apply Char.toNat_inj.mp
        unfold hexValue at hv hw
        split_ifs at hv hw <;> simp at hv hw <;> omega
      rw [same, ih (fun x hx => lower x (by rcases hx with hx | hx <;> simp [hx])) ht ht']

/-- Two plain lower-case spellings parse to the same UUID only if they are equal up to hyphens. -/
theorem digits_eq_of_parse_eq {a b : List Char} {u : UUID}
    (plainA : ∀ c ∈ a, plain c = true) (plainB : ∀ c ∈ b, plain c = true)
    (lower : ∀ c, c ∈ a ∨ c ∈ b → ¬ (65 ≤ c.toNat ∧ c.toNat ≤ 70))
    (ha : parse a = some u) (hb : parse b = some u) :
    a.filter (· ≠ '-') = b.filter (· ≠ '-') := by
  obtain ⟨la, va, hva, ea⟩ := parse_eq_some_iff.mp ha
  obtain ⟨lb, vb, hvb, eb⟩ := parse_eq_some_iff.mp hb
  have sizeA := mapM_hexValue_lt hva
  have sizeB := mapM_hexValue_lt hvb
  have same : va.reverse = vb.reverse :=
    Nat.ofDigits_inj_of_len_eq (by decide) (by simp [sizeA.1, sizeB.1, la, lb])
      (by simpa using sizeA.2) (by simpa using sizeB.2) (ea.trans eb.symm)
  rw [List.reverse_inj.mp same] at hva
  rw [digitsOf_plain plainA] at hva
  rw [digitsOf_plain plainB] at hvb
  refine mapM_hexValue_inj (fun c hc => lower c ?_) hva hvb
  rcases hc with hc | hc
  · exact Or.inl (List.mem_of_mem_filter hc)
  · exact Or.inr (List.mem_of_mem_filter hc)

theorem parse_congr_digits {a b : List Char}
    (plainA : ∀ c ∈ a, plain c = true) (plainB : ∀ c ∈ b, plain c = true)
    (h : a.filter (· ≠ '-') = b.filter (· ≠ '-')) : parse a = parse b := by
  simp only [parse, digitsOf_plain plainA, digitsOf_plain plainB, h]

theorem hexValue_digitChar : ∀ d < 16, hexValue (Nat.digitChar d) = some d := by decide

theorem mapM_hexValue_digitChar {values : List Nat} (h : ∀ v ∈ values, v < 16) :
    (values.map Nat.digitChar).mapM hexValue = some values := by
  induction values with
  | nil => rfl
  | cons v rest ih =>
    simp [List.mapM_cons, hexValue_digitChar v (h v (by simp)), ih (fun x hx => h x (by simp [hx]))]

theorem hexDigits_spec (u : UUID) :
    (Nat.digitsAppend 16 32 u.int).length = 32 ∧ (∀ d ∈ Nat.digitsAppend 16 32 u.int, d < 16) ∧
      Nat.ofDigits 16 (Nat.digitsAppend 16 32 u.int) = u.int := by
  have hb : u.int < 16 ^ 32 := by
    have := u.bound
    omega
  exact ⟨Nat.length_digitsAppend (by decide) 32 hb,
    fun d hd => Nat.lt_of_mem_digitsAppend (by decide) 32 d hd,
    (Nat.setInvOn_digitsAppend_ofDigits (by decide) 32).2 hb⟩

theorem hex_length (u : UUID) : u.hex.length = 32 := by
  simp [hex, u.hexDigits_spec.1]

theorem mem_hyphenate {h : List Char} {c : Char} : c ∈ hyphenate h → c ∈ h ∨ c = '-' := by
  intro hm
  simp only [hyphenate, List.mem_append, List.mem_cons] at hm
  have part : ∀ n m, c ∈ (h.drop n).take m → c ∈ h :=
    fun n m hc => List.mem_of_mem_drop (List.mem_of_mem_take hc)
  rcases hm with ((((hm | rfl | hm) | rfl | hm) | rfl | hm) | rfl | hm)
  · exact Or.inl (List.mem_of_mem_take hm)
  · exact Or.inr rfl
  · exact Or.inl (part _ _ hm)
  · exact Or.inr rfl
  · exact Or.inl (part _ _ hm)
  · exact Or.inr rfl
  · exact Or.inl (part _ _ hm)
  · exact Or.inr rfl
  · exact Or.inl (List.mem_of_mem_drop hm)

theorem digitChar_plain : ∀ d < 16, plain (Nat.digitChar d) = true ∧ Nat.digitChar d ≠ '-' := by decide

theorem hex_plain (u : UUID) {c : Char} (h : c ∈ u.hex) : plain c = true ∧ c ≠ '-' := by
  obtain ⟨d, hd, rfl⟩ := List.mem_map.mp h
  exact digitChar_plain d (u.hexDigits_spec.2.1 d (List.mem_reverse.mp hd))

theorem str_plain (u : UUID) : ∀ c ∈ u.str.toList, plain c = true := by
  intro c hc
  rcases mem_hyphenate (by simpa [str] using hc) with hm | rfl
  · exact (u.hex_plain hm).1
  · decide

theorem filter_hyphenate (h : List Char) :
    (hyphenate h).filter (· ≠ '-') = h.filter (· ≠ '-') := by
  have cut : h = h.take 8 ++ (h.drop 8).take 4 ++ (h.drop 12).take 4 ++ (h.drop 16).take 4 ++
      h.drop 20 := by
    have join : ∀ n, (h.drop n).take 4 ++ h.drop (n + 4) = h.drop n := fun n => by
      rw [← List.drop_drop, List.take_append_drop]
    simp only [List.append_assoc, join, List.take_append_drop]
  conv_rhs => rw [cut]
  simp [hyphenate, List.filter_append]

theorem parse_str (u : UUID) : parse u.str.toList = some u := by
  obtain ⟨size, small, value⟩ := u.hexDigits_spec
  have digits : digitsOf u.str.toList = u.hex := by
    rw [digitsOf_plain u.str_plain, str, String.toList_ofList, filter_hyphenate,
      List.filter_eq_self.mpr]
    intro c hc
    simpa using (u.hex_plain hc).2
  refine parse_eq_some_iff.mpr ⟨by rw [digits, hex_length],
    (Nat.digitsAppend 16 32 u.int).reverse, ?_, ?_⟩
  · rw [digits, hex]
    exact mapM_hexValue_digitChar (by simpa using small)
  · simpa using value

theorem str_injective : Function.Injective UUID.str := by
  intro a b h
  have := a.parse_str
  rw [h, b.parse_str] at this
  exact (Option.some.inj this).symm

theorem str_length (u : UUID) : u.str.toList.length = 36 := by
  simp only [str, hyphenate, String.toList_ofList, List.length_append, List.length_cons,
    List.length_take, List.length_drop, hex_length]
  decide

end UUID

end DeliveryService
