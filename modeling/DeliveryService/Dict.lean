import Mathlib.Data.List.Nodup

/-- A dictionary in insertion order; its keys are pairwise different by construction. -/
structure Dict (κ : Type) (α : Type) where
  entries : List (κ × α)
  nodup : (entries.map Prod.fst).Nodup

namespace Dict

variable {κ α : Type}

def empty : Dict κ α := ⟨[], by simp⟩

def keys (d : Dict κ α) : List κ := d.entries.map Prod.fst

def values (d : Dict κ α) : List α := d.entries.map Prod.snd

/-- Apply a function to every value; keys and their order stay. -/
def mapValues (d : Dict κ α) (f : α → α) : Dict κ α :=
  ⟨d.entries.map fun e => (e.1, f e.2), by simpa [Function.comp_def] using d.nodup⟩

variable [DecidableEq κ]

def get? (d : Dict κ α) (k : κ) : Option α :=
  (d.entries.find? fun e => decide (e.1 = k)).map Prod.snd

def contains (d : Dict κ α) (k : κ) : Bool := (d.get? k).isSome

/-- Assignment keeps the place of a key that is present and appends one that is not. -/
def set (d : Dict κ α) (k : κ) (v : α) : Dict κ α :=
  if h : k ∈ d.keys then
    ⟨d.entries.map fun e => if e.1 = k then (e.1, v) else e, by
      have same : (fun e : κ × α => (if e.1 = k then (e.1, v) else e).1) = Prod.fst := by
        funext e
        split <;> rfl
      simpa [Function.comp_def, same] using d.nodup⟩
  else
    ⟨d.entries ++ [(k, v)], by
      simpa [List.nodup_append, d.nodup] using fun a b hm e => h (by simpa [keys, ← e] using ⟨b, hm⟩)⟩

/-- `d.pop(k, None)` as a statement. -/
def erase (d : Dict κ α) (k : κ) : Dict κ α :=
  ⟨d.entries.filter fun e => decide (e.1 ≠ k), d.nodup.sublist (List.filter_sublist.map _)⟩

theorem find?_key_iff {entries : List (κ × α)} (unique : (entries.map Prod.fst).Nodup) {k : κ}
    {v : α} : (entries.find? fun e => decide (e.1 = k)).map Prod.snd = some v ↔ (k, v) ∈ entries := by
  induction entries with
  | nil => simp
  | cons e rest ih =>
    obtain ⟨k', v'⟩ := e
    simp only [List.map_cons, List.nodup_cons] at unique
    by_cases hk : k' = k
    · subst hk
      have fresh : (k', v) ∉ rest := fun hm => unique.1 (List.mem_map.mpr ⟨_, hm, rfl⟩)
      simp [fresh, eq_comm]
    · simpa [List.find?_cons, hk, Ne.symm hk] using ih unique.2

theorem get?_eq_some_iff {d : Dict κ α} {k : κ} {v : α} :
    d.get? k = some v ↔ (k, v) ∈ d.entries :=
  find?_key_iff d.nodup

theorem mem_keys_iff {d : Dict κ α} {k : κ} : k ∈ d.keys ↔ ∃ v, d.get? k = some v := by
  simp [keys, get?_eq_some_iff]

theorem mem_values_iff {d : Dict κ α} {v : α} : v ∈ d.values ↔ ∃ k, d.get? k = some v := by
  simp [values, get?_eq_some_iff]

theorem nodup_values {d : Dict κ α} {key : α → κ} (keyed : ∀ k v, d.get? k = some v → key v = k) :
    d.values.Nodup := by
  have same : d.values.map key = d.keys := by
    rw [values, keys, List.map_map]
    exact List.map_congr_left fun entry mem => keyed entry.1 entry.2 (get?_eq_some_iff.mpr mem)
  have distinct : d.keys.Nodup := d.nodup
  exact List.Nodup.of_map key (same ▸ distinct)

theorem get?_eq_none_iff {d : Dict κ α} {k : κ} : d.get? k = none ↔ k ∉ d.keys := by
  rw [mem_keys_iff, not_exists, Option.eq_none_iff_forall_ne_some]

@[simp]
theorem get?_empty (k : κ) : (empty : Dict κ α).get? k = none := rfl

theorem get?_set (d : Dict κ α) (k k' : κ) (v : α) :
    (d.set k v).get? k' = if k' = k then some v else d.get? k' := by
  ext w
  rw [get?_eq_some_iff]
  unfold set
  split
  next present =>
    obtain ⟨old, hold⟩ := mem_keys_iff.mp present
    have stored := get?_eq_some_iff.mp hold
    simp only [List.mem_map]
    constructor
    · rintro ⟨⟨a, b⟩, hm, he⟩
      by_cases ha : a = k
      · obtain ⟨rfl, rfl⟩ := Prod.mk.inj (by simpa [ha] using he)
        simp
      · obtain ⟨rfl, rfl⟩ := Prod.mk.inj (by simpa [ha] using he)
        simpa [ha] using get?_eq_some_iff.mpr hm
    · intro h
      by_cases hk : k' = k
      · subst hk
        obtain rfl : v = w := by simpa using h
        exact ⟨(k', old), stored, by simp⟩
      · exact ⟨(k', w), get?_eq_some_iff.mp (by simpa [hk] using h), by simp [hk]⟩
  next absent =>
    have fresh := get?_eq_none_iff.mpr absent
    by_cases hk : k' = k
    · subst hk
      have none_stored : (k', w) ∉ d.entries := by simp [← get?_eq_some_iff, fresh]
      simp [none_stored, eq_comm]
    · simp [hk, get?_eq_some_iff]

@[simp]
theorem get?_set_self (d : Dict κ α) (k : κ) (v : α) : (d.set k v).get? k = some v := by
  simp [get?_set]

theorem get?_set_of_ne (d : Dict κ α) {k k' : κ} (v : α) (h : k' ≠ k) :
    (d.set k v).get? k' = d.get? k' := by
  simp [get?_set, h]

theorem values_set_of_absent {d : Dict κ α} {k : κ} (v : α) (h : d.get? k = none) :
    (d.set k v).values = d.values ++ [v] := by
  simp [set, get?_eq_none_iff.mp h, values]

@[simp]
theorem get?_mapValues (d : Dict κ α) (f : α → α) (k : κ) :
    (d.mapValues f).get? k = (d.get? k).map f := by
  simp [get?, mapValues, List.find?_map, Function.comp_def]

theorem get?_erase (d : Dict κ α) (k k' : κ) : (d.erase k).get? k' = if k' = k then none else d.get? k' := by
  ext v
  rw [get?_eq_some_iff, erase]
  simp only [List.mem_filter, decide_eq_true_eq]
  split_ifs with same
  · simp [same]
  · rw [get?_eq_some_iff]
    simp [same]

end Dict
