import DeliveryService.Dict

/-- A table of rows under their primary key. -/
structure Table {κ α : Type} [DecidableEq κ] (key : α → κ) where
  rows : Dict κ α
  keyed : ∀ k row, rows.get? k = some row → key row = k

namespace Table

variable {κ α : Type} [DecidableEq κ] {key : α → κ}

def empty : Table key := ⟨.empty, by simp⟩

def get? (t : Table key) (k : κ) : Option α := t.rows.get? k

def toList (t : Table key) : List α := t.rows.values

/-- Store a row under its key, in the place of the one that has the key. -/
def put (t : Table key) (row : α) : Table key where
  rows := t.rows.set (key row) row
  keyed := by
    intro k stored h
    rw [Dict.get?_set] at h
    split at h
    next same => rw [← Option.some.inj h, same]
    next => exact t.keyed k stored h

/-- Add a row unless its key is taken. -/
def insert (t : Table key) (row : α) : Table key :=
  if (t.get? (key row)).isSome then t else t.put row

/-- Apply a function that keeps the key to every row. -/
def map (t : Table key) (f : α → α) (keeps : ∀ row, key (f row) = key row) : Table key where
  rows := t.rows.mapValues f
  keyed := by
    intro k stored h
    rw [Dict.get?_mapValues, Option.map_eq_some_iff] at h
    obtain ⟨row, found, rfl⟩ := h
    rw [keeps, t.keyed k row found]

@[simp]
theorem get?_empty (k : κ) : (empty : Table key).get? k = none := rfl

theorem get?_put (t : Table key) (row : α) (k : κ) :
    (t.put row).get? k = if k = key row then some row else t.get? k :=
  Dict.get?_set _ _ _ _

@[simp]
theorem get?_put_self (t : Table key) (row : α) : (t.put row).get? (key row) = some row := by
  simp [get?_put]

theorem get?_put_of_ne (t : Table key) (row : α) {k : κ} (h : k ≠ key row) :
    (t.put row).get? k = t.get? k := by
  simp [get?_put, h]

theorem insert_of_absent {t : Table key} {row : α} (h : t.get? (key row) = none) : t.insert row = t.put row := by
  simp [insert, h]

theorem get?_insert_of_ne (t : Table key) (row : α) {k : κ} (h : k ≠ key row) :
    (t.insert row).get? k = t.get? k := by
  unfold insert
  split
  next => rfl
  next => exact get?_put_of_ne t row h

theorem get?_insert_of_some {t : Table key} {row stored : α} {k : κ} (h : t.get? k = some stored) :
    (t.insert row).get? k = some stored := by
  unfold insert
  split
  next => exact h
  next absent =>
    rw [get?_put_of_ne, h]
    rintro rfl
    simp [h] at absent

theorem filter_insert_of_false (t : Table key) {row : α} {p : α → Bool} (h : p row = false) :
    (t.insert row).toList.filter p = t.toList.filter p := by
  unfold insert
  split
  next => rfl
  next absent =>
    have fresh : t.get? (key row) = none := by simpa using absent
    simp [toList, put, Dict.values_set_of_absent row fresh, h]

theorem toList_insert_of_absent {t : Table key} {row : α} (h : t.get? (key row) = none) :
    (t.insert row).toList = t.toList ++ [row] := by
  rw [insert_of_absent h]
  exact Dict.values_set_of_absent row h

@[simp]
theorem get?_map (t : Table key) (f : α → α) (keeps : ∀ row, key (f row) = key row) (k : κ) :
    (t.map f keeps).get? k = (t.get? k).map f :=
  Dict.get?_mapValues _ _ _

theorem key_of_get? {t : Table key} {k : κ} {row : α} (h : t.get? k = some row) : key row = k :=
  t.keyed k row h

theorem nodup_toList (t : Table key) : t.toList.Nodup := Dict.nodup_values t.keyed

theorem mem_toList {t : Table key} {row : α} : row ∈ t.toList ↔ t.get? (key row) = some row := by
  rw [toList, Dict.mem_values_iff]
  constructor
  · rintro ⟨k, found⟩
    have hk := t.keyed k row found
    exact hk ▸ found
  · exact fun found => ⟨key row, found⟩

theorem nodup_keys (t : Table key) : (t.toList.map key).Nodup := by
  refine List.Nodup.map_on (fun a ha b hb same => ?_) t.nodup_toList
  have found := mem_toList.mp ha
  rw [same, mem_toList.mp hb] at found
  exact (Option.some.inj found).symm

end Table
