import Mathlib.Data.List.Basic
import Mathlib.Data.List.Nodup

namespace Ddl

/-- The values of a column: one is null, and some count as true. -/
class SqlValue (V : Type) where
  null : V
  isTrue : V → Bool

structure Column (T D : Type) where
  name : String
  type : T
  nullable : Bool
  default : Option D := none
deriving DecidableEq

/-- An index over some columns; a partial one covers only the rows where a column is true. -/
structure Index where
  name : String
  columns : List String
  unique : Bool := false
  filter : Option String := none
deriving DecidableEq

structure ForeignKey where
  name : Option String
  columns : List String
  target : String
  targetColumns : List String
  onDelete : Option String
deriving DecidableEq

/-- A check with the columns that its text mentions. -/
structure Check where
  name : String
  text : String
  columns : List String
deriving DecidableEq

structure Unique where
  name : Option String
  columns : List String
deriving DecidableEq

structure Schema (T D : Type) where
  name : String
  columns : List (Column T D)
  primaryKey : List String
  checks : List Check := []
  uniques : List Unique := []
  foreignKeys : List ForeignKey := []
  indexes : List Index := []
deriving DecidableEq

abbrev Catalog (T D : Type) := List (Schema T D)

abbrev Row (V : Type) := List (String × V)

section Rows

variable {V : Type} [SqlValue V]

namespace Row

def value (row : Row V) (column : String) : V := (row.lookup column).getD SqlValue.null

/-- The cells of some columns, null where the row has none. -/
def restrict (columns : List String) (row : Row V) : Row V := columns.map fun column => (column, row.value column)

/-- Some cells get new values. -/
def overwrite (row news : Row V) : Row V := row.map fun cell => (cell.1, (news.lookup cell.1).getD cell.2)

omit [SqlValue V] in
theorem lookup_cons (cell : String × V) (row : Row V) (column : String) :
    List.lookup column (cell :: row) = if column = cell.1 then some cell.2 else row.lookup column := by
  obtain ⟨name, old⟩ := cell
  by_cases same : column = name
  · simp [same]
  · simp [List.lookup_cons, same, beq_eq_false_iff_ne.mpr same]

theorem value_cons (cell : String × V) (row : Row V) (column : String) :
    value (cell :: row) column = if column = cell.1 then cell.2 else value row column := by
  rw [value, lookup_cons]
  split_ifs
  · rfl
  · rfl

theorem restrict_congr {columns : List String} {row other : Row V}
    (same : ∀ column ∈ columns, row.value column = other.value column) :
    row.restrict columns = other.restrict columns :=
  List.map_congr_left fun column mem => by rw [same column mem]

theorem names_restrict (columns : List String) (row : Row V) : (row.restrict columns).map Prod.fst = columns := by
  rw [restrict, List.map_map]
  exact List.map_id _

theorem restrict_names {row : Row V} (distinct : (row.map Prod.fst).Nodup) : row.restrict (row.map Prod.fst) = row := by
  rw [restrict, List.map_map]
  conv_rhs => rw [← List.map_id row]
  refine List.map_congr_left fun cell mem => ?_
  have found : row.value cell.1 = cell.2 := by
    induction row with
    | nil => cases mem
    | cons first rest ih =>
      rw [value_cons]
      rw [List.map_cons, List.nodup_cons] at distinct
      rcases List.mem_cons.mp mem with rfl | later
      · rw [if_pos rfl]
      · have new : cell.1 ≠ first.1 := fun same => distinct.1 (same ▸ List.mem_map_of_mem later)
        rw [if_neg new]
        exact ih distinct.2 later
  exact Prod.ext rfl found

theorem value_append_single {name column : String} (other : column ≠ name) (new : V) (row : Row V) :
    value (row ++ [(name, new)]) column = value row column := by
  induction row with
  | nil => rw [List.nil_append, value_cons, if_neg other]
  | cons cell row ih => rw [List.cons_append, value_cons, value_cons, ih]

theorem value_filter {name column : String} (other : column ≠ name) (row : Row V) :
    value (row.filter fun cell => cell.1 ≠ name) column = value row column := by
  induction row with
  | nil => rfl
  | cons cell row ih =>
    by_cases dropped : cell.1 = name
    · rw [List.filter_cons_of_neg (by simpa using dropped), ih, value_cons, if_neg fun same => other (same.trans dropped)]
    · rw [List.filter_cons_of_pos (by simpa using dropped), value_cons, value_cons, ih]

omit [SqlValue V] in
theorem lookup_names {column : String} (row : Row V) : row.lookup column = none ↔ column ∉ row.map Prod.fst := by
  induction row with
  | nil => simp
  | cons cell row ih =>
    rw [lookup_cons, List.map_cons, List.mem_cons]
    split_ifs with same
    · simp [same]
    · simpa [same] using ih

omit [SqlValue V] in
theorem names_overwrite (row news : Row V) : (row.overwrite news).map Prod.fst = row.map Prod.fst := by
  rw [overwrite, List.map_map]
  rfl

/-- A cell of an overwritten row is the new one, where there is one. -/
theorem value_overwrite (row news : Row V) (column : String) :
    (row.overwrite news).value column =
      if column ∈ row.map Prod.fst then (news.lookup column).getD (row.value column) else SqlValue.null := by
  induction row with
  | nil => simp [overwrite, value]
  | cons cell row ih =>
    rw [overwrite, List.map_cons, value_cons, value_cons]
    by_cases same : column = cell.1
    · simp [same]
    · simp only [same, if_false, List.map_cons, List.mem_cons, false_or]
      exact ih

theorem value_overwrite_single {name column : String} (other : column ≠ name) (new : V) (row : Row V) :
    (row.overwrite [(name, new)]).value column = row.value column := by
  rw [value_overwrite, lookup_cons, if_neg other]
  split_ifs with known
  · rfl
  · rw [value, (lookup_names row).mpr known]
    rfl

end Row

end Rows

section

variable {T D V : Type} [SqlValue V]

namespace Schema

def columnNames (s : Schema T D) : List String := s.columns.map Column.name

/-- Keys, constraints and indexes speak of columns that exist, and no column exists twice. -/
def wellFormed (s : Schema T D) : Bool :=
  s.columnNames.Nodup ∧ s.primaryKey ⊆ s.columnNames ∧ (∀ check ∈ s.checks, check.columns ⊆ s.columnNames) ∧
    (∀ unique ∈ s.uniques, unique.columns ⊆ s.columnNames) ∧ (∀ key ∈ s.foreignKeys, key.columns ⊆ s.columnNames) ∧
    ∀ index ∈ s.indexes, index.filter.toList ++ index.columns ⊆ s.columnNames

/-- The columns that a key or a constraint mentions. -/
def constrained (s : Schema T D) : List String :=
  s.primaryKey ++ s.checks.flatMap Check.columns ++ s.uniques.flatMap Unique.columns ++
    s.foreignKeys.flatMap ForeignKey.columns ++ (s.indexes.filter Index.unique).flatMap Index.columns

/-- Whether some columns identify a row. -/
def identifies (columns : List String) (s : Schema T D) : Bool :=
  s.primaryKey = columns || s.uniques.any fun unique => unique.columns = columns

/-- The names that a table takes in the namespace of relations. -/
def relations (s : Schema T D) : List String := s.name :: s.indexes.map Index.name ++ s.uniques.filterMap Unique.name

def addColumn (c : Column T D) (s : Schema T D) : Schema T D := { s with columns := s.columns ++ [c] }

/-- A column goes with everything that mentions it. -/
def dropColumn (name : String) (s : Schema T D) : Schema T D where
  name := s.name
  columns := s.columns.filter fun c => c.name ≠ name
  primaryKey := if name ∈ s.primaryKey then [] else s.primaryKey
  checks := s.checks.filter fun check => name ∉ check.columns
  uniques := s.uniques.filter fun unique => name ∉ unique.columns
  foreignKeys := s.foreignKeys.filter fun key => name ∉ key.columns
  indexes := s.indexes.filter fun index => name ∉ index.filter.toList ++ index.columns

def createIndex (index : Index) (s : Schema T D) : Schema T D := { s with indexes := s.indexes ++ [index] }

def dropIndex (name : String) (s : Schema T D) : Schema T D :=
  { s with indexes := s.indexes.filter fun index => index.name ≠ name }

end Schema

/-- The value that a new column has in the rows that are there. -/
def Column.initial (evaluate : D → V) (c : Column T D) : V := (c.default.map evaluate).getD SqlValue.null

structure Table (T D V : Type) where
  schema : Schema T D
  rows : List (Row V)
  aligned : ∀ row ∈ rows, row.map Prod.fst = schema.columnNames

namespace Table

omit [SqlValue V] in
@[ext]
theorem ext {t u : Table T D V} (schema : t.schema = u.schema) (rows : t.rows = u.rows) : t = u := by
  cases t
  cases u
  cases schema
  cases rows
  rfl

def empty (s : Schema T D) : Table T D V := ⟨s, [], fun _ mem => absurd mem List.not_mem_nil⟩

def addColumn (evaluate : D → V) (c : Column T D) (t : Table T D V) : Table T D V where
  schema := t.schema.addColumn c
  rows := t.rows.map fun row => row ++ [(c.name, c.initial evaluate)]
  aligned := by
    rintro _ mem
    obtain ⟨row, old, rfl⟩ := List.mem_map.mp mem
    simp [Schema.columnNames, Schema.addColumn, t.aligned row old]

omit [SqlValue V] in
def dropColumn (name : String) (t : Table T D V) : Table T D V where
  schema := t.schema.dropColumn name
  rows := t.rows.map fun row => row.filter fun cell => cell.1 ≠ name
  aligned := by
    rintro _ mem
    obtain ⟨row, old, rfl⟩ := List.mem_map.mp mem
    have names := t.aligned row old
    calc (row.filter fun cell => cell.1 ≠ name).map Prod.fst
        = (row.map Prod.fst).filter fun other => other ≠ name := by rw [List.filter_map]; rfl
      _ = (t.schema.columns.filter fun c => c.name ≠ name).map Column.name := by
        rw [names, Schema.columnNames, List.filter_map]
        rfl

def createIndex (index : Index) (t : Table T D V) : Table T D V := ⟨t.schema.createIndex index, t.rows, t.aligned⟩

def dropIndex (name : String) (t : Table T D V) : Table T D V := ⟨t.schema.dropIndex name, t.rows, t.aligned⟩

/-- The value of `source` goes to the rows that have none in `column`. -/
def backfill [DecidableEq V] (column source : String) (t : Table T D V) : Table T D V where
  schema := t.schema
  rows := t.rows.map fun row => row.overwrite
    [(column, if row.value column = SqlValue.null then row.value source else row.value column)]
  aligned := by
    rintro _ mem
    obtain ⟨row, old, rfl⟩ := List.mem_map.mp mem
    rw [Row.names_overwrite, t.aligned row old]

/-- The table as a schema with fewer columns shows it. -/
def restrict (s : Schema T D) (rows : List (Row V)) : Table T D V where
  schema := s
  rows := rows.map fun row => row.restrict s.columnNames
  aligned := by
    rintro _ mem
    obtain ⟨row, _, rfl⟩ := List.mem_map.mp mem
    exact row.names_restrict s.columnNames

theorem rows_restrict (s : Schema T D) (rows : List (Row V)) :
    (restrict s rows).rows = rows.map fun row => row.restrict s.columnNames := rfl

omit [SqlValue V] in
theorem rows_createIndex (index : Index) (t : Table T D V) : (t.createIndex index).rows = t.rows.map id :=
  (List.map_id t.rows).symm

omit [SqlValue V] in
theorem rows_dropIndex (name : String) (t : Table T D V) : (t.dropIndex name).rows = t.rows.map id :=
  (List.map_id t.rows).symm

theorem restrict_schema {t : Table T D V} (distinct : t.schema.columnNames.Nodup) :
    restrict t.schema t.rows = t := by
  refine ext rfl ?_
  conv_rhs => rw [← List.map_id t.rows]
  refine List.map_congr_left fun row mem => ?_
  rw [← t.aligned row mem] at distinct ⊢
  exact Row.restrict_names distinct

end Table

namespace Catalog

def names (catalog : Catalog T D) : List String := catalog.map Schema.name

def schema? (name : String) (catalog : Catalog T D) : Option (Schema T D) := catalog.find? fun s => s.name = name

def modify (name : String) (change : Schema T D → Schema T D) (catalog : Catalog T D) : Catalog T D :=
  catalog.map fun s => if s.name = name then change s else s

end Catalog

abbrev Tables (T D V : Type) := List (Table T D V)

namespace Tables

def catalog (db : Tables T D V) : Catalog T D := db.map Table.schema

/-- The rows of a table, none where the table is missing. -/
def rowsOf (name : String) (db : Tables T D V) : List (Row V) :=
  ((db.find? fun t => t.schema.name = name).map Table.rows).getD []

def modify (name : String) (change : Table T D V → Table T D V) (db : Tables T D V) : Tables T D V :=
  db.map fun t => if t.schema.name = name then change t else t

/-- The tables and columns of a catalog. -/
def restrict (catalog : Catalog T D) (db : Tables T D V) : Tables T D V :=
  catalog.map fun s => Table.restrict s (db.rowsOf s.name)

omit [SqlValue V] in
theorem rowsOf_modify {name other : String} {change : Table T D V → Table T D V} {onRow : Row V → Row V}
    (named : ∀ t, (change t).schema.name = t.schema.name) (rows : ∀ t, (change t).rows = t.rows.map onRow)
    (db : Tables T D V) :
    (db.modify name change).rowsOf other = (db.rowsOf other).map (if other = name then onRow else id) := by
  induction db with
  | nil => rfl
  | cons t db ih =>
    rw [modify, List.map_cons, rowsOf, rowsOf, List.find?_cons, List.find?_cons]
    by_cases changed : t.schema.name = name
    · simp only [changed, if_true, named]
      by_cases asked : name = other
      · simp [asked, rows]
      · simp only [asked, decide_false]
        exact ih
    · simp only [changed, if_false]
      by_cases asked : t.schema.name = other
      · simp [asked, show other ≠ name from asked ▸ changed]
      · simp only [asked, decide_false]
        exact ih

omit [SqlValue V] in
theorem rowsOf_of_not_mem {name : String} {db : Tables T D V} (missing : name ∉ db.catalog.names) :
    db.rowsOf name = [] := by
  have none : (db.find? fun t => t.schema.name = name) = none := by
    rw [List.find?_eq_none]
    intro t mem same
    exact missing (of_decide_eq_true same ▸ List.mem_map_of_mem (List.mem_map_of_mem mem))
  rw [rowsOf, none]
  rfl

omit [SqlValue V] in
theorem rowsOf_append (name : String) (db more : Tables T D V) :
    rowsOf name (db ++ more) = if name ∈ db.catalog.names then db.rowsOf name else rowsOf name more := by
  induction db with
  | nil => simp [catalog, Catalog.names]
  | cons t db ih =>
    rw [List.cons_append, rowsOf, rowsOf, List.find?_cons, List.find?_cons]
    by_cases asked : t.schema.name = name
    · simp [asked, catalog, Catalog.names]
    · have known : name ∈ (catalog (t :: db)).names ↔ name ∈ (catalog db).names := by
        simp [catalog, Catalog.names, Ne.symm asked]
      simp only [asked, decide_false, known]
      exact ih

omit [SqlValue V] in
theorem rowsOf_filter {name other : String} (kept : other ≠ name) (db : Tables T D V) :
    rowsOf other (db.filter fun t => t.schema.name ≠ name) = db.rowsOf other := by
  rw [rowsOf, List.find?_filter, rowsOf]
  congr 3
  funext t
  by_cases asked : t.schema.name = other
  · simp [asked, kept]
  · simp [asked]

omit [SqlValue V] in
theorem catalog_modify {name : String} {change : Table T D V → Table T D V} {onSchema : Schema T D → Schema T D}
    (changed : ∀ t, (change t).schema = onSchema t.schema) (db : Tables T D V) :
    (db.modify name change).catalog = db.catalog.modify name onSchema := by
  rw [catalog, modify, List.map_map, catalog, Catalog.modify, List.map_map]
  refine List.map_congr_left fun t _ => ?_
  simp only [Function.comp_apply]
  split_ifs
  · exact changed t
  · rfl

theorem restrict_modify {catalog : Catalog T D} {name : String} {change : Table T D V → Table T D V}
    {onRow : Row V → Row V} (named : ∀ t, (change t).schema.name = t.schema.name)
    (rows : ∀ t, (change t).rows = t.rows.map onRow)
    (hidden : ∀ s ∈ catalog, s.name = name → ∀ row : Row V, (onRow row).restrict s.columnNames = row.restrict s.columnNames)
    (db : Tables T D V) : (db.modify name change).restrict catalog = db.restrict catalog := by
  refine List.map_congr_left fun s mem => ?_
  refine Table.ext rfl ?_
  rw [rowsOf_modify named rows, Table.rows_restrict, Table.rows_restrict, List.map_map]
  refine List.map_congr_left fun row _ => ?_
  rw [Function.comp_apply]
  split_ifs with same
  · exact hidden s mem same row
  · rfl

theorem rowsOf_restrict {catalog : Catalog T D} (named : catalog.names.Nodup) {s : Schema T D} (mem : s ∈ catalog)
    (db : Tables T D V) :
    (db.restrict catalog).rowsOf s.name = (db.rowsOf s.name).map fun row => row.restrict s.columnNames := by
  have found : (catalog.find? fun other => other.name = s.name) = some s := by
    induction catalog with
    | nil => cases mem
    | cons first rest ih =>
      have apart := List.nodup_cons.mp named
      rw [List.find?_cons]
      rcases List.mem_cons.mp mem with rfl | later
      · simp
      · have new : first.name ≠ s.name := fun same => apart.1 (same ▸ List.mem_map_of_mem later)
        simp only [new, decide_false]
        exact ih apart.2 later
  rw [rowsOf, restrict, List.find?_map]
  change ((Option.map _ (catalog.find? fun other => other.name = s.name)).map Table.rows).getD [] = _
  rw [found]
  rfl

/-- A database is what its own catalog shows of it. -/
theorem restrict_catalog {db : Tables T D V} (named : db.catalog.names.Nodup)
    (distinct : ∀ s ∈ db.catalog, s.columnNames.Nodup) : db.restrict db.catalog = db := by
  rw [restrict, catalog, List.map_map]
  conv_rhs => rw [← List.map_id db]
  refine List.map_congr_left fun t mem => ?_
  have found : db.rowsOf t.schema.name = t.rows := by
    clear distinct
    induction db with
    | nil => cases mem
    | cons first rest ih =>
      rw [rowsOf, List.find?_cons]
      have apart := List.nodup_cons.mp named
      rcases List.mem_cons.mp mem with rfl | later
      · simp
      · have new : first.schema.name ≠ t.schema.name := by
          intro same
          apply apart.1
          rw [same]
          exact List.mem_map_of_mem (List.mem_map_of_mem later)
        simp only [new, decide_false]
        exact ih apart.2 later
  rw [Function.comp_apply, found]
  exact Table.restrict_schema (distinct t.schema (List.mem_map_of_mem mem))

end Tables

variable [DecidableEq V]

/-- The statements of a migration. A backfill is `UPDATE table SET column = source` where only `source` has a value. -/
inductive Op (T D : Type)
  | createTable (schema : Schema T D)
  | dropTable (name : String)
  | addColumn (table : String) (column : Column T D)
  | dropColumn (table column : String)
  | createIndex (table : String) (index : Index)
  | dropIndex (table name : String)
  | backfill (table column source : String)

/-- The keys that a unique index compares: those of the rows it covers, with no null in them. -/
def Index.keys (index : Index) (rows : List (Row V)) : List (List V) :=
  ((rows.filter fun row => index.filter.all fun column => SqlValue.isTrue (row.value column)).map fun row =>
    index.columns.map row.value).filter fun key => SqlValue.null ∉ key

namespace Op

/-- Whether the catalog lets the statement through. A backfill is for a nullable column that nothing constrains. -/
def legal (catalog : Catalog T D) : Op T D → Bool
  | createTable s =>
    s.wellFormed && (s.relations.all fun name => name ∉ catalog.flatMap Schema.relations) &&
      s.foreignKeys.all fun key => (catalog.schema? key.target).any (Schema.identifies key.targetColumns)
  | dropTable name =>
    name ∈ catalog.names && catalog.all fun s => s.name = name || s.foreignKeys.all fun key => key.target ≠ name
  | addColumn table c => (catalog.schema? table).any fun s => c.name ∉ s.columnNames
  | dropColumn table column =>
    ((catalog.schema? table).any fun s => column ∈ s.columnNames) &&
      catalog.all fun s => s.foreignKeys.all fun key => key.target ≠ table || column ∉ key.targetColumns
  | createIndex table index =>
    ((catalog.schema? table).any fun s => index.filter.toList ++ index.columns ⊆ s.columnNames) &&
      index.name ∉ catalog.flatMap Schema.relations
  | dropIndex table name => (catalog.schema? table).any fun s => name ∈ s.indexes.map Index.name
  | backfill table column source =>
    (catalog.schema? table).any fun s =>
      source ∈ s.columnNames && column ∉ s.constrained && s.columns.any fun c => c.name = column && c.nullable

/-- Whether the rows let the statement through. -/
def admits (db : Tables T D V) : Op T D → Bool
  | addColumn table c => c.nullable || c.default.isSome || (db.rowsOf table).isEmpty
  | createIndex table index => !index.unique || (index.keys (db.rowsOf table)).Nodup
  | _ => true

/-- The catalog after the statement. -/
def shape (catalog : Catalog T D) : Op T D → Catalog T D
  | createTable s => catalog ++ [s]
  | dropTable name => catalog.filter fun s => s.name ≠ name
  | addColumn table c => catalog.modify table (Schema.addColumn c)
  | dropColumn table column => catalog.modify table (Schema.dropColumn column)
  | createIndex table index => catalog.modify table (Schema.createIndex index)
  | dropIndex table name => catalog.modify table (Schema.dropIndex name)
  | backfill _ _ _ => catalog

def rewrite (evaluate : D → V) (db : Tables T D V) : Op T D → Tables T D V
  | createTable s => db ++ [Table.empty s]
  | dropTable name => db.filter fun t => t.schema.name ≠ name
  | addColumn table c => db.modify table (Table.addColumn evaluate c)
  | dropColumn table column => db.modify table (Table.dropColumn column)
  | createIndex table index => db.modify table (Table.createIndex index)
  | dropIndex table name => db.modify table (Table.dropIndex name)
  | backfill table column source => db.modify table (Table.backfill column source)

def apply (evaluate : D → V) (db : Tables T D V) (op : Op T D) : Option (Tables T D V) :=
  if op.legal db.catalog ∧ op.admits db then some (op.rewrite evaluate db) else none

/-- The statement leaves alone what the catalog shows. -/
def spares (catalog : Catalog T D) : Op T D → Bool
  | createTable s => s.name ∉ catalog.names
  | dropTable name => name ∉ catalog.names
  | addColumn table c => catalog.all fun s => s.name ≠ table || c.name ∉ s.columnNames
  | dropColumn table column => catalog.all fun s => s.name ≠ table || column ∉ s.columnNames
  | createIndex _ _ => true
  | dropIndex _ _ => true
  | backfill table column _ => catalog.all fun s => s.name ≠ table || column ∉ s.columnNames

theorem catalog_rewrite (evaluate : D → V) (op : Op T D) (db : Tables T D V) :
    (op.rewrite evaluate db).catalog = op.shape db.catalog := by
  cases op with
  | createTable s => simp [rewrite, shape, Tables.catalog, Table.empty]
  | dropTable name =>
    rw [rewrite, shape, Tables.catalog, Tables.catalog, List.filter_map]
    rfl
  | addColumn table c => exact Tables.catalog_modify (fun _ => rfl) db
  | dropColumn table column => exact Tables.catalog_modify (fun _ => rfl) db
  | createIndex table index => exact Tables.catalog_modify (fun _ => rfl) db
  | dropIndex table name => exact Tables.catalog_modify (fun _ => rfl) db
  | backfill table column source =>
    have kept : ∀ t : Table T D V, (t.backfill column source).schema = id t.schema := fun _ => rfl
    rw [rewrite, Tables.catalog_modify kept db]
    simp [Catalog.modify, shape]

theorem hidden_of_spares {catalog : Catalog T D} {table column : String}
    (spared : (catalog.all fun s => s.name ≠ table || column ∉ s.columnNames) = true) {s : Schema T D}
    (mem : s ∈ catalog) (same : s.name = table) {other : String} (shown : other ∈ s.columnNames) : other ≠ column := by
  have spared := List.all_eq_true.mp spared s mem
  simp only [same, ne_eq, not_true_eq_false, decide_false, Bool.false_or, decide_eq_true_eq] at spared
  exact fun equal => spared (equal ▸ shown)

/-- What a statement spares is the same after it. -/
theorem restrict_rewrite {catalog : Catalog T D} {op : Op T D} (spared : op.spares catalog = true)
    (evaluate : D → V) (db : Tables T D V) : (op.rewrite evaluate db).restrict catalog = db.restrict catalog := by
  cases op with
  | createTable s =>
    refine List.map_congr_left fun shown mem => ?_
    have other : s.name ≠ shown.name := fun same =>
      of_decide_eq_true spared (same ▸ List.mem_map_of_mem mem)
    rw [rewrite, Tables.rowsOf_append]
    split_ifs with known
    · rfl
    · rw [Tables.rowsOf_of_not_mem known]
      simp [Tables.rowsOf, Table.empty, other]
  | dropTable name =>
    refine List.map_congr_left fun shown mem => ?_
    have other : shown.name ≠ name := fun same =>
      of_decide_eq_true spared (same ▸ List.mem_map_of_mem mem)
    rw [rewrite, Tables.rowsOf_filter other]
  | addColumn table c =>
    apply Tables.restrict_modify
    · exact fun _ => rfl
    · exact fun _ => rfl
    · intro s mem same row
      exact Row.restrict_congr fun other shown =>
        Row.value_append_single (hidden_of_spares spared mem same shown) _ row
  | dropColumn table column =>
    apply Tables.restrict_modify
    · exact fun _ => rfl
    · exact fun _ => rfl
    · intro s mem same row
      exact Row.restrict_congr fun other shown => Row.value_filter (hidden_of_spares spared mem same shown) row
  | createIndex table index =>
    apply Tables.restrict_modify
    · exact fun _ => rfl
    · exact Table.rows_createIndex _
    · exact fun _ _ _ _ => rfl
  | dropIndex table name =>
    apply Tables.restrict_modify
    · exact fun _ => rfl
    · exact Table.rows_dropIndex _
    · exact fun _ _ _ _ => rfl
  | backfill table column source =>
    apply Tables.restrict_modify
    · exact fun _ => rfl
    · exact fun _ => rfl
    · intro s mem same row
      exact Row.restrict_congr fun other shown =>
        Row.value_overwrite_single (hidden_of_spares spared mem same shown) _ row

/-- The statement works on the rows of each table one by one. -/
def rowwise : Op T D → Bool
  | createTable _ => false
  | dropTable _ => false
  | _ => true

/-- What the statement does to a row of a table. -/
def onRow (evaluate : D → V) (name : String) (row : Row V) : Op T D → Row V
  | addColumn table c => if name = table then row ++ [(c.name, c.initial evaluate)] else row
  | dropColumn table column => if name = table then row.filter fun cell => cell.1 ≠ column else row
  | backfill table column source =>
    if name = table then row.overwrite
      [(column, if row.value column = SqlValue.null then row.value source else row.value column)]
    else row
  | _ => row

theorem rowsOf_rewrite {op : Op T D} (each : op.rowwise = true) (evaluate : D → V) (name : String) (db : Tables T D V) :
    (op.rewrite evaluate db).rowsOf name = (db.rowsOf name).map fun row => op.onRow evaluate name row := by
  have branch : ∀ {table : String} {change : Row V → Row V}, (db.rowsOf name).map (if name = table then change else id) =
      (db.rowsOf name).map fun row => if name = table then change row else row := by
    intro table change
    split_ifs
    · rfl
    · exact List.map_congr_left fun _ _ => rfl
  cases op with
  | createTable s => cases each
  | dropTable name => cases each
  | addColumn table c =>
    rw [rewrite, Tables.rowsOf_modify (fun _ => by rfl) (fun _ => by rfl), branch]
    rfl
  | dropColumn table column =>
    rw [rewrite, Tables.rowsOf_modify (fun _ => by rfl) (fun _ => by rfl), branch]
    rfl
  | createIndex table index =>
    rw [rewrite, Tables.rowsOf_modify (fun _ => by rfl) (Table.rows_createIndex _), ite_self]
    rfl
  | dropIndex table index =>
    rw [rewrite, Tables.rowsOf_modify (fun _ => by rfl) (Table.rows_dropIndex _), ite_self]
    rfl
  | backfill table column source =>
    rw [rewrite, Tables.rowsOf_modify (fun _ => by rfl) (fun _ => by rfl), branch]
    rfl

end Op

section Runs

variable {evaluate : D → V}

/-- A migration stops at the first statement that is refused. -/
def run (evaluate : D → V) (ops : List (Op T D)) (db : Tables T D V) : Option (Tables T D V) :=
  ops.foldlM (Op.apply evaluate) db

def shapes (ops : List (Op T D)) (catalog : Catalog T D) : Catalog T D := ops.foldl Op.shape catalog

/-- The catalog lets every statement through. -/
def legalRun : List (Op T D) → Catalog T D → Bool
  | [], _ => true
  | op :: ops, catalog => op.legal catalog && legalRun ops (op.shape catalog)

theorem run_cons (op : Op T D) (ops : List (Op T D)) (db : Tables T D V) :
    run evaluate (op :: ops) db = (op.apply evaluate db).bind (run evaluate ops) := List.foldlM_cons

theorem run_append (ops more : List (Op T D)) (db : Tables T D V) :
    run evaluate (ops ++ more) db = (run evaluate ops db).bind (run evaluate more) := List.foldlM_append

theorem shapes_append (ops more : List (Op T D)) (catalog : Catalog T D) :
    shapes (ops ++ more) catalog = shapes more (shapes ops catalog) := List.foldl_append

theorem legalRun_append (ops more : List (Op T D)) (catalog : Catalog T D) :
    legalRun (ops ++ more) catalog = (legalRun ops catalog && legalRun more (shapes ops catalog)) := by
  induction ops generalizing catalog with
  | nil => rfl
  | cons op ops ih =>
    rw [List.cons_append, legalRun, legalRun, ih, Bool.and_assoc]
    rfl

theorem Op.apply_eq_some {op : Op T D} {db after : Tables T D V} (applied : op.apply evaluate db = some after) :
    after = op.rewrite evaluate db := by
  unfold Op.apply at applied
  split at applied
  · exact (Option.some.inj applied).symm
  · cases applied

theorem catalog_run {ops : List (Op T D)} {db after : Tables T D V} (ran : run evaluate ops db = some after) :
    after.catalog = shapes ops db.catalog := by
  induction ops generalizing db with
  | nil =>
    cases Option.some.inj ran
    rfl
  | cons op ops ih =>
    rw [run_cons] at ran
    obtain ⟨next, applied, ran⟩ := Option.bind_eq_some_iff.mp ran
    rw [ih ran, Op.apply_eq_some applied, Op.catalog_rewrite]
    rfl

/-- What every statement spares is the same after the migration. -/
theorem restrict_run {catalog : Catalog T D} {ops : List (Op T D)}
    (spared : ∀ op ∈ ops, op.spares catalog = true) {db after : Tables T D V}
    (ran : run evaluate ops db = some after) : after.restrict catalog = db.restrict catalog := by
  induction ops generalizing db with
  | nil =>
    cases Option.some.inj ran
    rfl
  | cons op ops ih =>
    rw [run_cons] at ran
    obtain ⟨next, applied, ran⟩ := Option.bind_eq_some_iff.mp ran
    rw [ih (fun op mem => spared op (List.mem_cons_of_mem _ mem)) ran, Op.apply_eq_some applied]
    exact Op.restrict_rewrite (spared op List.mem_cons_self) evaluate db

theorem rowsOf_run {ops : List (Op T D)} (each : ∀ op ∈ ops, op.rowwise = true) {db after : Tables T D V}
    (ran : run evaluate ops db = some after) (name : String) :
    after.rowsOf name = (db.rowsOf name).map fun row => ops.foldl (fun row op => op.onRow evaluate name row) row := by
  induction ops generalizing db with
  | nil =>
    cases Option.some.inj ran
    exact (List.map_id _).symm
  | cons op ops ih =>
    rw [run_cons] at ran
    obtain ⟨next, applied, ran⟩ := Option.bind_eq_some_iff.mp ran
    rw [ih (fun op mem => each op (List.mem_cons_of_mem _ mem)) ran, Op.apply_eq_some applied,
      Op.rowsOf_rewrite (each op List.mem_cons_self), List.map_map]
    rfl

/-- No row of a table that held some before can stop the statement. -/
def Op.tame (fresh : List String) : Op T D → Bool
  | addColumn table c => c.nullable || c.default.isSome || table ∈ fresh
  | createIndex table index => !index.unique || table ∈ fresh
  | _ => true

/-- The tables that are known to be empty. -/
def Op.freshAfter (fresh : List String) : Op T D → List String
  | createTable s => s.name :: fresh
  | _ => fresh

def tameRun : List (Op T D) → List String → Bool
  | [], _ => true
  | op :: ops, fresh => op.tame fresh && tameRun ops (op.freshAfter fresh)

theorem rowsOf_rewrite_nil {name : String} {op : Op T D} {db : Tables T D V} (none : db.rowsOf name = []) :
    (op.rewrite evaluate db).rowsOf name = [] := by
  cases op with
  | createTable s =>
    rw [Op.rewrite, Tables.rowsOf_append]
    split_ifs
    · exact none
    · by_cases same : s.name = name
      · simp [Tables.rowsOf, Table.empty, same]
      · simp [Tables.rowsOf, Table.empty, same]
  | dropTable dropped =>
    by_cases same : name = dropped
    · rw [Op.rewrite]
      apply Tables.rowsOf_of_not_mem
      simp [Tables.catalog, Catalog.names, same]
    · rw [Op.rewrite, Tables.rowsOf_filter same, none]
  | _ =>
    rw [Op.rowsOf_rewrite rfl, none]
    rfl

theorem admits_of_tame {fresh : List String} {op : Op T D} {db : Tables T D V} (tame : op.tame fresh = true)
    (none : ∀ name ∈ fresh, db.rowsOf name = []) : op.admits db = true := by
  cases op with
  | addColumn table c =>
    simp only [Op.tame, Bool.or_eq_true, decide_eq_true_eq] at tame
    simp only [Op.admits, Bool.or_eq_true]
    exact tame.imp_right fun mem => by rw [none table mem]; rfl
  | createIndex table index =>
    simp only [Op.tame, Bool.or_eq_true, decide_eq_true_eq] at tame
    simp only [Op.admits, Bool.or_eq_true, decide_eq_true_eq]
    exact tame.imp_right fun mem => by rw [none table mem]; exact List.nodup_nil
  | _ => rfl

theorem rowsOf_freshAfter {fresh : List String} {op : Op T D} {db : Tables T D V}
    (legal : op.legal db.catalog = true) (none : ∀ name ∈ fresh, db.rowsOf name = []) :
    ∀ name ∈ op.freshAfter fresh, (op.rewrite evaluate db).rowsOf name = [] := by
  intro name mem
  apply rowsOf_rewrite_nil
  cases op with
  | createTable s =>
    rcases List.mem_cons.mp mem with rfl | old
    · apply Tables.rowsOf_of_not_mem
      simp only [Op.legal, Bool.and_eq_true, List.all_eq_true, decide_eq_true_eq] at legal
      intro known
      obtain ⟨other, mem, same⟩ := List.mem_map.mp known
      refine legal.1.2 s.name List.mem_cons_self (List.mem_flatMap.mpr ⟨other, mem, ?_⟩)
      rw [← same]
      exact List.mem_cons_self
    · exact none name old
  | _ => exact none name mem

/-- A migration of tame statements is never refused. -/
theorem run_of_tame {ops : List (Op T D)} {fresh : List String} {db : Tables T D V}
    (legal : legalRun ops db.catalog = true) (tame : tameRun ops fresh = true)
    (none : ∀ name ∈ fresh, db.rowsOf name = []) : ∃ after, run evaluate ops db = some after := by
  induction ops generalizing db fresh with
  | nil => exact ⟨db, rfl⟩
  | cons op ops ih =>
    simp only [legalRun, tameRun, Bool.and_eq_true] at legal tame
    have applied : op.apply evaluate db = some (op.rewrite evaluate db) :=
      if_pos ⟨legal.1, admits_of_tame tame.1 none⟩
    rw [run_cons, applied, Option.bind_some]
    refine ih ?_ tame.2 (rowsOf_freshAfter legal.1 none)
    rw [Op.catalog_rewrite]
    exact legal.2

/-- A run of new indexes is refused only for keys that occur twice. -/
theorem run_createIndexes {indexes : List (String × Index)} {db : Tables T D V}
    (legal : legalRun (indexes.map fun new => (Op.createIndex new.1 new.2 : Op T D)) db.catalog = true) :
    (run evaluate (indexes.map fun new => .createIndex new.1 new.2) db).isSome = true ↔
      ∀ new ∈ indexes, new.2.unique = true → (new.2.keys (db.rowsOf new.1)).Nodup := by
  induction indexes generalizing db with
  | nil => simp [run]
  | cons new rest ih =>
    simp only [List.map_cons, legalRun, Bool.and_eq_true] at legal
    have unchanged : ∀ name, ((Op.createIndex new.1 new.2).rewrite evaluate db).rowsOf name = db.rowsOf name := by
      intro name
      rw [Op.rowsOf_rewrite rfl]
      exact List.map_id _
    rw [List.map_cons, run_cons, List.forall_mem_cons, Op.apply]
    by_cases admitted : (Op.createIndex new.1 new.2 : Op T D).admits db = true
    · rw [if_pos ⟨legal.1, admitted⟩, Option.bind_some, ih (by rw [Op.catalog_rewrite]; exact legal.2)]
      simp only [unchanged]
      simp only [Op.admits, Bool.or_eq_true, Bool.not_eq_true', decide_eq_true_eq] at admitted
      constructor
      · exact fun later => ⟨fun unique => admitted.resolve_left (by simp [unique]), later⟩
      · exact fun all => all.2
    · rw [if_neg fun both => admitted both.2]
      simp only [Op.admits, Bool.or_eq_true, Bool.not_eq_true', decide_eq_true_eq, not_or] at admitted
      simp only [Option.bind_none, Option.isSome_none, Bool.false_eq_true, false_iff, not_and]
      intro first
      exact absurd (first (by simpa using admitted.1)) admitted.2

end Runs

end

end Ddl
