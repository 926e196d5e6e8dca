import Mathlib.Data.List.Nodup
import Mathlib.Data.List.Basic

/-!
# Tables with a primary key

A table is a list of rows in insertion order, each under a key, and no key occurs twice. The last
fact is a field of the structure, so a table whose primary key is violated cannot be built.
`find` is the point query, `insert` adds a row under a new key, `modify` rewrites the row of a key
in place. Every later proof reads a table through `find`: the three equations `find_empty`,
`find_insert` and `find_modify` say what each operation does to every key, and `mem_rows_iff`
turns a scan of the rows into point queries.
-/

set_option autoImplicit false
set_option relaxedAutoImplicit false

namespace AgentRuntime.Library

/-- Rows in insertion order under pairwise distinct keys. -/
structure Table (κ ρ : Type) where
  rows : List (κ × ρ)
  nodup : (rows.map Prod.fst).Nodup

namespace Table

variable {κ ρ : Type} [DecidableEq κ]

/-- The table without rows. -/
def empty : Table κ ρ := ⟨[], List.nodup_nil⟩

/-- The row stored under a key. -/
def find (table : Table κ ρ) (key : κ) : Option ρ :=
  (table.rows.find? fun row ↦ row.1 = key).map Prod.snd

/-- The rows with the row under `key` rewritten by `change`. -/
def modifyRows (rows : List (κ × ρ)) (key : κ) (change : ρ → ρ) : List (κ × ρ) :=
  rows.map fun row ↦ if row.1 = key then (row.1, change row.2) else row

theorem map_fst_modifyRows (rows : List (κ × ρ)) (key : κ) (change : ρ → ρ) :
    (modifyRows rows key change).map Prod.fst = rows.map Prod.fst := by
  unfold modifyRows
  rw [List.map_map]
  refine List.map_congr_left fun row _ ↦ ?_
  by_cases hkey : row.1 = key <;> simp [hkey]

/-- Rewrite the row under a key in place; a table without the key is unchanged. -/
def modify (table : Table κ ρ) (key : κ) (change : ρ → ρ) : Table κ ρ where
  rows := modifyRows table.rows key change
  nodup := by
    rw [map_fst_modifyRows]
    exact table.nodup

theorem find_eq_none_iff (table : Table κ ρ) (key : κ) :
    table.find key = none ↔ key ∉ table.rows.map Prod.fst := by
  simp only [find, Option.map_eq_none_iff, List.find?_eq_none, List.mem_map, not_exists, not_and,
    decide_eq_true_eq]

/-- Append a row under a key; a table that already holds the key is unchanged. -/
def insert (table : Table κ ρ) (key : κ) (row : ρ) : Table κ ρ :=
  if hkey : table.find key = none then
    { rows := table.rows ++ [(key, row)]
      nodup := by
        rw [List.map_append, List.map_singleton, ← List.concat_eq_append]
        exact (List.nodup_concat _ _).mpr ⟨(find_eq_none_iff table key).mp hkey, table.nodup⟩ }
  else table

@[simp] theorem find_empty (key : κ) : (empty : Table κ ρ).find key = none := rfl

/-- A scan of the rows meets exactly the rows that the point query returns. -/
theorem mem_rows_iff (table : Table κ ρ) (key : κ) (row : ρ) :
    (key, row) ∈ table.rows ↔ table.find key = some row := by
  obtain ⟨rows, hnodup⟩ := table
  unfold find
  induction rows with
  | nil => simp
  | cons head tail ih =>
    obtain ⟨headKey, headRow⟩ := head
    simp only [List.map_cons, List.nodup_cons] at hnodup
    simp only [List.mem_cons, List.find?_cons]
    by_cases hkey : headKey = key
    · subst hkey
      have hfresh : (headKey, row) ∉ tail := fun hmem ↦
        hnodup.1 (List.mem_map.mpr ⟨_, hmem, rfl⟩)
      simp [hfresh, eq_comm]
    · have hne : (key, row) ≠ (headKey, headRow) := fun heq ↦ hkey (congrArg Prod.fst heq).symm
      simp only [hkey, decide_false, hne, false_or]
      exact ih hnodup.2

@[simp] theorem find_modify (table : Table κ ρ) (key other : κ) (change : ρ → ρ) :
    (table.modify key change).find other =
      if other = key then (table.find other).map change else table.find other := by
  obtain ⟨rows, hnodup⟩ := table
  unfold find modify modifyRows
  induction rows with
  | nil => simp
  | cons head tail ih =>
    obtain ⟨headKey, headRow⟩ := head
    simp only [List.map_cons, List.nodup_cons] at hnodup
    have htail := ih hnodup.2
    by_cases hhead : headKey = other
    · subst hhead
      by_cases hkey : headKey = key <;> simp [hkey]
    · by_cases hkey : headKey = key
      · simp only [List.map_cons, hkey, if_true, List.find?_cons]
        rw [hkey] at hhead
        simpa [hhead] using htail
      · simp only [List.map_cons, hkey, if_false, List.find?_cons]
        simpa [hhead] using htail

theorem find_insert_of_fresh (table : Table κ ρ) (key other : κ) (row : ρ)
    (hfresh : table.find key = none) :
    (table.insert key row).find other = if other = key then some row else table.find other := by
  unfold insert
  rw [dif_pos hfresh]
  by_cases hkey : other = key
  · subst hkey
    have hnone : table.rows.find? (fun entry ↦ decide (entry.1 = other)) = none := by
      simpa only [find, Option.map_eq_none_iff] using hfresh
    simp [find, List.find?_append, hnone]
  · have hkey' : ¬ key = other := fun heq ↦ hkey heq.symm
    simp [find, List.find?_append, hkey, hkey']

/-- A selection that misses a key does not see a row inserted under it. -/
theorem filter_rows_insert (table : Table κ ρ) (key : κ) (row : ρ) (select : κ × ρ → Bool)
    (hmiss : select (key, row) = false) :
    (table.insert key row).rows.filter select = table.rows.filter select := by
  unfold insert
  split_ifs
  · simp [List.filter_append, hmiss]
  · rfl

/-- A selection of other keys does not see the row of a key rewritten. -/
theorem filter_rows_modify (table : Table κ ρ) (key : κ) (change : ρ → ρ) (select : κ → Bool)
    (hmiss : select key = false) :
    (table.modify key change).rows.filter (fun entry ↦ select entry.1) =
      table.rows.filter fun entry ↦ select entry.1 := by
  change (modifyRows table.rows key change).filter _ = _
  unfold modifyRows
  induction table.rows with
  | nil => rfl
  | cons head tail ih =>
    by_cases hkey : head.1 = key
    · simp only [List.map_cons, hkey, if_true, List.filter_cons, hmiss, Bool.false_eq_true,
        if_false]
      exact ih
    · simp only [List.map_cons, hkey, if_false, List.filter_cons]
      rw [ih]

theorem rows_insert_of_fresh (table : Table κ ρ) (key : κ) (row : ρ)
    (hfresh : table.find key = none) :
    (table.insert key row).rows = table.rows ++ [(key, row)] := by
  unfold insert
  rw [dif_pos hfresh]

/-- A scan for one key meets its row and no other. -/
theorem filter_rows_key (table : Table κ ρ) {key : κ} {row : ρ}
    (hfind : table.find key = some row) :
    table.rows.filter (fun entry ↦ entry.1 = key) = [(key, row)] := by
  obtain ⟨before, later, hrows⟩ := List.append_of_mem ((mem_rows_iff table key row).mpr hfind)
  have hnodup := table.nodup
  rw [hrows, List.map_append, List.map_cons, List.nodup_append, List.nodup_cons] at hnodup
  obtain ⟨-, ⟨hlater, -⟩, hbefore⟩ := hnodup
  have hnone (entries : List (κ × ρ)) (hmiss : key ∉ entries.map Prod.fst) :
      entries.filter (fun entry ↦ entry.1 = key) = [] := by
    refine List.filter_eq_nil_iff.mpr fun entry hmem ↦ ?_
    simp only [decide_eq_true_eq]
    exact fun heq ↦ hmiss (heq ▸ List.mem_map_of_mem hmem)
  have hfirst : key ∉ before.map Prod.fst := fun hmem ↦ hbefore key hmem key List.mem_cons_self rfl
  rw [hrows, List.filter_append, List.filter_cons, hnone before hfirst, hnone later hlater]
  simp

/-- Rewriting several rows one after the other rewrites each of them once. -/
theorem rows_foldl_modify (table : Table κ ρ) (keys : List κ) (hnodup : keys.Nodup)
    (change : ρ → ρ) :
    (keys.foldl (fun records key ↦ records.modify key change) table).rows =
      table.rows.map fun entry ↦ if entry.1 ∈ keys then (entry.1, change entry.2) else entry := by
  induction keys generalizing table with
  | nil => simp
  | cons key rest ih =>
    obtain ⟨hfresh, hrest⟩ := List.nodup_cons.mp hnodup
    rw [List.foldl_cons, ih (table.modify key change) hrest]
    change (modifyRows table.rows key change).map _ = _
    unfold modifyRows
    rw [List.map_map]
    refine List.map_congr_left fun entry _ ↦ ?_
    by_cases hkey : entry.1 = key
    · simp [hkey, hfresh]
    · simp [hkey]

/-- Rewriting all rows of a selection. -/
theorem rows_foldl_modify_filter (table : Table κ ρ) (select : κ × ρ → Bool) (change : ρ → ρ) :
    ((table.rows.filter select).foldl (fun records entry ↦ records.modify entry.1 change)
        table).rows =
      table.rows.map fun entry ↦ if select entry then (entry.1, change entry.2) else entry := by
  have hnodup : ((table.rows.filter select).map Prod.fst).Nodup :=
    table.nodup.sublist (List.Sublist.map Prod.fst List.filter_sublist)
  have hfold := rows_foldl_modify table _ hnodup change
  rw [List.foldl_map] at hfold
  rw [hfold]
  refine List.map_congr_left fun entry hmem ↦ ?_
  have hselected : entry.1 ∈ (table.rows.filter select).map Prod.fst ↔ select entry = true := by
    constructor
    · intro hkey
      obtain ⟨other, hother, heq⟩ := List.mem_map.mp hkey
      obtain ⟨hrow, hselect⟩ := List.mem_filter.mp hother
      -- keys are unique, so the selected row is this one
      have hsame : other.2 = entry.2 := by
        have hfind := (mem_rows_iff table other.1 other.2).mp hrow
        rw [heq, (mem_rows_iff table entry.1 entry.2).mp hmem] at hfind
        exact (Option.some.inj hfind).symm
      rwa [Prod.ext heq hsame] at hselect
    · intro hselect
      exact List.mem_map_of_mem (List.mem_filter.mpr ⟨hmem, hselect⟩)
  simp only [hselected]

end Table

end AgentRuntime.Library
