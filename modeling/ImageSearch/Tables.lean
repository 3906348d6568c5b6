import Mathlib.Data.List.Nodup

namespace ImageSearch.Tables

-- A keyed table: the primary key is part of the type, so that no operation can
-- build two rows of one key.
structure Table {Key Row : Type*} (key : Row → Key) where
  rows : List Row
  distinct : (rows.map key).Nodup

variable {Key Row : Type*} {key : Row → Key} {table : Table key} {row : Row}

def Table.empty : Table key := ⟨[],List.nodup_nil⟩

instance : Inhabited (Table key) := ⟨.empty⟩

theorem map_modify (rows : List Row) (p : Row → Bool) (f : Row → Row) (same : ∀ row, key (f row) = key row) :
    (rows.map fun row => if p row then f row else row).map key = rows.map key := by
  rw [List.map_map]
  refine List.map_congr_left fun row _ => ?_
  by_cases hit : p row = true <;> simp [hit,same]

def Table.modify (table : Table key) (p : Row → Bool) (f : Row → Row) (same : ∀ row, key (f row) = key row) :
    Table key :=
  ⟨table.rows.map fun row => if p row then f row else row,by rw [map_modify _ _ _ same]; exact table.distinct⟩

def Table.delete (table : Table key) (p : Row → Bool) : Table key :=
  ⟨table.rows.filter fun row => !p row,(List.filter_sublist.map key).nodup table.distinct⟩

theorem columns_modify {Column : Type*} (column : Row → Column) {p : Row → Bool} {f : Row → Row}
    (same : ∀ row, key (f row) = key row) (kept : ∀ row, column (f row) = column row) :
    (table.modify p f same).rows.map column = table.rows.map column := map_modify table.rows p f kept

theorem mem_modify {p : Row → Bool} {f : Row → Row} {same : ∀ row, key (f row) = key row} :
    row ∈ (table.modify p f same).rows ↔ ∃ old ∈ table.rows, (if p old then f old else old) = row := by
  simp [Table.modify]

theorem mem_delete {p : Row → Bool} : row ∈ (table.delete p).rows ↔ row ∈ table.rows ∧ p row = false := by
  simp [Table.delete]

variable [DecidableEq Key]

def Table.find? (table : Table key) (k : Key) : Option Row := table.rows.find? fun row => key row = k

-- INSERT; `none` is the violated primary key.
def Table.insert? (table : Table key) (row : Row) : Option (Table key) :=
  if fresh : key row ∈ table.rows.map key then none
  else some ⟨table.rows ++ [row],by
    rw [List.map_append,List.map_singleton]
    exact List.Nodup.append table.distinct (List.nodup_singleton _) (by simpa using fresh)⟩

-- INSERT ... ON CONFLICT(key) DO UPDATE: `merge` is the row the conflicting one becomes.
def Table.upsert (table : Table key) (row : Row) (merge : Row → Row) (same : ∀ row, key (merge row) = key row) :
    Table key :=
  match table.insert? row with
  | some next => next
  | none => table.modify (fun old => key old = key row) merge same

theorem insert_parts {next : Table key} (inserted : table.insert? row = some next) :
    key row ∉ table.rows.map key ∧ next.rows = table.rows ++ [row] := by
  unfold Table.insert? at inserted
  split at inserted
  · cases inserted
  · rename_i fresh; cases inserted; exact ⟨fresh,rfl⟩

theorem insert_refused : table.insert? row = none ↔ key row ∈ table.rows.map key := by
  unfold Table.insert?
  split <;> simp_all

theorem find_mem {k : Key} (found : table.find? k = some row) : row ∈ table.rows ∧ key row = k :=
  ⟨List.mem_of_find?_eq_some found,by simpa using List.find?_some found⟩

theorem find_of_mem (present : row ∈ table.rows) : table.find? (key row) = some row := by
  unfold Table.find?
  have located : ∀ rows : List Row, (rows.map key).Nodup → row ∈ rows →
      (rows.find? fun other => key other = key row) = some row := by
    intro rows distinct member
    induction rows with
    | nil => cases member
    | cons head rest ih =>
        rw [List.map_cons,List.nodup_cons] at distinct
        rcases List.mem_cons.mp member with rfl | tail
        · simp
        · have differs : key head ≠ key row := fun equal => distinct.1 (equal ▸ List.mem_map_of_mem tail)
          simpa [differs] using ih distinct.2 tail
  exact located _ table.distinct present

theorem find_exact {k : Key} : table.find? k = some row ↔ row ∈ table.rows ∧ key row = k :=
  ⟨find_mem,fun found => found.2 ▸ find_of_mem found.1⟩

theorem find_none {k : Key} : table.find? k = none ↔ k ∉ table.rows.map key := by
  simp [Table.find?]

theorem find_modify (p : Row → Bool) (f : Row → Row) (same : ∀ row, key (f row) = key row) (k : Key) :
    (table.modify p f same).find? k = (table.find? k).map fun row => if p row then f row else row := by
  unfold Table.find? Table.modify
  rw [List.find?_map]
  congr 2
  funext row
  by_cases hit : p row = true <;> simp [hit,same]

theorem find_delete (p : Row → Bool) (k : Key) :
    (table.delete p).find? k = (table.find? k).filter fun row => !p row := by
  ext row
  simp only [find_exact,mem_delete,Option.filter_eq_some_iff,Bool.not_eq_true']
  exact ⟨fun h => ⟨⟨h.1.1,h.2⟩,h.1.2⟩,fun h => ⟨⟨h.1.1,h.2⟩,h.1.2⟩⟩

theorem find_insert {next : Table key} (inserted : table.insert? row = some next) (k : Key) :
    next.find? k = if key row = k then some row else table.find? k := by
  obtain ⟨fresh,rows⟩ := insert_parts inserted
  ext other
  by_cases same : key row = k
  · subst same
    simp only [find_exact,rows,List.mem_append,List.mem_singleton,if_true]
    constructor
    · rintro ⟨old | new,equal⟩
      · exact absurd (equal ▸ List.mem_map_of_mem old) fresh
      · exact congrArg some new.symm
    · rintro ⟨⟩
      exact ⟨.inr rfl,rfl⟩
  · simp only [if_neg same,find_exact,rows,List.mem_append,List.mem_singleton]
    constructor
    · rintro ⟨old | new,equal⟩
      · exact ⟨old,equal⟩
      · exact absurd (new ▸ equal) same
    · exact fun ⟨old,equal⟩ => ⟨.inl old,equal⟩

theorem find_upsert {merge : Row → Row} {same : ∀ row, key (merge row) = key row} (k : Key) :
    (table.upsert row merge same).find? k =
      if key row = k then some ((table.find? k).elim row merge) else table.find? k := by
  unfold Table.upsert
  cases inserted : table.insert? row with
  | some next =>
      rw [find_insert inserted]
      have absent := find_none.mpr (insert_parts inserted).1
      by_cases hit : key row = k
      · subst hit; simp [absent]
      · simp [hit]
  | none =>
      rw [find_modify]
      have present := insert_refused.mp inserted
      by_cases hit : key row = k
      · subst hit
        cases found : table.find? (key row) with
        | none => exact absurd present (find_none.mp found)
        | some old => simp [(find_mem found).2]
      · cases found : table.find? k with
        | none => simp [hit]
        | some old => simp [hit,(find_mem found).2,Ne.symm hit]

-- A row of the table after an upsert is the new one, an untouched old one, or the
-- old row of the new one's key, merged.
theorem mem_upsert {merge : Row → Row} {same : ∀ row, key (merge row) = key row} {other : Row}
    (present : other ∈ (table.upsert row merge same).rows) :
    other = row ∨ (other ∈ table.rows ∧ key other ≠ key row) ∨
      ∃ old ∈ table.rows, key old = key row ∧ other = merge old := by
  unfold Table.upsert at present
  cases inserted : table.insert? row with
  | some next =>
      rw [inserted] at present
      obtain ⟨fresh,rows⟩ := insert_parts inserted
      simp only [rows,List.mem_append,List.mem_singleton] at present
      rcases present with old | new
      · exact .inr (.inl ⟨old,fun equal => fresh (equal ▸ List.mem_map_of_mem old)⟩)
      · exact .inl new
  | none =>
      rw [inserted] at present
      obtain ⟨old,member,becomes⟩ := mem_modify.mp present
      by_cases hit : key old = key row
      · exact .inr (.inr ⟨old,member,hit,by simpa [hit] using becomes.symm⟩)
      · have equal : old = other := by simpa [hit] using becomes
        subst equal
        exact .inr (.inl ⟨member,hit⟩)

theorem upsert_fresh {merge : Row → Row} {same : ∀ row, key (merge row) = key row} (fresh : key row ∉ table.rows.map key) :
    (table.upsert row merge same).rows = table.rows ++ [row] := by
  unfold Table.upsert
  cases inserted : table.insert? row with
  | some next => exact (insert_parts inserted).2
  | none => exact absurd (insert_refused.mp inserted) fresh

end ImageSearch.Tables
