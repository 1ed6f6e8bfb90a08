/-!
# Maps keyed by path

Finite maps from paths to values, kept in ascending order of the paths. `insert` replaces the
value of a path that is already there. The view of a map is `get?`, and `get?_insert` says what an
insertion does to it. The order of paths is that of their code points, which is also the order of
their bytes in UTF-8.
-/

namespace FileQuery

/-- A map from paths to values, in ascending order of the paths. -/
structure PathMap (α : Type) where
  rows : List (String × α)
  ascending : rows.Pairwise fun left right => left.1 < right.1

namespace PathMap

variable {α : Type}

def empty : PathMap α where
  rows := []
  ascending := .nil

/-- Puts a row in its place, replacing the row of the same path. -/
def insertRow (path : String) (value : α) : List (String × α) → List (String × α)
  | [] => [(path, value)]
  | (other, previous) :: rest =>
      if path < other then (path, value) :: (other, previous) :: rest
      else if path = other then (path, value) :: rest
      else (other, previous) :: insertRow path value rest

theorem fst_mem_insertRow {path : String} {value : α} {rows : List (String × α)}
    {row : String × α} (member : row ∈ insertRow path value rows) :
    row.1 = path ∨ row ∈ rows := by
  induction rows with
  | nil =>
    simp only [insertRow, List.mem_singleton] at member
    exact .inl (member ▸ rfl)
  | cons head rest ih =>
    obtain ⟨other, previous⟩ := head
    simp only [insertRow] at member
    split at member
    · rcases List.mem_cons.1 member with rfl | later
      · exact .inl rfl
      · exact .inr later
    · split at member
      · rcases List.mem_cons.1 member with rfl | later
        · exact .inl rfl
        · exact .inr (List.mem_cons_of_mem _ later)
      · rcases List.mem_cons.1 member with rfl | later
        · exact .inr List.mem_cons_self
        · rcases ih later with same | later
          · exact .inl same
          · exact .inr (List.mem_cons_of_mem _ later)

theorem ascending_insertRow (path : String) (value : α) {rows : List (String × α)}
    (ascending : rows.Pairwise fun left right => left.1 < right.1) :
    (insertRow path value rows).Pairwise fun left right => left.1 < right.1 := by
  induction rows with
  | nil => simp [insertRow]
  | cons head rest ih =>
    obtain ⟨other, previous⟩ := head
    obtain ⟨below, ascendingRest⟩ := List.pairwise_cons.1 ascending
    simp only [insertRow]
    split
    · rename_i less
      refine List.pairwise_cons.2 ⟨fun row member => ?_, ascending⟩
      rcases List.mem_cons.1 member with rfl | later
      · exact less
      · exact String.lt_trans less (below row later)
    · rename_i notLess
      split
      · rename_i same
        exact List.pairwise_cons.2 ⟨fun row member => same ▸ below row member, ascendingRest⟩
      · rename_i different
        refine List.pairwise_cons.2 ⟨fun row member => ?_, ih ascendingRest⟩
        rcases fst_mem_insertRow member with same | later
        · simp only [same]
          exact Std.lt_of_le_of_ne (String.not_lt.1 notLess) (Ne.symm different)
        · exact below row later

/-- The map with a value at a path, in place of any earlier value there. -/
def insert (map : PathMap α) (path : String) (value : α) : PathMap α where
  rows := insertRow path value map.rows
  ascending := ascending_insertRow path value map.ascending

def get? (map : PathMap α) (path : String) : Option α :=
  map.rows.lookup path

def paths (map : PathMap α) : List String :=
  map.rows.map Prod.fst

def values (map : PathMap α) : List α :=
  map.rows.map Prod.snd

def size (map : PathMap α) : Nat :=
  map.rows.length

theorem lookup_cons_eq_ite (path other : String) (value : α) (rows : List (String × α)) :
    ((path, value) :: rows).lookup other =
      if other = path then some value else rows.lookup other := by
  by_cases same : other = path
  · simp [same]
  · simp [List.lookup_cons, beq_false_of_ne same, same]

theorem lookup_insertRow (path other : String) (value : α) (rows : List (String × α)) :
    (insertRow path value rows).lookup other =
      if other = path then some value else rows.lookup other := by
  induction rows with
  | nil => exact lookup_cons_eq_ite path other value []
  | cons head rest ih =>
    obtain ⟨first, previous⟩ := head
    simp only [insertRow]
    split
    · exact lookup_cons_eq_ite path other value _
    · split
      · rename_i same
        subst same
        simp only [lookup_cons_eq_ite]
        split <;> rfl
      · rename_i different
        simp only [lookup_cons_eq_ite, ih]
        by_cases atPath : other = path
        · simp [atPath, different]
        · simp [atPath]

/-- An insertion changes the value at its own path and no other. -/
theorem get?_insert (map : PathMap α) (path other : String) (value : α) :
    (map.insert path value).get? other = if other = path then some value else map.get? other :=
  lookup_insertRow path other value map.rows

@[simp]
theorem get?_empty (path : String) : (empty : PathMap α).get? path = none := rfl

end PathMap

end FileQuery
