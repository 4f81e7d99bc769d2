/-!
# Tables by key

A finite map as a list of entries. Putting an entry replaces the one with the
same key where it stands, so a table built from the empty one has distinct keys.
-/

namespace KeyedBatching

/-- A finite map from keys to values. -/
structure KeyTable (K V : Type) where
  entries : List (K × V) := []
deriving DecidableEq

namespace KeyTable

variable {K V : Type}

/-- The number of entries. -/
def size (table : KeyTable K V) : Nat :=
  table.entries.length

/-- The keys, in the order of their entries. -/
def keys (table : KeyTable K V) : List K :=
  table.entries.map Prod.fst

/-- The values, in the order of their entries. -/
def values (table : KeyTable K V) : List V :=
  table.entries.map Prod.snd

variable [DecidableEq K]

/-- The value of the first entry with a key. -/
def find (key : K) : List (K × V) → Option V
  | [] => none
  | (existing, value) :: rest => if existing = key then some value else find key rest

/-- The entries with one value replaced, or added at the end. -/
def replace (key : K) (value : V) : List (K × V) → List (K × V)
  | [] => [(key, value)]
  | (existing, old) :: rest =>
      if existing = key then (key, value) :: rest else (existing, old) :: replace key value rest

/-- The value of a key. -/
def get? (table : KeyTable K V) (key : K) : Option V :=
  find key table.entries

/-- The table has an entry for the key. -/
def contains (table : KeyTable K V) (key : K) : Bool :=
  (table.get? key).isSome

/-- The table with the given value for the key. -/
def put (table : KeyTable K V) (key : K) (value : V) : KeyTable K V :=
  ⟨replace key value table.entries⟩

/-- The table without the key. -/
def erase (table : KeyTable K V) (key : K) : KeyTable K V :=
  ⟨table.entries.filter fun entry => entry.1 ≠ key⟩

theorem find_eq_none_iff {key : K} {entries : List (K × V)} :
    find key entries = none ↔ key ∉ entries.map Prod.fst := by
  induction entries with
  | nil => simp [find]
  | cons entry rest ih =>
      obtain ⟨existing, value⟩ := entry
      by_cases same : existing = key
      · simp [find, same]
      · simp [find, same, Ne.symm same, ih]

theorem find_replace (key other : K) (value : V) (entries : List (K × V)) :
    find other (replace key value entries) =
      if other = key then some value else find other entries := by
  induction entries with
  | nil => simp [find, replace, eq_comm]
  | cons entry rest ih =>
      obtain ⟨existing, old⟩ := entry
      by_cases same : existing = key
      · subst same
        by_cases equal : other = existing
        · simp [find, replace, equal]
        · simp [find, replace, equal, Ne.symm equal]
      · by_cases equal : existing = other
        · subst equal
          simp [find, replace, same]
        · simp [find, replace, same, equal, ih]

theorem find_filter (key other : K) (entries : List (K × V)) :
    find other (entries.filter fun entry => entry.1 ≠ key) =
      if other = key then none else find other entries := by
  induction entries with
  | nil => simp [find]
  | cons entry rest ih =>
      obtain ⟨existing, value⟩ := entry
      by_cases same : existing = key
      · subst same
        by_cases equal : other = existing
        · simpa [equal] using ih
        · simpa [find, equal, Ne.symm equal] using ih
      · by_cases equal : existing = other
        · subst equal
          simp [find, same]
        · simpa [find, same, equal] using ih

@[simp] theorem get?_empty (key : K) : (⟨[]⟩ : KeyTable K V).get? key = none :=
  rfl

theorem get?_put (table : KeyTable K V) (key other : K) (value : V) :
    (table.put key value).get? other = if other = key then some value else table.get? other :=
  find_replace key other value table.entries

theorem get?_erase (table : KeyTable K V) (key other : K) :
    (table.erase key).get? other = if other = key then none else table.get? other :=
  find_filter key other table.entries

theorem get?_eq_none_iff {table : KeyTable K V} {key : K} :
    table.get? key = none ↔ key ∉ table.keys :=
  find_eq_none_iff

theorem mem_keys_put {table : KeyTable K V} {key other : K} {value : V} :
    other ∈ (table.put key value).keys ↔ other = key ∨ other ∈ table.keys := by
  have absent : (table.put key value).get? other = none ↔ other ∉ (table.put key value).keys :=
    get?_eq_none_iff
  have before : table.get? other = none ↔ other ∉ table.keys := get?_eq_none_iff
  rw [get?_put] at absent
  by_cases same : other = key
  · simp only [same, if_true] at absent ⊢
    simpa using absent
  · simp only [same, if_false, false_or] at absent ⊢
    exact Decidable.not_iff_not.1 (absent.symm.trans before)

theorem keys_put_nodup {table : KeyTable K V} (distinct : table.keys.Nodup) (key : K)
    (value : V) : (table.put key value).keys.Nodup := by
  obtain ⟨entries⟩ := table
  induction entries with
  | nil => simp [put, replace, keys]
  | cons entry rest ih =>
      obtain ⟨existing, old⟩ := entry
      simp only [keys, List.map_cons, List.nodup_cons] at distinct
      by_cases same : existing = key
      · subst same
        simpa [put, replace, keys] using distinct
      · simp only [put, replace, same, if_false, keys, List.map_cons, List.nodup_cons]
        refine ⟨?_, ih distinct.2⟩
        intro member
        have present : existing = key ∨ existing ∈ (⟨rest⟩ : KeyTable K V).keys :=
          mem_keys_put.1 member
        exact present.elim same distinct.1

theorem keys_erase_nodup {table : KeyTable K V} (distinct : table.keys.Nodup) (key : K) :
    (table.erase key).keys.Nodup :=
  distinct.sublist (List.filter_sublist.map Prod.fst)

end KeyTable

end KeyedBatching
