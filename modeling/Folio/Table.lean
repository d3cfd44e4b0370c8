namespace Folio

universe u v

/-!
# Tables that remember their order

A table holds each key once and lists its entries in the order in which the keys were first put.
Writing to a key that is already there changes the value and leaves the position alone, so the
attributes of an element are printed in the order in which the author wrote them.  A dictionary is a
table whose keys are texts.
-/

/-- An insertion-ordered table.  The proof field rules out a key with two values. -/
structure Table (κ : Type v) (α : Type u) where
  entries : List (κ × α)
  nodup : (entries.map Prod.fst).Nodup
  deriving DecidableEq

namespace Table

variable {κ : Type v} {α : Type u} [DecidableEq κ]

/-- Write `value` at `key` in place, or append it when the key is new. -/
def putEntry (key : κ) (value : α) : List (κ × α) → List (κ × α)
  | [] => [(key, value)]
  | (k, v) :: rest =>
    if k = key then (key, value) :: rest else (k, v) :: putEntry key value rest

theorem keys_putEntry (key : κ) (value : α) (l : List (κ × α)) :
    (putEntry key value l).map Prod.fst =
      if key ∈ l.map Prod.fst then l.map Prod.fst else l.map Prod.fst ++ [key] := by
  induction l with
  | nil => simp [putEntry]
  | cons e rest ih =>
    obtain ⟨k, v⟩ := e
    by_cases h : k = key
    · simp [putEntry, h]
    · have h' : ¬ key = k := fun e => h e.symm
      simp only [putEntry, h, if_false, List.map_cons, ih, List.mem_cons, h', false_or]
      split <;> simp

theorem nodup_putEntry (key : κ) (value : α) {l : List (κ × α)}
    (h : (l.map Prod.fst).Nodup) : ((putEntry key value l).map Prod.fst).Nodup := by
  rw [keys_putEntry]
  split
  · exact h
  · next absent =>
      exact List.nodup_append.2 ⟨h, by simp, by
        intro a ha b hb; rw [List.mem_singleton.1 hb]; exact fun e => absent (e ▸ ha)⟩

theorem lookup_putEntry (key : κ) (value : α) (l : List (κ × α)) (k : κ) :
    (putEntry key value l).lookup k = if k = key then some value else l.lookup k := by
  induction l with
  | nil =>
    by_cases h : k = key
    · simp [putEntry, h]
    · have : (k == key) = false := by simpa using h
      simp [putEntry, List.lookup_cons, h, this]
  | cons e rest ih =>
    obtain ⟨k', v'⟩ := e
    by_cases h : k' = key
    · subst h
      by_cases hk : k = k'
      · simp [putEntry, hk]
      · have : (k == k') = false := by simpa using hk
        simp [putEntry, List.lookup_cons, hk, this]
    · by_cases hk : k = k'
      · subst hk
        simp [putEntry, h]
      · have : (k == k') = false := by simpa using hk
        simp [putEntry, List.lookup_cons, h, this, ih]

theorem mem_of_lookup_eq_some {key : κ} {value : α} {l : List (κ × α)}
    (found : l.lookup key = some value) : (key, value) ∈ l := by
  rcases List.lookup_eq_some_iff.mp found with ⟨earlier, later, split, -⟩
  rw [split]
  exact List.mem_append_right earlier List.mem_cons_self

theorem lookup_eq_none_iff_not_mem {l : List (κ × α)} {k : κ} :
    l.lookup k = none ↔ k ∉ l.map Prod.fst := by
  rw [List.lookup_eq_none_iff, List.mem_map]
  constructor
  · rintro different ⟨e, member, rfl⟩
    exact bne_iff_ne.mp (different e member) rfl
  · intro absent e member
    exact bne_iff_ne.mpr fun same => absent ⟨e, member, same.symm⟩

theorem putEntry_of_lookup_eq_some {key : κ} {value : α} {l : List (κ × α)}
    (found : l.lookup key = some value) : putEntry key value l = l := by
  induction l with
  | nil => cases found
  | cons e rest ih =>
    obtain ⟨k, v⟩ := e
    by_cases h : key = k
    · subst h
      rw [List.lookup_cons_self] at found
      simp [putEntry, Option.some.inj found]
    · have : (key == k) = false := by simpa using h
      rw [List.lookup_cons, this] at found
      rw [putEntry, if_neg (Ne.symm h), ih found]

def empty : Table κ α := ⟨[], by simp⟩

instance : Inhabited (Table κ α) := ⟨empty⟩

instance : EmptyCollection (Table κ α) := ⟨empty⟩

/-- The keys, in the order in which they were first put. -/
def keys (d : Table κ α) : List κ := d.entries.map Prod.fst

def get? (d : Table κ α) (key : κ) : Option α := d.entries.lookup key

def contains (d : Table κ α) (key : κ) : Bool := (d.get? key).isSome

def isEmpty (d : Table κ α) : Bool := d.entries.isEmpty

/-- Give `key` the value `value`; a key that is already there keeps its position. -/
def insert (d : Table κ α) (key : κ) (value : α) : Table κ α :=
  ⟨putEntry key value d.entries, nodup_putEntry key value d.nodup⟩

/-- Give `key` the value `value` unless it has one already. -/
def insertNew (d : Table κ α) (key : κ) (value : α) : Table κ α :=
  if d.contains key then d else d.insert key value

/-- Drop `key`; the other entries close up and keep their order. -/
def erase (d : Table κ α) (key : κ) : Table κ α :=
  ⟨d.entries.filter fun e => e.1 != key,
    (d.nodup.sublist ((List.filter_sublist (l := d.entries)).map Prod.fst))⟩

/-- Put the entries of `l` in turn: of a repeated key the first position and the last value stay. -/
def insertAll (d : Table κ α) (l : List (κ × α)) : Table κ α :=
  l.foldl (fun d e => d.insert e.1 e.2) d

def ofList (l : List (κ × α)) : Table κ α := empty.insertAll l

/-! ## What a lookup sees -/

@[simp] theorem get?_empty (k : κ) : (empty : Table κ α).get? k = none := rfl

/-- What is found under a key is the entry of the key. -/
theorem get?_eq_some_iff (d : Table κ α) {key : κ} {value : α} :
    d.get? key = some value ↔ (key, value) ∈ d.entries := by
  constructor
  · exact mem_of_lookup_eq_some
  · intro member
    rcases List.append_of_mem member with ⟨earlier, later, split⟩
    refine List.lookup_eq_some_iff.mpr ⟨earlier, later, split, ?_⟩
    intro e inFront
    have distinct := d.nodup
    rw [split, List.map_append, List.map_cons, List.nodup_append] at distinct
    have different := distinct.2.2 e.1 (List.mem_map_of_mem inFront) key List.mem_cons_self
    simp [Ne.symm different]

theorem get?_insert (d : Table κ α) (key : κ) (value : α) (k : κ) :
    (d.insert key value).get? k = if k = key then some value else d.get? k :=
  lookup_putEntry key value d.entries k

@[simp] theorem get?_insert_self (d : Table κ α) (key : κ) (value : α) :
    (d.insert key value).get? key = some value := by simp [get?_insert]

theorem get?_insert_of_ne (d : Table κ α) {key k : κ} (value : α) (h : k ≠ key) :
    (d.insert key value).get? k = d.get? k := by simp [get?_insert, h]

/-- Giving a key the value that it has changes nothing. -/
theorem insert_of_get?_eq_some (d : Table κ α) {key : κ} {value : α}
    (found : d.get? key = some value) : d.insert key value = d := by
  cases d with
  | mk entries nodup =>
    rw [insert]
    congr
    exact putEntry_of_lookup_eq_some found

theorem get?_insertAll_of_not_mem (d : Table κ α) {l : List (κ × α)} {k : κ}
    (other : k ∉ l.map Prod.fst) : (d.insertAll l).get? k = d.get? k := by
  induction l generalizing d with
  | nil => rfl
  | cons e rest ih =>
    rw [List.map_cons, List.mem_cons, not_or] at other
    exact (ih (d.insert e.1 e.2) other.2).trans (d.get?_insert_of_ne e.2 other.1)

/-- Keys that are put once have the values that they are put with. -/
theorem get?_insertAll (d : Table κ α) {l : List (κ × α)} (once : (l.map Prod.fst).Nodup) (k : κ) :
    (d.insertAll l).get? k = (l.lookup k).or (d.get? k) := by
  induction l generalizing d with
  | nil => rfl
  | cons e rest ih =>
    rw [List.map_cons, List.nodup_cons] at once
    by_cases h : k = e.1
    · subst h
      rw [List.lookup_cons_self]
      exact (get?_insertAll_of_not_mem (d.insert e.1 e.2) once.1).trans (d.get?_insert_self e.1 e.2)
    · have : (k == e.1) = false := by simpa using h
      have later := ih (d.insert e.1 e.2) once.2
      rw [d.get?_insert_of_ne e.2 h] at later
      rw [List.lookup_cons, this]
      exact later

theorem keys_insert (d : Table κ α) (key : κ) (value : α) :
    (d.insert key value).keys = if key ∈ d.keys then d.keys else d.keys ++ [key] :=
  keys_putEntry key value d.entries

theorem mem_keys_insertAll {d : Table κ α} {l : List (κ × α)} {k : κ}
    (member : k ∈ (d.insertAll l).keys) : k ∈ d.keys ∨ k ∈ l.map Prod.fst := by
  induction l generalizing d with
  | nil => exact .inl member
  | cons e rest inductionHypothesis =>
    rcases inductionHypothesis (d := d.insert e.1 e.2) member with inserted | later
    · rw [keys_insert] at inserted
      split at inserted
      · exact .inl inserted
      · rcases List.mem_append.1 inserted with old | new
        · exact .inl old
        · exact .inr (List.mem_cons.2 (.inl (List.mem_singleton.1 new)))
    · exact .inr (List.mem_cons_of_mem _ later)

private theorem lookup_filter_ne (key : κ) (l : List (κ × α)) (k : κ) :
    (l.filter fun e => e.1 != key).lookup k = if k = key then none else l.lookup k := by
  induction l with
  | nil => simp
  | cons e rest ih =>
    obtain ⟨k', v'⟩ := e
    by_cases h : k' = key
    · subst h
      by_cases hk : k = k'
      · simp [hk] at ih ⊢; exact ih
      · have : (k == k') = false := by simpa using hk
        simp [hk] at ih
        simp [List.lookup_cons, hk, this, ih]
    · have h' : (k' != key) = true := by simpa using h
      by_cases hk : k = k'
      · subst hk
        simp [h]
      · have : (k == k') = false := by simpa using hk
        simp [List.lookup_cons, h', this, ih]

theorem get?_erase (d : Table κ α) (key k : κ) :
    (d.erase key).get? k = if k = key then none else d.get? k :=
  lookup_filter_ne key d.entries k

end Table

abbrev Dict (α : Type u) := Table String α

namespace Dict

variable {α : Type u}

abbrev empty : Dict α := Table.empty

abbrev ofList (l : List (String × α)) : Dict α := Table.ofList l

end Dict

end Folio
