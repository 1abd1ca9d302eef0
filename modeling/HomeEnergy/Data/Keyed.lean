/-!
# `HomeEnergy.Data.Keyed`: entries in ascending key order

A finite map from text to `β` is a list of entries whose keys strictly ascend in the order of
their code points, which is also the byte order of their UTF-8 form. `insert` keeps the order
and replaces, `lookup?` finds, `merge` inserts all entries of another list. `Table` bundles a
list with the proof that it ascends.

* `Ascending.insert`: inserting keeps the order.
* `lookup?_insert_self`, `lookup?_insert_of_ne`: an entry put in is found, and no other
  changes.
-/

set_option autoImplicit false

namespace HomeEnergy.Data

universe u

/-- A value under a key. -/
abbrev Entries (β : Type u) := List (String × β)

namespace Entries

variable {β : Type u}

/-- The keys strictly ascend. -/
def Ascending (entries : Entries β) : Prop :=
  entries.Pairwise fun a b => a.1 < b.1

/-- The value under the key. -/
def lookup? (key : String) : Entries β → Option β
  | [] => none
  | (k, v) :: rest => if k = key then some v else lookup? key rest

/-- The value put under the key, replacing an older one. -/
def insert (key : String) (value : β) : Entries β → Entries β
  | [] => [(key, value)]
  | (k, v) :: rest =>
    if k < key then (k, v) :: insert key value rest
    else if k = key then (key, value) :: rest
    else (key, value) :: (k, v) :: rest

/-- The entry under the key taken out. -/
def erase (key : String) (entries : Entries β) : Entries β :=
  entries.filter fun e => e.1 ≠ key

/-- All entries of `newer` inserted, from the first to the last. -/
def merge (entries newer : Entries β) : Entries β :=
  newer.foldl (fun acc e => insert e.1 e.2 acc) entries

/-- Entries in any order, made ascending; of two under one key the later stays. -/
def ofList (pairs : List (String × β)) : Entries β :=
  merge [] pairs

/-- What holds of the new key and of all keys before holds of all keys after `insert`. -/
theorem forall_insert {key : String} {value : β} {P : String → Prop} {entries : Entries β}
    (hkey : P key) (h : ∀ e ∈ entries, P e.1) : ∀ e ∈ insert key value entries, P e.1 := by
  induction entries with
  | nil => simpa [insert] using hkey
  | cons e rest ih =>
    obtain ⟨k, v⟩ := e
    have hk : P k := h (k, v) (by simp)
    have hrest : ∀ e ∈ rest, P e.1 := fun e he => h e (by simp [he])
    unfold insert
    -- The new key goes behind, in front, or in the place of an old one.
    split
    · intro e he
      rcases List.mem_cons.mp he with rfl | he
      · exact hk
      · exact ih hrest e he
    · split
      · intro e he
        rcases List.mem_cons.mp he with rfl | he
        · exact hkey
        · exact hrest e he
      · intro e he
        rcases List.mem_cons.mp he with rfl | he
        · exact hkey
        · exact h e he

/-- An insertion keeps `Ascending`: the walk stops at the first key that is not before the new
one. -/
theorem Ascending.insert {key : String} {value : β} {entries : Entries β}
    (h : Ascending entries) : Ascending (Entries.insert key value entries) := by
  induction entries with
  | nil => simp [Entries.insert, Ascending]
  | cons e rest ih =>
    obtain ⟨k, v⟩ := e
    obtain ⟨hhead, htail⟩ := List.pairwise_cons.mp h
    unfold Entries.insert
    split
    · rename_i hlt
      exact List.pairwise_cons.mpr ⟨forall_insert hlt hhead, ih htail⟩
    · split
      · rename_i heq
        subst heq
        exact List.pairwise_cons.mpr ⟨hhead, htail⟩
      · rename_i hlt hne
        -- The key is neither after `k` nor the same, so it is before it.
        have hkey : key < k := by
          rcases String.le_total key k with hle | hle
          · exact Decidable.byContradiction fun hn =>
              hne (String.le_antisymm (String.not_lt.mp hn) hle)
          · exact absurd (Decidable.byContradiction fun hn =>
              hne (String.le_antisymm hle (String.not_lt.mp hn))) hlt
        refine List.pairwise_cons.mpr ⟨?_, h⟩
        intro e he
        rcases List.mem_cons.mp he with rfl | he
        · exact hkey
        · exact String.lt_trans hkey (hhead e he)

/-- What `insert` puts under a key is found there. -/
theorem lookup?_insert_self (key : String) (value : β) (entries : Entries β) :
    lookup? key (insert key value entries) = some value := by
  induction entries with
  | nil => simp [insert, lookup?]
  | cons e rest ih =>
    obtain ⟨k, v⟩ := e
    unfold insert
    split
    · rename_i hlt
      have hne : k ≠ key := fun h => String.lt_irrefl k (h ▸ hlt)
      simp [lookup?, hne, ih]
    · split <;> simp [lookup?]

/-- An `insert` leaves what is found under all other keys. -/
theorem lookup?_insert_of_ne {key other : String} (hne : other ≠ key) (value : β)
    (entries : Entries β) : lookup? other (insert key value entries) = lookup? other entries := by
  induction entries with
  | nil => simp [insert, lookup?, Ne.symm hne]
  | cons e rest ih =>
    obtain ⟨k, v⟩ := e
    unfold insert
    split
    · simp only [lookup?, ih]
    · split
      · rename_i heq
        subst heq
        simp [lookup?, Ne.symm hne]
      · simp [lookup?, Ne.symm hne]

end Entries

/-- A finite map from text to `β`. -/
structure Table (β : Type u) where
  entries : Entries β
  ascending : entries.Ascending

namespace Table

variable {β : Type u}

/-- The map without entries. -/
def empty : Table β := ⟨[], List.Pairwise.nil⟩

/-- The value under the key. -/
def get? (t : Table β) (key : String) : Option β := t.entries.lookup? key

/-- The value put under the key, replacing an older one. -/
def insert (t : Table β) (key : String) (value : β) : Table β :=
  ⟨t.entries.insert key value, t.ascending.insert⟩

/-- Only the entries that pass. -/
def filter (keep : String → β → Bool) (t : Table β) : Table β :=
  ⟨t.entries.filter fun e => keep e.1 e.2, List.Pairwise.filter _ t.ascending⟩

/-- The entry under the key taken out. -/
def erase (t : Table β) (key : String) : Table β := t.filter fun k _ => k ≠ key

/-- Something is under the key. -/
def contains (t : Table β) (key : String) : Bool := (t.get? key).isSome

/-- All pairs inserted, from the first to the last. -/
def insertAll (t : Table β) (pairs : List (String × β)) : Table β :=
  pairs.foldl (fun t e => t.insert e.1 e.2) t

/-- An empty table has nothing under any key. -/
@[simp] theorem get?_empty (key : String) : (empty : Table β).get? key = none := rfl

/-- What is inserted is found under its key. -/
@[simp] theorem get?_insert_self (t : Table β) (key : String) (value : β) :
    (t.insert key value).get? key = some value :=
  Entries.lookup?_insert_self key value t.entries

/-- An insertion leaves what is under all other keys. -/
theorem get?_insert_of_ne (t : Table β) {key other : String} (hne : other ≠ key) (value : β) :
    (t.insert key value).get? other = t.get? other :=
  Entries.lookup?_insert_of_ne hne value t.entries

end Table

end HomeEnergy.Data
