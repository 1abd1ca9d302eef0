import HomeEnergy.Data.Keyed
import Mathlib.Data.List.Nodup

/-!
# `HomeEnergy.Proofs.Data.Keyed`: what a table holds after its operations

`HomeEnergy.Data.Keyed` has the lemmas on single insertions. This module adds filtering,
erasing and the insertion of many pairs, all through `Table.get?`.

* `Entries.lookup?_eq_some_iff`: what is found is what stands there.
* `Entries.lookup?_merge`: of two lists put together, the newer one is asked first.
* `Entries.ofList_of_ascending`: entries that ascend already are left as they are.
* `Entries.Ascending.scan_eq_filter`: a scan of a range of keys finds all that pass, where these
  stand side by side.
* `Table.get?_filter`: a filter keeps a value or drops it, and touches no other key.
* `Table.get?_insertAll`: a table filled from pairs holds under each key one of its pairs, and
  something as soon as there is a pair.
* `Table.get?_insertAll_of_nodup`: when no key repeats, it holds all of them.
* `Table.get?_insertAll_greatest`: of ascending entries put in under changed keys, the greatest
  with a key is found there.
* `Table.ext_get?`: tables in which the same is found are the same.
-/

set_option autoImplicit false

namespace HomeEnergy.Data

universe u

variable {β : Type u}

/-- Where no member that passes follows one that fails, the first row of members that pass is
all of them. -/
theorem takeWhile_eq_filter {α : Type u} {p : α → Bool} {xs : List α}
    (h : xs.Pairwise fun x y => p y = true → p x = true) : xs.takeWhile p = xs.filter p := by
  induction xs with
  | nil => rfl
  | cons x xs ih =>
    obtain ⟨hhead, htail⟩ := List.pairwise_cons.mp h
    by_cases hx : p x = true
    · rw [List.takeWhile_cons_of_pos hx, List.filter_cons_of_pos hx, ih htail]
    · have hnone : xs.filter p = [] :=
        List.filter_eq_nil_iff.mpr fun y hy hpass => hx (hhead y hy hpass)
      rw [List.takeWhile_cons_of_neg hx, List.filter_cons_of_neg hx, hnone]

namespace Entries

/-- A scan of ascending entries from the key `first` on, for as long as they pass, finds all
that pass, when none of these is before `first` and they stand side by side. -/
theorem Ascending.scan_eq_filter {p : String × β → Bool} {first : String}
    (hfirst : ∀ e, p e = true → ¬ e.1 < first)
    (hside : ∀ e f, ¬ e.1 < first → e.1 < f.1 → p f = true → p e = true)
    {entries : Entries β} (h : entries.Ascending) :
    (entries.dropWhile fun e => e.1 < first).takeWhile p = entries.filter p := by
  induction entries with
  | nil => rfl
  | cons e rest ih =>
    obtain ⟨hhead, htail⟩ := List.pairwise_cons.mp h
    by_cases hlt : e.1 < first
    · rw [List.dropWhile_cons, if_pos (decide_eq_true hlt),
        List.filter_cons_of_neg fun hpass => hfirst e hpass hlt]
      exact ih htail
    · -- The scan starts here, and everything from here on is not before `first` either.
      rw [List.dropWhile_cons, if_neg (by rwa [decide_eq_true_eq])]
      refine takeWhile_eq_filter (h.imp_of_mem fun {a b} ha _ hab => hside a b ?_ hab)
      rcases List.mem_cons.mp ha with rfl | ha
      · exact hlt
      · exact fun halt => hlt (String.lt_trans (hhead a ha) halt)

/-- No entry stands under a key that is before all others. -/
theorem lookup?_eq_none {key : String} {entries : Entries β} (h : ∀ e ∈ entries, key < e.1) :
    entries.lookup? key = none := by
  induction entries with
  | nil => rfl
  | cons e rest ih =>
    obtain ⟨k, v⟩ := e
    have hne : k ≠ key := fun heq => String.lt_irrefl k (heq ▸ h (k, v) List.mem_cons_self)
    rw [lookup?, if_neg hne]
    exact ih fun e he => h e (List.mem_cons_of_mem _ he)

/-- In ascending entries what `lookup?` finds under a key is the one entry with that key. -/
theorem lookup?_eq_some_iff {entries : Entries β} (h : entries.Ascending) {key : String}
    {value : β} : entries.lookup? key = some value ↔ (key, value) ∈ entries := by
  induction entries with
  | nil => simp [lookup?]
  | cons e rest ih =>
    obtain ⟨k, v⟩ := e
    obtain ⟨hhead, htail⟩ := List.pairwise_cons.mp h
    by_cases hk : k = key
    · subst hk
      -- No later entry stands under this key.
      have hnot : (k, value) ∉ rest := fun hmem => String.lt_irrefl k (hhead _ hmem)
      simp [lookup?, hnot, eq_comm]
    · simp [lookup?, hk, Ne.symm hk, ih htail]

/-- The two cases of `insert`, told apart by the key that is looked up. -/
theorem lookup?_insert (key other : String) (value : β) (entries : Entries β) :
    lookup? other (insert key value entries)
      = if key = other then some value else lookup? other entries := by
  by_cases heq : key = other
  · rw [if_pos heq, heq, lookup?_insert_self]
  · rw [if_neg heq, lookup?_insert_of_ne (Ne.symm heq)]

/-- Entries can be merged in two goes. -/
theorem merge_append (entries newer last : Entries β) :
    merge entries (newer ++ last) = merge (merge entries newer) last :=
  List.foldl_append

/-- Of the entries put in, the one under the key decides; if there is none, the old entry
stays. -/
theorem lookup?_merge {newer : Entries β} (h : newer.Ascending) (entries : Entries β)
    (key : String) :
    (merge entries newer).lookup? key = (newer.lookup? key).or (entries.lookup? key) := by
  induction newer generalizing entries with
  | nil => rfl
  | cons e rest ih =>
    obtain ⟨k, v⟩ := e
    obtain ⟨hhead, htail⟩ := List.pairwise_cons.mp h
    have hstep : merge entries ((k, v) :: rest) = merge (insert k v entries) rest := rfl
    rw [hstep, ih htail]
    by_cases hk : k = key
    · subst hk
      -- The key does not come again among the newer ones, so its value stays.
      rw [lookup?_eq_none hhead, lookup?_insert_self]
      simp [lookup?]
    · rw [lookup?_insert_of_ne (Ne.symm hk)]
      simp [lookup?, hk]

/-- An entry whose key is after all others is put at the end. -/
theorem insert_of_forall_lt {key : String} {value : β} {entries : Entries β}
    (h : ∀ e ∈ entries, e.1 < key) : insert key value entries = entries ++ [(key, value)] := by
  induction entries with
  | nil => rfl
  | cons e rest ih =>
    obtain ⟨k, v⟩ := e
    have hk : k < key := h (k, v) List.mem_cons_self
    rw [insert, if_pos hk, ih fun e he => h e (List.mem_cons_of_mem _ he), List.cons_append]

/-- Entries that come after all others are put at the end, in their order. -/
theorem merge_of_ascending {entries newer : Entries β} (h : Ascending (entries ++ newer)) :
    merge entries newer = entries ++ newer := by
  induction newer generalizing entries with
  | nil => exact (List.append_nil entries).symm
  | cons e rest ih =>
    have hlast : ∀ x ∈ entries, x.1 < e.1 := fun x hx =>
      (List.pairwise_append.mp h).2.2 x hx e List.mem_cons_self
    have hstep : merge entries (e :: rest) = merge (insert e.1 e.2 entries) rest := rfl
    rw [hstep, insert_of_forall_lt hlast, ih]
    · simp
    · simpa using h

/-- The function `ofList` leaves ascending entries as they are. -/
theorem ofList_of_ascending {entries : Entries β} (h : entries.Ascending) :
    ofList entries = entries :=
  merge_of_ascending (show Ascending ([] ++ entries) from h)

/-- The order is needed here: with a second entry under the key, dropping the first one would
bring it up. -/
theorem lookup?_filter {entries : Entries β} (h : entries.Ascending) (keep : String → β → Bool)
    (key : String) :
    lookup? key (entries.filter fun e => keep e.1 e.2)
      = (entries.lookup? key).filter (keep key) := by
  induction entries with
  | nil => rfl
  | cons e rest ih =>
    obtain ⟨k, v⟩ := e
    obtain ⟨hhead, htail⟩ := List.pairwise_cons.mp h
    have hrest := ih htail
    by_cases hk : k = key
    · subst hk
      -- Keys ascend, so the key does not come again.
      have hnone : lookup? k rest = none := lookup?_eq_none hhead
      rw [hnone] at hrest
      by_cases hkeep : keep k v = true
      · simp [lookup?, Option.filter, hkeep]
      · simpa [lookup?, Option.filter, hkeep] using hrest
    · by_cases hkeep : keep k v = true
      · simpa [lookup?, hk, hkeep] using hrest
      · simpa [lookup?, hk, hkeep] using hrest

/-- No key occurs twice in ascending entries. -/
theorem Ascending.nodup_keys {entries : Entries β} (h : entries.Ascending) :
    (entries.map Prod.fst).Nodup := by
  refine List.pairwise_map.mpr (List.Pairwise.imp ?_ h)
  intro a b hlt hsame
  exact String.lt_irrefl a.1 (hsame ▸ hlt)

/-- Ascending entries are told by what is found in them. -/
theorem eq_of_lookup? {entries others : Entries β} (h : entries.Ascending)
    (h' : others.Ascending) (hfound : ∀ key, lookup? key entries = lookup? key others) :
    entries = others := by
  have hmem : ∀ e, e ∈ entries ↔ e ∈ others := fun e => by
    rw [← lookup?_eq_some_iff h, ← lookup?_eq_some_iff h', hfound]
  have hperm : entries.Perm others :=
    (List.perm_ext_iff_of_nodup h.nodup_keys.of_map h'.nodup_keys.of_map).mpr hmem
  exact hperm.eq_of_pairwise (fun a b _ _ hab hba =>
    absurd (String.lt_trans hab hba) (String.lt_irrefl a.1)) h h'

end Entries

namespace Table

variable (t : Table β)

/-- What a table holds under a key is its one entry with that key. -/
theorem get?_eq_some_iff {key : String} {value : β} :
    t.get? key = some value ↔ (key, value) ∈ t.entries :=
  Entries.lookup?_eq_some_iff t.ascending

/-- Two tables that hold the same under a key still do so after the same `insert`. -/
theorem get?_insert_congr {t t' : Table β} {other : String} (h : t'.get? other = t.get? other)
    (key : String) (value : β) :
    (t'.insert key value).get? other = (t.insert key value).get? other := by
  by_cases heq : other = key
  · rw [heq, get?_insert_self, get?_insert_self]
  · rw [get?_insert_of_ne t' heq, get?_insert_of_ne t heq, h]

/-- A filtered table holds under a key what it held there before, if that passes. -/
theorem get?_filter (keep : String → β → Bool) (key : String) :
    (t.filter keep).get? key = (t.get? key).filter (keep key) :=
  Entries.lookup?_filter t.ascending keep key

/-- An `erase` leaves nothing under its key. -/
@[simp] theorem get?_erase_self (key : String) : (t.erase key).get? key = none := by
  unfold erase
  rw [get?_filter]
  cases t.get? key <;> simp [Option.filter]

/-- An `erase` leaves what is under all other keys. -/
theorem get?_erase_of_ne {key other : String} (hne : other ≠ key) :
    (t.erase key).get? other = t.get? other := by
  unfold erase
  rw [get?_filter]
  cases t.get? other <;> simp [Option.filter, hne]

/-- A table has a key when something is found under it. -/
theorem contains_iff {key : String} : t.contains key = true ↔ ∃ value, t.get? key = some value :=
  Option.isSome_iff_exists

variable {t}

/-- The value under a key comes from the last pair with the key, or from the table before. -/
theorem get?_insertAll (pairs : List (String × β)) (key : String) :
    (t.insertAll pairs).get? key = t.get? key ∧ (∀ p ∈ pairs, p.1 ≠ key) ∨
      ∃ value, (t.insertAll pairs).get? key = some value ∧ (key, value) ∈ pairs := by
  induction pairs generalizing t with
  | nil => exact Or.inl ⟨rfl, fun p hp => absurd hp List.not_mem_nil⟩
  | cons p rest ih =>
    have hstep : t.insertAll (p :: rest) = (t.insert p.1 p.2).insertAll rest := rfl
    rw [hstep]
    rcases ih (t := t.insert p.1 p.2) with ⟨hget, hrest⟩ | ⟨value, hget, hmem⟩
    · -- None of the later pairs has the key, so the first one decides.
      by_cases hkey : key = p.1
      · right
        subst hkey
        exact ⟨p.2, by rw [hget, get?_insert_self], List.mem_cons_self⟩
      · left
        refine ⟨by rw [hget, get?_insert_of_ne t hkey], fun q hq => ?_⟩
        rcases List.mem_cons.mp hq with rfl | hq
        · exact fun heq => hkey heq.symm
        · exact hrest q hq
    · exact Or.inr ⟨value, hget, List.mem_cons_of_mem p hmem⟩

/-- What a table filled from pairs holds is one of the pairs. -/
theorem mem_of_get?_insertAll {pairs : List (String × β)} {key : String} {value : β}
    (h : (empty.insertAll pairs).get? key = some value) : (key, value) ∈ pairs := by
  rcases get?_insertAll (t := empty) pairs key with ⟨hget, -⟩ | ⟨v, hget, hmem⟩
  · rw [hget, get?_empty] at h
    cases h
  · rw [hget] at h
    cases h
    exact hmem

/-- A table of pairs has something under just the keys of the pairs. -/
theorem contains_insertAll {pairs : List (String × β)} {key : String} :
    (empty.insertAll pairs).contains key = true ↔ ∃ p ∈ pairs, p.1 = key := by
  rw [contains_iff]
  constructor
  · rintro ⟨value, h⟩
    exact ⟨_, mem_of_get?_insertAll h, rfl⟩
  · rintro ⟨p, hp, hkey⟩
    rcases get?_insertAll (t := empty) pairs key with ⟨-, hnone⟩ | ⟨value, hget, -⟩
    · exact absurd hkey (hnone p hp)
    · exact ⟨value, hget⟩

/-- A table of pairs whose keys differ has each value under its key. -/
theorem get?_insertAll_of_nodup {pairs : List (String × β)} (h : (pairs.map Prod.fst).Nodup)
    {key : String} {value : β} (hmem : (key, value) ∈ pairs) :
    (empty.insertAll pairs).get? key = some value := by
  obtain ⟨v, hv⟩ := (contains_iff _).mp (contains_insertAll.mpr ⟨_, hmem, rfl⟩)
  have hmem' := mem_of_get?_insertAll hv
  have hsame : ((key, v) : String × β) = (key, value) :=
    List.inj_on_of_nodup_map h hmem' hmem rfl
  rw [hv, (Prod.mk.inj hsame).2]

/-- When ascending entries are put in under changed keys, several can come under one key. Of
these the greatest is put in last, and stays. -/
theorem get?_insertAll_greatest {γ : Type u} {entries : Entries γ} (h : entries.Ascending)
    (f : String × γ → String × β) {e : String × γ} (he : e ∈ entries)
    (hlast : ∀ e' ∈ entries, (f e').1 = (f e).1 → e' = e ∨ e'.1 < e.1) :
    (t.insertAll (entries.map f)).get? (f e).1 = some (f e).2 := by
  obtain ⟨before, after, rfl⟩ := List.append_of_mem he
  have hafter : ∀ e' ∈ after, e.1 < e'.1 := by
    have hascending := (List.pairwise_append.mp h).2.1
    exact (List.pairwise_cons.mp hascending).1
  have hsplit : t.insertAll ((before ++ e :: after).map f)
      = ((t.insertAll (before.map f)).insert (f e).1 (f e).2).insertAll (after.map f) := by
    simp [insertAll]
  rw [hsplit]
  rcases get?_insertAll (t := (t.insertAll (before.map f)).insert (f e).1 (f e).2)
    (after.map f) (f e).1 with ⟨hget, -⟩ | ⟨value, -, hmem⟩
  · rw [hget, get?_insert_self]
  · -- An entry with the key that was put in later would be greater.
    obtain ⟨e', he', hvalue⟩ := List.mem_map.mp hmem
    have hlt : e.1 < e'.1 := hafter e' he'
    rcases hlast e' (by simp [he']) (by rw [hvalue]) with rfl | hgt
    · exact absurd hlt (String.lt_irrefl _)
    · exact absurd (String.lt_trans hlt hgt) (String.lt_irrefl _)

/-- A table is told by what it has under each key. -/
theorem ext_get? {u : Table β} (h : ∀ key, t.get? key = u.get? key) : t = u := by
  have hentries := Entries.eq_of_lookup? t.ascending u.ascending h
  cases t
  cases u
  cases hentries
  rfl

/-- A table that has nothing new under a key has nothing there if the other has nothing. -/
theorem get?_eq_none_of_imp {u : Table β} {key : String}
    (h : ∀ value, u.get? key = some value → t.get? key = some value) (hnone : t.get? key = none) :
    u.get? key = none := by
  refine Option.eq_none_iff_forall_ne_some.mpr fun value hvalue => ?_
  rw [h value hvalue] at hnone
  cases hnone

/-- Inserting pairs into a table merges them into its entries. -/
theorem entries_insertAll (pairs : List (String × β)) :
    (t.insertAll pairs).entries = Entries.merge t.entries pairs := by
  induction pairs generalizing t with
  | nil => rfl
  | cons p rest ih => exact ih

/-- Of a table put into another, its own value under a key is found first. -/
theorem get?_insertAll_entries (u : Table β) (key : String) :
    (t.insertAll u.entries).get? key = (u.get? key).or (t.get? key) := by
  unfold get?
  rw [entries_insertAll, Entries.lookup?_merge u.ascending]

end Table

end HomeEnergy.Data
