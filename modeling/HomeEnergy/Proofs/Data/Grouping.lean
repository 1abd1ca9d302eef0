import Mathlib.Data.List.Perm.Basic

/-!
# `HomeEnergy.Proofs.Data.Grouping`: lists put together by keys

The facts about lists that the roll-ups and the listings rest on; they mention no definition of the
library.

* `flatMap_filter_perm`: the members under each of some keys, one key after the other, are a
  permutation of the list when no key repeats and every member has one of them.
* `filter_mergeSort`: sorting keeps the order of the members that count as equal.
* `mapM_some`: a partial function that is defined on all members of a list can be mapped.
* `mapM_eq_some_iff`: what comes of it, member by member.
* `getLast?_filterMap_cons`: the last that comes of a list, from its end.
-/

set_option autoImplicit false

namespace HomeEnergy.Data

variable {α β : Type}

/-- A member that passes `p` and not `q`, or `q` and not `p`, is met once on either side. -/
theorem filter_append_filter_perm (p q : α → Bool) (all : List α)
    (h : ∀ a ∈ all, p a = true → q a = false) :
    (all.filter p ++ all.filter q).Perm (all.filter fun a => p a || q a) := by
  induction all with
  | nil => exact List.Perm.refl _
  | cons a rest ih =>
    have hrest := ih fun b hb => h b (List.mem_cons_of_mem a hb)
    cases hp : p a with
    | true =>
      have hq : q a = false := h a List.mem_cons_self hp
      simpa [hp, hq] using hrest.cons a
    | false =>
      cases hq : q a with
      | true => simpa [hp, hq] using (List.perm_middle).trans (hrest.cons a)
      | false => simpa [hp, hq] using hrest

section Keys

variable {κ : Type} [DecidableEq κ] (key : α → κ) (all : List α)

/-- The members under each key, one key after the other, are all members under the keys. -/
theorem flatMap_filter_perm_filter {keys : List κ} (hkeys : keys.Nodup) :
    (keys.flatMap fun k => all.filter fun a => decide (key a = k)).Perm
      (all.filter fun a => decide (key a ∈ keys)) := by
  induction keys with
  | nil => simp
  | cons k rest ih =>
    obtain ⟨hk, hrest⟩ := List.nodup_cons.mp hkeys
    have hapart : ∀ a ∈ all, decide (key a = k) = true → decide (key a ∈ rest) = false := by
      intro a _ ha
      rw [of_decide_eq_true ha]
      exact decide_eq_false hk
    have hsplit := filter_append_filter_perm _ _ all hapart
    rw [List.flatMap_cons]
    refine ((ih hrest).append_left _).trans (hsplit.trans ?_)
    simp only [List.mem_cons, Bool.decide_or, List.Perm.refl]

/-- If every member has one of the keys, grouping by them only moves the members. -/
theorem flatMap_filter_perm {keys : List κ} (hkeys : keys.Nodup)
    (hall : ∀ a ∈ all, key a ∈ keys) :
    (keys.flatMap fun k => all.filter fun a => decide (key a = k)).Perm all := by
  have h := flatMap_filter_perm_filter key all hkeys
  rw [List.filter_eq_self.mpr fun a ha => decide_eq_true (hall a ha)] at h
  exact h

end Keys

/-- Members that pass and count as equal stay in the order they were in. -/
theorem filter_mergeSort (all : List α) {le : α → α → Bool}
    (trans : ∀ a b c, le a b → le b c → le a c) (total : ∀ a b, le a b || le b a) {p : α → Bool}
    (h : ∀ a b, p a = true → p b = true → le a b) :
    (all.mergeSort le).filter p = all.filter p := by
  -- Those members are sorted as they are, so stability finds them in the sorted list.
  have hsorted : (all.filter p).Pairwise (le · ·) := by
    refine List.Pairwise.imp_of_mem ?_ (List.pairwise_of_forall (fun _ _ => trivial))
    intro a b ha hb _
    exact h a b (List.mem_filter.mp ha).2 (List.mem_filter.mp hb).2
  have hsub := (List.sublist_mergeSort trans total hsorted List.filter_sublist).filter p
  rw [List.filter_filter] at hsub
  simp only [Bool.and_self] at hsub
  have hlength := ((List.mergeSort_perm all le).filter p).length_eq
  exact (hsub.eq_of_length hlength.symm).symm

/-- The results of a partial function that is defined on every member. -/
theorem mapM_some {f : α → Option β} {l : List α} (h : ∀ a ∈ l, (f a).isSome) :
    ∃ bs, l.mapM f = some bs ∧ l.map f = bs.map some := by
  induction l with
  | nil => exact ⟨[], rfl, rfl⟩
  | cons a rest ih =>
    obtain ⟨b, hb⟩ := Option.isSome_iff_exists.mp (h a List.mem_cons_self)
    obtain ⟨bs, hmapM, hmap⟩ := ih fun c hc => h c (List.mem_cons_of_mem a hc)
    refine ⟨b :: bs, ?_, ?_⟩
    · simp [List.mapM_cons, hb, hmapM]
    · rw [List.map_cons, List.map_cons, hb, hmap]

/-- Each result is that of its own member. -/
theorem mapM_eq_some_iff {f : α → Option β} {l : List α} {bs : List β} :
    l.mapM f = some bs ↔ List.Forall₂ (fun a b => f a = some b) l bs := by
  induction l generalizing bs with
  | nil => simp
  | cons a rest ih =>
    simp only [List.mapM_cons, Option.bind_eq_bind, Option.pure_def, Option.bind_eq_some_iff,
      Option.some.injEq, List.forall₂_cons_left_iff, exists_and_left, ih, eq_comm (a := bs)]

/-- What is read off the results, when each argument says what this is. -/
theorem map_of_mapM_some {γ : Type} {f : α → Option β} {l : List α} {bs : List β}
    (h : l.map f = bs.map some) {g : β → γ} {k : α → γ}
    (hk : ∀ a ∈ l, (f a).map g = some (k a)) : bs.map g = l.map k := by
  refine (List.map_inj_right fun _ _ => Option.some.inj).mp ?_
  calc (bs.map g).map some = (bs.map some).map (Option.map g) := by
        simp only [List.map_map]; rfl
    _ = l.map fun a => (f a).map g := by rw [← h, List.map_map]; rfl
    _ = (l.map k).map some := by rw [List.map_map]; exact List.map_congr_left hk

/-- The last that comes of a list comes of the rest, if anything does, or else of the head. -/
theorem getLast?_filterMap_cons (f : α → Option β) (a : α) (rest : List α) :
    ((a :: rest).filterMap f).getLast? = (rest.filterMap f).getLast?.or (f a) := by
  rw [List.filterMap_cons]
  cases f a with
  | none => exact Option.or_none.symm
  | some b =>
    rw [List.getLast?_cons]
    cases (rest.filterMap f).getLast? <;> rfl

end HomeEnergy.Data
