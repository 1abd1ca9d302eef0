import HomeEnergy.Text.Chars
import Mathlib.Data.List.DropRight

/-!
# `HomeEnergy.Proofs.Text.Cuts`: a list cut at one of its elements

A list can be cut at the first place of an element or at the last. Either cut undoes putting the
two parts together again with the element between them, provided that the element is not in the
part that the search goes through. Where it is in neither part, it has one place only, and then the
list has two pieces.

* `cutFirst_append_cons`, `cutLast_append_cons`: the cuts of a list that was put together.
* `eq_of_mem_cutFirst`, `eq_of_mem_cutLast`: a list is put together from its cut.
* `splitWhere_eq_pair_iff`: when there are two pieces.
-/

set_option autoImplicit false

namespace HomeEnergy.Text

variable {α : Type} [BEq α]

/-- What stands before the first `x`, and what after it. -/
def cutFirst (x : α) (cs : List α) : List α × List α :=
  (cs.takeWhile (· != x), (cs.dropWhile (· != x)).tail)

/-- What stands before the last `x`, and what after it. -/
def cutLast (x : α) (cs : List α) : List α × List α :=
  ((cs.rdropWhile (· != x)).dropLast, cs.rtakeWhile (· != x))

/-- The last place is the first one from the other end. -/
theorem cutLast_eq (x : α) (cs : List α) : cutLast x cs
    = ((cutFirst x cs.reverse).2.reverse, (cutFirst x cs.reverse).1.reverse) := by
  unfold cutLast cutFirst List.rdropWhile List.rtakeWhile
  rw [List.dropLast_reverse]

variable [LawfulBEq α] {x : α} {cs before after : List α}

/-- A list that is put together from two parts and an `x` between them is cut there, if `x` is not
in the first part. -/
theorem cutFirst_append_cons (h : x ∉ before) :
    cutFirst x (before ++ x :: after) = (before, after) := by
  have hpassed : ∀ c ∈ before, (c != x) = true := by
    intro c hc
    exact bne_iff_ne.mpr (ne_of_mem_of_not_mem hc h)
  unfold cutFirst
  rw [List.takeWhile_append_of_pos hpassed, List.dropWhile_append_of_pos hpassed]
  simp

/-- The same for the last place of `x`, if it is not in the second part. The list is read backwards,
by `cutLast_eq`. -/
theorem cutLast_append_cons (h : x ∉ after) :
    cutLast x (before ++ x :: after) = (before, after) := by
  have hreverse : (before ++ x :: after).reverse = after.reverse ++ x :: before.reverse := by
    simp
  rw [cutLast_eq, hreverse, cutFirst_append_cons (by simpa using h)]
  simp

/-- A list that has an `x` is put together from its first cut. -/
theorem eq_of_mem_cutFirst (h : x ∈ cs) : cs = (cutFirst x cs).1 ++ x :: (cutFirst x cs).2 := by
  obtain ⟨before, after, hcs, hbefore⟩ := List.eq_append_cons_of_mem h
  rw [hcs, cutFirst_append_cons hbefore]

/-- A list that has an `x` is put together from its last cut. -/
theorem eq_of_mem_cutLast (h : x ∈ cs) : cs = (cutLast x cs).1 ++ x :: (cutLast x cs).2 := by
  have hcut := congrArg List.reverse (eq_of_mem_cutFirst (List.mem_reverse.mpr h))
  rw [List.reverse_reverse] at hcut
  rw [cutLast_eq]
  simpa using hcut

/-- There is no `x` after the last one. -/
theorem not_mem_cutLast (x : α) (cs : List α) : x ∉ (cutLast x cs).2 := by
  intro h
  have hne := List.mem_rtakeWhile_imp h
  simp at hne

/-- Something stands before the last `x` only in a list that has one: without an `x` the search goes
through the whole list. -/
theorem mem_of_cutLast_ne (h : (cutLast x cs).1 ≠ []) : x ∈ cs := by
  by_contra hx
  have hall : ∀ c ∈ cs, (c != x) = true := by
    intro c hc
    exact bne_iff_ne.mpr (ne_of_mem_of_not_mem hc hx)
  refine h ?_
  unfold cutLast
  rw [List.rdropWhile_eq_nil_iff.mpr hall]
  rfl

/-- A list has two pieces under `splitWhere` exactly if it has one `x`, and they are the parts
before and after it. -/
theorem splitWhere_eq_pair_iff : splitWhere (· == x) cs = [before, after] ↔
    cs = before ++ x :: after ∧ x ∉ before ∧ x ∉ after := by
  constructor
  · intro h
    have hpieces := not_mem_of_mem_splitWhere (· == x) cs
    have hjoined := intercalate_splitWhere x cs
    rw [h] at hpieces hjoined
    -- The pieces put the list together again, and no piece has an `x`.
    refine ⟨?_, fun hx => ?_, fun hx => ?_⟩
    · rw [← hjoined, List.intercalate_cons_cons, List.intercalate_singleton]
      simp
    · exact absurd (hpieces before (by simp) x hx) (by simp)
    · exact absurd (hpieces after (by simp) x hx) (by simp)
  · intro ⟨hcs, hbefore, hafter⟩
    rw [hcs, splitWhere_append_cons (p := (· == x)) (BEq.refl x),
      splitWhere_of_not_mem hbefore, splitWhere_of_not_mem hafter]
    rfl

end HomeEnergy.Text
