import HomeEnergy.Proofs.Number.Digits
import HomeEnergy.Proofs.Rollup.Week
import Mathlib.Data.List.Basic

/-!
# `HomeEnergy.Proofs.Rollup.Selection`: whole weeks, and the selected one among them

A week is whole when its Monday and its Sunday are dates. The calendar begins on a Thursday and
ends on a Monday, so the weeks at its two ends are cut, and the dates in them have no week.
Everywhere else the weeks of some dates can be listed. A selection survives in a new list by its
id, which is written text: the number of the week, a hyphen and a count of seconds. The hyphen
is the first one in the text, so both can be read off it, and already the seconds tell the week.

* `ofDate?_eq_none_iff`: the five dates without a week.
* `distinct?_eq_none_iff`: the weeks of some dates cannot be listed exactly when one of the five
  is among them.
* `distinct?_cover`: otherwise they are the weeks that hold a date, in order.
* `id_eq_iff`: an id names one week.
* `reselect_reselected`: what becomes of a selection.
-/

set_option autoImplicit false

namespace HomeEnergy.Week

open HomeEnergy.Calendar HomeEnergy.Data HomeEnergy.Number

/-! ### Whole weeks -/

/-- The week is that of a date. -/
def Whole (w : Week) : Prop := ∃ d, ofDate? d = some w

/-- The dates whose week does not lie in the calendar: the four days before its first Monday, and
its last day. -/
def edges : List Date :=
  [⟨-262143, 1, 1, by decide⟩, ⟨-262143, 1, 2, by decide⟩, ⟨-262143, 1, 3, by decide⟩,
    ⟨-262143, 1, 4, by decide⟩, ⟨262142, 12, 31, by decide⟩]

/-- The number of the calendar's first day. -/
theorem firstDay_minYear : firstDay minYear = -96465292 := by decide

/-- The number of the day after the calendar's last one. -/
theorem firstDay_maxYear_succ : firstDay (maxYear + 1) = 95026237 := by decide

/-- The seven days from the Monday have to lie in the calendar. -/
theorem ofDate?_isSome_iff {d : Date} :
    (ofDate? d).isSome ↔
      firstDay minYear ≤ d.mondayNumber ∧ d.mondayNumber + 6 < firstDay (maxYear + 1) := by
  -- Every date lies in the calendar, so the Monday and the Sunday of a week do.
  have hdate : ∀ e : Date,
      firstDay minYear ≤ e.dayNumber ∧ e.dayNumber < firstDay (maxYear + 1) := by
    intro e
    obtain ⟨hmin, hmax, -⟩ := e.isDate
    have hbegun := firstDay_mono hmin
    have hends := firstDay_mono (show e.year + 1 ≤ maxYear + 1 by omega)
    have hyear := e.mem_year
    omega
  constructor
  · intro h
    obtain ⟨w, hw⟩ := Option.isSome_iff_exists.mp h
    obtain ⟨-, hstart, hfinish⟩ := ofDate?_eq_some_iff.mp hw
    have hfirst := hdate w.start
    have hlast := hdate w.finish
    omega
  · rintro ⟨hfirst, hlast⟩
    obtain ⟨start, hstart⟩ := Date.exists_dayNumber_eq hfirst (by omega)
    obtain ⟨finish, hfinish⟩ := Date.exists_dayNumber_eq (show firstDay minYear ≤
      d.mondayNumber + 6 by omega) hlast
    have hw : ofDate? d = some ⟨d.isoWeek.1, d.isoWeek.2, start, finish⟩ :=
      ofDate?_eq_some_iff.mpr ⟨rfl, hstart, hfinish⟩
    rw [hw]
    rfl

/-- Before the fifth day of the calendar there is no Monday, and after its last one no Sunday. -/
theorem ofDate?_eq_none_iff {d : Date} : ofDate? d = none ↔ d ∈ edges := by
  have hnumbers : edges.map Date.dayNumber =
      [-96465292, -96465291, -96465290, -96465289, 95026236] := by decide
  -- The edges are compared by their numbers, which tell dates apart.
  have hmem : d ∈ edges ↔ d.dayNumber ∈ edges.map Date.dayNumber := by
    rw [List.mem_map]
    constructor
    · exact fun h => ⟨d, h, rfl⟩
    · rintro ⟨e, he, hnumber⟩
      rwa [← Date.dayNumber_injective hnumber]
  -- The Monday is missing in front of the first day, the Sunday behind the last one.
  obtain ⟨hmin, hmax, -⟩ := d.isDate
  have hbegun := firstDay_mono hmin
  have hends := firstDay_mono (show d.year + 1 ≤ maxYear + 1 by omega)
  have hyear := d.mem_year
  have hmod := d.mondayNumber_mod
  have hbounds := d.mondayNumber_bounds
  rw [← Option.not_isSome_iff_eq_none, ofDate?_isSome_iff, hmem, hnumbers]
  rw [firstDay_minYear] at hbegun ⊢
  rw [firstDay_maxYear_succ] at hends ⊢
  simp only [List.mem_cons, List.not_mem_nil, or_false]
  omega

/-- Every date that is none of the `edges` has a week. -/
theorem ofDate?_isSome_of_not_mem {d : Date} (h : d ∉ edges) : (ofDate? d).isSome :=
  Option.isSome_iff_ne_none.mpr fun hnone => h (ofDate?_eq_none_iff.mp hnone)

/-! ### The weeks of some dates -/

/-- The weeks are those that hold one of the dates, and strictly ascend. -/
structure Cover (dates : List Date) (weeks : List Week) : Prop where
  ascending : weeks.Pairwise fun v w => v.start < w.start
  mem_iff : ∀ w, w ∈ weeks ↔ w.Whole ∧ ∃ d ∈ dates, w.contains d = true

/-- No dates are covered by no weeks. -/
theorem cover_nil : Cover [] [] := by
  refine ⟨List.Pairwise.nil, fun w => iff_of_false List.not_mem_nil ?_⟩
  rintro ⟨-, d, hd, -⟩
  exact absurd hd List.not_mem_nil

/-- A whole week holds the dates whose week it is. -/
theorem contains_iff_ofDate? {w : Week} {d : Date} (hw : w.Whole) :
    w.contains d = true ↔ ofDate? d = some w := by
  obtain ⟨e, he⟩ := hw
  constructor
  · intro h
    rw [ofDate?_congr ((contains_iff he).mp h), he]
  · exact fun h => (contains_iff h).mpr rfl

/-- The weeks of some dates, if each has one, are those that hold one of them, in order. -/
theorem distinct?_cover {dates : List Date} (h : ∀ d ∈ dates, (ofDate? d).isSome) :
    ∃ weeks, distinct? dates = some weeks ∧ Cover dates weeks := by
  obtain ⟨weeks, hweeks, hascending, hmem⟩ := distinct?_spec h
  refine ⟨weeks, hweeks, hascending, fun w => ?_⟩
  rw [hmem]
  constructor
  · rintro ⟨d, hd, hw⟩
    exact ⟨⟨d, hw⟩, d, hd, (contains_iff_ofDate? ⟨d, hw⟩).mpr hw⟩
  · rintro ⟨hwhole, d, hd, hw⟩
    exact ⟨d, hd, (contains_iff_ofDate? hwhole).mp hw⟩

/-- The weeks of some dates cannot be told if and only if one of them is at the edge of the
calendar. -/
theorem distinct?_eq_none_iff {dates : List Date} :
    distinct? dates = none ↔ ∃ d ∈ dates, d ∈ edges := by
  constructor
  · intro h
    by_contra hnone
    obtain ⟨weeks, hweeks, -⟩ := distinct?_cover fun d hd =>
      ofDate?_isSome_of_not_mem fun he => hnone ⟨d, hd, he⟩
    rw [h] at hweeks
    cases hweeks
  · rintro ⟨d, hd, he⟩
    rw [distinct?, Option.map_eq_none_iff]
    induction dates with
    | nil => exact absurd hd List.not_mem_nil
    | cons e rest ih =>
      -- The first date without a week stops the search, and later ones are not looked at.
      rw [List.mapM_cons]
      rcases List.mem_cons.mp hd with rfl | hd
      · rw [ofDate?_eq_none_iff.mpr he]
        rfl
      · cases ofDate? e with
        | none => rfl
        | some w => simp [ih hd]

/-! ### Ids -/

/-- The id of a week is its number and the second in which it begins, with a hyphen between them. -/
theorem toList_id (w : Week) :
    w.id.toList
      = Nat.toDigits 10 w.number ++ '-' :: (toString (w.start.dayNumber * 86400)).toList := by
  have hnumber : (toString w.number).toList = Nat.toDigits 10 w.number := by
    simp [Nat.toString_eq_repr, Nat.repr]
  rw [id, String.toList_append, String.toList_append, hnumber, List.append_assoc]
  rfl

/-- Different integers are written differently, as each is read back. -/
theorem toString_inj {i j : Int} (h : toString i = toString j) : i = j := by
  have hi := integer?_toString (Int.min_le_left i j) (Int.le_max_left i j)
  have hj := integer?_toString (Int.min_le_right i j) (Int.le_max_right i j)
  rw [h, hj] at hi
  exact (Option.some.inj hi).symm

/-- The digits end at the hyphen. -/
theorem dropWhile_id (w : Week) :
    w.id.toList.dropWhile isDigit = '-' :: (toString (w.start.dayNumber * 86400)).toList := by
  rw [toList_id, List.dropWhile_append_of_pos fun c hc => isDigit_of_mem_toDigits hc,
    List.dropWhile_cons_of_neg (by decide)]

/-- Two whole weeks have the same id if and only if they are the same: behind the first hyphen
stands the second in which a week begins, and this tells the week. -/
theorem id_eq_iff {v w : Week} (hv : v.Whole) (hw : w.Whole) : v.id = w.id ↔ v = w := by
  constructor
  · intro h
    have hrest := v.dropWhile_id
    rw [h, w.dropWhile_id, List.cons_inj_right] at hrest
    have hseconds := toString_inj (String.toList_injective hrest)
    obtain ⟨d, hd⟩ := hv
    obtain ⟨e, he⟩ := hw
    have hvstart := (ofDate?_eq_some_iff.mp hd).2.1
    have hwstart := (ofDate?_eq_some_iff.mp he).2.1
    rw [ofDate?_congr (show d.mondayNumber = e.mondayNumber by omega), he] at hd
    exact (Option.some.inj hd).symm
  · rintro rfl
    rfl

/-! ### The selected week -/

/-- What becomes of the selection `before` in a list of weeks:

- `none_iff`, `mem`: one of the weeks is selected, unless there are none;
- `kept`: a selected week that is still there stays selected;
- `gone`: one that is no longer there gives way to the first;
- `fresh`: without a selection it is the last. -/
structure Reselected (before : Option Week) (weeks : List Week) (after : Option Week) : Prop where
  none_iff : after = none ↔ weeks = []
  mem : ∀ w, after = some w → w ∈ weeks
  kept : ∀ w, before = some w → w ∈ weeks → after = some w
  gone : ∀ w, before = some w → w ∉ weeks → after = weeks.head?
  fresh : before = none → after = weeks.getLast?

/-- Looking for the id of a week finds the week, if it is there. -/
theorem find?_id {weeks : List Week} {w : Week} (hweeks : ∀ v ∈ weeks, v.Whole) (hw : w.Whole) :
    (weeks.find? fun v => v.id == w.id) = if w ∈ weeks then some w else none := by
  have hid : ∀ v ∈ weeks, (v.id == w.id) = true ↔ v = w := fun v hv =>
    beq_iff_eq.trans (id_eq_iff (hweeks v hv) hw)
  cases hfind : weeks.find? fun v => v.id == w.id with
  | some v =>
    have hv := List.mem_of_find?_eq_some hfind
    have hsame := List.find?_some hfind
    obtain rfl := (hid v hv).mp hsame
    rw [if_pos hv]
  | none =>
    rw [if_neg fun hmem => List.find?_eq_none.mp hfind w hmem ((hid w hmem).mpr rfl)]

/-- The selection that `reselect` makes in a list of whole weeks is as `Reselected` has it. -/
theorem reselect_reselected {before : Option Week} {weeks : List Week}
    (hweeks : ∀ w ∈ weeks, w.Whole) (hbefore : ∀ w, before = some w → w.Whole) :
    Reselected before weeks (reselect before weeks) := by
  cases before with
  | none =>
    -- Without a selection the newest week is taken, the last of an ascending list.
    have hlast : reselect none weeks = weeks.getLast? := rfl
    rw [hlast]
    have hnone : ∀ w, (none : Option Week) ≠ some w := fun w => nofun
    exact ⟨List.getLast?_eq_none_iff, fun w hw => List.mem_of_getLast? hw,
      fun w hw => absurd hw (hnone w), fun w hw => absurd hw (hnone w), fun _ => rfl⟩
  | some old =>
    have hold := find?_id hweeks (hbefore old rfl)
    by_cases hmem : old ∈ weeks
    · rw [if_pos hmem] at hold
      -- The id finds the week itself, since ids tell weeks apart.
      have hsame : reselect (some old) weeks = some old := by
        rw [reselect, hold]
        rfl
      rw [hsame]
      refine ⟨?_, ?_, ?_, ?_, nofun⟩
      · exact iff_of_false nofun (List.ne_nil_of_mem hmem)
      · rintro w ⟨⟩
        exact hmem
      · exact fun w hw _ => hw
      · rintro w ⟨⟩ hnot
        exact absurd hmem hnot
    · rw [if_neg hmem] at hold
      -- No week has this id, and the first one is taken.
      have hfirst : reselect (some old) weeks = weeks.head? := by
        rw [reselect, hold]
        rfl
      rw [hfirst]
      refine ⟨List.head?_eq_none_iff, fun w hw => List.mem_of_head? hw, ?_, fun _ _ _ => rfl, nofun⟩
      rintro w ⟨⟩ hin
      exact absurd hin hmem

end HomeEnergy.Week
