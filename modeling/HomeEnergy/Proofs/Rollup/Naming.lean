import HomeEnergy.Proofs.Rollup.Selection
import Mathlib.Data.List.TFAE
import Mathlib.Data.Prod.Lex
import Mathlib.Tactic.TFAE

/-!
# `HomeEnergy.Proofs.Rollup.Naming`: a week and its names

A week is named three times over: by its Monday, by the year and the number that its Thursday
gives it, and by a text for its id. The year and the number come from one calculation and the
days from another, and the two agree because each follows from the number of the Monday: three
days on lies the one Thursday of the week, and the year that holds it and its place there are
those of `IsIsoWeek`.

* `ofDate?_eq_none_iff_cut`: a date is without a week exactly when the calendar lacks its Monday
  or its Sunday.
* `ofDate?_named`: the days, the year and the number of the week of a date.
* `tfae_same`: two dates have the same week by any of its names, or by where one of them lies.
* `toLex_key_lt_iff`: years and numbers are in the order of the Mondays.
-/

set_option autoImplicit false

namespace HomeEnergy.Week

open HomeEnergy.Calendar

/-- The Monday on which the week of a date begins. -/
def IsMondayOf (monday d : Date) : Prop :=
  monday.weekday = 0 ∧ monday ≤ d ∧ d.dayNumber ≤ monday.dayNumber + 6

/-- The Sunday on which the week of a date ends. -/
def IsSundayOf (sunday d : Date) : Prop :=
  sunday.weekday = 6 ∧ d ≤ sunday ∧ sunday.dayNumber ≤ d.dayNumber + 6

/-- The week has the days around a date, and is named by its Thursday:

- `monday`, `finish`: it begins on a Monday and ends six days later;
- `begun`, `ends`: the date lies in it;
- `thursday`: its year is that of its Thursday, and its number is the place of the Thursday in
  that year, in weeks, rounded up. -/
structure Named (d : Date) (w : Week) : Prop where
  monday : w.start.weekday = 0
  finish : w.start.addDays? 6 = some w.finish
  begun : w.start ≤ d
  ends : d ≤ w.finish
  thursday : ∃ t, w.start.addDays? 3 = some t ∧ w.isoYear = t.year ∧
    w.number = (t.dayOfYear + 6) / 7

variable {d e : Date} {v w : Week}

/-! ### The ends of a week -/

/-- The Monday of a date is the day with the number `mondayNumber`. -/
theorem isMondayOf_iff {monday : Date} :
    IsMondayOf monday d ↔ monday.dayNumber = d.mondayNumber := by
  have hmod := d.mondayNumber_mod
  have hbounds := d.mondayNumber_bounds
  show monday.weekday = 0 ∧ monday.dayNumber ≤ d.dayNumber ∧ _ ↔ _
  unfold Date.weekday
  omega

/-- The Sunday of a date is six days after its Monday. -/
theorem isSundayOf_iff {sunday : Date} :
    IsSundayOf sunday d ↔ sunday.dayNumber = d.mondayNumber + 6 := by
  have hmod := d.mondayNumber_mod
  have hbounds := d.mondayNumber_bounds
  show sunday.weekday = 6 ∧ d.dayNumber ≤ sunday.dayNumber ∧ _ ↔ _
  unfold Date.weekday
  omega

/-- The calendar has a Monday and a Sunday for the week exactly when it has the week. -/
theorem ofDate?_isSome_iff_ends :
    (ofDate? d).isSome ↔ (∃ m, IsMondayOf m d) ∧ ∃ s, IsSundayOf s d := by
  simp only [isMondayOf_iff, isSundayOf_iff]
  constructor
  · intro h
    obtain ⟨w, hw⟩ := Option.isSome_iff_exists.mp h
    obtain ⟨-, hstart, hfinish⟩ := ofDate?_eq_some_iff.mp hw
    exact ⟨⟨w.start, hstart⟩, w.finish, hfinish⟩
  · rintro ⟨⟨m, hm⟩, s, hs⟩
    have hw : ofDate? d = some ⟨d.isoWeek.1, d.isoWeek.2, m, s⟩ :=
      ofDate?_eq_some_iff.mpr ⟨rfl, hm, hs⟩
    rw [hw]
    rfl

/-- A date has no week if and only if the calendar ends within it. -/
theorem ofDate?_eq_none_iff_cut :
    ofDate? d = none ↔ (¬ ∃ m, IsMondayOf m d) ∨ ¬ ∃ s, IsSundayOf s d := by
  rw [← Option.not_isSome_iff_eq_none, ofDate?_isSome_iff_ends, not_and_or]

/-! ### The Thursday of a week -/

/-- A day that is taken for a Thursday gives its week its own year, and for a number its place
there, in weeks. -/
theorem isIsoWeek_thursday {t : Date} : IsIsoWeek (t.year, (t.dayOfYear + 6) / 7) t.dayNumber := by
  obtain ⟨hbegun, hends⟩ := t.mem_year
  have hnumber := t.dayNumber_eq
  have hpos := t.dayOfYear_pos
  refine ⟨hbegun, hends, ?_⟩
  show (((t.dayOfYear + 6) / 7 : Nat) : Int) = (t.dayNumber - firstDay t.year) / 7 + 1
  omega

/-- Between a Monday and a Sunday of the calendar there is a Thursday. -/
theorem exists_thursday (h : ofDate? d = some w) :
    ∃ t : Date, t.dayNumber = d.mondayNumber + 3 := by
  obtain ⟨hfirst, hlast⟩ := ofDate?_isSome_iff.mp (Option.isSome_of_eq_some h)
  exact Date.exists_dayNumber_eq (by omega) (by omega)

/-- The week of a date has the days around it and is `Named` by its Thursday. -/
theorem ofDate?_named (h : ofDate? d = some w) : Named d w := by
  obtain ⟨hkey, hstart, hfinish⟩ := ofDate?_eq_some_iff.mp h
  obtain ⟨hmonday, hbegun, -⟩ := isMondayOf_iff.mpr hstart
  obtain ⟨-, hends, -⟩ := isSundayOf_iff.mpr hfinish
  obtain ⟨t, ht⟩ := exists_thursday h
  -- The pair of the date and the pair of the Thursday name the week of one Thursday.
  have hweek : (w.isoYear, w.number) = (t.year, (t.dayOfYear + 6) / 7) := by
    have hthursday := isIsoWeek_thursday (t := t)
    rw [ht] at hthursday
    exact hkey.trans (d.isIsoWeek_isoWeek.unique hthursday)
  constructor
  case monday => exact hmonday
  case finish => exact Date.addDays?_eq_some_iff.mpr (by rw [hstart, hfinish])
  case begun => exact hbegun
  case ends => exact hends
  case thursday =>
    exact ⟨t, Date.addDays?_eq_some_iff.mpr (by rw [hstart, ht]), congrArg Prod.fst hweek,
      congrArg Prod.snd hweek⟩

/-! ### Two dates -/

/-- Two dates have the same week as soon as any one thing about their weeks is the same. -/
theorem tfae_same (hv : ofDate? d = some v) (hw : ofDate? e = some w) :
    List.TFAE [v.key = w.key, v.start = w.start, (v.start, v.finish) = (w.start, w.finish),
      v.id = w.id, w.contains d = true] := by
  -- The key, the Monday and the id each tell the whole week; the rest follows from the week.
  tfae_have 1 → 3 := fun h => by rw [(key_eq_iff hv hw).mp h]
  tfae_have 3 → 2 := congrArg Prod.fst
  tfae_have 2 → 5 := by
    intro h
    obtain ⟨-, hstart, -⟩ := ofDate?_eq_some_iff.mp hv
    obtain ⟨-, hstart', -⟩ := ofDate?_eq_some_iff.mp hw
    rw [contains_iff hw, ← hstart, ← hstart', h]
  tfae_have 5 → 4 := by
    intro h
    rw [contains_iff_ofDate? ⟨e, hw⟩, hv] at h
    rw [Option.some.inj h]
  tfae_have 4 → 1 := fun h => by rw [(id_eq_iff ⟨d, hv⟩ ⟨e, hw⟩).mp h]
  tfae_finish

/-- The order of keys, by year and number, is that of the days on which the weeks begin. -/
theorem toLex_key_lt_iff (hv : ofDate? d = some v) (hw : ofDate? e = some w) :
    toLex v.key < toLex w.key ↔ v.start < w.start := by
  rw [← keyBefore_iff hv hw, Prod.Lex.toLex_lt_toLex]
  simp [keyBefore]

/-- A date has no week exactly when the calendar lacks its Monday or its Sunday. Otherwise the
week is the seven days around the date, named by its Thursday; and whether two dates have the
same week, or which week is earlier, is told alike by all that a week has. -/
theorem ofDate?_spec :
    (∀ d, ofDate? d = none ↔ (¬ ∃ m, IsMondayOf m d) ∨ ¬ ∃ s, IsSundayOf s d) ∧
      (∀ d w, ofDate? d = some w → Named d w) ∧
      ∀ d e v w, ofDate? d = some v → ofDate? e = some w →
        List.TFAE [v.key = w.key, v.start = w.start, (v.start, v.finish) = (w.start, w.finish),
          v.id = w.id, w.contains d = true] ∧
        (toLex v.key < toLex w.key ↔ v.start < w.start) :=
  ⟨fun _ => ofDate?_eq_none_iff_cut, fun _ _ h => ofDate?_named h,
    fun _ _ _ _ hv hw => ⟨tfae_same hv hw, toLex_key_lt_iff hv hw⟩⟩

/-- The last week of 2020, which has 53 of them. It ends in the new year. -/
def lastOf2020 : Week := ⟨2020, 53, ⟨2020, 12, 28, by decide⟩, ⟨2021, 1, 3, by decide⟩⟩

/-- New Year's Day of 2021 lies in the last week of 2020, as the day before does. -/
theorem ofDate?_spec_lastOf2020 :
    Named ⟨2020, 12, 31, by decide⟩ lastOf2020 ∧ Named ⟨2021, 1, 1, by decide⟩ lastOf2020 ∧
      lastOf2020.contains ⟨2020, 12, 31, by decide⟩ = true := by
  obtain ⟨-, hnamed, htwo⟩ := ofDate?_spec
  have hold : ofDate? ⟨2020, 12, 31, by decide⟩ = some lastOf2020 := by decide
  have hnew : ofDate? ⟨2021, 1, 1, by decide⟩ = some lastOf2020 := by decide
  obtain ⟨hsame, -⟩ := htwo _ _ _ _ hold hnew
  exact ⟨hnamed _ _ hold, hnamed _ _ hnew, (hsame.out 0 4).mp rfl⟩

end HomeEnergy.Week
