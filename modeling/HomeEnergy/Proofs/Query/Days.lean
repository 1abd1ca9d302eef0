import HomeEnergy.Proofs.Calendar.Spelling
import HomeEnergy.Proofs.Screen.History
import HomeEnergy.Proofs.Store.Listing

/-!
# `HomeEnergy.Proofs.Query.Days`: how often a day is counted

The days of a user come from documents, and of documents in one collection no two have the same
id. But a day is known by its date, and a date can be spelled in many ways, all of which are read.
So a date is counted once exactly where no two ids spell it.

* `tally_byDate`: what is read of documents whose ids differ, and when each date is there once.
* `unambiguous_of_dayIds`: ids that are the written forms of their dates spell no date twice.
* `dailyUsage_tally`: the same for the days of a user, whatever is stored.
-/

set_option autoImplicit false

namespace HomeEnergy.Query

open HomeEnergy.Calendar HomeEnergy.Rehearsal HomeEnergy.Screen

/-- No date has two records. -/
def Once (records : List DailyUsage) : Prop := (records.map DailyUsage.date).Nodup

/-- No two of the ids spell one date. -/
def Unambiguous (ids : List String) : Prop :=
  ∀ i ∈ ids, ∀ j ∈ ids, ∀ d : Date, d.SpelledAs i → d.SpelledAs j → i = j

/-- The days that are read of documents, and what sums over them count:

- `ascending`: the days are in the order of their dates;
- `perm`: they are what is read of the documents, with nothing added, left out or repeated;
- `once_iff`: no date is there twice exactly when no two of the ids spell one date;
- `month_iff`, `week_iff`: exactly then the sums over every month, or over every week, count each
  date once. -/
structure Tally (ds : List Document) (days : List DailyUsage) : Prop where
  ascending : days.Pairwise fun a b => a.date ≤ b.date
  perm : days.Perm (ds.filterMap DailyUsage.ofDocument?)
  once_iff : Once days ↔ Unambiguous (ds.map Document.id)
  month_iff : (∀ m : Month, Once (m.records days)) ↔ Once days
  week_iff : (∀ w : Week, Once (w.records days)) ↔ Once days

variable {ds : List Document} {days : List DailyUsage}

/-! ### Sums -/

/-- Whether a date is there once does not depend on the order of the records. -/
theorem once_perm {records : List DailyUsage} (h : days.Perm records) :
    Once days ↔ Once records :=
  (h.map DailyUsage.date).nodup_iff

/-- Two records of one date are kept or dropped together. So where every date is kept by some
filter, the filters find what there is to find. -/
theorem once_filter_iff {ι : Type} {keep : ι → Date → Bool}
    (hkeep : ∀ d, ∃ i, keep i d = true) :
    (∀ i, Once (days.filter fun r => keep i r.date)) ↔ Once days := by
  constructor
  · intro h
    refine List.pairwise_map.mpr (List.pairwise_iff_forall_sublist.mpr fun {a b} hab heq => ?_)
    obtain ⟨i, hi⟩ := hkeep a.date
    have hpairs := List.pairwise_filter.mp (List.pairwise_map.mp (h i))
    exact List.pairwise_iff_forall_sublist.mp hpairs hab hi (heq ▸ hi) heq
  · exact fun h i => (List.filter_sublist.map DailyUsage.date).nodup h

/-- Every date lies in its own month, so the months find what there is to find. -/
theorem once_month_iff : (∀ m : Month, Once (m.records days)) ↔ Once days :=
  once_filter_iff fun d => ⟨Month.ofDate d, by simp [Month.contains, Month.ofDate]⟩

/-- Every date lies in a week, of a single day if need be, so the weeks find what there is to
find. -/
theorem once_week_iff : (∀ w : Week, Once (w.records days)) ↔ Once days := by
  -- Sorting the records of a week adds none and drops none.
  have hrecords : ∀ w : Week,
      Once (w.records days) ↔ Once (days.filter fun r => w.contains r.date) := fun w =>
    once_perm (Week.byDate_perm _)
  simp only [hrecords]
  refine once_filter_iff fun d => ⟨⟨d.year, 0, d, d⟩, ?_⟩
  show (decide (d ≤ d) && decide (d ≤ d)) = true
  rw [decide_eq_true (show d ≤ d from Int.le_refl _)]
  rfl

/-! ### Records of documents -/

/-- The id of a document that is read as a day spells the day's date. -/
theorem spelledAs_of_usage {d : Document} {r : DailyUsage}
    (h : DailyUsage.ofDocument? d = some r) : r.date.SpelledAs d.id :=
  Date.ofDayId?_eq_some_iff.mp (ofDayId?_of_usage h)

/-- A document whose id spells a date is read as a day of this date, whatever its fields say. -/
theorem exists_usage {d : Document} {date : Date} (h : date.SpelledAs d.id) :
    ∃ r, DailyUsage.ofDocument? d = some r ∧ r.date = date ∧ r.id = d.id := by
  refine ⟨⟨d.id, date, d.doubleD "total_consumption" 0, d.doubleD "total_cost" 0⟩, ?_, rfl, rfl⟩
  unfold DailyUsage.ofDocument?
  rw [Date.ofDayId?_eq_some_iff.mpr h]
  rfl

/-- Of documents with different ids, each date is read once if and only if no two ids spell it. -/
theorem once_records_iff (hids : (ds.map Document.id).Nodup) :
    Once (ds.filterMap DailyUsage.ofDocument?) ↔ Unambiguous (ds.map Document.id) := by
  constructor
  · intro h i hi j hj date hspelled hspelled'
    obtain ⟨d, hd, rfl⟩ := List.mem_map.mp hi
    obtain ⟨e, he, rfl⟩ := List.mem_map.mp hj
    obtain ⟨r, hr, hdate, hid⟩ := exists_usage hspelled
    obtain ⟨q, hq, hdate', hid'⟩ := exists_usage hspelled'
    -- There is one record of the date, and it has the ids of both documents.
    have hsame := List.inj_on_of_nodup_map h (List.mem_filterMap.mpr ⟨d, hd, hr⟩)
      (List.mem_filterMap.mpr ⟨e, he, hq⟩) (hdate.trans hdate'.symm)
    rw [← hid, hsame, hid']
  · -- Two documents have different ids, so their records cannot have one date.
    intro h
    refine List.pairwise_map.mpr (List.pairwise_filterMap.mpr ?_)
    refine (List.pairwise_map.mp hids).imp_of_mem fun {d e} hd he hne r hr q hq hdate => hne ?_
    exact h _ (List.mem_map_of_mem hd) _ (List.mem_map_of_mem he) r.date (spelledAs_of_usage hr)
      (hdate ▸ spelledAs_of_usage hq)

/-- The records of documents with different ids, sorted by date, are as `Tally` has it. -/
theorem tally_byDate (hids : (ds.map Document.id).Nodup) :
    Tally ds (Week.byDate (ds.filterMap DailyUsage.ofDocument?)) where
  ascending := Week.byDate_pairwise _
  perm := Week.byDate_perm _
  once_iff := (once_perm (Week.byDate_perm _)).trans (once_records_iff hids)
  month_iff := once_month_iff
  week_iff := once_week_iff

/-- Where every id that is read is the written form of its date, the date tells the id. -/
theorem unambiguous_of_dayIds {ids : List String}
    (h : ∀ i ∈ ids, ∀ d, Date.ofDayId? i = some d → i = d.dayId) : Unambiguous ids := by
  intro i hi j hj d hspelled hspelled'
  rw [h i hi d (Date.ofDayId?_eq_some_iff.mpr hspelled),
    h j hj d (Date.ofDayId?_eq_some_iff.mpr hspelled')]

/-! ### The days of a user -/

/-- Unless the documents cannot be listed, the days of a user are those of the documents, in
order, and each date is among them once exactly when no two documents spell it. -/
theorem dailyUsage_tally {w : World} {uid : String}
    (h : w.documentFault? .list (Path.energyDays uid) = none) :
    ∃ days, (dailyUsage documents uid).run.run w = (.ok days, w) ∧
      Tally (w.store.list (Path.energyDays uid)) days := by
  have hlisted : w.listed (Path.energyDays uid) = .ok (w.store.list (Path.energyDays uid)) := by
    unfold World.listed
    rw [h]
  refine ⟨_, ?_, tally_byDate (Documents.ids_nodup w.store.docs _)⟩
  rw [run_dailyUsage, hlisted]
  rfl

/-- One day, stored with padding and without. -/
def twiceWorld : World :=
  signedInWith ada [("users/u1/energy_data/2025-03-05", []), ("users/u1/energy_data/2025-3-5", [])]

/-- Both spellings are listed, as two documents. -/
theorem twiceWorld_ids : ((twiceWorld.store.list (Path.energyDays "u1")).map Document.id)
    = ["2025-03-05", "2025-3-5"] := by
  decide +kernel

/-- The two documents of `twiceWorld` spell one date. -/
theorem twiceWorld_ambiguous :
    ¬ Unambiguous ((twiceWorld.store.list (Path.energyDays "u1")).map Document.id) := by
  rw [twiceWorld_ids]
  intro h
  let date : Date := ⟨2025, 3, 5, by decide⟩
  have hpadded : date.SpelledAs "2025-03-05" := Date.ofDayId?_eq_some_iff.mp (by decide +kernel)
  have hplain : date.SpelledAs "2025-3-5" := Date.ofDayId?_eq_some_iff.mp (by decide +kernel)
  have hsame := h _ (by simp) _ (by simp) date hpadded hplain
  exact absurd hsame (by decide)

/-- The ids of the days that are stored in spring. -/
theorem springWorld_ids : ((springWorld.store.list (Path.energyDays "u1")).map Document.id)
    = ["2025-03-04", "2025-03-16", "2025-04-01"] := by
  decide +kernel

/-- Every day of `springWorld` is stored under its written form, so no date is spelled twice. -/
theorem springWorld_unambiguous :
    Unambiguous ((springWorld.store.list (Path.energyDays "u1")).map Document.id) := by
  rw [springWorld_ids]
  have hall : ["2025-03-04", "2025-03-16", "2025-04-01"].all fun i =>
      (Date.ofDayId? i).all fun d => i == d.dayId := by decide +kernel
  refine unambiguous_of_dayIds fun i hi d hd => ?_
  have hdayId := List.all_eq_true.mp hall i hi
  rw [hd] at hdayId
  exact beq_iff_eq.mp hdayId

/-- In spring each day is stored once, under its written form. -/
theorem dailyUsage_tally_spring :
    (∃ days, (dailyUsage documents "u1").run.run springWorld = (.ok days, springWorld) ∧
      Once days) ∧
    ∃ days, (dailyUsage documents "u1").run.run twiceWorld = (.ok days, twiceWorld) ∧
      ¬ Once days := by
  have hspring : springWorld.documentFault? .list (Path.energyDays "u1") = none := rfl
  have hplain : twiceWorld.documentFault? .list (Path.energyDays "u1") = none := rfl
  obtain ⟨days, hdays, htally⟩ := dailyUsage_tally hspring
  obtain ⟨twice, htwice, htally'⟩ := dailyUsage_tally hplain
  -- The spring has one document a day, the other world two documents of one day.
  have honce : Once days := htally.once_iff.mpr springWorld_unambiguous
  have hnot : ¬ Once twice := fun h => twiceWorld_ambiguous (htally'.once_iff.mp h)
  exact ⟨⟨days, hdays, honce⟩, twice, htwice, hnot⟩

/-- Reading the padded and the plain spelling of one day gives two records of it. -/
theorem dailyUsage_not_once :
    ¬ ∀ (w : World) (uid : String) (days : List DailyUsage),
      (dailyUsage documents uid).run.run w = (.ok days, w) → Once days := by
  intro h
  have honce := h twiceWorld "u1" _ ((run_dailyUsage "u1").trans rfl)
  have hids := Documents.ids_nodup twiceWorld.store.docs (Path.energyDays "u1")
  exact twiceWorld_ambiguous ((tally_byDate hids).once_iff.mp honce)

end HomeEnergy.Query
