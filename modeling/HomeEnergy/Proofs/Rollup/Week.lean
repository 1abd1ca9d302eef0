import HomeEnergy.Proofs.Calendar.IsoWeek
import HomeEnergy.Proofs.Data.Grouping
import HomeEnergy.Rollup.Week
import Mathlib.Data.List.Sort

/-!
# `HomeEnergy.Proofs.Rollup.Week`: three ways to the same weeks

Weeks reach the screens in three ways. `Week.groups?` files records under the year and number
of their week and takes the week from the earliest record of each group, `Week.distinct?`
drops repeated pairs and sorts by Monday, and `Week.records` looks for the dates between a
Monday and a Sunday. All three turn on the Monday of a date: `ofDate?_eq_some_iff` says that a
week is the pair of its dates with the days from their Monday, and by `Date.isoWeek_eq_iff` the
pair and the Monday determine each other.

`groups?_partition` puts this together: the groups of some records stand under the weeks of
their dates, in order, each holds what its week holds, and together they are the records.
-/

set_option autoImplicit false

namespace HomeEnergy.Week

open HomeEnergy.Calendar HomeEnergy.Data

/-! ### The week of a date -/

section Dates

variable {d e : Date} {v w : Week}

/-- The week of a date has the ISO year and number of the date, its Monday and its Sunday, and a
week that has these is the date's. -/
theorem ofDate?_eq_some_iff :
    ofDate? d = some w ↔ w.key = d.isoWeek ∧ w.start.dayNumber = d.mondayNumber ∧
      w.finish.dayNumber = d.mondayNumber + 6 := by
  have hmonday : ∀ s : Date, d.monday? = some s ↔ s.dayNumber = d.mondayNumber :=
    fun s => Date.addDays?_eq_some_iff
  have hsunday : ∀ s f : Date, s.addDays? 6 = some f ↔ f.dayNumber = s.dayNumber + 6 :=
    fun s f => Date.addDays?_eq_some_iff
  constructor
  · intro h
    -- The Monday and the Sunday both have to be in the calendar.
    obtain ⟨start, hstart, h⟩ := Option.bind_eq_some_iff.mp h
    obtain ⟨finish, hfinish, h⟩ := Option.bind_eq_some_iff.mp h
    cases h
    have hs := (hmonday start).mp hstart
    have hf := (hsunday start finish).mp hfinish
    exact ⟨rfl, hs, by rw [← hs]; exact hf⟩
  · rintro ⟨hkey, hs, hf⟩
    have hstart := (hmonday w.start).mpr hs
    have hfinish := (hsunday w.start w.finish).mpr (by rw [hs]; exact hf)
    simp [ofDate?, hstart, hfinish, ← hkey, key]

/-- A week holds the dates that have its Monday. -/
theorem contains_iff (h : ofDate? d = some w) :
    w.contains e = true ↔ e.mondayNumber = d.mondayNumber := by
  obtain ⟨-, hs, hf⟩ := ofDate?_eq_some_iff.mp h
  rw [e.mondayNumber_eq_iff d.mondayNumber_mod, ← hf, ← hs]
  simp only [contains, Bool.and_eq_true, decide_eq_true_eq]
  exact Iff.rfl

/-- The dates of one week have the same week. -/
theorem ofDate?_congr (h : d.mondayNumber = e.mondayNumber) : ofDate? d = ofDate? e := by
  apply Option.ext
  intro w
  rw [ofDate?_eq_some_iff, ofDate?_eq_some_iff, h, Date.isoWeek_eq_iff.mpr h]

/-- A key stands for one week: an ISO year and a number tell the Monday. -/
theorem key_eq_iff (hv : ofDate? d = some v) (hw : ofDate? e = some w) :
    v.key = w.key ↔ v = w := by
  constructor
  · intro h
    rw [(ofDate?_eq_some_iff.mp hv).1, (ofDate?_eq_some_iff.mp hw).1] at h
    rw [ofDate?_congr (Date.isoWeek_eq_iff.mp h), hw] at hv
    exact (Option.some.inj hv).symm
  · rintro rfl
    rfl

/-- The order of keys is that of the Mondays. -/
theorem keyBefore_isoWeek :
    keyBefore d.isoWeek e.isoWeek = true ↔ d.mondayNumber < e.mondayNumber := by
  rw [← Date.isoWeek_lt_iff]
  simp [keyBefore]

/-- Earlier keys stand for earlier Mondays. -/
theorem keyBefore_iff (hv : ofDate? d = some v) (hw : ofDate? e = some w) :
    keyBefore v.key w.key = true ↔ v.start < w.start := by
  obtain ⟨hvkey, hvstart, -⟩ := ofDate?_eq_some_iff.mp hv
  obtain ⟨hwkey, hwstart, -⟩ := ofDate?_eq_some_iff.mp hw
  rw [hvkey, hwkey, keyBefore_isoWeek, ← hvstart, ← hwstart]
  exact Iff.rfl

/-- Of two weeks the earlier one is over when the later one begins. -/
theorem not_both_contain (hv : ofDate? d = some v) (hw : ofDate? e = some w)
    (h : v.start < w.start) (x : Date) : ¬ (v.contains x = true ∧ w.contains x = true) := by
  rintro ⟨hxv, hxw⟩
  have hmonday := ((contains_iff hv).mp hxv).symm.trans ((contains_iff hw).mp hxw)
  obtain ⟨-, hvstart, -⟩ := ofDate?_eq_some_iff.mp hv
  obtain ⟨-, hwstart, -⟩ := ofDate?_eq_some_iff.mp hw
  have hlt : v.start.dayNumber < w.start.dayNumber := h
  omega

instance : Std.Asymm fun v w : Week => v.start < w.start where
  asymm v w h := by
    have hlt : v.start.dayNumber < w.start.dayNumber := h
    intro (hgt : w.start.dayNumber < v.start.dayNumber)
    omega

end Dates

/-! ### Lists of weeks -/

/-- What is the first of its key is one of the weeks. -/
theorem mem_of_mem_firstOfEach {v : Week} {weeks : List Week} (h : v ∈ firstOfEach weeks) :
    v ∈ weeks := by
  induction weeks with
  | nil => exact h
  | cons w rest ih =>
    rcases List.mem_cons.mp h with rfl | h
    · exact List.mem_cons_self
    · exact List.mem_cons_of_mem w (ih (List.mem_filter.mp h).1)

/-- No two of the first weeks have the same key. -/
theorem firstOfEach_pairwise (weeks : List Week) :
    (firstOfEach weeks).Pairwise fun v w => v.key ≠ w.key := by
  induction weeks with
  | nil => exact List.Pairwise.nil
  | cons w rest ih =>
    refine List.pairwise_cons.mpr ⟨?_, ih.filter _⟩
    intro v hv
    exact (of_decide_eq_true (List.mem_filter.mp hv).2).symm

/-- Each key has a first week. -/
theorem exists_mem_firstOfEach {w : Week} {weeks : List Week} (h : w ∈ weeks) :
    ∃ v ∈ firstOfEach weeks, v.key = w.key := by
  induction weeks with
  | nil => exact absurd h List.not_mem_nil
  | cons u rest ih =>
    by_cases hkey : u.key = w.key
    · exact ⟨u, List.mem_cons_self, hkey⟩
    · rcases List.mem_cons.mp h with rfl | h
      · exact absurd rfl hkey
      · obtain ⟨v, hv, hvw⟩ := ih h
        have hne : v.key ≠ u.key := fun heq => hkey (heq.symm.trans hvw)
        exact ⟨v, List.mem_cons_of_mem u (List.mem_filter.mpr ⟨hv, decide_eq_true hne⟩), hvw⟩

/-- The weeks of some dates: those that a date has, strictly ascending. -/
theorem distinct?_spec {dates : List Date} (h : ∀ d ∈ dates, (ofDate? d).isSome) :
    ∃ weeks, distinct? dates = some weeks ∧ (weeks.Pairwise fun v w => v.start < w.start) ∧
      ∀ w, w ∈ weeks ↔ ∃ d ∈ dates, ofDate? d = some w := by
  obtain ⟨all, hall, hmap⟩ := mapM_some h
  have hmem : ∀ w, w ∈ all ↔ ∃ d ∈ dates, ofDate? d = some w := by
    intro w
    have hw : w ∈ all ↔ some w ∈ all.map some := by simp
    rw [hw, ← hmap, List.mem_map]
  refine ⟨_, by rw [distinct?, hall]; rfl, ?_, ?_⟩
  · -- Sorted by Monday, and no Monday twice since no key is.
    have hle := List.pairwise_mergeSort (Date.decide_le_trans Week.start)
      (Date.decide_le_total Week.start) (firstOfEach all)
    have hne : ((firstOfEach all).mergeSort fun a b => decide (a.start ≤ b.start)).Pairwise
        fun v w => v.key ≠ w.key :=
      (firstOfEach_pairwise all).perm (List.mergeSort_perm _ _).symm fun hvw => hvw.symm
    refine (hle.and hne).imp_of_mem ?_
    rintro v w hv hw ⟨hle, hne⟩
    rw [List.mem_mergeSort] at hv hw
    obtain ⟨d, -, hd⟩ := (hmem v).mp (mem_of_mem_firstOfEach hv)
    obtain ⟨e, -, he⟩ := (hmem w).mp (mem_of_mem_firstOfEach hw)
    have hle' : v.start.dayNumber ≤ w.start.dayNumber := of_decide_eq_true hle
    show v.start.dayNumber < w.start.dayNumber
    refine Int.lt_iff_le_and_ne.mpr ⟨hle', fun heq => hne ?_⟩
    -- With one Monday the two would be one week.
    obtain ⟨hvkey, hvstart, -⟩ := ofDate?_eq_some_iff.mp hd
    obtain ⟨hwkey, hwstart, -⟩ := ofDate?_eq_some_iff.mp he
    rw [hvkey, hwkey]
    exact Date.isoWeek_eq_iff.mpr (by omega)
  · intro w
    rw [List.mem_mergeSort, ← hmem]
    constructor
    · exact mem_of_mem_firstOfEach
    · intro hw
      obtain ⟨v, hv, hkey⟩ := exists_mem_firstOfEach hw
      obtain ⟨d, -, hd⟩ := (hmem v).mp (mem_of_mem_firstOfEach hv)
      obtain ⟨e, -, he⟩ := (hmem w).mp hw
      rw [← (key_eq_iff hd he).mp hkey]
      exact hv

/-! ### Records in a week -/

variable {α : Type} [Metered α]

/-- Sorting by date adds no record and drops none. -/
theorem byDate_perm (records : List α) : (byDate records).Perm records :=
  List.mergeSort_perm _ _

/-- Records that are sorted by date ascend. -/
theorem byDate_pairwise (records : List α) :
    (byDate records).Pairwise fun a b => Metered.date a ≤ Metered.date b :=
  (List.pairwise_mergeSort (Date.decide_le_trans Metered.date)
    (Date.decide_le_total Metered.date) records).imp of_decide_eq_true

/-- Records of one day stay in their order. -/
theorem filter_byDate (records : List α) (d : Date) :
    ((byDate records).filter fun r => Metered.date r = d)
      = records.filter fun r => Metered.date r = d := by
  refine filter_mergeSort records (Date.decide_le_trans Metered.date)
    (Date.decide_le_total Metered.date) fun a b ha hb => ?_
  rw [of_decide_eq_true ha, of_decide_eq_true hb]
  exact decide_eq_true (Int.le_refl _)

/-- Dates of one week have its pair. -/
theorem membersOf_eq {d : Date} {w : Week} (hw : ofDate? d = some w) (all : List α) :
    membersOf all d.isoWeek = w.records all := by
  have hiff : ∀ r ∈ all, decide ((Metered.date r).isoWeek = d.isoWeek)
      = w.contains (Metered.date r) := by
    intro r _
    rw [Bool.eq_iff_iff, decide_eq_true_eq, contains_iff hw]
    exact Date.isoWeek_eq_iff
  rw [membersOf, records, List.filter_congr hiff]

/-! ### Groups -/

/-- Of two different keys one is before the other. -/
theorem keyBefore_of_not {a b : Int × Nat} (h : ¬ keyBefore a b = true) (hne : a ≠ b) :
    keyBefore b a = true := by
  simp only [keyBefore, Bool.or_eq_true, Bool.and_eq_true, decide_eq_true_eq, beq_iff_eq] at h ⊢
  have hsplit : a.1 = b.1 → a.2 ≠ b.2 := fun h1 h2 => hne (Prod.ext h1 h2)
  omega

/-- The order of keys is transitive. -/
theorem keyBefore_trans {a b c : Int × Nat} (hab : keyBefore a b = true)
    (hbc : keyBefore b c = true) : keyBefore a c = true := by
  simp only [keyBefore, Bool.or_eq_true, Bool.and_eq_true, decide_eq_true_eq, beq_iff_eq] at *
  omega

/-- No key is before itself. -/
theorem keyBefore_irrefl (a : Int × Nat) : ¬ keyBefore a a = true := by
  simp [keyBefore]

/-- A key that is inserted is there, with those that were. -/
theorem mem_insertKey {k key : Int × Nat} {keys : List (Int × Nat)} :
    k ∈ insertKey key keys ↔ k = key ∨ k ∈ keys := by
  induction keys with
  | nil => simp [insertKey]
  | cons l rest ih =>
    unfold insertKey
    split
    · rw [List.mem_cons, ih, List.mem_cons]
      exact or_left_comm
    · split
      · rename_i heq
        subst heq
        simp
      · exact List.mem_cons

/-- Inserting a key keeps the keys strictly ascending. By induction on the keys, along the three
cases of `insertKey`: behind the first key, equal to it, or before it. -/
theorem insertKey_pairwise (key : Int × Nat) {keys : List (Int × Nat)}
    (h : keys.Pairwise (keyBefore · ·)) : (insertKey key keys).Pairwise (keyBefore · ·) := by
  induction keys with
  | nil => exact List.pairwise_singleton _ _
  | cons l rest ih =>
    obtain ⟨hl, hrest⟩ := List.pairwise_cons.mp h
    unfold insertKey
    split
    · rename_i hbefore
      refine List.pairwise_cons.mpr ⟨fun k hk => ?_, ih hrest⟩
      -- The key goes further behind, and what is in front of it stays there.
      rcases mem_insertKey.mp hk with rfl | hk
      · exact hbefore
      · exact hl k hk
    · split
      · exact h
      · -- The order is total: the key is not behind and not equal, so it is before.
        rename_i hnot hne
        have hkey : keyBefore key l = true := keyBefore_of_not hnot hne
        refine List.pairwise_cons.mpr ⟨fun k hk => ?_, h⟩
        rcases List.mem_cons.mp hk with rfl | hk
        · exact hkey
        · exact keyBefore_trans hkey (hl k hk)

/-- The keys are those of the records, strictly ascending. The fold is followed from any keys
that ascend already. -/
theorem keysOf_spec (all : List α) :
    (keysOf all).Pairwise (keyBefore · ·) ∧
      ∀ k, k ∈ keysOf all ↔ ∃ r ∈ all, (Metered.date r).isoWeek = k := by
  suffices h : ∀ keys : List (Int × Nat), keys.Pairwise (keyBefore · ·) →
      (all.foldl (fun keys r => insertKey (Metered.date r).isoWeek keys) keys).Pairwise
          (keyBefore · ·) ∧
        ∀ k, k ∈ all.foldl (fun keys r => insertKey (Metered.date r).isoWeek keys) keys ↔
          k ∈ keys ∨ ∃ r ∈ all, (Metered.date r).isoWeek = k by
    have hnil := h [] List.Pairwise.nil
    simpa [keysOf] using hnil
  induction all with
  | nil => exact fun keys hkeys => ⟨hkeys, by simp⟩
  | cons r rest ih =>
    -- A key is there from before, from this record, or from a later one.
    intro keys hkeys
    obtain ⟨hpairwise, hmem⟩ := ih _ (insertKey_pairwise (Metered.date r).isoWeek hkeys)
    refine ⟨hpairwise, fun k => ?_⟩
    rw [List.foldl_cons, hmem k, mem_insertKey]
    constructor
    · rintro ((rfl | hk) | ⟨q, hq, hqk⟩)
      · exact Or.inr ⟨r, List.mem_cons_self, rfl⟩
      · exact Or.inl hk
      · exact Or.inr ⟨q, List.mem_cons_of_mem r hq, hqk⟩
    · rintro (hk | ⟨q, hq, hqk⟩)
      · exact Or.inl (Or.inr hk)
      · rcases List.mem_cons.mp hq with rfl | hq
        · exact Or.inl (Or.inl hqk.symm)
        · exact Or.inr ⟨q, hq, hqk⟩

/-- No key is there twice. -/
theorem keysOf_nodup (all : List α) : (keysOf all).Nodup := by
  refine (keysOf_spec all).1.imp ?_
  rintro a b hbefore rfl
  exact keyBefore_irrefl a hbefore

/-- The group under the key of a record: its week is the record's, also when it is read off
another record of the week. -/
theorem group?_membersOf {all : List α} {r : α} {w : Week} (hr : r ∈ all)
    (hw : ofDate? (Metered.date r) = some w) :
    group? (membersOf all (Metered.date r).isoWeek)
      = some ⟨w, w.records all, Totals.sum (w.records all)⟩ := by
  rw [membersOf_eq hw]
  have hmem : ∀ q, q ∈ w.records all ↔ q ∈ all ∧ w.contains (Metered.date q) = true := by
    intro q
    rw [records, (byDate_perm _).mem_iff, List.mem_filter]
  -- The members are the records of the week, among them `r`, so there is an earliest one.
  have hself : r ∈ w.records all := (hmem r).mpr ⟨hr, (contains_iff hw).mpr rfl⟩
  cases hlist : w.records all with
  | nil =>
    rw [hlist] at hself
    exact absurd hself List.not_mem_nil
  | cons earliest rest =>
    have hearliest : earliest ∈ w.records all := by
      rw [hlist]
      exact List.mem_cons_self
    -- It lies in the same week, which it names as well as `r` does.
    have hweek : ofDate? (Metered.date earliest) = some w := by
      rw [ofDate?_congr ((contains_iff hw).mp ((hmem earliest).mp hearliest).2), hw]
    simp [group?, hweek]

/-- Some groups are the records `all`, parted by week:

- `week`: every group stands under the week of one of the records;
- `members`, `totals`: it holds what this week holds of `all`, and the sums over that;
- `nonempty`: no group is empty;
- `byDate`, `inOrder`: its records ascend by date, and those of one day are in the order of
  `all`;
- `ascending`, `disjoint`: the weeks strictly ascend, and no date lies in two of them;
- `perm`, `one`: the groups one after the other are a permutation of `all`, so that each
  record is in one group and as often as in `all`. -/
structure Partition (all : List α) (groups : List (Group α)) : Prop where
  week : ∀ g ∈ groups, ∃ r ∈ all, ofDate? (Metered.date r) = some g.week
  members : ∀ g ∈ groups, g.members = g.week.records all
  totals : ∀ g ∈ groups, g.totals = Totals.sum g.members
  nonempty : ∀ g ∈ groups, g.members ≠ []
  byDate : ∀ g ∈ groups, g.members.Pairwise fun a b => Metered.date a ≤ Metered.date b
  inOrder : ∀ g ∈ groups, ∀ d, g.week.contains d = true →
    (g.members.filter fun r => Metered.date r = d) = all.filter fun r => Metered.date r = d
  ascending : (groups.map Group.week).Pairwise fun v w => v.start < w.start
  disjoint : (groups.map Group.week).Pairwise fun v w =>
    ∀ d, ¬ (v.contains d = true ∧ w.contains d = true)
  perm : (groups.flatMap Group.members).Perm all
  one : ∀ r ∈ all, ∃ g ∈ groups, r ∈ g.members ∧ ∀ k ∈ groups, r ∈ k.members → k = g

/-- The records of one day that lies in the week, in the order given. -/
theorem filter_records (w : Week) (all : List α) {d : Date} (hd : w.contains d = true) :
    ((w.records all).filter fun r => Metered.date r = d)
      = all.filter fun r => Metered.date r = d := by
  rw [records, filter_byDate, List.filter_filter]
  refine List.filter_congr fun r _ => ?_
  by_cases hr : Metered.date r = d
  · simp [hr, hd]
  · simp [hr]

/-- Groups as they are made, key by key:

- `each`: each is the group of a record's week;
- `keys`, `members`: it stands under its key, and holds what the key finds. -/
structure Filed (all : List α) (groups : List (Group α)) : Prop where
  each : ∀ g ∈ groups, ∃ r ∈ all, ofDate? (Metered.date r) = some g.week ∧
    g = ⟨g.week, g.week.records all, Totals.sum (g.week.records all)⟩
  keys : groups.map (fun g => g.week.key) = keysOf all
  members : groups.map Group.members = (keysOf all).map (membersOf all)

/-- Where every record has a week, the groups can be made, and are `Filed` under their keys. -/
theorem groups?_filed {all : List α} (h : ∀ r ∈ all, (ofDate? (Metered.date r)).isSome) :
    ∃ groups, groups? all = some groups ∧ Filed all groups := by
  have hgroup : ∀ key ∈ keysOf all, ∃ r ∈ all, ∃ w, (Metered.date r).isoWeek = key ∧
      ofDate? (Metered.date r) = some w ∧
      group? (membersOf all key) = some ⟨w, w.records all, Totals.sum (w.records all)⟩ := by
    intro key hkey
    obtain ⟨r, hr, rfl⟩ := ((keysOf_spec all).2 key).mp hkey
    obtain ⟨w, hw⟩ := Option.isSome_iff_exists.mp (h r hr)
    exact ⟨r, hr, w, rfl, hw, group?_membersOf hr hw⟩
  have hdefined : ∀ key ∈ keysOf all, (group? (membersOf all key)).isSome := by
    intro key hkey
    obtain ⟨_, _, _, _, _, hg⟩ := hgroup key hkey
    rw [hg]
    rfl
  obtain ⟨groups, hgroups, hmap⟩ := mapM_some hdefined
  refine ⟨groups, hgroups, ?_, ?_, ?_⟩
  · -- A group is what its key was mapped to.
    intro g hg
    have hsome : some g ∈ (keysOf all).map fun key => group? (membersOf all key) := by
      rw [hmap]
      exact List.mem_map_of_mem hg
    obtain ⟨key, hkey, hkg⟩ := List.mem_map.mp hsome
    obtain ⟨r, hr, w, -, hw, hgroup⟩ := hgroup key hkey
    cases Option.some.inj (hkg.symm.trans hgroup)
    exact ⟨r, hr, hw, rfl⟩
  · rw [map_of_mapM_some hmap (k := fun key => key), List.map_id']
    intro key hkey
    obtain ⟨r, -, w, hkey, hw, hg⟩ := hgroup key hkey
    rw [hg, ← hkey]
    exact congrArg some (ofDate?_eq_some_iff.mp hw).1
  · refine map_of_mapM_some hmap fun key hkey => ?_
    obtain ⟨r, -, w, hkey, hw, hg⟩ := hgroup key hkey
    rw [hg, ← hkey, membersOf_eq hw]
    rfl

namespace Filed

variable {all : List α} {groups : List (Group α)} {g k : Group α} {r : α}

/-- A group holds what its week holds of the records. -/
theorem members_eq (hf : Filed all groups) (hg : g ∈ groups) :
    g.members = g.week.records all := by
  obtain ⟨-, -, -, heq⟩ := hf.each g hg
  rw [heq]

/-- A record is in the group of the week in which it lies. -/
theorem mem_members_iff (hf : Filed all groups) (hg : g ∈ groups) (hr : r ∈ all) :
    r ∈ g.members ↔ g.week.contains (Metered.date r) = true := by
  rw [hf.members_eq hg, records, (byDate_perm _).mem_iff, List.mem_filter]
  exact and_iff_right hr

/-- The keys ascend, and with them the weeks. -/
theorem ascending (hf : Filed all groups) :
    (groups.map Group.week).Pairwise fun v w => v.start < w.start := by
  have hpairwise := (keysOf_spec all).1
  rw [← hf.keys, List.pairwise_map] at hpairwise
  refine List.pairwise_map.mpr (hpairwise.imp_of_mem ?_)
  intro g k hg hk hbefore
  obtain ⟨r, -, hr, -⟩ := hf.each g hg
  obtain ⟨q, -, hq, -⟩ := hf.each k hk
  exact (keyBefore_iff hr hq).mp hbefore

/-- The group of a record stands under its week. -/
theorem exists_group (hf : Filed all groups) (hr : r ∈ all) {w : Week}
    (hw : ofDate? (Metered.date r) = some w) : ∃ g ∈ groups, g.week = w := by
  have hkey : (Metered.date r).isoWeek ∈ keysOf all := ((keysOf_spec all).2 _).mpr ⟨r, hr, rfl⟩
  rw [← hf.keys] at hkey
  obtain ⟨g, hg, hgkey⟩ := List.mem_map.mp hkey
  obtain ⟨q, -, hq, -⟩ := hf.each g hg
  have hwkey := (ofDate?_eq_some_iff.mp hw).1
  exact ⟨g, hg, (key_eq_iff hq hw).mp (hgkey.trans hwkey.symm)⟩

/-- Both lists of weeks are strictly ascending, and hold the weeks that some record has. -/
theorem distinct?_eq (hf : Filed all groups)
    (h : ∀ r ∈ all, (ofDate? (Metered.date r)).isSome) :
    distinct? (all.map Metered.date) = some (groups.map Group.week) := by
  have hdates : ∀ d ∈ all.map Metered.date, (ofDate? d).isSome := by
    intro d hd
    obtain ⟨r, hr, rfl⟩ := List.mem_map.mp hd
    exact h r hr
  obtain ⟨weeks, hweeks, hsorted, hmem⟩ := distinct?_spec hdates
  rw [hweeks, hsorted.eq_of_mem_iff hf.ascending]
  intro w
  rw [hmem, List.mem_map]
  constructor
  · rintro ⟨d, hd, hw⟩
    obtain ⟨r, hr, rfl⟩ := List.mem_map.mp hd
    exact hf.exists_group hr hw
  · rintro ⟨g, hg, rfl⟩
    obtain ⟨r, hr, hw, -⟩ := hf.each g hg
    exact ⟨_, List.mem_map_of_mem hr, hw⟩

/-- No group is empty, since the record that it stands under is in it. -/
theorem members_ne_nil (hf : Filed all groups) (hg : g ∈ groups) : g.members ≠ [] := by
  obtain ⟨r, hr, hw, -⟩ := hf.each g hg
  have hmem := (hf.mem_members_iff hg hr).mpr ((contains_iff hw).mpr rfl)
  exact List.ne_nil_of_mem hmem

/-- No date lies in the weeks of two groups. -/
theorem disjoint (hf : Filed all groups) : (groups.map Group.week).Pairwise fun v w =>
    ∀ d, ¬ (v.contains d = true ∧ w.contains d = true) := by
  refine hf.ascending.imp_of_mem ?_
  intro v w hv hw hlt
  obtain ⟨g, hg, rfl⟩ := List.mem_map.mp hv
  obtain ⟨k, hk, rfl⟩ := List.mem_map.mp hw
  obtain ⟨r, -, hr, -⟩ := hf.each g hg
  obtain ⟨q, -, hq, -⟩ := hf.each k hk
  exact not_both_contain hr hq hlt

/-- The groups, one after the other, are the records in another order. -/
theorem perm (hf : Filed all groups) : (groups.flatMap Group.members).Perm all := by
  have hflat : groups.flatMap Group.members = (keysOf all).flatMap (membersOf all) := by
    rw [List.flatMap_def, hf.members, List.flatMap_def]
  rw [hflat]
  -- Sorting under each key changes nothing about which records there are.
  refine List.Perm.trans ?_ (flatMap_filter_perm (fun r : α => (Metered.date r).isoWeek) all
    (keysOf_nodup all) fun r hr => ((keysOf_spec all).2 _).mpr ⟨r, hr, rfl⟩)
  exact List.Perm.flatMap_left _ fun key _ => byDate_perm _

/-- A record tells its week, and the week its group. -/
theorem eq_of_mem (hf : Filed all groups) (hg : g ∈ groups) (hk : k ∈ groups) (hr : r ∈ all)
    (hrg : r ∈ g.members) (hrk : r ∈ k.members) : k = g := by
  obtain ⟨p, -, hp, hgeq⟩ := hf.each g hg
  obtain ⟨q, -, hq, hkeq⟩ := hf.each k hk
  have hpr := (contains_iff hp).mp ((hf.mem_members_iff hg hr).mp hrg)
  have hqr := (contains_iff hq).mp ((hf.mem_members_iff hk hr).mp hrk)
  have hweek : g.week = k.week := by
    rw [ofDate?_congr (hpr.symm.trans hqr), hq] at hp
    exact (Option.some.inj hp).symm
  rw [hkeq, hgeq, hweek]

end Filed

/-- Records whose weeks lie in the calendar: their groups stand under the weeks that the dates
have, in order, and part the records. -/
theorem groups?_partition (all : List α) (h : ∀ r ∈ all, (ofDate? (Metered.date r)).isSome) :
    ∃ groups, groups? all = some groups ∧
      distinct? (all.map Metered.date) = some (groups.map Group.week) ∧ Partition all groups := by
  obtain ⟨groups, hgroups, hf⟩ := groups?_filed h
  refine ⟨groups, hgroups, hf.distinct?_eq h, ?_⟩
  constructor
  case week =>
    intro g hg
    obtain ⟨r, hr, hw, -⟩ := hf.each g hg
    -- A group is that of some record, whose week it has.
    exact ⟨r, hr, hw⟩
  case members => exact fun g hg => hf.members_eq hg
  case totals =>
    intro g hg
    obtain ⟨-, -, -, heq⟩ := hf.each g hg
    rw [heq]
  case nonempty => exact fun g hg => hf.members_ne_nil hg
  case byDate =>
    intro g hg
    rw [hf.members_eq hg]
    exact byDate_pairwise _
  case inOrder =>
    intro g hg d hd
    rw [hf.members_eq hg]
    exact filter_records _ _ hd
  case ascending => exact hf.ascending
  case disjoint => exact hf.disjoint
  case perm => exact hf.perm
  case one =>
    intro r hr
    obtain ⟨w, hw⟩ := Option.isSome_iff_exists.mp (h r hr)
    obtain ⟨g, hg, rfl⟩ := hf.exists_group hr hw
    -- The record lies in the group of its own week, and weeks are disjoint.
    have hrg : r ∈ g.members := (hf.mem_members_iff hg hr).mpr ((contains_iff hw).mpr rfl)
    exact ⟨g, hg, hrg, fun k hk hrk => hf.eq_of_mem hg hk hr hrg hrk⟩

/-- Three days around a new year: the first two are in different weeks of different years, the
last two are the Monday and the Sunday of one week that begins in the old year. -/
def aroundNewYear : List DailyUsage :=
  [⟨"2025-01-05", ⟨2025, 1, 5, by decide⟩, 3, 1⟩, ⟨"2024-12-29", ⟨2024, 12, 29, by decide⟩, 1, 1⟩,
    ⟨"2024-12-30", ⟨2024, 12, 30, by decide⟩, 2, 1⟩]

/-- The first of the three days has a group of its own, in the year before. -/
theorem groups?_aroundNewYear :
    keysOf aroundNewYear = [(2024, 52), (2025, 1)] ∧
      (∀ r ∈ aroundNewYear, (ofDate? (Metered.date r)).isSome) ∧
      ∃ groups, groups? aroundNewYear = some groups ∧
        distinct? (aroundNewYear.map Metered.date) = some (groups.map Group.week) ∧
        Partition aroundNewYear groups :=
  have h : ∀ r ∈ aroundNewYear, (ofDate? (Metered.date r)).isSome := by decide
  ⟨by decide, h, groups?_partition aroundNewYear h⟩

end HomeEnergy.Week
