import HomeEnergy.Proofs.Calendar.DayId
import HomeEnergy.Proofs.Calendar.Instant
import HomeEnergy.Proofs.Data.Grouping
import HomeEnergy.Proofs.Data.Keyed
import HomeEnergy.Rehearsal.World
import HomeEnergy.Screen.Insights
import Mathlib.Data.List.Induction

/-!
# `HomeEnergy.Proofs.Screen.Suggestions`: a feed of insights, day by day

A snapshot is sorted by moments, and its groups are kept under the ids of days, which are text. In
the years of four digits the two orders are one: an insight that is not newer has no later day, and
an earlier day has the smaller id. So grouping never takes an insight out of its place. It comes to
the front group of those that are there, or to a new one before it.

* `Insight.ofDocument?_eq_some_iff`: which documents are complete.
* `joined_group`: groups of descending days, from the last to the first, are the whole list.
* `apply_arranged`: what the screen holds and shows after a snapshot.
-/

set_option autoImplicit false

namespace HomeEnergy

open HomeEnergy.Calendar HomeEnergy.Data

namespace Insight

/-- The insight is what a complete document holds. Of its suggestions the texts count. -/
structure IsOf (i : Insight) (d : Document) : Prop where
  id : i.id = d.id
  source : d.get? "source" = some (.text i.source)
  suggestions : ∃ items, d.get? "suggestions" = some (.array items) ∧
    i.suggestions = items.filterMap FieldValue.text?
  timestamp : d.timestamp? "timestamp" = some i.timestamp

/-- What `ofDocument?` reads of a document is the insight that it holds, and it reads every one. -/
theorem ofDocument?_eq_some_iff {d : Document} {i : Insight} :
    ofDocument? d = some i ↔ i.IsOf d := by
  -- Texts and arrays are taken as they are. No other value is read as one.
  have htext : ∀ {v : FieldValue} {s : String}, v.text? = some s ↔ v = .text s := by
    intro v s
    cases v <;> simp [FieldValue.text?]
  have harray : ∀ {v : FieldValue} {items}, v.array? = some items ↔ v = .array items := by
    intro v items
    cases v <;> simp [FieldValue.array?]
  unfold ofDocument?
  constructor
  · intro h
    split at h
    · rename_i source items timestamp hsource hitems htimestamp
      obtain ⟨v, hv, hsource⟩ := Option.bind_eq_some_iff.mp hsource
      obtain ⟨u, hu, hitems⟩ := Option.bind_eq_some_iff.mp hitems
      obtain rfl := htext.mp hsource
      obtain rfl := harray.mp hitems
      cases h
      exact ⟨rfl, hv, ⟨items, hu, rfl⟩, htimestamp⟩
    · cases h
  · intro ⟨hid, hsource, ⟨items, hitems, hsuggestions⟩, htimestamp⟩
    simp only [hsource, hitems, htimestamp, Option.bind_some, FieldValue.text?, FieldValue.array?]
    cases i
    simp_all

/-- The id of the day on which it was made, as seen from an offset. -/
def dayId? (offset : Int) (i : Insight) : Option String := (i.day? offset).map Date.dayId

end Insight

/-! ### The order of the feed -/

section Feed

variable (snapshot : Snapshot)

/-- Sorting the insights adds none and drops none. -/
theorem insights_perm : (Query.insights snapshot).Perm
    (snapshot.documents.filterMap Insight.ofDocument?) :=
  List.mergeSort_perm _ _

/-- The insights of a snapshot are those that its documents hold. -/
theorem mem_insights_iff {i : Insight} :
    i ∈ Query.insights snapshot ↔ ∃ d ∈ snapshot.documents, i.IsOf d := by
  rw [(insights_perm snapshot).mem_iff, List.mem_filterMap]
  simp only [Insight.ofDocument?_eq_some_iff]

/-- Not being newer is transitive, as sorting asks for. -/
theorem notNewer_trans (a b c : Insight) (hab : (!a.timestamp.before b.timestamp) = true)
    (hbc : (!b.timestamp.before c.timestamp) = true) :
    (!a.timestamp.before c.timestamp) = true := by
  simp only [Bool.not_eq_true'] at *
  exact Instant.not_before_trans hbc hab

/-- Of two insights one is not newer than the other. -/
theorem notNewer_total (a b : Insight) :
    (!a.timestamp.before b.timestamp || !b.timestamp.before a.timestamp) = true := by
  cases hab : a.timestamp.before b.timestamp with
  | false => rfl
  | true => simp [Instant.not_before_of_before hab]

/-- The insights of a snapshot come with the newest first. -/
theorem insights_newest_first : (Query.insights snapshot).Pairwise fun a b =>
    a.timestamp.before b.timestamp = false := by
  have hsorted := List.pairwise_mergeSort notNewer_trans notNewer_total
    (snapshot.documents.filterMap Insight.ofDocument?)
  exact hsorted.imp fun h => by simpa using h

/-- Insights of one moment stay in the order of their documents. -/
theorem insights_of_moment (t : Instant) :
    ((Query.insights snapshot).filter fun i => i.timestamp = t) =
      (snapshot.documents.filterMap Insight.ofDocument?).filter fun i => i.timestamp = t := by
  refine filter_mergeSort _ notNewer_trans notNewer_total fun a b ha hb => ?_
  rw [of_decide_eq_true ha, of_decide_eq_true hb, Instant.before_irrefl]
  rfl

end Feed

namespace Screen.Insights

/-! ### Groups -/

section Groups

variable (offset : Int) (all : List Insight)

/-- One more insight is put into the groups of the others. -/
theorem group_concat (i : Insight) :
    group offset (all ++ [i]) = place offset (group offset all) i := by
  simp [group]

/-- The groups stand in the order of their keys. -/
theorem group_ascending : (group offset all).Ascending := by
  induction all using List.reverseRecOn with
  | nil => exact List.Pairwise.nil
  | append_singleton all i ih =>
    rw [group_concat]
    exact ih.insert

/-- Under a key stand the insights with this key, if there are any. -/
theorem lookup?_group (key : String) : (group offset all).lookup? key =
    if (all.filter fun i => dayKey offset i = key) = [] then none
    else some (all.filter fun i => dayKey offset i = key) := by
  induction all using List.reverseRecOn with
  | nil => rfl
  | append_singleton all i ih =>
    -- From the end of the list, as `group` puts the insights in place.
    rw [group_concat, place]
    by_cases hkey : key = dayKey offset i
    · subst hkey
      rw [Entries.lookup?_insert_self, ih]
      split
      · simp_all
      · simp
    · rw [Entries.lookup?_insert_of_ne hkey, ih]
      simp [Ne.symm hkey]

/-- A group is there if it has a member, and has all that have its key. -/
theorem mem_group_iff {key : String} {members : List Insight} :
    (key, members) ∈ group offset all ↔
      members ≠ [] ∧ members = all.filter fun i => dayKey offset i = key := by
  rw [← Entries.lookup?_eq_some_iff (group_ascending offset all), lookup?_group]
  split
  · rename_i hnone
    rw [hnone]
    simp
  · rename_i hsome
    constructor
    · intro h
      cases h
      exact ⟨hsome, rfl⟩
    · intro ⟨_, h⟩
      rw [h]

/-- All groups in one list, the last one first. -/
def joined (groups : Entries (List Insight)) : List Insight := groups.reverse.flatMap Prod.snd

/-- An insight with no greater key than those that are there comes to the end of all. -/
theorem joined_place {groups : Entries (List Insight)} {i : Insight} (hkeys : groups.Ascending)
    (hlast : ∀ e ∈ groups, dayKey offset i ≤ e.1) :
    joined (place offset groups i) = joined groups ++ [i] := by
  cases groups with
  | nil => simp [joined, place, Entries.insert, Entries.lookup?]
  | cons e rest =>
    obtain ⟨key, members⟩ := e
    have hle : dayKey offset i ≤ key := hlast _ List.mem_cons_self
    have hnot : ¬ key < dayKey offset i := String.not_lt.mpr hle
    by_cases hkey : key = dayKey offset i
    · simp [joined, place, Entries.insert, Entries.lookup?, hkey]
    · -- The key is before all others, so there is no group to go to.
      have hlt : dayKey offset i < key :=
        Decidable.byContradiction fun h => hkey (String.le_antisymm (String.not_lt.mp h) hle)
      have hnone : Entries.lookup? (dayKey offset i) rest = none :=
        Entries.lookup?_eq_none fun e he =>
          String.lt_trans hlt ((List.pairwise_cons.mp hkeys).1 e he)
      simp [joined, place, Entries.insert, Entries.lookup?, hkey, hnot, hnone]

variable {all} (hdays : all.Pairwise fun a b => dayKey offset b ≤ dayKey offset a)
include hdays

/-- Put together from the last group on, insights whose days descend are again what they were. By
induction from the last insight back: it is of the first day. -/
theorem joined_group : joined (group offset all) = all := by
  induction all using List.reverseRecOn with
  | nil => rfl
  | append_singleton all i ih =>
    obtain ⟨hall, -, hlast⟩ := List.pairwise_append.mp hdays
    rw [group_concat, joined_place offset (group_ascending offset all), ih hall]
    intro ⟨key, members⟩ he
    -- A group has a member, and the new insight comes after it.
    obtain ⟨hne, hmembers⟩ := (mem_group_iff offset all).mp he
    obtain ⟨a, ha⟩ := List.exists_mem_of_ne_nil members hne
    rw [hmembers] at ha
    obtain ⟨hmem, hkey⟩ := List.mem_filter.mp ha
    rw [show key = dayKey offset a from (of_decide_eq_true hkey).symm]
    exact hlast a hmem i List.mem_cons_self

/-- The last group begins with the first of all insights. -/
theorem getLast?_group :
    (group offset all).getLast?.map Prod.fst = all.head?.map (dayKey offset) := by
  have hjoined := joined_group offset hdays
  cases hlast : (group offset all).getLast? with
  | none =>
    rw [List.getLast?_eq_none_iff.mp hlast] at hjoined
    rw [← hjoined]
    rfl
  | some e =>
    obtain ⟨hne, hmembers⟩ := (mem_group_iff offset all).mp (List.mem_of_getLast? hlast)
    -- The last group has a first member, and the groups joined from the last one on are the list.
    obtain ⟨a, members, hcons⟩ := List.exists_cons_of_ne_nil hne
    have hkey : dayKey offset a = e.1 := by
      have ha : a ∈ e.2 := hcons ▸ List.mem_cons_self
      rw [hmembers] at ha
      exact of_decide_eq_true (List.mem_filter.mp ha).2
    have hhead : all.head? = some a := by
      obtain ⟨init, hinit⟩ := List.getLast?_eq_some_iff.mp hlast
      rw [← hjoined, hinit]
      simp [joined, hcons]
    rw [hhead]
    exact congrArg some hkey.symm

end Groups

/-! ### Days -/

/-- The days of insights, as seen from an offset, are days of the years 0 to 9999. -/
def InFourDigitYears (offset : Int) (all : List Insight) : Prop :=
  ∀ i ∈ all, ∃ day, i.day? offset = some day ∧ 0 ≤ day.year ∧ day.year ≤ 9999

section Days

variable {offset : Int} {all : List Insight}

/-- An insight with a day is grouped under the id of this day. -/
theorem dayKey_eq {i : Insight} {day : Date} (h : i.day? offset = some day) :
    dayKey offset i = day.dayId := by
  unfold dayKey
  rw [h]

variable (hyears : InFourDigitYears offset all)
include hyears

/-- The key of an insight whose day is in the calendar is the id of the day. -/
theorem dayId?_eq {i : Insight} (hi : i ∈ all) : i.dayId? offset = some (dayKey offset i) := by
  obtain ⟨day, hday, -⟩ := hyears i hi
  rw [dayKey_eq hday]
  exact congrArg (Option.map Date.dayId) hday

/-- With the newest first the days descend. -/
theorem days_descend (hnewest : all.Pairwise fun a b => a.timestamp.before b.timestamp = false) :
    all.Pairwise fun a b => dayKey offset b ≤ dayKey offset a := by
  -- Not newer means not on a later day, and there the ids are in the order of the days.
  refine hnewest.imp_of_mem fun {a b} ha hb hab => ?_
  obtain ⟨later, hlater, -, hlast⟩ := hyears a ha
  obtain ⟨earlier, hearlier, hfirst, -⟩ := hyears b hb
  rw [dayKey_eq hlater, dayKey_eq hearlier]
  exact Date.dayId_le hfirst hlast (Instant.dayAt?_mono hab hearlier hlater)

end Days

/-! ### The screen -/

/-- The screen holds the insights of documents and shows them by their days. -/
structure Arranged (offset : Int) (documents : List Document) (s : Insights) : Prop where
  complete : s.insights.Perm (documents.filterMap Insight.ofDocument?)
  mem_iff : ∀ i, i ∈ s.insights ↔ ∃ d ∈ documents, i.IsOf d
  newest_first : s.insights.Pairwise fun a b => a.timestamp.before b.timestamp = false
  ties : ∀ t, (s.insights.filter fun i => i.timestamp = t) =
    (documents.filterMap Insight.ofDocument?).filter fun i => i.timestamp = t
  days_ascending : s.grouped.Ascending
  group : ∀ day members, (day, members) ∈ s.grouped →
    members ≠ [] ∧ members = s.insights.filter fun i => i.dayId? offset = some day
  whole : joined s.grouped = s.insights
  selected : s.selected = s.insights.head?.bind (Insight.dayId? offset)
  selected_none_iff : s.selected = none ↔ s.insights = []
  shown : s.shown.head? = s.insights.head?

variable {σ : Type} (notes : NoteService σ) (snapshot : Snapshot) (s : Insights) (w : σ)

/-- Applying a snapshot replaces insights, groups and selection, whatever becomes of the note. -/
theorem apply_eq : ∃ watcher, ((s.apply notes snapshot).run w).1 =
    { s with
      watcher
      insights := Query.insights snapshot
      grouped := group s.offset (Query.insights snapshot)
      selected := (group s.offset (Query.insights snapshot)).getLast?.map Prod.fst } :=
  ⟨_, rfl⟩

/-- The first insight of all is the first one of the last day. -/
theorem head?_shown {all : List Insight} (hinsights : s.insights = all)
    (hgrouped : s.grouped = group s.offset all)
    (hselected : s.selected = all.head?.map (dayKey s.offset)) :
    s.shown.head? = s.insights.head? := by
  rw [shown, hselected, hgrouped, hinsights]
  cases all with
  | nil => rfl
  | cons i rest => simp [lookup?_group]

/-- After a snapshot whose days lie in the years 0 to 9999 the screen holds its complete insights
in order, the groups are the insights of each day, put together from the last day they are all
insights again, and the newest insight is the first one that is shown. -/
theorem apply_arranged (hyears : ∀ d ∈ snapshot.documents, ∀ i : Insight, i.IsOf d →
      ∃ day, i.day? s.offset = some day ∧ 0 ≤ day.year ∧ day.year ≤ 9999) :
    Arranged s.offset snapshot.documents ((s.apply notes snapshot).run w).1 := by
  have hmem : ∀ i, i ∈ Query.insights snapshot ↔ ∃ d ∈ snapshot.documents, i.IsOf d :=
    fun i => mem_insights_iff snapshot
  -- Days with four digits have ids in the order of the days, so the last group is that of the
  -- newest insight.
  have hall : InFourDigitYears s.offset (Query.insights snapshot) := by
    intro i hi
    obtain ⟨d, hd, hof⟩ := (hmem i).mp hi
    exact hyears d hd i hof
  have hnewest := insights_newest_first snapshot
  have hdays := days_descend hall hnewest
  have hselected := getLast?_group s.offset hdays
  obtain ⟨watcher, happly⟩ := s.apply_eq notes snapshot w
  rw [happly]
  refine
    { complete := insights_perm snapshot
      mem_iff := hmem
      newest_first := hnewest
      ties := insights_of_moment snapshot
      days_ascending := group_ascending s.offset _
      group := ?_
      whole := joined_group s.offset hdays
      selected := ?_
      selected_none_iff := ?_
      shown := head?_shown _ rfl rfl hselected }
  · intro day members he
    obtain ⟨hne, hmembers⟩ := (mem_group_iff s.offset _).mp he
    refine ⟨hne, hmembers.trans (List.filter_congr fun i hi => ?_)⟩
    -- The filter by group name is the filter by day, for the insights that there are.
    simp [dayId?_eq hall hi]
  · refine hselected.trans ?_
    cases hhead : (Query.insights snapshot).head? with
    | none => rfl
    | some i => exact (dayId?_eq hall (List.mem_of_head? hhead)).symm
  · show _ = none ↔ Query.insights snapshot = []
    rw [hselected]
    simp

/-! ### A feed over two days -/

/-- Suggestions made in so many seconds since the epoch. -/
def suggested (id : String) (second : Int) : Insight :=
  ⟨id, "model", ["Lower the heater"], ⟨second, 0⟩⟩

/-- A document with them. -/
def document (id : String) (second : Int) : Document :=
  ⟨id, [("source", .text "model"), ("suggestions", .array [.text "Lower the heater"]),
    ("timestamp", .timestamp ⟨second, 0⟩)]⟩

/-- Nine hours east of Greenwich, `c` and `f` are of the first of January 1970, and the others of
the second. Two are of one moment, and `d` has no source. -/
def twoDays : Snapshot :=
  ⟨"users/u1/insights", [document "a" 82800, document "b" 90000, document "c" 3600,
    ⟨"d", [("suggestions", .array []), ("timestamp", .timestamp ⟨100000, 0⟩)]⟩,
    document "e" 90000, document "f" 7200]⟩

/-- Five of the six documents are complete. Those of one moment stay in their order. -/
theorem insights_twoDays : Query.insights twoDays =
    [suggested "b" 90000, suggested "e" 90000, suggested "a" 82800, suggested "f" 7200,
      suggested "c" 3600] := by
  have hread : twoDays.documents.filterMap Insight.ofDocument? =
      [suggested "a" 82800, suggested "b" 90000, suggested "c" 3600, suggested "e" 90000,
        suggested "f" 7200] := rfl
  rw [Query.insights, hread]
  simp [List.mergeSort, List.MergeSort.Internal.splitInTwo, Instant.before, suggested]

/-- The two days have a group each, in which the newest insight comes first. -/
theorem apply_arranged_twoDays :
    let s := (((initial 32400).apply Rehearsal.notes twoDays).run (.empty (fun _ => "") ⟨0, 0⟩)).1
    (∀ d ∈ twoDays.documents, ∀ i : Insight, i.IsOf d →
      ∃ day, i.day? 32400 = some day ∧ 0 ≤ day.year ∧ day.year ≤ 9999) ∧
    Arranged 32400 twoDays.documents s ∧
    s.grouped.map (fun e => (e.1, e.2.map Insight.id)) =
      [("1970-01-01", ["f", "c"]), ("1970-01-02", ["b", "e", "a"])] := by
  intro s
  -- The days are those at the offset, where `a` is of the day after that of Greenwich.
  have hyears : ∀ d ∈ twoDays.documents, ∀ i : Insight, i.IsOf d →
      ∃ day, i.day? 32400 = some day ∧ 0 ≤ day.year ∧ day.year ≤ 9999 := by
    intro d hd i hof
    have hi : i ∈ Query.insights twoDays := (mem_insights_iff twoDays).mpr ⟨d, hd, hof⟩
    rw [insights_twoDays] at hi
    have hdays : ∀ i ∈ [suggested "b" 90000, suggested "e" 90000, suggested "a" 82800,
        suggested "f" 7200, suggested "c" 3600],
        i.day? 32400 = some ⟨1970, 1, 1, by decide⟩ ∨
          i.day? 32400 = some ⟨1970, 1, 2, by decide⟩ := by
      decide +kernel
    rcases hdays i hi with hday | hday
    · exact ⟨_, hday, by decide, by decide⟩
    · exact ⟨_, hday, by decide, by decide⟩
  refine ⟨hyears, apply_arranged _ twoDays (initial 32400) _ hyears, ?_⟩
  show (group 32400 (Query.insights twoDays)).map _ = _
  rw [insights_twoDays]
  decide +kernel

end Screen.Insights

end HomeEnergy
