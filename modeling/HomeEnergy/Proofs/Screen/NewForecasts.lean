import HomeEnergy.Proofs.Notify.Watcher
import HomeEnergy.Proofs.Screen.History
import HomeEnergy.Proofs.Store.Listing
import Mathlib.Data.Finset.Card

/-!
# `HomeEnergy.Proofs.Screen.NewForecasts`: when new forecasts are announced

A load of the forecast screen brings forecasts under the ids of their documents. Which of them are
new is told by two sets of ids, those of this load and those of the one before. The watcher knows
only how many there were. As no id is listed twice, this is the size of the set, so a load is
announced when the new ids outnumber those that are gone by more than one.

* `watcher_after`: what the watcher of a screen has counted is what its last load brought.
* `sent_iff_outnumber`: when a load is announced, and when that differs from more than one new id.
* `rolling_forecasts_not_announced`: two forecasts take the place of two others, unannounced.
-/

set_option autoImplicit false

namespace HomeEnergy.Screen.Forecast

open HomeEnergy.Calendar HomeEnergy.Rehearsal

/-! ### What a load brings -/

/-- The forecasts that a load brings from a world, if it brings any records. -/
def brought? (w : World) : Option (List DailyForecast) :=
  (fetched services (fetch services) w).bind fun result => result.toOption.map Prod.fst

/-- The ids of forecasts. -/
def ids (forecasts : List DailyForecast) : Finset String :=
  (forecasts.map DailyForecast.id).toFinset

variable {w : World} {forecasts : List DailyForecast}

/-- Forecasts are brought by a fetch that succeeds, together with days. -/
theorem brought?_eq_some_iff : brought? w = some forecasts ↔
    ∃ usage, fetched services (fetch services) w = some (.ok (forecasts, usage)) := by
  unfold brought?
  cases fetched services (fetch services) w with
  | none => simp
  | some result =>
    cases result with
    | error e => simp [Except.toOption]
    | ok records => simp [Except.toOption, Prod.ext_iff]

/-- A forecast has the id of its document. -/
theorem id_of_forecast {d : Document} {r : DailyForecast}
    (h : DailyForecast.ofDocument? d = some r) : r.id = d.id := by
  unfold DailyForecast.ofDocument? at h
  split at h
  · cases h
    rfl
  · cases h

/-- Records are brought to someone who is signed in, and the world stays as it is. -/
theorem fetch_run (h : brought? w = some forecasts) : ∃ user usage,
    w.directory.current = some user ∧
      (fetch services user.uid).run.run w = (.ok (forecasts, usage), w) := by
  obtain ⟨usage, hfetched⟩ := brought?_eq_some_iff.mp h
  cases huser : w.directory.current with
  | none =>
    have hnone : fetched services (fetch services) w = none :=
      fetched_eq_none_iff.mpr (congrArg (Option.map User.uid) huser)
    rw [hnone] at hfetched
    cases hfetched
  | some user =>
    rw [fetched_services huser, Option.some.injEq] at hfetched
    -- Both readings leave the world as it was.
    have hstate := congrArg Prod.snd
      (run_pair (run_dailyForecasts (w := w) user.uid) (run_dailyUsage user.uid))
    exact ⟨user, usage, rfl, Prod.ext hfetched hstate⟩

/-- What is listed for a user has no id twice, and neither has what is read of it. -/
theorem nodup_ids (h : brought? w = some forecasts) :
    (forecasts.map DailyForecast.id).Nodup := by
  obtain ⟨user, usage, huser, hrun⟩ := fetch_run h
  have hfetched : fetched services (fetch services) w = some (.ok (forecasts, usage)) := by
    rw [fetched_services huser, hrun]
  obtain ⟨ds, days, hlisted, hdays, hrecords⟩ := (fetched_eq_ok_iff huser).mp hfetched
  obtain ⟨rfl, rfl⟩ := Prod.mk.inj hrecords
  have hds : ds = w.store.list (Path.predictions user.uid) := by
    unfold World.listed at hlisted
    split at hlisted
    · cases hlisted
    · exact (Except.ok.inj hlisted).symm
  -- Documents of one collection have different ids, and a forecast has that of its document.
  have hids : (ds.map Document.id).Nodup := hds ▸ Documents.ids_nodup w.store.docs _
  rw [((Week.byDate_perm _).map DailyForecast.id).nodup_iff]
  refine List.pairwise_map.mpr (List.pairwise_filterMap.mpr ?_)
  refine (List.pairwise_map.mp hids).imp fun hne r hr q hq => ?_
  rwa [id_of_forecast hr, id_of_forecast hq]

/-- As many ids are brought as forecasts, since no id is brought twice. -/
theorem card_ids (h : brought? w = some forecasts) : (ids forecasts).card = forecasts.length := by
  rw [ids, List.toFinset_card_of_nodup (nodup_ids h), List.length_map]

/-! ### One load -/

/-- Working out the weeks leaves what the watcher knows. -/
theorem recompute_watcher (f : Forecast) : f.recompute.2.watcher = f.watcher := by
  unfold recompute
  split <;> rfl

/-- A load that brings forecasts remembers how many they are, and any other what it knew. -/
theorem load_watcher (f : Forecast) (w : World) : ((f.load services).run w).1.2.watcher.forecasts =
    ((brought? w).map List.length).getD f.watcher.forecasts := by
  cases hbrought : brought? w with
  | some forecasts =>
    obtain ⟨usage, hfetched⟩ := brought?_eq_some_iff.mp hbrought
    rw [load_of_ok hfetched, recompute_watcher]
    rfl
  | none =>
    have hnot : ∀ records, fetched services (fetch services) w ≠ some (.ok records) := by
      intro records hfetched
      rw [brought?_eq_some_iff.mpr ⟨records.2, hfetched⟩] at hbrought
      cases hbrought
    obtain ⟨isLoading, error, hload⟩ := load_of_not_ok (f := f) hnot
    rw [hload]
    rfl

/-- What a load sends, as long as there is room for it. -/
theorem load_delivered (f : Forecast) (hroom : w.delivered.length < noteRoom)
    (hlets : w.gate.lets forecastNote = true) (hbrought : brought? w = some forecasts) :
    ((f.load services).run w).2.delivered = w.delivered ++
      if f.watcher.forecasts + 1 < forecasts.length then [forecastNote] else [] := by
  obtain ⟨user, usage, huser, hrun⟩ := fetch_run hbrought
  have huid : services.uid.run w = (some user.uid, w) := by
    show (w.directory.current.map User.uid, w) = _
    rw [huser]
    rfl
  -- The note goes out as the world's gate has it, whose room is left.
  have hreport : (f.watcher.report services.notes (.forecasts forecasts.length)).run w = _ :=
    f.watcher.report_notes _ hroom
  unfold fetch at hrun
  rw [load, forUser, run_bind_of_run huid]
  dsimp only
  rw [run_bind_of_run hrun]
  dsimp only
  rw [run_bind_of_run hreport]
  show w.delivered ++ Option.toList _ = _
  simp only [Watcher.see]
  split
  · simp [Option.filter, hlets]
  · rfl

/-! ### A run -/

/-- The ids that a deed brings, if it is a load that brings records. -/
def Deed.ids? : Deed World → Option (Finset String)
  | .load w => (brought? w).map ids
  | .selectWeek _ => none

/-- The ids that the last load brought, or none before any has. -/
def known (deeds : List (Deed World)) : Finset String :=
  ((deeds.filterMap Deed.ids?).getLast?).getD ∅

/-- A new screen after some deeds. -/
def after (deeds : List (Deed World)) : Forecast :=
  deeds.foldl (fun f d => (f.perform services d).2) initial

/-- One more deed is performed on the screen after the others. -/
theorem after_concat (deeds : List (Deed World)) (d : Deed World) :
    after (deeds ++ [d]) = ((after deeds).perform services d).2 := by
  simp [after]

/-- One more deed is what is known if it brings ids, and leaves what is known otherwise. -/
theorem known_concat (deeds : List (Deed World)) (d : Deed World) :
    known (deeds ++ [d]) = d.ids?.getD (known deeds) := by
  cases hd : d.ids? <;> simp [known, hd]

/-- The watcher has counted what the last load brought. -/
theorem watcher_after (deeds : List (Deed World)) :
    (after deeds).watcher.forecasts = (known deeds).card := by
  induction deeds using List.reverseRecOn with
  | nil => rfl
  | append_singleton deeds d ih =>
    rw [after_concat, known_concat]
    cases d with
    | selectWeek week => exact ih
    | load w =>
      show ((Forecast.load services _).run w).1.2.watcher.forecasts = _
      rw [load_watcher, ih]
      cases hbrought : brought? w with
      | none => simp [Deed.ids?, hbrought]
      | some forecasts => simp [Deed.ids?, hbrought, card_ids hbrought]

/-- The load sends a note after the deeds. -/
def Sends (deeds : List (Deed World)) (w : World) : Prop :=
  (((after deeds).load services).run w).2.delivered = w.delivered ++ [forecastNote]

/-- The ids that a load brings and the one before did not. -/
def arrived (deeds : List (Deed World)) (forecasts : List DailyForecast) : Finset String :=
  ids forecasts \ known deeds

/-- The ids that the load before brought and this one does not. -/
def gone (deeds : List (Deed World)) (forecasts : List DailyForecast) : Finset String :=
  known deeds \ ids forecasts

/-- Of two sets, the larger one has more elements of its own. -/
theorem card_lt_iff_arrived (deeds : List (Deed World)) (forecasts : List DailyForecast) :
    (known deeds).card + 1 < (ids forecasts).card ↔
      (gone deeds forecasts).card + 1 < (arrived deeds forecasts).card := by
  -- What is in both is counted on either side.
  have hnow := Finset.card_sdiff_add_card_inter (ids forecasts) (known deeds)
  have hbefore := Finset.card_sdiff_add_card_inter (known deeds) (ids forecasts)
  rw [Finset.inter_comm] at hbefore
  unfold gone arrived
  omega

section Sent

variable (deeds : List (Deed World)) (hwanted : w.wanted.predictions = true)
  (hreceiving : w.receiving = true) (hroom : w.delivered.length < noteRoom)
  (hbrought : brought? w = some forecasts)
include hwanted hreceiving hroom hbrought

/-- What a load sends after some deeds: the one note, if the new forecasts outnumber those that are
gone by more than one. -/
theorem delivered_after : (((after deeds).load services).run w).2.delivered = w.delivered ++
    if (gone deeds forecasts).card + 1 < (arrived deeds forecasts).card
    then [forecastNote] else [] := by
  have hlets : w.gate.lets forecastNote = true := by
    simp [Gate.lets, World.gate, NotificationPreferences.allows, forecastNote, hwanted, hreceiving]
  rw [load_delivered (after deeds) hroom hlets hbrought, watcher_after, ← card_ids hbrought]
  exact congrArg _ (if_congr (card_lt_iff_arrived _ _) rfl rfl)

/-- A load sends its note if and only if the new forecasts outnumber those that are gone by more
than one. -/
theorem sends_iff : Sends deeds w ↔
    (gone deeds forecasts).card + 1 < (arrived deeds forecasts).card := by
  rw [Sends, delivered_after deeds hwanted hreceiving hroom hbrought]
  simp

end Sent

/-- A load sends its one note exactly when the forecasts that are new since the load before
outnumber those that are gone by more than one. So it does not send it where more than one is new
and as many are gone, or all but one. Everywhere else, and in particular where none is gone, it
sends it exactly when more than one is new. -/
theorem sent_iff_outnumber (deeds : List (Deed World)) (hwanted : w.wanted.predictions = true)
    (hreceiving : w.receiving = true) (hroom : w.delivered.length < noteRoom)
    (hbrought : brought? w = some forecasts) :
    (Sends deeds w ↔ (gone deeds forecasts).card + 1 < (arrived deeds forecasts).card) ∧
      (¬ Sends deeds w → (((after deeds).load services).run w).2.delivered = w.delivered) ∧
      ((Sends deeds w ↔ 1 < (arrived deeds forecasts).card) ↔
        ¬ (1 < (arrived deeds forecasts).card ∧
          (arrived deeds forecasts).card ≤ (gone deeds forecasts).card + 1)) ∧
      (gone deeds forecasts = ∅ → (Sends deeds w ↔ 1 < (arrived deeds forecasts).card)) := by
  have hsends : Sends deeds w ↔
      (gone deeds forecasts).card + 1 < (arrived deeds forecasts).card :=
    sends_iff deeds hwanted hreceiving hroom hbrought
  refine ⟨hsends, fun hnot => ?_, ?_, fun hgone => ?_⟩
  · -- What is delivered is the note or nothing, so without it nothing is.
    rw [hsends] at hnot
    rw [delivered_after deeds hwanted hreceiving hroom hbrought, if_neg hnot, List.append_nil]
  · rw [hsends]
    -- The two counts differ where arrivals are several, but not more than one beyond the
    -- departures.
    omega
  · rw [hsends, hgone, Finset.card_empty]

/-! ### Two days, and the days after them -/

/-- What can be listed for the user is brought. -/
theorem brought?_of_listed (user : User) {ds days : List Document}
    (huser : w.directory.current = some user)
    (hds : w.listed (Path.predictions user.uid) = .ok ds)
    (hdays : w.listed (Path.energyDays user.uid) = .ok days) :
    brought? w = some (Week.byDate (ds.filterMap DailyForecast.ofDocument?)) :=
  brought?_eq_some_iff.mpr ⟨_, (fetched_eq_ok_iff huser).mpr ⟨ds, days, hds, hdays, rfl⟩⟩

/-- The document of a day with a forecast. -/
def planned (day : String) : String × Fields :=
  (Path.predictions "u1" ++ "/" ++ day,
    [("predicted_cost", .integer 1), ("total_prediction", .integer 3)])

/-- The document of a day whose forecast was taken out. -/
def emptied (day : String) : String × Fields := (Path.predictions "u1" ++ "/" ++ day, [])

/-- What is forecast for the user in a world. -/
def forecast (w : World) : List DailyForecast :=
  Week.byDate ((w.store.list (Path.predictions ada.uid)).filterMap DailyForecast.ofDocument?)

/-- The ids do not depend on the order of the forecasts. -/
theorem ids_forecast (w : World) : ids (forecast w) =
    ids ((w.store.list (Path.predictions ada.uid)).filterMap DailyForecast.ofDocument?) :=
  List.toFinset_eq_of_perm _ _ ((Week.byDate_perm _).map DailyForecast.id)

/-- Forecasts for two days. -/
def twoDays : World := signedInWith ada [planned "2025-03-01", planned "2025-03-02"]

/-- Forecasts for these and two more. -/
def fourDays : World := signedInWith ada
  [planned "2025-03-01", planned "2025-03-02", planned "2025-03-03", planned "2025-03-04"]

/-- Forecasts for the two later days alone. -/
def nextDays : World := signedInWith ada
  [emptied "2025-03-01", emptied "2025-03-02", planned "2025-03-03", planned "2025-03-04"]

/-- After the first load two days are known. -/
theorem known_twoDays : known [.load twoDays] = {"2025-03-01", "2025-03-02"} := by
  have hbrought : brought? twoDays = some (forecast twoDays) :=
    brought?_of_listed ada rfl rfl rfl
  have hids : ids (forecast twoDays) = {"2025-03-01", "2025-03-02"} := by
    rw [ids_forecast]
    decide +kernel
  simp [known, Deed.ids?, hbrought, hids]

/-- Two days are added to two: both are new, and none is gone. -/
theorem sent_iff_outnumber_added :
    let deeds : List (Deed World) := [.load twoDays]
    fourDays.wanted.predictions = true ∧ fourDays.receiving = true ∧
      fourDays.delivered.length < noteRoom ∧ brought? fourDays = some (forecast fourDays) ∧
      gone deeds (forecast fourDays) = ∅ ∧
      arrived deeds (forecast fourDays) = {"2025-03-03", "2025-03-04"} ∧ Sends deeds fourDays := by
  intro deeds
  have hbrought : brought? fourDays = some (forecast fourDays) :=
    brought?_of_listed ada rfl rfl rfl
  have hids : ids (forecast fourDays) =
      {"2025-03-01", "2025-03-02", "2025-03-03", "2025-03-04"} := by
    rw [ids_forecast]
    decide +kernel
  have hgone : gone deeds (forecast fourDays) = ∅ := by
    rw [gone, known_twoDays, hids]
    decide
  have harrived : arrived deeds (forecast fourDays) = {"2025-03-03", "2025-03-04"} := by
    rw [arrived, known_twoDays, hids]
    decide
  -- Nothing is gone, so the added days alone decide.
  have hsent := sent_iff_outnumber deeds rfl rfl (by decide) hbrought
  refine ⟨rfl, rfl, by decide, hbrought, hgone, harrived, (hsent.2.2.2 hgone).mpr ?_⟩
  rw [harrived]
  decide

/-- Two days take the place of two others. Both are new, and no note is sent. -/
theorem rolling_forecasts_not_announced :
    ¬ ∀ (deeds : List (Deed World)) (w : World) (forecasts : List DailyForecast),
      w.wanted.predictions = true → w.receiving = true → w.delivered.length < noteRoom →
      brought? w = some forecasts →
      (Sends deeds w ↔ 1 < (arrived deeds forecasts).card) := by
  intro hclaim
  have hbrought : brought? nextDays = some (forecast nextDays) :=
    brought?_of_listed ada rfl rfl rfl
  have hids : ids (forecast nextDays) = {"2025-03-03", "2025-03-04"} := by
    rw [ids_forecast]
    decide +kernel
  -- Two days are gone and two have arrived, so the counts are equal.
  have hclaimed := hclaim [.load twoDays] nextDays _ rfl rfl (by decide) hbrought
  rw [sends_iff [.load twoDays] rfl rfl (by decide) hbrought, gone, arrived, known_twoDays,
    hids] at hclaimed
  exact absurd hclaimed (by decide)

end HomeEnergy.Screen.Forecast
