import HomeEnergy.Live.Dashboard
import HomeEnergy.Proofs.Live.Board
import HomeEnergy.Proofs.Store.Listing

/-!
# `HomeEnergy.Proofs.Live.Stored`: a board of what is stored

`Documents.joined` is the catalog of a user joined with the records of a day, and
`Documents.switched?` the switch that a write makes in a record, both read off the documents
path by path. A board seeded from snapshots of the same documents shows the one and reports the
other.

* `LiveBoard.view_stored`: the board shows the joined catalog.
* `LiveBoard.changes_stored`: the readings after one write bring at most one change to light,
  the switch that the write has made.
* `LiveBoard.catalog_stored`, `LiveBoard.readings_stored`: after a new snapshot of either
  collection the board is the one seeded from the documents as they are now.
-/

set_option autoImplicit false

namespace HomeEnergy

open HomeEnergy.Calendar HomeEnergy.Data
open HomeEnergy.Path (Names)

/-! ### Boards without pending toggles -/

namespace Board

/-- A board that has seen a catalog and readings, and no toggle. -/
def seeded (catalog : List Device) (readings : List Reading) : Board :=
  ((empty.applyCatalog catalog).applyReadings readings).2

variable {b : Board}

/-- Readings make no toggle pending. -/
theorem pending_applyReadings_empty (h : b.pending = .empty) (readings : List Reading) :
    (b.applyReadings readings).2.pending = .empty := by
  -- With nothing pending there is nothing that a reading could confirm.
  have hconfirm : readings.foldl confirm Table.empty = Table.empty := by
    induction readings with
    | nil => rfl
    | cons r rest ih => exact ih
  rw [pending_eq_filter, h, hconfirm]
  rfl

/-- A board that is `seeded` has no toggle pending. -/
theorem pending_seeded (catalog : List Device) (readings : List Reading) :
    (seeded catalog readings).pending = .empty :=
  pending_applyReadings_empty rfl readings

/-- A board that is `seeded` shows the devices of its catalog, in their order. -/
theorem devices_seeded (catalog : List Device) (readings : List Reading) :
    (seeded catalog readings).appliances.map Appliance.device = catalog := by
  rw [seeded, devices_applyReadings, devices_applyCatalog]

/-- A newer catalog takes the place of the first: the board is the one seeded from it and the same
readings. -/
theorem applyCatalog_seeded (catalog newer : List Device) (readings : List Reading) :
    (seeded catalog readings).applyCatalog newer = seeded newer readings := by
  -- Both boards are shown anew, so devices, cache and pending toggles decide.
  refine eq_of_shown (shown_refresh _) (shown_refresh _) ?_ rfl ?_
  · rw [devices_applyCatalog, devices_seeded]
  · exact (pending_seeded catalog readings).trans (pending_seeded newer readings).symm

/-- Newer readings take the place of the first: the board is the one seeded from them and the same
catalog. -/
theorem applyReadings_seeded (catalog : List Device) (readings newer : List Reading) :
    ((seeded catalog readings).applyReadings newer).2 = seeded catalog newer := by
  refine eq_of_shown (shown_refresh _) (shown_refresh _) ?_ rfl ?_
  · rw [devices_applyReadings, devices_seeded, devices_seeded]
  · rw [pending_applyReadings_empty (pending_seeded catalog readings), pending_seeded]

/-- A board that is `seeded` can be `Reached`, so all that is proved of these boards holds of it. -/
theorem reached_seeded (catalog : List Device) (readings : List Reading) :
    Reached catalog (seeded catalog readings) :=
  (Reached.empty.step (.catalog catalog)).step (.readings readings)

/-- Without toggles every device is shown with its cached reading as it is. -/
theorem appliances_seeded (catalog : List Device) (readings : List Reading) :
    (seeded catalog readings).appliances
      = catalog.map fun d => ⟨d, (seeded catalog readings).cache.get? d.id⟩ := by
  rw [(coherent_of_reached (reached_seeded catalog readings)).shown]
  refine List.map_congr_left fun d _ => ?_
  -- What a device shows is its cached reading, overridden only by a pending toggle.
  unfold view
  rw [pending_seeded]
  cases (seeded catalog readings).cache.get? d.id <;> rfl

end Board

/-! ### What is stored -/

namespace Documents

variable (docs : Documents) (uid : String) (date : Date)

/-- What the day's record of a device says, if there is one. -/
def reading? (id : String) (now : Instant) : Option Reading :=
  (docs.get? (Path.deviceEnergyRecord uid date id)).map fun f => Reading.ofDocument ⟨id, f⟩ now

/-- Every device of the catalog with what its record says. -/
def joined (now : Instant) : List Appliance :=
  (docs.list (Path.devices uid)).map fun d =>
    ⟨Device.ofDocument d, docs.reading? uid date d.id now⟩

/-- Whether the record of a device has it switched on, if there is a record. -/
def isOn? (id : String) : Option Bool :=
  (docs.get? (Path.deviceEnergyRecord uid date id)).map fun f =>
    Document.boolD ⟨id, f⟩ "isOn" false

/-- The name of a device, also of one that the catalog does not have. -/
def deviceName (id : String) : String :=
  match docs.get? (Path.device uid id) with
  | some f => Document.textD ⟨id, f⟩ "name" "Unknown Device"
  | none => "Unknown Device"

/-- The switch of a device between these documents and later ones, if its record is in both. -/
def switched? (later : Documents) (id : String) : Option PowerChange :=
  match docs.isOn? uid date id, later.isOn? uid date id with
  | some was, some isOn => if was = isOn then none else some ⟨id, docs.deviceName uid id, isOn⟩
  | _, _ => none

variable {docs}

/-- A write to one document leaves every other one, here the document `j` of the collection `d`, as
it is. -/
theorem get?_insert_of_names {path c i d j : String} (hpath : Names path c i) (fields : Fields)
    (hslash : '/' ∉ j.toList) (hne : ¬ (d = c ∧ j = i)) :
    Table.get? (docs.insert path fields) (Path.child d j) = docs.get? (Path.child d j) :=
  Table.get?_insert_of_ne _
    (fun heq => hne (Path.child_inj hslash hpath.slash (heq.trans hpath.path_eq))) _

end Documents

/-! ### The board of what is stored -/

namespace LiveBoard

/-- The board seeded from the documents, with the readings as of some moment. -/
def stored (uid : String) (date : Date) (docs : Documents) (seen : Instant) : LiveBoard :=
  seed (Listener.snapshot (.collection (Path.devices uid)) docs)
    (Listener.snapshot (.collection (Path.deviceEnergy uid date)) docs) seen

variable {uid : String} {date : Date} {docs : Documents} {seen : Instant}

/-- The readings of the day's records as of some moment. -/
def storedReadings (uid : String) (date : Date) (docs : Documents) (now : Instant) :
    List Reading :=
  (docs.list (Path.deviceEnergy uid date)).map (Reading.ofDocument · now)

/-- The board `stored` is seeded from the devices of the catalog and from `storedReadings`, without
a message. -/
theorem stored_eq : stored uid date docs seen =
    ⟨.seeded ((docs.list (Path.devices uid)).map Device.ofDocument)
      (storedReadings uid date docs seen), none, none⟩ := rfl

/-- The readings of a day's records are about different devices, as a listing has no id twice. -/
theorem nodup_storedReadings (uid : String) (date : Date) (docs : Documents) (now : Instant) :
    ((storedReadings uid date docs now).map Reading.device).Nodup := by
  unfold storedReadings
  rw [List.map_map]
  exact docs.ids_nodup _

/-- The cache has for each device what its record says. -/
theorem cache_stored {id : String} (hslash : '/' ∉ id.toList) :
    (stored uid date docs seen).board.cache.get? id = docs.reading? uid date id seen := by
  refine Option.ext fun r => ?_
  unfold Documents.reading?
  rw [Option.map_eq_some_iff]
  constructor
  · intro h
    obtain ⟨q, hq, heq⟩ := List.mem_map.mp (Table.mem_of_get?_insertAll h)
    obtain ⟨d, hd, rfl⟩ := List.mem_map.mp hq
    cases heq
    exact ⟨d.fields, (Documents.mem_list_iff.mp hd).1, rfl⟩
  · -- Each id is listed once, so no later reading has taken the place of this one.
    rintro ⟨f, hf, rfl⟩
    have hmem : (⟨id, f⟩ : Document) ∈ docs.list (Path.deviceEnergy uid date) :=
      Documents.mem_list_iff.mpr ⟨hf, hslash⟩
    exact Board.cache_applyReadings_of_nodup (nodup_storedReadings uid date docs seen)
      (List.mem_map_of_mem hmem)

/-- The board `stored` shows the catalog joined with the day's records, and no message. -/
theorem view_stored :
    (stored uid date docs seen).view = ⟨docs.joined uid date seen, none⟩ := by
  have happliances : (stored uid date docs seen).board.appliances
      = docs.joined uid date seen := by
    rw [stored_eq]
    show (Board.seeded _ _).appliances = _
    rw [Board.appliances_seeded, List.map_map]
    refine List.map_congr_left fun d hd => ?_
    exact congrArg (Appliance.mk (Device.ofDocument d))
      (cache_stored (Documents.mem_list_iff.mp hd).2)
  show LiveView.mk _ none = _
  rw [happliances]

/-- A device is named after its catalog entry. -/
theorem nameOf_stored {id : String} (hslash : '/' ∉ id.toList) :
    (stored uid date docs seen).board.nameOf id = docs.deviceName uid id := by
  have hjoined : (stored uid date docs seen).board.appliances = docs.joined uid date seen :=
    congrArg LiveView.appliances view_stored
  unfold Board.nameOf Board.find? Documents.deviceName
  rw [hjoined]
  cases hfind : (docs.joined uid date seen).find? fun a => a.id == id with
  | some a =>
    -- The appliance comes from a document of the listing, and this is at the device's path.
    obtain ⟨d, hd, rfl⟩ := List.mem_map.mp (List.mem_of_find?_eq_some hfind)
    have hbeq := List.find?_some hfind
    have hid : d.id = id := eq_of_beq hbeq
    subst hid
    have hget : docs.get? (Path.device uid d.id) = some d.fields :=
      (Documents.mem_list_iff.mp hd).1
    rw [hget]
    rfl
  | none =>
    cases hget : docs.get? (Path.device uid id) with
    | none => rfl
    | some f =>
      -- The catalog would have shown the device.
      have hmem : (⟨id, f⟩ : Document) ∈ docs.list (Path.devices uid) :=
        Documents.mem_list_iff.mpr ⟨hget, hslash⟩
      have hnot := List.find?_eq_none.mp hfind _ (List.mem_map_of_mem hmem)
      exact absurd (beq_self_eq_true id) hnot

/-! ### New snapshots -/

/-- Only the catalog and the day's records count. -/
theorem stored_congr {later : Documents}
    (hcatalog : later.list (Path.devices uid) = docs.list (Path.devices uid))
    (hreadings : later.list (Path.deviceEnergy uid date)
      = docs.list (Path.deviceEnergy uid date)) :
    stored uid date later seen = stored uid date docs seen := by
  rw [stored_eq, stored_eq, hcatalog, storedReadings, hreadings]
  rfl

/-- A snapshot of a changed catalog makes the board of the documents as they are now, and no note,
as long as the day's records are the same. -/
theorem catalog_stored {later : Documents}
    (hreadings : later.list (Path.deviceEnergy uid date)
      = docs.list (Path.deviceEnergy uid date)) (now : Instant) :
    (stored uid date docs seen).handle now
        (.catalog (.ok (Listener.snapshot (.collection (Path.devices uid)) later)))
      = ([], stored uid date later seen) := by
  have hsame : storedReadings uid date docs seen = storedReadings uid date later seen := by
    unfold storedReadings
    rw [hreadings]
  rw [stored_eq, stored_eq, hsame]
  show ([], LiveBoard.mk _ none none) = _
  rw [Board.applyCatalog_seeded]
  rfl

/-- A snapshot of changed records makes the board of the documents as they are now, as long as the
catalog is the same. -/
theorem readings_stored {later : Documents}
    (hcatalog : later.list (Path.devices uid) = docs.list (Path.devices uid)) (now : Instant) :
    ((stored uid date docs seen).handle now
        (.readings (.ok (Listener.snapshot (.collection (Path.deviceEnergy uid date)) later)))).2
      = stored uid date later now := by
  have hboard := Board.applyReadings_seeded ((docs.list (Path.devices uid)).map Device.ofDocument)
    (storedReadings uid date docs seen) (storedReadings uid date later now)
  rw [stored_eq, stored_eq, hcatalog]
  exact congrArg (fun b => LiveBoard.mk b none none) hboard

/-- Of a list with distinct keys, only the part with this key counts. -/
theorem flatMap_of_unique {α β : Type} {key : α → String} {f : α → List β} {l : List α}
    (h : (l.map key).Nodup) {x : α} (hx : x ∈ l) (hother : ∀ y ∈ l, key y ≠ key x → f y = []) :
    l.flatMap f = f x := by
  induction l with
  | nil => cases hx
  | cons a rest ih =>
    rw [List.map_cons, List.nodup_cons] at h
    rw [List.flatMap_cons]
    -- `x` comes first or later. The others have other keys, as the keys are distinct.
    rcases List.mem_cons.mp hx with rfl | hx
    · have hrest : rest.flatMap f = [] := List.flatMap_eq_nil_iff.mpr fun y hy =>
        hother y (List.mem_cons_of_mem _ hy) fun heq => h.1 (heq ▸ List.mem_map_of_mem hy)
      rw [hrest, List.append_nil]
    · have ha : f a = [] := hother a List.mem_cons_self fun heq =>
        h.1 (heq ▸ List.mem_map_of_mem hx)
      rw [ha, List.nil_append]
      exact ih h.2 hx fun y hy => hother y (List.mem_cons_of_mem _ hy)

/-- A reading is a change if the stored record it replaces is switched the other way. -/
theorem changeOf_stored {d : Document} (hslash : '/' ∉ d.id.toList) (now : Instant) :
    (stored uid date docs seen).board.changeOf (Reading.ofDocument d now)
      = match docs.isOn? uid date d.id with
        | some was => if was = d.boolD "isOn" false then none
          else some ⟨d.id, docs.deviceName uid d.id, d.boolD "isOn" false⟩
        | none => none := by
  have hcache : (stored uid date docs seen).board.cache.get? (Reading.ofDocument d now).device
      = docs.reading? uid date d.id seen := cache_stored hslash
  unfold Documents.isOn?
  unfold Documents.reading? at hcache
  cases hget : docs.get? (Path.deviceEnergyRecord uid date d.id) with
  | none =>
    -- A first reading is no change.
    rw [hget] at hcache
    unfold Board.changeOf
    rw [hcache]
    rfl
  | some f =>
    rw [hget] at hcache
    rw [Board.changeOf_of_cached hcache]
    show (if _ then none else some (PowerChange.mk d.id
      ((stored uid date docs seen).board.nameOf d.id) _)) = _
    rw [nameOf_stored hslash]
    rfl

/-- The readings after a write to a record differ from the cache in this record only. -/
theorem changes_stored {path id : String}
    (hpath : Names path (Path.deviceEnergy uid date) id) (fields : Fields) (now : Instant) :
    ((stored uid date docs seen).handle now (.readings (.ok (Listener.snapshot
        (.collection (Path.deviceEnergy uid date)) (docs.insert path fields))))).1
      = (docs.switched? uid date (docs.insert path fields) id).toList := by
  let later : Documents := docs.insert path fields
  have hget : later.get? (Path.deviceEnergyRecord uid date id) = some fields := by
    show Table.get? (docs.insert path fields) (Path.child (Path.deviceEnergy uid date) id) = _
    rw [← hpath.path_eq, Table.get?_insert_self]
  have hmem : (⟨id, fields⟩ : Document) ∈ later.list (Path.deviceEnergy uid date) :=
    Documents.mem_list_iff.mpr ⟨hget, hpath.slash⟩
  have hlater : later.isOn? uid date id
      = some (Document.boolD ⟨id, fields⟩ "isOn" false) := by
    unfold Documents.isOn?
    rw [hget]
    rfl
  show ((stored uid date docs seen).board.applyReadings (storedReadings uid date later now)).1 = _
  rw [Board.changes_applyReadings (nodup_storedReadings uid date later now)]
  -- No toggle is pending, so every reading is compared with what is cached for its device.
  have hpending : (stored uid date docs seen).board.pending = .empty :=
    Board.pending_seeded _ _
  simp only [hpending]
  rw [flatMap_of_unique (nodup_storedReadings uid date later now) (List.mem_map_of_mem hmem)]
  · show ((stored uid date docs seen).board.changeOf _).toList = _
    rw [changeOf_stored hpath.slash, Documents.switched?, hlater]
    cases docs.isOn? uid date id <;> rfl
  · -- The other records are stored as they were.
    intro r hr hne
    obtain ⟨d, hd, rfl⟩ := List.mem_map.mp hr
    obtain ⟨hfields, hslash⟩ := Documents.mem_list_iff.mp hd
    have hsame : docs.get? (Path.deviceEnergyRecord uid date d.id) = some d.fields := by
      rw [← hfields]
      exact (Documents.get?_insert_of_names hpath fields hslash fun heq => hne heq.2).symm
    show ((stored uid date docs seen).board.changeOf _).toList = []
    rw [changeOf_stored hslash, Documents.isOn?, hsame]
    simp

end LiveBoard

end HomeEnergy
