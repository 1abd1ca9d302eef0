import HomeEnergy.Proofs.Live.Stored
import HomeEnergy.Proofs.Rehearsal.Reads
import HomeEnergy.Proofs.Store.Shelves
import HomeEnergy.Query.Devices

/-!
# `HomeEnergy.Proofs.Query.Joined`: the catalog with the readings of a day, in two ways

A load asks for the catalog and then for one record by each device's path. A board that is being
seeded gets the catalog and the day's records as two listings and joins them through a table.
Both come to `Documents.joined`: the ids of a listing are neither empty nor hold a slash, so that
the path of a device's record is a document's path, and a listed record is the one at this path.

* `Rehearsal.run_reading?`: asking for the record of a listed device.
* `Rehearsal.run_appliances`: a load returns the joined catalog.
* `appliances_loaded_eq_seeded`: hence both boards show the same devices.
-/

set_option autoImplicit false

namespace HomeEnergy

open HomeEnergy.Calendar HomeEnergy.Data HomeEnergy.Rehearsal
open HomeEnergy.Path (Names)

namespace Documents

/-- Every path at which something is stored names a document. -/
def Named (docs : Documents) : Prop :=
  ∀ path, docs.get? path ≠ none → ∃ collection id, Names path collection id

/-- Whatever is done to a store, it holds documents only. -/
theorem named_run (ops : List MemoryStore.Op) : (MemoryStore.empty.run ops).docs.Named := by
  intro path hget
  by_contra hnot
  exact hget ((MemoryStore.represents_run ops).at_other path fun c i h => hnot ⟨c, i, h⟩)

variable {docs : Documents} {collection : String} {d : Document}

/-- The id of a listed document can be used in any other collection. -/
theorem Named.names_child (h : docs.Named) (hd : d ∈ docs.list collection) {other : String}
    (hother : other ≠ "") : Names (Path.child other d.id) other d.id := by
  obtain ⟨hget, hslash⟩ := mem_list_iff.mp hd
  have hstored : docs.get? (Path.child collection d.id) ≠ none := by simp [hget]
  obtain ⟨c, i, hnames⟩ := h _ hstored
  -- A path is put together in one way only, so this id is the listed one.
  obtain ⟨-, rfl⟩ := Path.child_inj hslash hnames.slash hnames.path_eq
  exact ⟨rfl, hother, hnames.id_ne, hslash⟩

end Documents

/-- A path of a document is not empty, as a slash stands in it. -/
theorem Path.child_ne (collection id : String) : Path.child collection id ≠ "" := by
  intro h
  have hlist := congrArg String.toList h
  rw [Path.toList_child] at hlist
  simp at hlist

namespace Rehearsal

variable {w : World}

/-- Without faults no call on the documents is struck by one. -/
theorem documentFault?_of_faultless (hw : w.faults = []) (kind : CallKind) (path : String) :
    w.documentFault? kind path = none := by
  simp [World.documentFault?, World.fault?, hw]

/-- Without faults, what is got at a path that names a document is what is stored there, under its
id. -/
theorem got_of_names (hw : w.faults = []) {path collection id : String}
    (h : Names path collection id) : w.got path = .ok ((w.store.docs.get? path).map (⟨id, ·⟩)) := by
  unfold World.got
  rw [documentFault?_of_faultless hw]
  exact MemoryStore.get_of_names h

/-- Without faults, what is listed is what the store lists. -/
theorem listed_of_faultless (hw : w.faults = []) (collection : String) :
    w.listed collection = .ok (w.store.docs.list collection) := by
  unfold World.listed
  rw [documentFault?_of_faultless hw]
  rfl

variable {uid : String} {date : Date} {d : Document}

/-- Asking for the record of a listed device finds what is stored for it. -/
theorem run_reading? (hw : w.faults = []) (hnamed : w.store.docs.Named) (now : Instant)
    (hd : d ∈ w.store.docs.list (Path.devices uid)) :
    (Query.reading? documents uid date d.id now).run.run w =
      (.ok (w.store.docs.reading? uid date d.id now), w) := by
  have hrecord : Names (Path.deviceEnergyRecord uid date d.id) (Path.deviceEnergy uid date) d.id :=
    hnamed.names_child hd (Path.child_ne _ _)
  have hget : (documents.get (Path.deviceEnergyRecord uid date d.id)).run.run w = _ :=
    run_get w _
  rw [got_of_names hw hrecord] at hget
  have hrun : (Query.reading? documents uid date d.id now).run.run w = _ := run_bind_pure _ hget
  rw [hrun, Except.map, Option.map_map]
  rfl

/-- A load returns the joined catalog. -/
theorem run_appliances (hw : w.faults = []) (hnamed : w.store.docs.Named) (uid : String)
    (date : Date) (now : Instant) : (Query.appliances documents uid date now).run.run w =
      (.ok (w.store.docs.joined uid date now), w) := by
  have hlist : (documents.list (Path.devices uid)).run.run w = _ := run_list w _
  rw [listed_of_faultless hw] at hlist
  have hdevices : (Query.devices documents uid).run.run w = _ := run_bind_pure _ hlist
  refine (run_bind_of_ok hdevices).trans ?_
  -- A lookup leaves the world, so that the next device is looked up in the same one.
  have hrecords : ∀ device ∈ (w.store.docs.list (Path.devices uid)).map Device.ofDocument,
      (Query.appliance documents uid date now device).run w =
        (⟨device, w.store.docs.reading? uid date device.id now⟩, w) := by
    intro device hdevice
    obtain ⟨d, hd, rfl⟩ := List.mem_map.mp hdevice
    exact run_bind_of_run (run_reading? hw hnamed now hd)
  rw [run_mapM hrecords, List.map_map]
  rfl

end Rehearsal

/-- Whatever a store holds, a board of what a load returns shows the same devices as a new board
after the catalog and the day's records as they are listed. -/
theorem appliances_loaded_eq_seeded (w : World) (ops : List MemoryStore.Op) (uid : String)
    (date : Date) (now : Instant) :
    let w : World := { w with store := MemoryStore.empty.run ops, faults := [] }
    ∃ fetched catalog records,
      (Query.appliances documents uid date now).run.run w = (.ok fetched, w) ∧
      (documents.list (Path.devices uid)).run.run w = (.ok catalog, w) ∧
      (documents.list (Path.deviceEnergy uid date)).run.run w = (.ok records, w) ∧
      (Board.ofAppliances fetched).appliances =
        ((Board.empty.applyCatalog (catalog.map Device.ofDocument)).applyReadings
          (records.map (Reading.ofDocument · now))).2.appliances := by
  intro w
  have hlist (collection : String) :
      (documents.list collection).run.run w = (.ok (w.store.docs.list collection), w) := by
    rw [run_list, listed_of_faultless rfl]
  refine ⟨_, _, _, run_appliances rfl (Documents.named_run ops) uid date now, hlist _, hlist _, ?_⟩
  -- A board that has the two listings shows the joined catalog.
  have hview : (LiveBoard.stored uid date w.store.docs now).view = _ := LiveBoard.view_stored
  exact (congrArg LiveView.appliances hview).symm

end HomeEnergy
