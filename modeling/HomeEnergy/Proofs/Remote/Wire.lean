import HomeEnergy.Proofs.Calendar.Timestamp
import HomeEnergy.Proofs.Store.Value
import HomeEnergy.Remote.Wire

/-!
# `HomeEnergy.Proofs.Remote.Wire`: what arrives of what was sent

The writer and the reader of the wire form are separate, and the reader leaves out what it
cannot read. `received?` is the one after the other. It goes through a value part by part
(`received?_array`, `received?_map`), so that the question is which plain values arrive.

* `fields_roundTrip`: finite doubles, whole microseconds and 64-bit integers arrive as they
  were, at any depth. A leap second has to stand where clocks have it, at the end of a minute
  (`Instant.OnClock`); `not_roundTrip_offMinuteEnd` has one that does not.
* `received?_eq_none_iff`: of the values that can be stored, the infinities and NaN are those
  that do not arrive. They have no numeral and are written as null, which is read as no double.
* `keeps_all_iff`: hence a document arrives with all of its keys, and with arrays of unchanged
  length, exactly when no field and no item of an array is such a double.
-/

set_option autoImplicit false

namespace HomeEnergy.Wire

open HomeEnergy.Calendar HomeEnergy.Data HomeEnergy.Number
open HomeEnergy.FieldValue (Every SameLengths ItemsAre)

/-- What arrives of a value. -/
def received? (v : FieldValue) : Option FieldValue := value? (value v)

/-- What arrives of a field. -/
def receivedField? (e : String × FieldValue) : Option (String × FieldValue) :=
  (received? e.2).map fun v => (e.1, v)

/-! ### Parts arrive one by one -/

/-- The items of an array arrive one by one, those that do. -/
theorem items?_values (items : List FieldValue) :
    items? (values items) = items.filterMap received? := by
  induction items with
  | nil => rfl
  | cons v rest ih =>
    rw [values, items?, ih, List.filterMap_cons]
    unfold received?
    cases value? (value v) <;> rfl

/-- The fields of a map arrive one by one, those that do. -/
theorem members?_members (entries : List (String × FieldValue)) :
    members? (members entries) = entries.filterMap receivedField? := by
  induction entries with
  | nil => rfl
  | cons e rest ih =>
    obtain ⟨key, v⟩ := e
    rw [members, members?, ih, List.filterMap_cons]
    unfold receivedField? received?
    cases value? (value v) <;> rfl

/-- An array always arrives, with those of its items that do. -/
theorem received?_array (items : List FieldValue) :
    received? (.array items) = some (.array (items.filterMap received?)) := by
  simp [received?, value, tagged, value?, arrayItems, itemsUnder, itemsOf, items?_values]

/-- Fields that arrive have the keys of those that were sent, in their order. -/
theorem ascending_filterMap_receivedField? {f : Fields} (hf : Entries.Ascending f) :
    Entries.Ascending (f.filterMap receivedField?) := by
  refine List.Pairwise.filterMap receivedField? (fun a a' hlt b hb b' hb' => ?_) hf
  obtain ⟨v, -, rfl⟩ := Option.map_eq_some_iff.mp hb
  obtain ⟨v', -, rfl⟩ := Option.map_eq_some_iff.mp hb'
  exact hlt

/-- Fields in key order stay so, whichever of them are left out. -/
theorem fields?_members {f : Fields} (hf : Entries.Ascending f) :
    fields? (members f) = f.filterMap receivedField? := by
  rw [fields?, members?_members,
    Entries.ofList_of_ascending (ascending_filterMap_receivedField? hf)]

/-- A map always arrives, with those of its fields that do. -/
theorem received?_map {f : Fields} (hf : Entries.Ascending f) :
    received? (.map f) = some (.map (f.filterMap receivedField?)) := by
  have h := fields?_members hf
  unfold fields? at h
  simp [received?, value, tagged, value?, mapFields, fieldsUnder, fieldsOf, h]

/-- A field that arrives is found under its key, and is what arrives of the field there. -/
theorem lookup?_filterMap_receivedField? {f : Fields} (hf : Entries.Ascending f) {key : String}
    {w : FieldValue} : Entries.lookup? key (f.filterMap receivedField?) = some w ↔
      ∃ v, Entries.lookup? key f = some v ∧ received? v = some w := by
  simp only [Entries.lookup?_eq_some_iff (ascending_filterMap_receivedField? hf),
    Entries.lookup?_eq_some_iff hf, List.mem_filterMap, receivedField?, Option.map_eq_some_iff]
  constructor
  · rintro ⟨⟨k, v⟩, hmem, w', hreceived, heq⟩
    cases heq
    exact ⟨v, hmem, hreceived⟩
  · rintro ⟨v, hmem, hreceived⟩
    exact ⟨(key, v), hmem, w, hreceived, rfl⟩

/-! ### Plain values -/

/-- Values as the store has them: integers of 64 bits, and instants of the years 0 to 9999. -/
def Sendable : FieldValue → Prop
  | .integer i => minInt64 ≤ i ∧ i ≤ maxInt64
  | .timestamp t => t.InWrittenYears ∧ t.nano < 2000000000
  | _ => True

/-- Values with an exact wire form: the integers above, finite doubles, and instants a clock
shows to the microsecond. -/
def Exact : FieldValue → Prop
  | .integer i => minInt64 ≤ i ∧ i ≤ maxInt64
  | .double x => isFinite x = true
  | .timestamp t => t.InWrittenYears ∧ t.OnClock ∧ t.nano % 1000 = 0
  | _ => True

/-- An infinity or NaN. -/
def IsNonFinite : FieldValue → Prop
  | .double x => isFinite x = false
  | _ => False

/-- An integer of 64 bits arrives as it was sent. -/
theorem received?_integer {i : Int} (h : minInt64 ≤ i ∧ i ≤ maxInt64) :
    received? (.integer i) = some (.integer i) := by
  have hread := integer?_toString h.1 h.2
  simp only [received?, value, tagged, value?, plain?, integer?, hread]
  rfl

/-- A finite double arrives as it was sent, and no other arrives. -/
theorem received?_double (x : Float) :
    received? (.double x) = if isFinite x = true then some (.double x) else none := by
  simp only [received?, value, tagged, value?, plain?, Json.ofDouble]
  cases isFinite x <;> simp [double?, Json.double?]

/-- An instant arrives as it is read from its written form of six places. -/
theorem received?_timestamp (t : Instant) :
    received? (.timestamp t) = (Instant.ofTimestamp? (t.timestamp (.places 6))).map .timestamp := by
  simp [received?, value, tagged, value?, plain?, Json.string?]

/-- A plain value that is `Exact` arrives as it was sent. -/
theorem received?_of_exact {v : FieldValue} (hplain : v.IsPlain) (h : Exact v) :
    received? v = some v := by
  cases v with
  | null => rfl
  | bool b => rfl
  | integer i => exact received?_integer h
  | double x =>
    have hfinite : isFinite x = true := h
    rw [received?_double, if_pos hfinite]
  | text s => rfl
  -- Only a double and a timestamp are ever written so that they are read otherwise, or not at all.
  | timestamp t =>
    obtain ⟨hyear, hclock, hmicro⟩ := h
    rw [received?_timestamp,
      (Instant.ofTimestamp?_timestamp_iff hyear hclock.nano_lt hmicro).mpr hclock, Option.map_some]
  | array items => exact hplain.elim
  | map fields => exact hplain.elim

/-- Of the plain values only the doubles without a numeral get lost. -/
theorem received?_eq_none_of_isPlain {v : FieldValue} (hplain : v.IsPlain) (h : Sendable v) :
    received? v = none ↔ IsNonFinite v := by
  cases v with
  | null => exact iff_of_false nofun id
  | bool b => exact iff_of_false nofun id
  | integer i => exact iff_of_false (by rw [received?_integer h]; nofun) id
  | double x =>
    rw [received?_double, IsNonFinite]
    cases isFinite x <;> simp
  | text s => exact iff_of_false nofun id
  | timestamp t =>
    obtain ⟨t', ht'⟩ := Option.isSome_iff_exists.mp
      (Instant.isSome_ofTimestamp?_timestamp h.1 h.2)
    exact iff_of_false (by rw [received?_timestamp, ht']; nofun) id
  | array items => exact hplain.elim
  | map fields => exact hplain.elim

/-- No plain value arrives as an array or a map. -/
theorem isPlain_of_received? {v w : FieldValue} (hplain : v.IsPlain) (h : received? v = some w) :
    w.IsPlain := by
  cases v with
  | null => cases h; trivial
  | bool b => cases h; trivial
  -- What is written for a plain value is read as the same kind of value, if it is read.
  | integer i =>
    simp only [received?, value, tagged, value?, plain?, integer?] at h
    obtain ⟨i', -, rfl⟩ := Option.map_eq_some_iff.mp h
    trivial
  | double x =>
    rw [received?_double] at h
    split at h
    · cases h; trivial
    · cases h
  | text s => cases h; trivial
  | timestamp t =>
    rw [received?_timestamp] at h
    obtain ⟨t', -, rfl⟩ := Option.map_eq_some_iff.mp h
    trivial
  | array items => exact hplain.elim
  | map fields => exact hplain.elim

/-- Infinities and NaN are plain values. -/
theorem isPlain_of_isNonFinite {v : FieldValue} (h : IsNonFinite v) : v.IsPlain := by
  cases v <;> first | exact h.elim | trivial

/-- Arrays and maps always arrive, with what they hold or without it. -/
theorem received?_eq_none_iff {v : FieldValue} (h : Every Sendable v) :
    received? v = none ↔ IsNonFinite v := by
  cases h with
  | plain hplain hleaf => exact received?_eq_none_of_isPlain hplain hleaf
  | array hitems => exact iff_of_false (by rw [received?_array]; nofun) id
  | map hf hfields => exact iff_of_false (by rw [received?_map hf]; nofun) id

/-- A value arrives unless it is an infinity or NaN. -/
theorem isSome_received?_iff {v : FieldValue} (h : Every Sendable v) :
    (received? v).isSome = true ↔ ¬ IsNonFinite v := by
  rw [← received?_eq_none_iff h]
  exact Option.isSome_iff_ne_none

/-! ### Exact values -/

/-- A value all of whose parts are `Exact` arrives as it was sent. By induction on the value. -/
theorem received?_of_every_exact {v : FieldValue} (h : Every Exact v) : received? v = some v := by
  induction h with
  | plain hplain hleaf => exact received?_of_exact hplain hleaf
  | @array items hitems ih =>
    have hall : items.filterMap received? = items.map id :=
      List.filterMap_eq_map_iff_forall_eq_some.mpr ih
    rw [received?_array, hall, List.map_id]
  | @map f hf hfields ih =>
    have hall : f.filterMap receivedField? = f.map id :=
      List.filterMap_eq_map_iff_forall_eq_some.mpr fun e he => by
        rw [receivedField?, ih e he, Option.map_some, id]
    rw [received?_map hf, hall, List.map_id]

/-- What is exact is read back as it was written, a single value as well as the fields of a
document. -/
theorem fields_roundTrip :
    (∀ v, Every Exact v → value? (value v) = some v) ∧
      ∀ f : Fields, Every Exact (.map f) → (fields f).object?.map fields? = some f := by
  refine ⟨fun v h => received?_of_every_exact h, fun f h => ?_⟩
  have hmap := received?_of_every_exact h
  cases h with
  | plain hplain => exact hplain.elim
  | map hf hfields =>
    rw [received?_map hf] at hmap
    rw [fields, Json.object?, Option.map_some, fields?_members hf]
    injection hmap with hmap
    injection hmap with hmap
    rw [hmap]

/-- A map in a row in a document, beside the leap second at the end of 2016. -/
theorem fields_roundTrip_leapSecond :
    let rooms : FieldValue :=
      .array [.map [("load", .double (Float.ofBits 0x3FE0000000000000))], .integer (-7)]
    let f : Fields := [("at", .timestamp ⟨1483228799, 1500000000⟩), ("rooms", rooms)]
    Every Exact rooms ∧ value? (value rooms) = some rooms ∧
      Every Exact (.map f) ∧ (fields f).object?.map fields? = some f := by
  intro rooms f
  have hload : Every Exact (.map [("load", .double (Float.ofBits 0x3FE0000000000000))]) := by
    refine .map (List.pairwise_singleton _ _) (List.forall_mem_singleton.mpr (.plain trivial ?_))
    exact (by decide : isFinite (Float.ofBits 0x3FE0000000000000) = true)
  have hrooms : Every Exact rooms := by
    refine .array (List.forall_mem_cons.mpr ⟨hload, List.forall_mem_singleton.mpr ?_⟩)
    exact .plain trivial (by decide : minInt64 ≤ -7 ∧ (-7 : Int) ≤ maxInt64)
  -- The leap second is after second 59 of its minute, so a clock shows it.
  have hinstant : Every Exact (.timestamp ⟨1483228799, 1500000000⟩) :=
    .plain trivial (by decide :
      Instant.InWrittenYears ⟨1483228799, 1500000000⟩ ∧
        Instant.OnClock ⟨1483228799, 1500000000⟩ ∧ 1500000000 % 1000 = 0)
  have hf : Every Exact (.map f) := by
    refine .map ?_ (List.forall_mem_cons.mpr ⟨hinstant, List.forall_mem_singleton.mpr hrooms⟩)
    exact List.pairwise_pair.mpr (by decide : "at" < "rooms")
  exact ⟨hrooms, fields_roundTrip.1 rooms hrooms, hf, fields_roundTrip.2 f hf⟩

/-- A leap second can also be put after second 4 of a minute, where no clock shows one. It is
written as second 5, and that is what arrives. -/
theorem not_roundTrip_offMinuteEnd :
    ¬ ((∀ v : FieldValue,
          Every (fun x => Sendable x ∧ ¬ IsNonFinite x ∧
            ∀ t, x = .timestamp t → t.nano % 1000 = 0) v → value? (value v) = some v) ∧
        ∀ f : Fields,
          Every (fun x => Sendable x ∧ ¬ IsNonFinite x ∧
            ∀ t, x = .timestamp t → t.nano % 1000 = 0) (.map f) →
          (fields f).object?.map fields? = some f) := by
  rintro ⟨hvalues, -⟩
  -- A leap second after second 4 of a minute: a whole number of microseconds, in 2025.
  let t : Instant := ⟨1741132564, 1333333000⟩
  have hyear : t.InWrittenYears := by decide
  have hnano : t.nano < 2000000000 := by decide
  have hmicro : t.nano % 1000 = 0 := by decide
  have hkept := hvalues (.timestamp t)
    (.plain trivial ⟨⟨hyear, hnano⟩, id, fun u hu => FieldValue.timestamp.inj hu ▸ hmicro⟩)
  rw [show value? (value _) = _ from received?_timestamp t] at hkept
  obtain ⟨u, hu, hut⟩ := Option.map_eq_some_iff.mp hkept
  -- What is read back is the instant one second later, not in a leap second.
  cases hut
  exact absurd ((Instant.ofTimestamp?_timestamp_iff hyear hnano hmicro).mp hu) (by decide)

/-! ### Doubles without a numeral -/

/-- Of a row that arrives whole each item stands at its place. -/
theorem getElem?_filterMap_received? {items : List FieldValue}
    (h : ∀ v ∈ items, (received? v).isSome = true) (i : Nat) :
    (items.filterMap received?)[i]? = items[i]?.bind received? := by
  induction items generalizing i with
  | nil => rfl
  | cons v rest ih =>
    obtain ⟨w, hw⟩ := Option.isSome_iff_exists.mp (h v List.mem_cons_self)
    rw [List.filterMap_cons, hw]
    cases i with
    | zero => simp [hw]
    | succ i => simpa using ih (fun u hu => h u (List.mem_cons_of_mem v hu)) i

/-- If all fields arrive, the keys are those that were sent. -/
theorem map_fst_filterMap_receivedField? {f : Fields}
    (h : ∀ e ∈ f, (received? e.2).isSome = true) :
    (f.filterMap receivedField?).map Prod.fst = f.map Prod.fst := by
  induction f with
  | nil => rfl
  | cons e rest ih =>
    obtain ⟨w, hw⟩ := Option.isSome_iff_exists.mp (h e List.mem_cons_self)
    have hfield : receivedField? e = some (e.1, w) := by rw [receivedField?, hw, Option.map_some]
    rw [List.filterMap_cons, hfield, List.map_cons, List.map_cons,
      ih fun d hd => h d (List.mem_cons_of_mem e hd)]

/-- A field arrives if its value does. -/
theorem isSome_receivedField? (e : String × FieldValue) :
    (receivedField? e).isSome = (received? e.2).isSome := by
  rw [receivedField?, Option.isSome_map]

/-- An array keeps its length when all of its items arrive, and its parts keep theirs. In a
map a field that is left out takes no array along. -/
theorem sameLengths_received_iff {v : FieldValue} (h : Every Sendable v) {w : FieldValue}
    (hw : received? v = some w) : SameLengths v w ↔ ItemsAre (fun x => ¬ IsNonFinite x) v := by
  induction h generalizing w with
  | plain hplain =>
    exact iff_of_true (FieldValue.sameLengths_of_isPlain _ (isPlain_of_received? hplain hw))
      (FieldValue.itemsAre_of_isPlain hplain)
  | @array items hitems ih =>
    rw [received?_array] at hw
    cases hw
    have harrive : (items.filterMap received?).length = items.length ↔
        ∀ x ∈ items, ¬ IsNonFinite x := by
      rw [List.filterMap_length_eq_length]
      exact forall₂_congr fun x hx => isSome_received?_iff (hitems x hx)
    rw [FieldValue.sameLengths_array, FieldValue.itemsAre_array, harrive]
    -- Once no item is lost, each stands beside what has arrived of it.
    refine and_congr_right fun hfinite => ?_
    have hsome : ∀ x ∈ items, (received? x).isSome = true := fun x hx =>
      (isSome_received?_iff (hitems x hx)).mpr (hfinite x hx)
    constructor
    · intro hparts x hx
      obtain ⟨i, hi⟩ := List.getElem?_of_mem hx
      obtain ⟨y, hy⟩ := Option.isSome_iff_exists.mp (hsome x hx)
      refine (ih x hx hy).mp (hparts i x y hi ?_)
      rw [getElem?_filterMap_received? hsome, hi, Option.bind_some, hy]
    · intro hparts i x y hi hy
      have hx : x ∈ items := List.mem_of_getElem? hi
      rw [getElem?_filterMap_received? hsome, hi, Option.bind_some] at hy
      exact (ih x hx hy).mpr (hparts x hx)
  | @map f hf hfields ih =>
    rw [received?_map hf] at hw
    cases hw
    rw [FieldValue.itemsAre_map hf, FieldValue.sameLengths_map]
    · constructor
      · intro hparts e he
        cases hy : received? e.2 with
        | none =>
          -- A field that is left out is a double, and there is no array in it.
          have hlost : IsNonFinite e.2 := (received?_eq_none_iff (hfields e he)).mp hy
          exact FieldValue.itemsAre_of_isPlain (isPlain_of_isNonFinite hlost)
        | some y =>
          have hlook : Entries.lookup? e.1 f = some e.2 :=
            (Entries.lookup?_eq_some_iff hf).mpr he
          exact (ih e he hy).mp (hparts e.1 e.2 y hlook
            ((lookup?_filterMap_receivedField? hf).mpr ⟨e.2, hlook, hy⟩))
      · intro hparts key x y hx hy
        obtain ⟨x', hx', hreceived⟩ := (lookup?_filterMap_receivedField? hf).mp hy
        rw [hx] at hx'
        cases hx'
        have hmem : (key, x) ∈ f := (Entries.lookup?_eq_some_iff hf).mp hx
        exact (ih (key, x) hmem hreceived).mpr (hparts (key, x) hmem)
    · intro key y hy
      obtain ⟨x, hx, -⟩ := (lookup?_filterMap_receivedField? hf).mp hy
      exact ⟨x, hx⟩

/-- A document arrives with all of its keys, and with no array shortened, exactly when no field
of it and no item of an array in it is an infinity or NaN. -/
theorem keeps_all_iff {f : Fields} (h : Every Sendable (.map f)) :
    ((fields? (members f)).map Prod.fst = f.map Prod.fst ∧
        SameLengths (.map f) (.map (fields? (members f)))) ↔
      (∀ e ∈ f, ¬ IsNonFinite e.2) ∧ ItemsAre (fun x => ¬ IsNonFinite x) (.map f) := by
  cases h with
  | plain hplain => exact hplain.elim
  | map hf hfields =>
    rw [fields?_members hf, sameLengths_received_iff (.map hf hfields) (received?_map hf)]
    refine and_congr_left fun _ => ?_
    constructor
    · -- A field left out would leave fewer keys.
      intro hkeys e he
      have hlength : (f.filterMap receivedField?).length = f.length := by
        simpa using congrArg List.length hkeys
      have hsome := List.filterMap_length_eq_length.mp hlength e he
      rw [isSome_receivedField?] at hsome
      exact (isSome_received?_iff (hfields e he)).mp hsome
    · intro hfinite
      exact map_fst_filterMap_receivedField? fun e he =>
        (isSome_received?_iff (hfields e he)).mpr (hfinite e he)

/-- Inside a map the double is left out as well, but no array and no field of the document. -/
theorem keeps_all_iff_peakInMap :
    let f : Fields := [("history", .array [.null]), ("peak", .map [("load", .double infinity)])]
    Every Sendable (.map f) ∧ (fields? (members f)).map Prod.fst = f.map Prod.fst ∧
      SameLengths (.map f) (.map (fields? (members f))) := by
  intro f
  -- The double that is lost stands in a map, where no list gets shorter.
  have hload : Every Sendable (.map [("load", .double infinity)]) :=
    .map (List.pairwise_singleton _ _) (List.forall_mem_singleton.mpr (.plain trivial trivial))
  have hhistory : Every Sendable (.array [.null]) :=
    .array (List.forall_mem_singleton.mpr (.plain trivial trivial))
  have hascending : Entries.Ascending f :=
    List.pairwise_pair.mpr (by decide : "history" < "peak")
  have hf : Every Sendable (.map f) :=
    .map hascending (List.forall_mem_cons.mpr ⟨hhistory, List.forall_mem_singleton.mpr hload⟩)
  refine ⟨hf, (keeps_all_iff hf).mpr ⟨by simp [f, IsNonFinite], ?_⟩⟩
  rw [FieldValue.itemsAre_map hascending]
  refine List.forall_mem_cons.mpr ⟨?_, List.forall_mem_singleton.mpr ?_⟩
  · exact FieldValue.itemsAre_array.mpr ⟨List.forall_mem_singleton.mpr id,
      List.forall_mem_singleton.mpr (FieldValue.itemsAre_of_isPlain trivial)⟩
  · exact (FieldValue.itemsAre_map (List.pairwise_singleton _ _)).mpr
      (List.forall_mem_singleton.mpr (FieldValue.itemsAre_of_isPlain trivial))

/-- A document with NaN in a field and in a row can be stored, but comes back without the field
and with a shorter row. -/
theorem notANumber_not_kept :
    let f : Fields := [("history", .array [.double notANumber]), ("reading", .double notANumber)]
    Every Sendable (.map f) ∧ fields? (members f) = [("history", .array [])] ∧
      (fields? (members f)).map Prod.fst ≠ f.map Prod.fst ∧
      ¬ SameLengths (.map f) (.map (fields? (members f))) := by
  intro f
  have hf : Every Sendable (.map f) :=
    .map (List.pairwise_pair.mpr (by decide : "history" < "reading"))
      (List.forall_mem_cons.mpr ⟨.array (List.forall_mem_singleton.mpr (.plain trivial trivial)),
        List.forall_mem_singleton.mpr (.plain trivial trivial)⟩)
  have hreceived : fields? (members f) = [("history", .array [])] := rfl
  refine ⟨hf, hreceived, by rw [hreceived]; decide, fun hsame => ?_⟩
  -- The list under the first key had one item and has none.
  obtain ⟨items, hat, hlength⟩ := hsame [.key "history"] [] (by rw [hreceived]; rfl)
  cases hat
  cases hlength

end HomeEnergy.Wire
