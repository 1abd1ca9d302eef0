/-!
# `HomeEnergy.Proofs.Text.ByteOrder`: texts in the order of their bytes

Tables keep their keys in the order of their code points, while the order of a listing is told
in bytes. In UTF-8 the two are one: the encodings of two characters part at some byte, and the
smaller character has the smaller byte there (`codes_part`). Neither encoding is the beginning
of the other, so whatever follows does not matter.

* `lt_iff_bytes_lt`: texts compare as their UTF-8 bytes do.
-/

set_option autoImplicit false

namespace HomeEnergy.Text

/-- The UTF-8 form of a text. -/
def bytes (s : String) : List UInt8 := s.toUTF8.data.toList

/-- The UTF-8 form is put together character by character, by `String.utf8EncodeChar`. -/
theorem bytes_eq_flatMap (s : String) : bytes s = s.toList.flatMap String.utf8EncodeChar := by
  have h : s.toUTF8 = s.toList.utf8Encode := (String.utf8Encode_toList).symm
  unfold bytes
  rw [h, List.utf8Encode, List.data_toByteArray]

/-- The loop behind `ByteArray.toList` puts what is left of the array after what it has collected,
in reverse, so far. -/
theorem toList_loop_eq (a : ByteArray) (i : Nat) (done : List UInt8) :
    ByteArray.toList.loop a i done = done.reverse ++ a.data.toList.drop i := by
  fun_induction ByteArray.toList.loop a i done with
  | case1 i done hlt ih =>
    have hi : i < a.data.toList.length := by simpa using hlt
    have hget : a.get! i = a.data.toList[i] := by
      rw [ByteArray.get!, Array.getElem_toList]
      exact getElem!_pos a.data i hlt
    rw [ih, List.drop_eq_getElem_cons hi, hget]
    simp
  | case2 i done hge =>
    have hlength : a.data.toList.length ≤ i := by simpa using hge
    rw [List.drop_eq_nil_of_le hlength, List.append_nil]

/-- The two ways to list the bytes of a text, `ByteArray.toList` and `bytes`, agree. -/
theorem toList_toUTF8 (s : String) : s.toUTF8.toList = bytes s := by
  unfold bytes
  rw [ByteArray.toList, toList_loop_eq, List.reverse_nil, List.nil_append, List.drop_zero]

/-- Different texts have different bytes. -/
theorem bytes_inj {s t : String} (h : bytes s = bytes t) : s = t :=
  String.toByteArray_inj.mp (ByteArray.ext (Array.toList_inj.mp h))

/-! ### Lists that part -/

section Part

variable {α : Type} [LT α]

/-- Two lists begin alike and part before either ends, the first going on with the smaller
member. -/
inductive Part : List α → List α → Prop
  | here {x y : α} {xs ys : List α} (h : x < y) : Part (x :: xs) (y :: ys)
  | later {x y : α} {xs ys : List α} (h : x = y) (ht : Part xs ys) : Part (x :: xs) (y :: ys)

/-- Lists that `Part` go on to differ however they are continued: the order of the two is
settled. -/
theorem Part.append {xs ys : List α} (h : Part xs ys) (as bs : List α) :
    Part (xs ++ as) (ys ++ bs) := by
  induction h with
  | here h => exact .here h
  | later h _ ih => exact .later h ih

/-- A common beginning delays the place where two lists `Part`. -/
theorem Part.prepend {xs ys : List α} (as : List α) (h : Part xs ys) :
    Part (as ++ xs) (as ++ ys) := by
  induction as with
  | nil => exact h
  | cons a as ih => exact .later rfl ih

/-- The list with the smaller member comes first in the order of lists. -/
theorem Part.lt {xs ys : List α} (h : Part xs ys) : xs < ys := by
  induction h with
  | here h => exact List.Lex.rel h
  | later h _ ih =>
    subst h
    exact List.Lex.cons ih

/-- A map keeps `Part` if it is monotone on the members that occur. -/
theorem Part.map {β : Type} [LT β] {f : α → β} {xs ys : List α} (h : Part xs ys)
    (hf : ∀ x ∈ xs, ∀ y ∈ ys, x < y → f x < f y) : Part (xs.map f) (ys.map f) := by
  induction h with
  | here h => exact .here (hf _ List.mem_cons_self _ List.mem_cons_self h)
  | later h _ ih =>
    -- Equal members have equal images, so the two go on alike.
    subst h
    refine .later rfl (ih fun x hx y hy => ?_)
    exact hf x (List.mem_cons_of_mem _ hx) y (List.mem_cons_of_mem _ hy)

/-- Heads in order are enough when lists with the same head `Part` further on. -/
theorem Part.of_le {x y : Nat} {xs ys : List Nat} (h : x ≤ y) (ht : x = y → Part xs ys) :
    Part (x :: xs) (y :: ys) := by
  rcases Nat.lt_or_eq_of_le h with hlt | heq
  · exact .here hlt
  · exact .later heq (ht heq)

end Part

/-! ### Characters -/

/-- The bytes of a code point, as numbers. -/
def codes (v : Nat) : List Nat :=
  if v ≤ 127 then [v]
  else if v ≤ 2047 then [v / 64 % 32 + 192, v % 64 + 128]
  else if v ≤ 65535 then [v / 4096 % 16 + 224, v / 64 % 64 + 128, v % 64 + 128]
  else [v / 262144 % 8 + 240, v / 4096 % 64 + 128, v / 64 % 64 + 128, v % 64 + 128]

/-- The library's encoding of a character, as numbers: `codes` of its code point. -/
theorem utf8EncodeChar_eq_map (c : Char) :
    String.utf8EncodeChar c = (codes c.toNat).map UInt8.ofNat := by
  unfold String.utf8EncodeChar codes
  simp only [apply_ite (List.map UInt8.ofNat), List.map_cons, List.map_nil]
  rfl

/-- Each of the `codes` is a byte, for all code points that Unicode has. -/
theorem codes_lt (v : Nat) (hv : v < 1114112) : ∀ n ∈ codes v, n < 256 := by
  unfold codes
  split
  · intro n hn
    rw [List.mem_singleton.mp hn]
    omega
  · split
    · simp only [List.forall_mem_cons]
      exact ⟨by omega, by omega, nofun⟩
    · split
      · simp only [List.forall_mem_cons]
        exact ⟨by omega, by omega, by omega, nofun⟩
      · simp only [List.forall_mem_cons]
        exact ⟨by omega, by omega, by omega, by omega, nofun⟩

/-- Encodings of different lengths part at the first byte, which tells the length. Encodings of
one length hold the digits of the code point, the highest first. -/
theorem codes_part {v w : Nat} (hvw : v < w) (hw : w < 1114112) : Part (codes v) (codes w) := by
  unfold codes
  -- The larger code point takes at least as many bytes, so only the shorter lengths of `v` are
  -- left to compare with each length of `w`.
  by_cases hw1 : w ≤ 127
  · rw [if_pos (by omega : v ≤ 127), if_pos hw1]
    exact .here hvw
  rw [if_neg hw1]
  by_cases hw2 : w ≤ 2047
  · rw [if_pos hw2]
    split
    · exact .here (by omega)
    · rw [if_pos (by omega)]
      exact .of_le (by omega) fun hlead => .here (by omega)
  rw [if_neg hw2]
  by_cases hw3 : w ≤ 65535
  · rw [if_pos hw3]
    split
    · exact .here (by omega)
    · split
      · exact .here (by omega)
      · rw [if_pos (by omega)]
        exact .of_le (by omega) fun hlead => .of_le (by omega) fun hnext => .here (by omega)
  · rw [if_neg hw3]
    split
    · exact .here (by omega)
    · split
      · exact .here (by omega)
      · split
        · exact .here (by omega)
        · refine .of_le (by omega) fun hlead => .of_le (by omega) fun hnext => ?_
          exact .of_le (by omega) fun hlast => .here (by omega)

/-- The code of a character is below the end of Unicode. -/
theorem toNat_lt (c : Char) : c.toNat < 1114112 := by
  rcases c.valid with h | ⟨-, h⟩
  · exact Nat.lt_trans h (by decide)
  · exact h

/-- The encodings of two characters `Part` in the order of the characters. -/
theorem encode_part {c d : Char} (h : c < d) :
    Part (String.utf8EncodeChar c) (String.utf8EncodeChar d) := by
  have hc : c.toNat < 1114112 := toNat_lt c
  have hd : d.toNat < 1114112 := toNat_lt d
  rw [utf8EncodeChar_eq_map, utf8EncodeChar_eq_map]
  -- As numbers they part by `codes_part`; as bytes the numbers keep their order.
  refine (codes_part (Char.lt_def.mp h) hd).map fun x hx y hy hxy => ?_
  rw [UInt8.lt_iff_toNat_lt, UInt8.toNat_ofNat_of_lt' (codes_lt _ hc x hx),
    UInt8.toNat_ofNat_of_lt' (codes_lt _ hd y hy)]
  exact hxy

/-! ### Texts -/

/-- Lists of characters in order have encodings in order. -/
theorem flatMap_encode_lt {cs ds : List Char} (h : cs < ds) :
    cs.flatMap String.utf8EncodeChar < ds.flatMap String.utf8EncodeChar := by
  induction h with
  | nil =>
    -- Any character takes at least one byte, so the longer list goes on.
    rename_i d ds
    obtain ⟨x, xs, hx⟩ := List.exists_cons_of_ne_nil (String.utf8EncodeChar_ne_nil (c := d))
    rw [List.flatMap_cons, hx]
    exact List.Lex.nil
  | rel h =>
    rw [List.flatMap_cons, List.flatMap_cons]
    exact ((encode_part h).append _ _).lt
  | cons _ ih =>
    rw [List.flatMap_cons, List.flatMap_cons]
    exact List.append_left_lt ih

/-- Texts in order have bytes in order. -/
theorem bytes_lt {s t : String} (h : s < t) : bytes s < bytes t := by
  rw [bytes_eq_flatMap, bytes_eq_flatMap]
  exact flatMap_encode_lt (String.lt_iff.mp h)

/-- Texts compare as their UTF-8 bytes do, whichever way the comparison goes. -/
theorem lt_iff_bytes_lt {s t : String} : s < t ↔ bytes s < bytes t := by
  refine ⟨bytes_lt, fun h => Decidable.byContradiction fun hn => ?_⟩
  -- The order of texts is total, and the bytes follow it the other way too.
  by_cases hlt : t < s
  · exact List.lt_irrefl _ (List.lt_trans h (bytes_lt hlt))
  · obtain rfl := String.le_antisymm (String.not_lt.mp hlt) (String.not_lt.mp hn)
    exact List.lt_irrefl _ h

end HomeEnergy.Text
