import HomeEnergy.Proofs.Text.ByteOrder
import HomeEnergy.Remote.Address

/-!
# `HomeEnergy.Proofs.Remote.Percent`: what escaped text stands for

A percent sign and two hexadecimal digits stand for one byte, every other character for its
bytes in UTF-8. `unpercent` reads text so, the way a server does.

* `unpercent_flatMap_pathChar`: writing text into a path changes nothing in how it reads. A
  percent sign of the text is not escaped, so this holds of what the text reads as, and not of
  the text itself.
* `formText?_flatMap_formChar`, `formPairs?_form`: in a form every text is read back as it was,
  and every pair of texts.
-/

set_option autoImplicit false

namespace HomeEnergy.Address

open HomeEnergy.Text

/-! ### Reading escapes -/

/-- The number that a hexadecimal digit stands for. -/
def hexValue? (c : Char) : Option Nat :=
  let n := c.toNat
  if 48 ≤ n ∧ n ≤ 57 then some (n - 48)
  else if 65 ≤ n ∧ n ≤ 70 then some (n - 55)
  else if 97 ≤ n ∧ n ≤ 102 then some (n - 87)
  else none

/-- The byte of two hexadecimal digits at the front. -/
def hexByte? : List Char → Option UInt8
  | a :: b :: _ => do
    let high ← hexValue? a
    let low ← hexValue? b
    return UInt8.ofNat (16 * high + low)
  | _ => none

/-- The bytes that text with escapes stands for. A percent sign without digits is itself. -/
def unpercent : List Char → List UInt8
  | [] => []
  | '%' :: a :: b :: rest =>
    match hexByte? (a :: b :: rest) with
    | some byte => byte :: unpercent rest
    | none => String.utf8EncodeChar '%' ++ unpercent (a :: b :: rest)
  | c :: cs => String.utf8EncodeChar c ++ unpercent cs

/-- A percent sign with two hexadecimal digits stands somewhere in the text. -/
def holdsEscape : List Char → Bool
  | [] => false
  | c :: cs => (c == '%' && (hexByte? cs).isSome) || holdsEscape cs

/-- Text in UTF-8. -/
def encoded (cs : List Char) : List UInt8 := cs.flatMap String.utf8EncodeChar

/-- The bytes of a text are its characters `encoded`. -/
theorem bytes_eq_encoded (s : String) : bytes s = encoded s.toList := bytes_eq_flatMap s

/-- Characters are `encoded` one by one. -/
theorem encoded_cons (c : Char) (cs : List Char) :
    encoded (c :: cs) = String.utf8EncodeChar c ++ encoded cs := List.flatMap_cons

/-- Different characters are `encoded` differently. -/
theorem encoded_inj {cs ds : List Char} (h : encoded cs = encoded ds) : cs = ds := by
  refine String.ofList_injective (bytes_inj ?_)
  rw [bytes_eq_encoded, bytes_eq_encoded, String.toList_ofList, String.toList_ofList, h]

/-- A character that is no percent sign stands for its own bytes. -/
theorem unpercent_cons {c : Char} (h : c ≠ '%') (cs : List Char) :
    unpercent (c :: cs) = String.utf8EncodeChar c ++ unpercent cs := by
  rw [unpercent]
  rintro a b rest rfl
  exact absurd rfl h

/-- At a percent sign the two characters after it decide. -/
theorem unpercent_percent_cons (cs : List Char) :
    unpercent ('%' :: cs) = match hexByte? cs with
      | some byte => byte :: unpercent (cs.drop 2)
      | none => String.utf8EncodeChar '%' ++ unpercent cs := by
  match cs with
  | [] => rfl
  | [a] => rfl
  | a :: b :: rest =>
    rw [unpercent]
    rfl

/-- A percent sign before two digits stands, with them, for one byte. -/
theorem unpercent_escape {a b : Char} {rest : List Char} {byte : UInt8}
    (h : hexByte? (a :: b :: rest) = some byte) :
    unpercent ('%' :: a :: b :: rest) = byte :: unpercent rest := by
  rw [unpercent_percent_cons, h]
  rfl

/-- A percent sign that begins no escape stands for itself. -/
theorem unpercent_lone {cs : List Char} (h : hexByte? cs = none) :
    unpercent ('%' :: cs) = String.utf8EncodeChar '%' ++ unpercent cs := by
  rw [unpercent_percent_cons, h]

/-- Text is a row of escapes, of percent signs that begin none, and of other characters. -/
theorem escape_induction {P : List Char → Prop} (nil : P [])
    (escape : ∀ a b rest byte, hexByte? (a :: b :: rest) = some byte → P rest →
      P ('%' :: a :: b :: rest))
    (lone : ∀ cs, hexByte? cs = none → P cs → P ('%' :: cs))
    (other : ∀ c cs, c ≠ '%' → P cs → P (c :: cs)) (cs : List Char) : P cs := by
  fun_induction unpercent cs with
  | case1 => exact nil
  | case2 a b rest byte hbyte ih => exact escape a b rest byte hbyte ih
  | case3 a b rest hbyte ih => exact lone _ hbyte ih
  | case4 c cs hc ih =>
    by_cases hpercent : c = '%'
    · -- There is too little after this percent sign.
      subst hpercent
      refine lone cs ?_ ih
      match cs, hc with
      | [], _ => rfl
      | [_], _ => rfl
      | a :: b :: rest, hc => exact absurd rfl (hc a b rest rfl)
    · exact other c cs hpercent ih

/-! ### Escapes read back -/

/-- A digit is read as the number it was made of. -/
theorem hexValue?_hexDigit {n : Nat} (h : n < 16) : hexValue? (hexDigit n) = some n := by
  revert n
  decide

/-- An escape is read as its byte, whatever comes after it. -/
theorem unpercent_percentByte_append (b : UInt8) (cs : List Char) :
    unpercent (percentByte b ++ cs) = b :: unpercent cs := by
  have hb : b.toNat < 256 := b.toNat_lt_size
  -- A byte is below `16 * 16`, so both of its digits are, and they make it up again.
  have hbyte : hexByte? (hexDigit (b.toNat / 16) :: hexDigit (b.toNat % 16) :: cs) = some b := by
    simp only [hexByte?, hexValue?_hexDigit (by omega : b.toNat / 16 < 16),
      hexValue?_hexDigit (by omega : b.toNat % 16 < 16), Option.bind_eq_bind, Option.bind_some,
      Option.pure_def, Nat.div_add_mod, UInt8.ofNat_toNat]
  unfold percentByte
  rw [List.cons_append, List.cons_append, List.cons_append, List.nil_append,
    unpercent_percent_cons, hbyte]
  rfl

/-- A row of escapes is read byte by byte. -/
theorem unpercent_flatMap_percentByte (bs : List UInt8) (cs : List Char) :
    unpercent (bs.flatMap percentByte ++ cs) = bs ++ unpercent cs := by
  induction bs with
  | nil => rfl
  | cons b bs ih =>
    rw [List.flatMap_cons, List.append_assoc, unpercent_percentByte_append, ih, List.cons_append]

/-- A character is escaped byte by byte. -/
theorem percent_eq (c : Char) : percent c = (String.utf8EncodeChar c).flatMap percentByte := by
  unfold percent
  rw [toList_toUTF8, bytes_eq_flatMap, String.toList_singleton, List.flatMap_singleton]

/-- An escaped character is read as its own bytes. -/
theorem unpercent_percent_append (c : Char) (cs : List Char) :
    unpercent (percent c ++ cs) = String.utf8EncodeChar c ++ unpercent cs := by
  rw [percent_eq, unpercent_flatMap_percentByte]

/-! ### Text written into a path -/

/-- In a path a character is written as itself or escaped. -/
theorem pathChar_eq (c : Char) : pathChar c = [c] ∨ pathChar c = percent c := by
  unfold pathChar
  split
  · exact Or.inr rfl
  · exact Or.inl rfl

/-- Hexadecimal digits are ASCII. -/
theorem toNat_lt_of_hexValue? {c : Char} {n : Nat} (h : hexValue? c = some n) :
    c.toNat < 128 := by
  simp only [hexValue?] at h
  split at h
  · omega
  · split at h
    · omega
    · split at h
      · omega
      · cases h

/-- The digits stand for themselves in a path. -/
theorem pathChar_of_hexValue? {c : Char} {n : Nat} (h : hexValue? c = some n) :
    pathChar c = [c] := by
  have hall : ∀ m < 128, (hexValue? (Char.ofNat m)).isSome = true →
      pathChar (Char.ofNat m) = [Char.ofNat m] := by decide
  have hc := hall c.toNat (toNat_lt_of_hexValue? h)
  rw [Char.ofNat_toNat] at hc
  exact hc (by rw [h]; rfl)

/-- What is written for an escaped character begins with a percent sign. -/
theorem percent_eq_cons (c : Char) : ∃ cs, percent c = '%' :: cs := by
  obtain ⟨b, bs, hb⟩ := List.exists_cons_of_ne_nil (String.utf8EncodeChar_ne_nil (c := c))
  exact ⟨_, by rw [percent_eq, hb]; rfl⟩

/-- The digit at the front, if there is one. -/
def firstHex? (cs : List Char) : Option Nat := cs.head?.bind hexValue?

/-- The byte at the front comes of the digit there and of the one after it. -/
theorem hexByte?_eq (cs : List Char) : hexByte? cs = (firstHex? cs).bind fun high =>
    (firstHex? cs.tail).map fun low => UInt8.ofNat (16 * high + low) := by
  match cs with
  | [] => rfl
  | [a] =>
    show none = (hexValue? a).bind fun _ => none
    cases hexValue? a <;> rfl
  | a :: b :: rest =>
    show (hexValue? a).bind _ = (hexValue? a).bind fun _ => (hexValue? b).map _
    cases hexValue? a with
    | none => rfl
    | some high => cases h : hexValue? b <;> rfl

/-- No digit comes to the front of what is written, and one that is there stays. -/
theorem firstHex?_flatMap_pathChar (cs : List Char) :
    firstHex? (cs.flatMap pathChar) = firstHex? cs := by
  cases cs with
  | nil => rfl
  | cons c cs =>
    rw [List.flatMap_cons]
    rcases pathChar_eq c with h | h
    · rw [h]
      rfl
    · obtain ⟨ds, hds⟩ := percent_eq_cons c
      -- What is escaped is no hexadecimal digit, and no more is the percent sign in its place.
      have hnone : hexValue? c = none := by
        cases hc : hexValue? c with
        | none => rfl
        | some n =>
          rw [pathChar_of_hexValue? hc, hds] at h
          obtain rfl : c = '%' := (List.cons.inj h).1
          cases hc
      rw [h, hds]
      exact hnone.symm

/-- Writing text into a path neither makes nor breaks an escape at its front. -/
theorem hexByte?_flatMap_pathChar (cs : List Char) :
    hexByte? (cs.flatMap pathChar) = hexByte? cs := by
  rw [hexByte?_eq, hexByte?_eq, firstHex?_flatMap_pathChar]
  cases cs with
  | nil => rfl
  | cons c cs =>
    cases hc : hexValue? c with
    | none => simp [firstHex?, hc]
    | some n =>
      -- The first digit is written as itself, so the second one comes right after it.
      rw [List.flatMap_cons, pathChar_of_hexValue? hc, List.singleton_append, List.tail_cons,
        List.tail_cons, firstHex?_flatMap_pathChar]

/-- Both digits of an escape stand for themselves in a path. -/
theorem pathChar_of_hexByte? {a b : Char} {rest : List Char} {byte : UInt8}
    (h : hexByte? (a :: b :: rest) = some byte) : pathChar a = [a] ∧ pathChar b = [b] := by
  obtain ⟨high, hhigh, hlow⟩ := Option.bind_eq_some_iff.mp h
  obtain ⟨low, hlow, -⟩ := Option.bind_eq_some_iff.mp hlow
  exact ⟨pathChar_of_hexValue? hhigh, pathChar_of_hexValue? hlow⟩

/-- A percent sign is not escaped in a path. -/
theorem pathChar_percent : pathChar '%' = ['%'] := by decide

/-- Text written into a path is read as the text would be: percent signs are not escaped, so its
escapes are escapes still. -/
theorem unpercent_flatMap_pathChar (cs : List Char) :
    unpercent (cs.flatMap pathChar) = unpercent cs := by
  induction cs using escape_induction with
  | nil => rfl
  | escape a b rest byte hbyte ih =>
    -- Both digits stand for themselves, so this is the same escape.
    obtain ⟨ha, hb⟩ := pathChar_of_hexByte? hbyte
    have hbyte' : hexByte? (a :: b :: rest.flatMap pathChar) = some byte := hbyte
    have hwritten : ('%' :: a :: b :: rest).flatMap pathChar
        = '%' :: a :: b :: rest.flatMap pathChar := by
      simp only [List.flatMap_cons, pathChar_percent, ha, hb, List.singleton_append]
    rw [hwritten, unpercent_escape hbyte', unpercent_escape hbyte, ih]
  | lone cs hlone ih =>
    -- What is written after the percent sign begins with no more digits than the text did.
    rw [List.flatMap_cons, pathChar_percent, List.singleton_append,
      unpercent_lone ((hexByte?_flatMap_pathChar cs).trans hlone), unpercent_lone hlone, ih]
  | other c cs hc ih =>
    rw [List.flatMap_cons, unpercent_cons hc]
    rcases pathChar_eq c with h | h
    · rw [h, List.singleton_append, unpercent_cons hc, ih]
    · rw [h, unpercent_percent_append, ih]

/-! ### Text without escapes -/

/-- A slash is no digit, so what comes behind it makes no escape. -/
theorem hexByte?_append_slash (cs ds : List Char) :
    hexByte? (cs ++ '/' :: ds) = hexByte? cs := by
  have hslash : firstHex? ('/' :: ds) = none := rfl
  match cs with
  | [] => rw [List.nil_append, hexByte?_eq, hslash]; rfl
  | [a] =>
    rw [hexByte?_eq, hexByte?_eq]
    show (hexValue? a).bind (fun high => (firstHex? ('/' :: ds)).map _) = _
    rw [hslash]
    rfl
  | a :: b :: rest => rfl

/-- No escape goes over a slash. -/
theorem unpercent_append_slash (cs ds : List Char) :
    unpercent (cs ++ '/' :: ds) = unpercent cs ++ unpercent ('/' :: ds) := by
  induction cs using escape_induction with
  | nil => rfl
  | escape a b rest byte hbyte ih =>
    have hbyte' : hexByte? (a :: b :: (rest ++ '/' :: ds)) = some byte := hbyte
    show unpercent ('%' :: a :: b :: (rest ++ '/' :: ds)) = _
    rw [unpercent_escape hbyte', unpercent_escape hbyte, ih, List.cons_append]
  | lone cs hlone ih =>
    rw [List.cons_append, unpercent_lone ((hexByte?_append_slash cs ds).trans hlone),
      unpercent_lone hlone, ih, List.append_assoc]
  | other c cs hc ih =>
    rw [List.cons_append, unpercent_cons hc, unpercent_cons hc, ih, List.append_assoc]

/-- An escape stands before a slash or behind it. -/
theorem holdsEscape_append_slash (cs ds : List Char) :
    holdsEscape (cs ++ '/' :: ds) = (holdsEscape cs || holdsEscape ds) := by
  induction cs with
  | nil => rfl
  | cons c cs ih =>
    rw [List.cons_append, holdsEscape, holdsEscape, hexByte?_append_slash, ih, Bool.or_assoc]

/-- No text is read as more bytes than it takes. -/
theorem length_unpercent_le (cs : List Char) :
    (unpercent cs).length ≤ (encoded cs).length := by
  induction cs using escape_induction with
  | nil => exact Nat.le_refl _
  | escape a b rest byte hbyte ih =>
    rw [unpercent_escape hbyte, encoded_cons, encoded_cons, encoded_cons]
    have hpercent : (String.utf8EncodeChar '%').length = 1 := rfl
    simp only [List.length_cons, List.length_append]
    omega
  | lone cs hlone ih =>
    rw [unpercent_lone hlone, encoded_cons, List.length_append, List.length_append]
    omega
  | other c cs hc ih =>
    rw [unpercent_cons hc, encoded_cons, List.length_append, List.length_append]
    omega

/-- An escape takes three bytes and stands for one. -/
theorem length_unpercent_lt {cs : List Char} (h : holdsEscape cs = true) :
    (unpercent cs).length < (encoded cs).length := by
  induction cs using escape_induction with
  | nil => cases h
  | escape a b rest byte hbyte ih =>
    -- Here is the escape: one byte is read where the text takes at least three.
    have hrest := length_unpercent_le rest
    have hpercent : (String.utf8EncodeChar '%').length = 1 := rfl
    have ha : 0 < (String.utf8EncodeChar a).length :=
      List.length_pos_iff.mpr String.utf8EncodeChar_ne_nil
    rw [unpercent_escape hbyte, encoded_cons, encoded_cons, encoded_cons]
    simp only [List.length_cons, List.length_append]
    omega
  | lone cs hlone ih =>
    -- The escape is one of those to come, as in the next case.
    rw [holdsEscape, hlone, Option.isSome_none, Bool.and_false, Bool.false_or] at h
    have hrest := ih h
    rw [unpercent_lone hlone, encoded_cons, List.length_append, List.length_append]
    omega
  | other c cs hc ih =>
    rw [holdsEscape, beq_false_of_ne hc, Bool.false_and, Bool.false_or] at h
    have hrest := ih h
    rw [unpercent_cons hc, encoded_cons, List.length_append, List.length_append]
    omega

/-- Text without escapes is read as its own bytes. -/
theorem unpercent_of_not_holdsEscape {cs : List Char} (h : holdsEscape cs = false) :
    unpercent cs = encoded cs := by
  induction cs with
  | nil => rfl
  | cons c cs ih =>
    rw [holdsEscape, Bool.or_eq_false_iff] at h
    obtain ⟨hhere, hlater⟩ := h
    by_cases hc : c = '%'
    · subst hc
      have hlone : hexByte? cs = none := by simpa using hhere
      rw [unpercent_lone hlone, encoded_cons, ih hlater]
    · rw [unpercent_cons hc, encoded_cons, ih hlater]

/-! ### Separators -/

/-- No digit is a mark of a target or of a form. -/
theorem hexDigit_not_mark {n : Nat} (h : n < 16) :
    hexDigit n ∉ ['?', '&', '=', '/', '+', '#'] := by
  revert n
  decide

/-- Escapes have no marks in them. -/
theorem not_mark_of_mem_percent {c d : Char} (h : d ∈ percent c) :
    d ∉ ['?', '&', '=', '/', '+', '#'] := by
  rw [percent_eq, List.mem_flatMap] at h
  obtain ⟨b, -, hd⟩ := h
  have hb : b.toNat < 256 := b.toNat_lt_size
  simp only [percentByte, List.mem_cons, List.not_mem_nil, or_false] at hd
  rcases hd with rfl | rfl | rfl
  · decide
  · exact hexDigit_not_mark (by omega)
  · exact hexDigit_not_mark (by omega)

/-- No question mark is written into a path as itself. -/
theorem query_not_mem_pathChar (c : Char) : '?' ∉ pathChar c := by
  unfold pathChar
  split
  · exact fun h => not_mark_of_mem_percent h (by decide)
  · rename_i hc
    intro h
    rw [List.mem_singleton] at h
    subst h
    exact hc (by decide)

/-! ### Forms -/

/-- A blank is written as a plus sign in a form. -/
def unplus (c : Char) : Char := if c = '+' then ' ' else c

/-- The text that stands in a form. -/
def formText? (cs : List Char) : Option String :=
  String.fromUTF8? (unpercent (cs.map unplus)).toByteArray

/-- A name and its value in a form, parted by the first equals sign. -/
def formPair? (cs : List Char) : Option (String × String) := do
  let name ← formText? (cs.takeWhile (· ≠ '='))
  let value ← formText? ((cs.dropWhile (· ≠ '=')).drop 1)
  return (name, value)

/-- The pairs of a form. -/
def formPairs? (cs : List Char) : Option (List (String × String)) :=
  ((splitWhere (· == '&') cs).filter fun piece => !piece.isEmpty).mapM formPair?

/-- Characters are read back from their bytes. -/
theorem fromUTF8?_encoded (s : String) :
    String.fromUTF8? (encoded s.toList).toByteArray = some s := by
  have hbytes : (encoded s.toList).toByteArray = s.toByteArray := String.utf8Encode_toList
  rw [hbytes, String.fromUTF8?, dif_pos s.isValidUTF8]
  rfl

/-- A character that stands for itself in a form is neither a mark of forms nor of escapes. -/
theorem formChar_eq (c : Char) : (formChar c = [c] ∧ c ∉ ['+', '%', '&', '=']) ∨
    (c = ' ' ∧ formChar c = ['+']) ∨ formChar c = percent c := by
  simp only [formChar]
  split
  · rename_i hc
    -- None of the four is a letter, a digit or one of the marks that stay.
    refine Or.inl ⟨rfl, fun hmark => ?_⟩
    simp only [List.mem_cons, List.not_mem_nil, or_false] at hmark
    rcases hmark with rfl | rfl | rfl | rfl <;> exact absurd hc (by decide)
  · split
    · rename_i hblank
      exact Or.inr (Or.inl ⟨hblank, rfl⟩)
    · exact Or.inr (Or.inr rfl)

/-- Escapes have no plus sign in them, so they are kept by `unplus`. -/
theorem map_unplus_percent (c : Char) : (percent c).map unplus = percent c := by
  refine (List.map_congr_left fun d hd => ?_).trans (List.map_id _)
  refine if_neg ?_
  rintro rfl
  exact not_mark_of_mem_percent hd (by decide)

/-- What a form has for a character is read as its bytes. -/
theorem unpercent_formChar_append (c : Char) (cs : List Char) :
    unpercent ((formChar c).map unplus ++ cs) = String.utf8EncodeChar c ++ unpercent cs := by
  rcases formChar_eq c with ⟨h, hmark⟩ | ⟨rfl, h⟩ | h
  · simp only [List.mem_cons, List.not_mem_nil, or_false, not_or] at hmark
    obtain ⟨hplus, hpercent, -⟩ := hmark
    rw [h, List.map_singleton, unplus, if_neg hplus, List.singleton_append,
      unpercent_cons hpercent]
  · -- The plus sign becomes the blank again before any escape is read.
    rw [h]
    exact unpercent_cons (by decide) cs
  · rw [h, map_unplus_percent, unpercent_percent_append]

/-- What a form has for a text is read as its bytes. -/
theorem unpercent_flatMap_formChar (cs : List Char) :
    unpercent ((cs.flatMap formChar).map unplus) = encoded cs := by
  induction cs with
  | nil => rfl
  | cons c cs ih =>
    rw [List.flatMap_cons, List.map_append, unpercent_formChar_append, ih, encoded_cons]

/-- A text is read back from a form. -/
theorem formText?_flatMap_formChar (s : String) :
    formText? (s.toList.flatMap formChar) = some s := by
  rw [formText?, unpercent_flatMap_formChar, fromUTF8?_encoded]

/-- A form has no separator in what it writes for a character. -/
theorem not_separator_of_mem_formChar {c d : Char} (h : d ∈ formChar c) : d ≠ '&' ∧ d ≠ '=' := by
  rcases formChar_eq c with ⟨hc, hmark⟩ | ⟨-, hc⟩ | hc
  · rw [hc, List.mem_singleton] at h
    subst h
    simp only [List.mem_cons, List.not_mem_nil, or_false, not_or] at hmark
    exact hmark.2.2
  · rw [hc, List.mem_singleton] at h
    subst h
    decide
  · rw [hc] at h
    have hmark := not_mark_of_mem_percent h
    simp only [List.mem_cons, List.not_mem_nil, or_false, not_or] at hmark
    exact ⟨hmark.2.1, hmark.2.2.1⟩

/-- No equals sign is in a name or a value. -/
theorem equals_not_mem_flatMap_formChar (cs : List Char) : '=' ∉ cs.flatMap formChar := by
  intro h
  obtain ⟨c, -, hd⟩ := List.mem_flatMap.mp h
  exact (not_separator_of_mem_formChar hd).2 rfl

/-- No ampersand is in a pair. -/
theorem ampersand_not_mem_formPair (p : String × String) : '&' ∉ formPair p := by
  intro h
  unfold formPair at h
  rw [List.mem_append, List.mem_cons, List.mem_flatMap, List.mem_flatMap] at h
  rcases h with ⟨c, -, hd⟩ | heq | ⟨c, -, hd⟩
  · exact (not_separator_of_mem_formChar hd).1 rfl
  · exact absurd heq (by decide)
  · exact (not_separator_of_mem_formChar hd).1 rfl

/-- A pair is read back from a form: its first equals sign is the one between name and value. -/
theorem formPair?_formPair (p : String × String) : formPair? (formPair p) = some p := by
  have hname : ∀ d ∈ p.1.toList.flatMap formChar, decide (d ≠ '=') = true := by
    intro d hd
    refine decide_eq_true ?_
    rintro rfl
    exact equals_not_mem_flatMap_formChar _ hd
  have hbefore : (formPair p).takeWhile (· ≠ '=') = p.1.toList.flatMap formChar := by
    rw [formPair, List.takeWhile_append_of_pos hname, List.takeWhile_cons_of_neg (by decide),
      List.append_nil]
  have hafter : ((formPair p).dropWhile (· ≠ '=')).drop 1 = p.2.toList.flatMap formChar := by
    rw [formPair, List.dropWhile_append_of_pos hname, List.dropWhile_cons_of_neg (by decide)]
    rfl
  unfold formPair?
  rw [hbefore, hafter, formText?_flatMap_formChar, formText?_flatMap_formChar]
  rfl

/-- A form is read as the pairs that it was made of. -/
theorem formPairs?_form {pairs : List (String × String)} (h : pairs ≠ []) :
    formPairs? (form pairs) = some pairs := by
  have hsplit : splitWhere (· == '&') (form pairs) = pairs.map formPair := by
    rw [splitWhere_eq_splitOnP, ← List.splitOn_eq_splitOnP, form]
    refine List.splitOn_intercalate '&' ?_ (by simpa using h)
    intro piece hpiece
    obtain ⟨p, -, rfl⟩ := List.mem_map.mp hpiece
    exact ampersand_not_mem_formPair p
  have hfilled : ∀ piece ∈ pairs.map formPair, (!piece.isEmpty) = true := by
    intro piece hpiece
    obtain ⟨p, -, rfl⟩ := List.mem_map.mp hpiece
    simp [formPair]
  rw [formPairs?, hsplit, List.filter_eq_self.mpr hfilled]
  -- The pieces are read one by one; how they were found does not matter for that.
  clear h hsplit hfilled
  induction pairs with
  | nil => rfl
  | cons p rest ih =>
    rw [List.map_cons, List.mapM_cons, formPair?_formPair, ih]
    rfl

end HomeEnergy.Address
