import HomeEnergy.Json.Pretty
import HomeEnergy.Json.Reader
import HomeEnergy.Proofs.Remote.Percent
import Mathlib.Tactic.SplitIfs

/-!
# `HomeEnergy.Proofs.Json.Pretty`: written settings are read back

`Scan.Reads` says what a scan takes off the front of the bytes and what it leaves, and `bind`
puts two such facts together. So each piece of the written form has one fact, whatever comes
after it: a character in quotation marks, a text, a literal, a member, the members.

* `reads_string`: a text in quotation marks is read back, whatever its characters are.
* `reads_members`: so are members of an object, each on its line.
* `read?_pretty`: so is a whole object of literals.
-/

set_option autoImplicit false

namespace HomeEnergy.Json

open HomeEnergy.Address (encoded encoded_cons fromUTF8?_encoded bytes_eq_encoded)
open HomeEnergy.Text (toList_toUTF8 utf8EncodeChar_eq_map codes codes_lt toNat_lt)

/-- The value that a literal is. -/
def Literal.json : Literal → Json
  | .bool b => .bool b
  | .text s => .string s

namespace Scan

variable {α β : Type} {s : Scan α} {f : α → Scan β} {a : α} {b : β} {bytes rest rest' : List UInt8}

/-- The scan takes a value off the front of the bytes and leaves the rest. -/
def Reads (s : Scan α) (bytes : List UInt8) (a : α) (rest : List UInt8) : Prop :=
  s.run.run bytes = (some a, rest)

/-- A value that is only returned takes no bytes. -/
theorem reads_pure (a : α) (bytes : List UInt8) : Reads (pure a) bytes a bytes := rfl

/-- What comes next reads what the scan before it has left. -/
theorem Reads.bind (hs : Reads s bytes a rest) (hf : Reads (f a) rest b rest') :
    Reads (s >>= f) bytes b rest' := by
  unfold Reads at *
  rw [OptionT.run_bind, Option.elimM, StateT.run_bind, hs]
  exact hf

/-- What is made of the value afterwards takes no bytes. -/
theorem Reads.map (g : α → β) (hs : Reads s bytes a rest) :
    Reads (s >>= fun a => pure (g a)) bytes (g a) rest :=
  hs.bind (reads_pure _ _)

/-- To look at all that is left takes nothing. -/
theorem reads_get (bytes : List UInt8) : Reads get bytes bytes bytes := rfl

/-- A value that is there is found without reading. -/
theorem reads_given (a : α) (bytes : List UInt8) : Reads (given (some a)) bytes a bytes := rfl

/-- The first byte is taken off. -/
theorem reads_next (b : UInt8) (rest : List UInt8) : Reads next (b :: rest) b rest := rfl

/-- The first byte is passed over. -/
theorem reads_advance (b : UInt8) (rest : List UInt8) : Reads advance (b :: rest) () rest := rfl

/-- Blanks are taken off, and the byte after them is only looked at. -/
theorem reads_peekAfterBlanks (blanks : List UInt8) (hblanks : blanks.all isBlank = true)
    {b : UInt8} (hb : isBlank b = false) (rest : List UInt8) :
    Reads peekAfterBlanks (blanks ++ b :: rest) (some b) (b :: rest) := by
  have hdrop : (blanks ++ b :: rest).dropWhile isBlank = b :: rest := by
    rw [List.dropWhile_append_of_pos (List.all_eq_true.mp hblanks),
      List.dropWhile_cons_of_neg (by simp [hb])]
  show (some ((blanks ++ b :: rest).dropWhile isBlank).head?,
    (blanks ++ b :: rest).dropWhile isBlank) = _
  rw [hdrop]
  rfl

/-- A word is taken off letter by letter. -/
theorem reads_word (cs : List Char) (rest : List UInt8) :
    Reads (word cs) (cs.map byte ++ rest) () rest := by
  induction cs with
  | nil => rfl
  | cons c cs ih =>
    refine (reads_next (byte c) _).bind ?_
    rw [if_pos rfl]
    exact ih

/-! ### Characters in quotation marks -/

/-- A byte that stands for itself in quotation marks. -/
def IsPlain (b : UInt8) : Prop := b ≠ byte '"' ∧ b ≠ byte '\\' ∧ ¬b < 0x20

/-- Bytes that stand for themselves are collected, one step of fuel for each. -/
theorem Reads.stringBytes_plain {fuel : Nat} {done read plain : List UInt8}
    (hplain : ∀ b ∈ plain, IsPlain b)
    (h : Reads (stringBytes fuel (plain.reverse ++ done)) bytes read rest) :
    Reads (stringBytes (fuel + plain.length) done) (plain ++ bytes) read rest := by
  induction plain generalizing done with
  | nil => exact h
  | cons b plain ih =>
    -- The byte is none of the three that the reader treats in another way.
    obtain ⟨⟨hquote, hescape, hcontrol⟩, hplain'⟩ := List.forall_mem_cons.mp hplain
    have hrest : Reads (stringBytes (fuel + plain.length) (b :: done)) (plain ++ bytes) read rest :=
      ih hplain' (by simpa using h)
    refine (reads_next b _).bind ?_
    rw [if_neg hquote, if_neg hescape, if_neg hcontrol]
    exact hrest

/-- A backslash and what follows it are collected as the bytes that they stand for, in one step. -/
theorem Reads.stringBytes_escape {fuel : Nat} {done read part : List UInt8}
    (hescape : Reads escape bytes part rest')
    (h : Reads (stringBytes fuel (part.reverse ++ done)) rest' read rest) :
    Reads (stringBytes (fuel + 1) done) (byte '\\' :: bytes) read rest := by
  refine (reads_next _ _).bind ?_
  rw [if_neg (by decide), if_pos rfl]
  exact hescape.bind h

/-! What the writer makes of a character. -/

/-- An ASCII character is one byte. -/
theorem encode_ascii {c : Char} (h : c.toNat < 128) : String.utf8EncodeChar c = [byte c] := by
  rw [utf8EncodeChar_eq_map, codes, if_pos (by omega)]
  rfl

/-- A text of ASCII characters has one byte for each. -/
theorem encoded_ascii (cs : List Char) (h : cs.all (·.toNat < 128) = true) :
    encoded cs = cs.map byte := by
  induction cs with
  | nil => rfl
  | cons c cs ih =>
    rw [List.all_cons, Bool.and_eq_true, decide_eq_true_eq] at h
    rw [encoded_cons, encode_ascii h.1, ih h.2]
    rfl

/-- A number from 32 on is a byte that stands for itself, unless it is the quotation mark's or the
backslash's. -/
theorem isPlain_ofNat {n : Nat} (hn : n < 256) (hquote : n ≠ 34) (hescape : n ≠ 92)
    (hcontrol : 32 ≤ n) : IsPlain (UInt8.ofNat n) := by
  have hvalue : (UInt8.ofNat n).toNat = n := UInt8.toNat_ofNat_of_lt' hn
  refine ⟨fun h => hquote ?_, fun h => hescape ?_, fun h => ?_⟩
  · rw [← hvalue, h]
    rfl
  · rw [← hvalue, h]
    rfl
  · have hlt : (UInt8.ofNat n).toNat < 32 := UInt8.lt_iff_toNat_lt.mp h
    omega

/-- A character of more than one byte has only bytes of 128 and more. -/
theorem mem_codes {v n : Nat} (h : n ∈ codes v) : v = n ∨ 128 ≤ n := by
  unfold codes at h
  split at h
  · exact Or.inl (List.mem_singleton.mp h).symm
  · right
    split at h
    · simp only [List.mem_cons, List.not_mem_nil, or_false] at h
      omega
    · split at h <;>
      · simp only [List.mem_cons, List.not_mem_nil, or_false] at h
        omega

/-- A character that is written as it is has only bytes that stand for themselves, also when it has
several. -/
theorem isPlain_of_mem_encode {c : Char} (hquote : c ≠ '"') (hescape : c ≠ '\\')
    (hcontrol : 32 ≤ c.toNat) : ∀ b ∈ String.utf8EncodeChar c, IsPlain b := by
  intro b hb
  rw [utf8EncodeChar_eq_map] at hb
  obtain ⟨n, hn, rfl⟩ := List.mem_map.mp hb
  have hlt : n < 256 := codes_lt _ (toNat_lt c) n hn
  -- One byte is the character's own code. Of several, each is 128 or more.
  rcases mem_codes hn with hself | hhigh
  · have hne (d : Char) (hd : c ≠ d) : n ≠ d.toNat := fun h =>
      hd (Char.toNat_inj.mp (hself.trans h))
    exact isPlain_ofNat hlt (hne '"' hquote) (hne '\\' hescape) (hself ▸ hcontrol)
  · exact isPlain_ofNat hlt (by omega) (by omega) (by omega)

/-- An escape by a letter, such as `n`, is read as the byte that the letter stands for. -/
theorem reads_escape_letter {letter c : Char} (hu : byte letter ≠ byte 'u')
    (h : escape? (byte letter) = some (byte c)) (rest : List UInt8) :
    Reads escape (byte letter :: rest) [byte c] rest := by
  refine (reads_next _ _).bind ?_
  rw [if_neg hu, h]
  exact (reads_given _ _).map fun b => [b]

/-- The digits of a control character. -/
def controlDigits (n : Nat) : List Char :=
  ['0', '0', Nat.digitChar (n / 16), Nat.digitChar (n % 16)]

/-- The four digits of a control character are ASCII characters. -/
theorem controlDigits_ascii : ∀ n < 32, (controlDigits n).all (·.toNat < 128) = true := by decide

/-- The four digits are read back as the number of the control character. There are 32 of these, so
all of them are tried. -/
theorem natural?_controlDigits : ∀ n < 32,
    Number.natural? 16 (chars ((controlDigits n).map byte)) = some n := by decide

/-- An escape by a number is read as the control character, which is no half of a surrogate pair. -/
theorem reads_escape_control {c : Char} (h : c.toNat < 32) (rest : List UInt8) :
    Reads escape (('u' :: controlDigits c.toNat).map byte ++ rest) (String.utf8EncodeChar c)
      rest := by
  -- A control character is no half of a pair, so one unit is enough.
  have hlow : isLowSurrogate c.toNat = false := by
    simp only [isLowSurrogate, Bool.and_eq_false_iff, decide_eq_false_iff_not]
    omega
  have hhigh : isHighSurrogate c.toNat = false := by
    simp only [isHighSurrogate, Bool.and_eq_false_iff, decide_eq_false_iff_not]
    omega
  have hunit : Reads unit ((controlDigits c.toNat).map byte ++ rest) c.toNat rest := by
    show (given (Number.natural? 16 (chars ((controlDigits c.toNat).map byte)))).run.run rest = _
    rw [natural?_controlDigits _ h]
    rfl
  refine (reads_next _ _).bind ?_
  rw [if_pos rfl]
  refine hunit.bind ?_
  rw [hlow, hhigh, Char.ofNat_toNat]
  exact reads_pure _ _

/-- A character is written as it is, by a letter, or by its number. -/
theorem escaped_eq (c : Char) : (escaped c = [c] ∧ c ≠ '"' ∧ c ≠ '\\' ∧ 32 ≤ c.toNat) ∨
    (∃ letter, escaped c = ['\\', letter] ∧ letter.toNat < 128 ∧ c.toNat < 128 ∧
      byte letter ≠ byte 'u' ∧ escape? (byte letter) = some (byte c)) ∨
    (escaped c = '\\' :: 'u' :: controlDigits c.toNat ∧ c.toNat < 32) := by
  unfold escaped
  -- Seven characters have a letter of their own; the other control characters are written by
  -- number.
  split_ifs with hquote hescape hnewline hreturn htab hback hfeed hcontrol
  · subst hquote
    exact Or.inr (Or.inl ⟨'"', by decide⟩)
  · subst hescape
    exact Or.inr (Or.inl ⟨'\\', by decide⟩)
  · subst hnewline
    exact Or.inr (Or.inl ⟨'n', by decide⟩)
  · subst hreturn
    exact Or.inr (Or.inl ⟨'r', by decide⟩)
  · subst htab
    exact Or.inr (Or.inl ⟨'t', by decide⟩)
  · obtain rfl : c = '\x08' := Char.toNat_inj.mp hback
    exact Or.inr (Or.inl ⟨'b', by decide⟩)
  · obtain rfl : c = '\x0c' := Char.toNat_inj.mp hfeed
    exact Or.inr (Or.inl ⟨'f', by decide⟩)
  · exact Or.inr (Or.inr ⟨rfl, hcontrol⟩)
  · exact Or.inl ⟨rfl, hquote, hescape, Nat.le_of_not_lt hcontrol⟩

/-- What stands for a character in quotation marks is read as the bytes of the character. It
takes at most one step a byte. -/
theorem reads_stringBytes_char (c : Char) : ∃ steps, steps ≤ (encoded (escaped c)).length ∧
    ∀ {fuel : Nat} {done bytes read rest : List UInt8},
      Reads (stringBytes fuel ((String.utf8EncodeChar c).reverse ++ done)) bytes read rest →
      Reads (stringBytes (fuel + steps) done) (encoded (escaped c) ++ bytes) read rest := by
  rcases escaped_eq c with ⟨heq, hquote, hescape, hcontrol⟩ | ⟨letter, heq, hletter, hc, hu, hb⟩ |
    ⟨heq, hc⟩
  · -- A plain character is read byte by byte.
    have henc : encoded (escaped c) = String.utf8EncodeChar c := by
      rw [heq, encoded_cons]
      exact List.append_nil _
    rw [henc]
    exact ⟨_, Nat.le_refl _, .stringBytes_plain (isPlain_of_mem_encode hquote hescape hcontrol)⟩
  · -- A character with a short escape is read in one step.
    have henc : encoded (escaped c) = [byte '\\', byte letter] := by
      rw [heq]
      exact encoded_ascii _ (by simpa using hletter)
    rw [henc, encode_ascii hc]
    exact ⟨1, by simp, .stringBytes_escape (reads_escape_letter hu hb _)⟩
  · -- Any other control character is read by its code, also in one step.
    have henc : encoded (escaped c) = byte '\\' :: ('u' :: controlDigits c.toNat).map byte := by
      rw [heq]
      refine encoded_ascii _ ?_
      rw [List.all_cons, List.all_cons, controlDigits_ascii _ hc]
      rfl
    rw [henc]
    exact ⟨1, by simp, .stringBytes_escape (reads_escape_control hc _)⟩

/-- Characters in quotation marks, up to the closing one. -/
theorem reads_stringBytes (cs : List Char) (fuel : Nat) (done rest : List UInt8)
    (hfuel : (encoded (cs.flatMap escaped)).length < fuel) :
    Reads (stringBytes fuel done) (encoded (cs.flatMap escaped) ++ byte '"' :: rest)
      (done.reverse ++ encoded cs) rest := by
  induction cs generalizing fuel done with
  | nil =>
    obtain ⟨fuel, rfl⟩ := Nat.exists_eq_add_of_lt hfuel
    refine (reads_next (byte '"') rest).bind ?_
    rw [if_pos rfl]
    simpa [encoded] using reads_pure done.reverse rest
  | cons c cs ih =>
    -- The fuel is counted in bytes, and the first character takes no more steps than it has bytes.
    obtain ⟨steps, hsteps, hchar⟩ := reads_stringBytes_char c
    have henc : encoded ((c :: cs).flatMap escaped)
        = encoded (escaped c) ++ encoded (cs.flatMap escaped) := by
      simp [encoded]
    rw [henc, List.length_append] at hfuel
    have hrest := ih (fuel - steps) ((String.utf8EncodeChar c).reverse ++ done) (by omega)
    have hread := hchar hrest
    rw [Nat.sub_add_cancel (by omega)] at hread
    rw [henc, encoded_cons, List.append_assoc]
    simpa using hread

/-- A text in quotation marks, after the first of them, is read back. -/
theorem reads_string (s : String) (rest : List UInt8) :
    Reads string (encoded (s.toList.flatMap escaped) ++ byte '"' :: rest) s rest := by
  refine (reads_get _).bind ?_
  have hbytes := reads_stringBytes s.toList
    (encoded (s.toList.flatMap escaped) ++ byte '"' :: rest).length [] rest (by simp)
  refine hbytes.bind ?_
  have htext : String.fromUTF8? ⟨(encoded s.toList).toArray⟩ = some s := by
    have hbytes : (⟨(encoded s.toList).toArray⟩ : ByteArray) = (encoded s.toList).toByteArray :=
      ByteArray.ext (List.data_toByteArray).symm
    rw [hbytes, fromUTF8?_encoded]
  simpa [htext] using reads_given s rest

/-! ### Members -/

/-- Encodings of texts are put together like the texts. -/
theorem encoded_append (cs ds : List Char) : encoded (cs ++ ds) = encoded cs ++ encoded ds :=
  List.flatMap_append

/-- A text in quotation marks, in bytes: the two marks, and its characters escaped between them. -/
theorem encoded_quoted (s : String) :
    encoded (quoted s) = byte '"' :: (encoded (s.toList.flatMap escaped) ++ [byte '"']) := by
  rw [quoted, List.cons_append, encoded_cons, encode_ascii (by decide), encoded_append,
    encoded_ascii ['"'] (by decide)]
  rfl

/-- A literal is read by its first byte, which is no blank and opens neither an array nor an
object. -/
theorem reads_scalar (l : Literal) (rest : List UInt8) :
    ∃ b, (encoded l.chars).head? = some b ∧ isBlank b = false ∧ b ≠ byte '[' ∧ b ≠ byte '\x7b' ∧
      Reads (scalar b) (encoded l.chars ++ rest) l.json rest := by
  cases l with
  -- The first byte tells what is to be read.
  | bool b =>
    cases b with
    | false =>
      refine ⟨byte 'f', by decide, by decide, by decide, by decide, ?_⟩
      exact (reads_word ['f', 'a', 'l', 's', 'e'] rest).bind (reads_pure _ _)
    | true =>
      refine ⟨byte 't', by decide, by decide, by decide, by decide, ?_⟩
      exact (reads_word ['t', 'r', 'u', 'e'] rest).bind (reads_pure _ _)
  | text s =>
    have henc : encoded (Literal.text s).chars = _ := encoded_quoted s
    refine ⟨byte '"', by rw [henc]; rfl, by decide, by decide, by decide, ?_⟩
    rw [henc, List.cons_append, List.append_assoc]
    refine (reads_advance _ _).bind ?_
    exact (reads_string s rest).map Json.string

/-- A literal after a blank is read as its value. -/
theorem reads_value (depth : Nat) (l : Literal) (rest : List UInt8) :
    Reads (value (depth + 1)) (byte ' ' :: encoded l.chars ++ rest) l.json rest := by
  obtain ⟨b, hhead, hblank, harray, hobject, hscalar⟩ := reads_scalar l rest
  obtain ⟨tail, htail⟩ := List.head?_eq_some_iff.mp hhead
  rw [htail] at hscalar ⊢
  refine (reads_peekAfterBlanks [byte ' '] (by decide) hblank (tail ++ rest)).bind ?_
  refine (reads_given b _).bind ?_
  rw [if_neg harray, if_neg hobject]
  exact hscalar

/-- A key is read after its quotation mark, up to the colon. -/
theorem reads_key (s : String) (rest : List UInt8) :
    Reads key (encoded (s.toList.flatMap escaped) ++ byte '"' :: byte ':' :: rest) s rest := by
  refine (reads_string s _).bind ?_
  refine (reads_peekAfterBlanks [] (by decide) (by decide) rest).bind ?_
  exact (reads_advance _ _).bind (reads_pure _ _)

/-- The members of an object as they are written; the first has no comma before it. -/
def membersText : Bool → List (String × Literal) → List Char
  | _, [] => []
  | true, m :: ms => prettyMember m ++ membersText false ms
  | false, m :: ms => ',' :: prettyMember m ++ membersText false ms

/-- The members with commas between them are `membersText`, which puts the comma in front of each
later one, as the reader meets it. -/
theorem intercalate_prettyMember (ms : List (String × Literal)) :
    List.intercalate [','] (ms.map prettyMember) = membersText true ms := by
  induction ms with
  | nil => rfl
  | cons m ms ih =>
    cases ms with
    | nil => simp [membersText]
    | cons m' ms =>
      rw [List.map_cons, List.map_cons, List.intercalate_cons_cons, ← List.map_cons, ih]
      simp [membersText]

/-- The bytes of a member after its opening quotation mark. -/
def memberBytes (m : String × Literal) : List UInt8 :=
  encoded (m.1.toList.flatMap escaped) ++ byte '"' :: byte ':' :: byte ' ' :: encoded m.2.chars

/-- A member begins on a new line, two blanks in, with a quotation mark. -/
theorem encoded_prettyMember (m : String × Literal) :
    encoded (prettyMember m) = [byte '\n', byte ' ', byte ' '] ++ byte '"' :: memberBytes m := by
  rw [prettyMember, encoded_append, encoded_append, encoded_append, encoded_quoted,
    encoded_ascii "\n  ".toList (by decide), encoded_ascii ": ".toList (by decide)]
  simp [memberBytes]

/-- The reader finds a first member behind the line break. -/
theorem reads_anotherMember_first (rest : List UInt8) :
    Reads (anotherMember true) ([byte '\n', byte ' ', byte ' '] ++ byte '"' :: rest) true rest := by
  refine (reads_peekAfterBlanks _ (by decide) (by decide) rest).bind ?_
  refine (reads_given _ _).bind ?_
  exact (reads_advance _ _).bind (reads_pure _ _)

/-- The reader finds a later member behind its comma and the line break. -/
theorem reads_anotherMember_later (rest : List UInt8) :
    Reads (anotherMember false)
      (byte ',' :: ([byte '\n', byte ' ', byte ' '] ++ byte '"' :: rest)) true rest := by
  refine (reads_peekAfterBlanks [] (by decide) (by decide) _).bind ?_
  refine (reads_given _ _).bind ?_
  refine (reads_advance _ _).bind ?_
  refine (reads_peekAfterBlanks _ (by decide) (by decide) rest).bind ?_
  exact (reads_advance _ _).bind (reads_pure _ _)

/-- The reader finds no more members where the brace closes the object. -/
theorem reads_anotherMember_none (first : Bool) (rest : List UInt8) :
    Reads (anotherMember first) (byte '\n' :: byte '\x7d' :: rest) false
      (byte '\x7d' :: rest) := by
  refine (reads_peekAfterBlanks [byte '\n'] (by decide) (by decide) rest).bind ?_
  refine (reads_given _ _).bind ?_
  exact reads_pure _ _

/-- A member after its opening quotation mark, and the members after it. -/
theorem reads_member {fuel depth : Nat} {m : String × Literal} {others : List (String × Json)}
    {first : Bool} (hmore : Reads (anotherMember first) bytes true (memberBytes m ++ rest))
    (hothers : Reads (members (fun _ => value (depth + 1)) fuel false) rest others rest') :
    Reads (members (fun _ => value (depth + 1)) (fuel + 1) first) bytes
      ((m.1, m.2.json) :: others) rest' := by
  refine hmore.bind ?_
  rw [if_pos rfl]
  have hbytes : memberBytes m ++ rest = encoded (m.1.toList.flatMap escaped) ++
      byte '"' :: byte ':' :: (byte ' ' :: encoded m.2.chars ++ rest) := by
    simp [memberBytes]
  rw [hbytes]
  exact (reads_key _ _).bind ((reads_value _ _ _).bind (hothers.map _))

/-- Members are read back, each on its line, up to the brace that closes the object. -/
theorem reads_members (depth : Nat) (ms : List (String × Literal)) (first : Bool) (fuel : Nat)
    (hfuel : ms.length < fuel) (rest : List UInt8) :
    Reads (members (fun _ => value (depth + 1)) fuel first)
      (encoded (membersText first ms) ++ byte '\n' :: byte '\x7d' :: rest)
      (ms.map fun m => (m.1, m.2.json)) (byte '\x7d' :: rest) := by
  induction ms generalizing first fuel with
  | nil =>
    -- Only the end of the object is left.
    obtain ⟨fuel, rfl⟩ := Nat.exists_eq_add_of_lt hfuel
    refine (reads_anotherMember_none first rest).bind ?_
    exact reads_pure _ _
  | cons m ms ih =>
    obtain ⟨fuel, rfl⟩ : ∃ k, fuel = k + 1 := ⟨fuel - 1, by omega⟩
    have hothers := ih false fuel (Nat.lt_of_succ_lt_succ hfuel)
    refine reads_member ?_ hothers
    cases first with
    -- The first member follows a line break, and each later one also a comma.
    | true =>
      rw [membersText, encoded_append, encoded_prettyMember]
      simpa using reads_anotherMember_first _
    | false =>
      rw [membersText, List.cons_append, encoded_cons, encode_ascii (by decide), encoded_append,
        encoded_prettyMember]
      simpa using reads_anotherMember_later _

/-- The closing brace is taken off. -/
theorem reads_endMembers (rest : List UInt8) :
    Reads endMembers (byte '\x7d' :: rest) () rest := by
  refine (reads_peekAfterBlanks [] (by decide) (by decide) rest).bind ?_
  exact reads_advance _ _

/-- What stands between two brackets is read if it is read and then the closing bracket is. -/
theorem Reads.enclosed {close : Scan Unit} (hbody : Reads s bytes a rest)
    (hclose : Reads close rest () rest') : Reads (enclosed s close) bytes a rest' := by
  have hbody' : Reads (attempt s) bytes (some a) rest := by
    rw [Reads, attempt_run, hbody]
  have hclose' : Reads (attempt close) rest (some ()) rest' := by
    rw [Reads, attempt_run, hclose]
  exact hbody'.bind (hclose'.bind (reads_pure _ _))

/-- There are no more members than bytes, so the bytes are fuel enough. -/
theorem length_le_length_membersText (first : Bool) (ms : List (String × Literal)) :
    ms.length ≤ (encoded (membersText first ms)).length := by
  induction ms generalizing first with
  | nil => exact Nat.zero_le _
  | cons m ms ih =>
    have hms := ih false
    cases first <;>
      simp only [membersText, List.cons_append, encoded_cons, encoded_append, encoded_prettyMember,
        List.length_append, List.length_cons] <;> omega

/-- An object is read back as it is written. -/
theorem reads_object (depth : Nat) (ms : List (String × Literal)) (rest : List UInt8) :
    Reads (value (depth + 2))
      (byte '\x7b' :: (encoded (membersText true ms) ++ byte '\n' :: byte '\x7d' :: rest))
      (.object (ms.map fun m => (m.1, m.2.json))) rest := by
  refine (reads_peekAfterBlanks [] (by decide) (by decide) _).bind ?_
  refine (reads_given _ _).bind ?_
  refine (reads_advance _ _).bind ?_
  have hlength := length_le_length_membersText true ms
  have hmembers := reads_members depth ms true
    ((encoded (membersText true ms) ++ byte '\n' :: byte '\x7d' :: rest).length + 1)
    (by rw [List.length_append]; omega) rest
  exact ((reads_get _).bind (hmembers.enclosed (reads_endMembers rest))).map Json.object

end Scan

/-- The text of an object of literals is read back as that object, whatever its keys and texts
are. -/
theorem read?_pretty (ms : List (String × Literal)) :
    read? (pretty ms) = some (.object (ms.map fun m => (m.1, m.2.json))) := by
  -- The text in bytes: the opening brace, the members, and the brace on its own line.
  have hbytes : (pretty ms).toUTF8.toList = byte '\x7b' :: (encoded (Scan.membersText true ms) ++
      byte '\n' :: byte '\x7d' :: []) := by
    rw [toList_toUTF8, bytes_eq_encoded, pretty, String.toList_ofList,
      Scan.intercalate_prettyMember, List.cons_append, encoded_cons,
      Scan.encode_ascii (by decide), Scan.encoded_append,
      Scan.encoded_ascii ['\n', '\x7d'] (by decide)]
    rfl
  have hread := Scan.reads_object 125 ms []
  rw [read?, ofBytes?, hbytes, Scan.read?]
  unfold Scan.Reads at hread
  simp only [maxDepth, hread]
  rfl

end HomeEnergy.Json
