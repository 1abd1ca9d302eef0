import HomeEnergy.Proofs.Remote.Percent
import Mathlib.Data.List.DropRight
import Mathlib.Data.List.Flatten
import Mathlib.Data.List.TakeWhile

/-!
# `HomeEnergy.Proofs.Remote.Address`: texts pasted into an address

A path is pasted into an address as it is. Whatever means something in an address means it in
the path too: a number sign ends it, a question mark begins the query, dots are steps, and a
percent sign with two digits is another character. `Plain` says that none of this is in a text.

That nothing else is lost or changed is told by counting. Every rule of addresses leaves fewer
bytes for the server to read than the text has (`size_walkAll_lt`, `length_unpercent_lt`,
`eq_of_sublist_of_length_encoded`), except that a backslash becomes a slash, which is one byte
as well. So only a text to which no rule applies can be read back.

* `pathRead_target_eq_iff`: a rooted text is read back exactly when it is plain.
* `plain_child_iff`: under a plain path, a path is plain when its text is.
* `queryPairs?_target`: a form is read back behind every text without a question mark.
-/

set_option autoImplicit false

namespace HomeEnergy.Address

open HomeEnergy.Text

/-! ### Segments joined with slashes -/

/-- Segments, each after a slash. -/
def joined (segments : List (List Char)) : List Char := segments.flatMap ('/' :: ·)

/-- Segments are `joined` one by one. -/
theorem joined_cons (segment : List Char) (rest : List (List Char)) :
    joined (segment :: rest) = '/' :: (segment ++ joined rest) := rfl

/-- Two rows of segments are `joined` one after the other. -/
theorem joined_append (segments others : List (List Char)) :
    joined (segments ++ others) = joined segments ++ joined others := List.flatMap_append

/-- Text after a slash is its pieces joined. -/
theorem joined_splitWhere (cs : List Char) : joined (splitWhere (· == '/') cs) = '/' :: cs := by
  induction cs with
  | nil => rfl
  | cons c cs ih =>
    rw [splitWhere]
    split
    · rename_i hc
      rw [joined_cons, ih, List.nil_append, beq_iff_eq.mp hc]
    · cases hsplit : splitWhere (· == '/') cs with
      | nil => exact absurd hsplit (splitWhere_ne_nil _ cs)
      | cons piece pieces =>
        rw [hsplit, joined_cons] at ih
        show joined ((c :: piece) :: pieces) = _
        rw [joined_cons, List.cons_append, (List.cons.inj ih).2]

/-- A slash stands for itself. -/
theorem unpercent_slash_cons (cs : List Char) : unpercent ('/' :: cs) = 47 :: unpercent cs :=
  unpercent_cons (by decide) cs

/-- What is read of a text goes no further than the slash that joins segments to it. -/
theorem unpercent_append_joined (cs : List Char) (segments : List (List Char)) :
    unpercent (cs ++ joined segments) = unpercent cs ++ unpercent (joined segments) := by
  cases segments with
  | nil => simp [joined, unpercent]
  | cons segment rest => exact unpercent_append_slash cs _

/-- Joined segments are read one by one. -/
theorem unpercent_joined_cons (segment : List Char) (rest : List (List Char)) :
    unpercent (joined (segment :: rest))
      = 47 :: (unpercent segment ++ unpercent (joined rest)) := by
  rw [joined_cons, unpercent_slash_cons, unpercent_append_joined]

/-- Two rows of joined segments are read one after the other. -/
theorem unpercent_joined_append (segments others : List (List Char)) :
    unpercent (joined (segments ++ others))
      = unpercent (joined segments) ++ unpercent (joined others) := by
  rw [joined_append, unpercent_append_joined]

/-- How many bytes joined segments stand for. -/
def size (segments : List (List Char)) : Nat := (unpercent (joined segments)).length

/-- No segments stand for no bytes. -/
@[simp] theorem size_nil : size [] = 0 := rfl

/-- A segment adds its own bytes and its slash. -/
@[simp] theorem size_cons (segment : List Char) (rest : List (List Char)) :
    size (segment :: rest) = (unpercent segment).length + 1 + size rest := by
  unfold size
  rw [unpercent_joined_cons, List.length_cons, List.length_append]
  omega

/-- Two rows of segments add up. -/
theorem size_append (segments others : List (List Char)) :
    size (segments ++ others) = size segments + size others := by
  unfold size
  rw [unpercent_joined_append, List.length_append]

/-- The `size` does not depend on the order of the segments. -/
theorem size_reverse (segments : List (List Char)) : size segments.reverse = size segments := by
  induction segments with
  | nil => rfl
  | cons segment rest ih => rw [List.reverse_cons, size_append, ih]; simp; omega

/-- Fewer segments are no longer. -/
theorem size_drop_le (n : Nat) (segments : List (List Char)) :
    size (segments.drop n) ≤ size segments := by
  have h := size_append (segments.take n) (segments.drop n)
  rw [List.take_append_drop] at h
  omega

/-! ### Steps -/

/-- A step back or to the same place. -/
def IsStep (segment : List Char) : Prop := segment = ['.'] ∨ segment = ['.', '.']

instance (segment : List Char) : Decidable (IsStep segment) :=
  inferInstanceAs (Decidable (_ ∨ _))

/-- A segment that is a name is the name that it is. -/
theorem name_of_eq {segment cs : List Char} (h : Segment.of segment = .name cs) :
    cs = segment := by
  unfold Segment.of at h
  dsimp only at h
  split at h
  · cases h
  · split at h
    · cases h
    · cases h; rfl

variable (isLast : Bool) (done : List (List Char)) {segment : List Char}

/-- A name is written down, with escapes for what cannot stand in a path. -/
theorem walk_name (h : Segment.of segment = .name segment) :
    walk isLast done segment = segment.flatMap pathChar :: done := by
  rw [walk, h]

/-- A step leaves no more than an empty name at the end. -/
theorem size_walk_of_ne_name (h : Segment.of segment ≠ .name segment) :
    size (walk isLast done segment) ≤ size done + 1 := by
  have hdrop := size_drop_le 1 done
  have hempty : ∀ segments, size ([] :: segments) = size segments + 1 := fun segments => by
    rw [size_cons, unpercent, List.length_nil]
    omega
  cases hmeaning : Segment.of segment with
  | name cs => exact absurd (name_of_eq hmeaning ▸ hmeaning) h
  | here =>
    rw [walk, hmeaning]
    cases isLast with
    -- The last segment leaves an empty one behind.
    | true => exact Nat.le_of_eq (hempty done)
    | false => exact Nat.le_succ _
  | back =>
    rw [walk, hmeaning]
    cases isLast with
    | true => exact Nat.le_trans (Nat.le_of_eq (hempty _)) (Nat.succ_le_succ hdrop)
    | false => exact Nat.le_succ_of_le hdrop

/-- Walking never makes a path longer. -/
theorem size_walk_le (segment : List Char) :
    size (walk isLast done segment) ≤ size done + size [segment] := by
  rw [size_cons, size_nil]
  by_cases h : Segment.of segment = .name segment
  · rw [walk_name isLast done h, size_cons, unpercent_flatMap_pathChar]
    omega
  · have hstep := size_walk_of_ne_name isLast done h
    omega

/-- A step makes a path shorter: its dots are not written down. -/
theorem size_walk_lt (h : IsStep segment) :
    size (walk isLast done segment) < size done + size [segment] := by
  have hname : Segment.of segment ≠ .name segment := by
    rcases h with rfl | rfl <;> decide
  have hfilled : 0 < (unpercent segment).length := by
    rcases h with rfl | rfl <;> decide
  have hstep := size_walk_of_ne_name isLast done hname
  rw [size_cons, size_nil]
  omega

/-- Walking all segments never makes a path longer, whatever was done before. By induction on the
segments. -/
theorem size_walkAll_le (segments : List (List Char)) :
    size (walkAll done segments) ≤ size done + size segments := by
  fun_induction walkAll done segments with
  | case1 done => exact Nat.le_refl _
  | case2 done last => exact size_walk_le true done last
  | case3 done segment rest hrest ih =>
    have hwalk := size_walk_le false done segment
    have hsplit := size_append [segment] rest
    rw [List.singleton_append] at hsplit
    omega

/-- A path with a step among its segments becomes shorter. By induction on the segments. -/
theorem size_walkAll_lt {segments : List (List Char)} (h : ∃ s ∈ segments, IsStep s) :
    size (walkAll done segments) < size done + size segments := by
  obtain ⟨s, hs, hstep⟩ := h
  fun_induction walkAll done segments with
  | case1 done => exact absurd hs List.not_mem_nil
  | case2 done last =>
    rw [List.mem_singleton] at hs
    exact size_walk_lt true done (hs ▸ hstep)
  | case3 done segment rest hrest ih =>
    have hsplit := size_append [segment] rest
    rw [List.singleton_append] at hsplit
    -- What this segment or a later one loses, no other segment brings back.
    rcases List.mem_cons.mp hs with rfl | hs
    · have hwalk := size_walk_lt false done hstep
      have hlater := size_walkAll_le (walk false done s) rest
      omega
    · have hwalk := size_walk_le false done segment
      have hlater := ih hs
      omega

/-- Where all segments are names, they are written down one after the other. -/
theorem walkAll_of_names {segments : List (List Char)}
    (h : ∀ s ∈ segments, Segment.of s = .name s) :
    walkAll done segments = (segments.map (·.flatMap pathChar)).reverse ++ done := by
  fun_induction walkAll done segments with
  | case1 done => rfl
  | case2 done last => exact walk_name true done (h last List.mem_cons_self)
  | case3 done segment rest hrest ih =>
    rw [ih fun s hs => h s (List.mem_cons_of_mem _ hs),
      walk_name false done (h segment List.mem_cons_self), List.map_cons,
      List.reverse_cons, List.append_assoc, List.singleton_append]

/-- Names are read back as they were, however they are written. -/
theorem unpercent_joined_written (segments : List (List Char)) :
    unpercent (joined (segments.map (·.flatMap pathChar))) = unpercent (joined segments) := by
  induction segments with
  | nil => rfl
  | cons segment rest ih =>
    rw [List.map_cons, unpercent_joined_cons, unpercent_joined_cons, unpercent_flatMap_pathChar, ih]

/-! ### Names -/

/-- A character that is lowered to ASCII was ASCII. -/
theorem toNat_lt_of_toLower {c : Char} (h : c.toLower.toNat < 128) : c.toNat < 128 := by
  unfold Char.toLower at h
  split at h
  · rename_i hupper
    have hle : c.toNat ≤ 90 := hupper.2
    omega
  · exact h

/-- What is lowered to a mark is the mark, and what is lowered to a digit is one. -/
theorem toLower_cases (c : Char) : (c.toLower ∈ ['%', '.'] → c = c.toLower) ∧
    (c.toLower ∈ ['2', 'e'] → (hexValue? c).isSome = true) := by
  -- The ASCII letters are tried one by one. No other letter has one of these as its lower case.
  have hall : ∀ n < 128,
      ((Char.ofNat n).toLower ∈ ['%', '.'] → Char.ofNat n = (Char.ofNat n).toLower) ∧
      ((Char.ofNat n).toLower ∈ ['2', 'e'] → (hexValue? (Char.ofNat n)).isSome = true) := by
    decide
  by_cases hc : c.toNat < 128
  · have hof := hall c.toNat hc
    rwa [Char.ofNat_toNat] at hof
  · have hlow : ∀ d : Char, d.toNat < 128 → c.toLower ≠ d := fun d hd heq =>
      hc (toNat_lt_of_toLower (heq ▸ hd))
    simp only [List.mem_cons, List.not_mem_nil, or_false]
    exact ⟨fun h => h.elim (fun h => absurd h (hlow _ (by decide)))
        fun h => absurd h (hlow _ (by decide)),
      fun h => h.elim (fun h => absurd h (hlow _ (by decide)))
        fun h => absurd h (hlow _ (by decide))⟩

/-- Text that begins with a dot in its other form begins with an escape. -/
theorem holdsEscape_of_isPrefixOf {cs : List Char}
    (h : ['%', '2', 'e'].isPrefixOf (lowerAscii cs) = true) : holdsEscape cs = true := by
  match cs with
  | [] => cases h
  | [c] => simp [lowerAscii] at h
  | [c, a] => simp [lowerAscii] at h
  | c :: a :: b :: rest =>
    simp only [lowerAscii, List.map_cons, List.isPrefixOf_cons_cons, List.isPrefixOf_nil_left,
      Bool.and_true, Bool.and_eq_true, beq_iff_eq] at h
    obtain ⟨hc, ha, hb⟩ := h
    -- The percent sign has no other form, and both of the other characters are digits, whichever
    -- their case.
    have hpercent : c = '%' := by
      rw [(toLower_cases c).1 (by rw [← hc]; decide), ← hc]
    obtain ⟨high, hhigh⟩ := Option.isSome_iff_exists.mp
      ((toLower_cases a).2 (by rw [← ha]; decide))
    obtain ⟨low, hlow⟩ := Option.isSome_iff_exists.mp
      ((toLower_cases b).2 (by rw [← hb]; decide))
    rw [holdsEscape, hpercent, hexByte?, hhigh, Option.bind_eq_bind, Option.bind_some, hlow]
    rfl

/-- Without escapes there is no dot in its other form to be replaced. By induction on the text. -/
theorem replaceAll_of_not_holdsEscape {cs : List Char} (h : holdsEscape cs = false) :
    replaceAll "%2e".toList ['.'] (lowerAscii cs) = lowerAscii cs := by
  unfold replaceAll
  induction cs with
  | nil => rfl
  | cons c cs ih =>
    have hlater : holdsEscape cs = false := (Bool.or_eq_false_iff.mp h).2
    -- The other form of a dot at the front would be an escape.
    have hhere : "%2e".toList.isPrefixOf (lowerAscii (c :: cs)) = false :=
      Bool.eq_false_iff.mpr fun hprefix => by
        rw [holdsEscape_of_isPrefixOf hprefix] at h
        cases h
    unfold lowerAscii at hhere ih ⊢
    rw [List.map_cons] at hhere ⊢
    rw [replaceAll.go, hhere, Bool.and_false, if_neg Bool.false_ne_true, ih hlater]

/-- Text that is lowered to dots was dots. -/
theorem eq_of_lowerAscii_dots {cs ds : List Char} (hds : ∀ d ∈ ds, d = '.')
    (h : lowerAscii cs = ds) : cs = ds := by
  subst h
  refine (List.map_id cs).symm.trans (List.map_congr_left fun c hc => ?_)
  have hdot := hds c.toLower (List.mem_map_of_mem hc)
  exact (toLower_cases c).1 (by rw [hdot]; decide)

/-- Without escapes only the two dotted segments are steps. -/
theorem of_eq_name {segment : List Char} (h : holdsEscape segment = false)
    (hstep : ¬ IsStep segment) : Segment.of segment = .name segment := by
  have hone : lowerAscii segment ≠ ['.'] := fun heq =>
    hstep (Or.inl (eq_of_lowerAscii_dots (by simp) heq))
  have htwo : lowerAscii segment ≠ ['.', '.'] := fun heq =>
    hstep (Or.inr (eq_of_lowerAscii_dots (by simp) heq))
  unfold Segment.of
  dsimp only
  rw [replaceAll_of_not_holdsEscape h, if_neg hone, if_neg htwo]

/-- A piece of text without escapes holds none either. -/
theorem holdsEscape_of_mem_splitWhere {cs piece : List Char} (h : holdsEscape cs = false)
    (hpiece : piece ∈ splitWhere (· == '/') cs) : holdsEscape piece = false := by
  have hjoined : holdsEscape (joined (splitWhere (· == '/') cs)) = false := by
    rw [joined_splitWhere]
    exact h
  -- From here on the pieces are any that hold no escape when they are joined.
  generalize splitWhere (· == '/') cs = pieces at hpiece hjoined
  induction pieces with
  | nil => exact absurd hpiece List.not_mem_nil
  | cons first rest ih =>
    have hboth : holdsEscape first = false ∧ holdsEscape (joined rest) = false := by
      cases rest with
      | nil =>
        rw [joined_cons, joined, List.flatMap_nil, List.append_nil] at hjoined
        exact ⟨hjoined, rfl⟩
      | cons next rest =>
        have hfirst : holdsEscape (first ++ '/' :: (next ++ joined rest)) = false := hjoined
        rw [holdsEscape_append_slash, Bool.or_eq_false_iff] at hfirst
        exact hfirst
    rcases List.mem_cons.mp hpiece with rfl | hpiece
    · exact hboth.1
    · exact ih hpiece hboth.2

/-! ### Paths -/

/-- Text in which backslashes have become slashes. -/
def slashed (cs : List Char) : List Char := cs.map fun c => if c = '\\' then '/' else c

/-- No backslash is left in text that is `slashed`. -/
theorem backslash_not_mem_slashed (cs : List Char) : '\\' ∉ slashed cs := by
  intro h
  obtain ⟨c, -, hc⟩ := List.mem_map.mp h
  split at hc
  · exact absurd hc (by decide)
  · contradiction

/-- Text without backslashes is `slashed` already. -/
theorem slashed_of_not_mem {cs : List Char} (h : '\\' ∉ cs) : slashed cs = cs := by
  refine (List.map_congr_left fun c hc => if_neg ?_).trans (List.map_id cs)
  rintro rfl
  exact h hc

/-- A slash takes as many bytes as a backslash. -/
theorem length_encoded_slashed (cs : List Char) :
    (encoded (slashed cs)).length = (encoded cs).length := by
  induction cs with
  | nil => rfl
  | cons c cs ih =>
    have hchar : (String.utf8EncodeChar (if c = '\\' then '/' else c)).length
        = (String.utf8EncodeChar c).length := by
      split
      · rename_i hc
        rw [hc]
        rfl
      · rfl
    show (encoded (_ :: slashed cs)).length = _
    rw [encoded_cons, encoded_cons, List.length_append, List.length_append, ih, hchar]

/-- A path after a slash is what is left of walking its pieces, joined again. -/
theorem path_cons (cs : List Char) :
    path ('/' :: cs) = joined (walkAll [] (splitWhere (· == '/') (slashed cs))).reverse := rfl

/-- Without steps, backslashes and escapes, a path is read as the text. -/
theorem unpercent_path_of_plain {cs : List Char} (hslash : '\\' ∉ cs)
    (hsteps : ∀ piece ∈ splitWhere (· == '/') cs, ¬ IsStep piece)
    (hescapes : holdsEscape cs = false) :
    unpercent (path ('/' :: cs)) = encoded ('/' :: cs) := by
  -- Every piece is a name, so the walk keeps them all, each written as a path has it.
  have hnames : ∀ piece ∈ splitWhere (· == '/') cs, Segment.of piece = .name piece :=
    fun piece hpiece =>
      of_eq_name (holdsEscape_of_mem_splitWhere hescapes hpiece) (hsteps piece hpiece)
  rw [path_cons, slashed_of_not_mem hslash, walkAll_of_names [] hnames, List.append_nil,
    List.reverse_reverse, unpercent_joined_written, joined_splitWhere]
  exact unpercent_of_not_holdsEscape hescapes

/-- No path is read as more than its text, and one with a step or an escape as less. -/
theorem length_unpercent_path (cs : List Char) :
    (unpercent (path ('/' :: cs))).length ≤ (encoded ('/' :: cs)).length ∧
    ((∃ piece ∈ splitWhere (· == '/') (slashed cs), IsStep piece) ∨
        holdsEscape (slashed cs) = true →
      (unpercent (path ('/' :: cs))).length < (encoded ('/' :: cs)).length) := by
  have hread : (unpercent (path ('/' :: cs))).length
      = size (walkAll [] (splitWhere (· == '/') (slashed cs))) := by
    rw [path_cons, ← size_reverse]
    rfl
  have hpieces : size (splitWhere (· == '/') (slashed cs))
      = (unpercent ('/' :: slashed cs)).length := by
    rw [size, joined_splitWhere]
  have hslashed : (encoded ('/' :: slashed cs)).length = (encoded ('/' :: cs)).length :=
    length_encoded_slashed ('/' :: cs)
  -- read ≤ pieces = text with its escapes read ≤ text, and one of the two is strict.
  have hwalk := size_walkAll_le [] (splitWhere (· == '/') (slashed cs))
  have htext := length_unpercent_le ('/' :: slashed cs)
  rw [size_nil] at hwalk
  refine ⟨by omega, fun h => ?_⟩
  rcases h with h | h
  · have hlt := size_walkAll_lt [] h
    rw [size_nil] at hlt
    omega
  · have hlt : (unpercent ('/' :: slashed cs)).length < _ := length_unpercent_lt h
    omega

/-- A rooted path is read as its text if and only if there are no backslashes, steps or escapes in
it. By counting bytes: each of these would lose some. -/
theorem unpercent_path_eq_iff {cs : List Char} :
    unpercent (path ('/' :: cs)) = encoded ('/' :: cs) ↔ '\\' ∉ cs ∧
      (∀ piece ∈ splitWhere (· == '/') cs, ¬ IsStep piece) ∧ holdsEscape cs = false := by
  refine ⟨fun h => ?_, fun ⟨hslash, hsteps, hescapes⟩ =>
    unpercent_path_of_plain hslash hsteps hescapes⟩
  -- As many bytes as the text has are read only of a path without steps and escapes.
  have hshort : ¬ ((∃ piece ∈ splitWhere (· == '/') (slashed cs), IsStep piece) ∨
      holdsEscape (slashed cs) = true) := by
    intro hlost
    have hlt := (length_unpercent_path cs).2 hlost
    rw [h] at hlt
    exact Nat.lt_irrefl _ hlt
  have hsteps : ∀ piece ∈ splitWhere (· == '/') (slashed cs), ¬ IsStep piece :=
    fun piece hpiece hstep => hshort (Or.inl ⟨piece, hpiece, hstep⟩)
  have hescapes : holdsEscape (slashed cs) = false :=
    Bool.eq_false_iff.mpr fun hescape => hshort (Or.inr hescape)
  -- Such a path is read as its text with slashes, so there are slashes only.
  have hread := unpercent_path_of_plain (backslash_not_mem_slashed cs) hsteps hescapes
  have hsame : path ('/' :: slashed cs) = path ('/' :: cs) := by
    rw [path_cons, path_cons, slashed_of_not_mem (backslash_not_mem_slashed cs)]
  have hslashed : slashed cs = cs := by
    rw [hsame, h] at hread
    exact (List.cons.inj (encoded_inj hread)).2.symm
  rw [hslashed] at hsteps hescapes
  exact ⟨hslashed ▸ backslash_not_mem_slashed cs, hsteps, hescapes⟩

/-! ### Texts pasted into an address -/

/-- What is left of a pasted text as the path. -/
def kept (cs : List Char) : List Char :=
  ((cleaned cs).takeWhile (· ≠ '#')).takeWhile (· ≠ '?')

/-- What is left of it as the query, and the form that is added. -/
def queried (cs : List Char) (pairs : List (String × String)) : List Char :=
  let written := (((cleaned cs).takeWhile (· ≠ '#')).dropWhile (· ≠ '?')).drop 1
  List.intercalate ['&'] ((if written.isEmpty then [] else [written.flatMap queryChar])
    ++ (if pairs.isEmpty then [] else [form pairs]))

/-- A target is the path that is kept, and behind a question mark the query, if there is one. -/
theorem toList_target (pasted : String) (pairs : List (String × String)) :
    (target pasted pairs).toList = path (kept pasted.toList)
      ++ if (queried pasted.toList pairs).isEmpty then [] else '?' :: queried pasted.toList pairs :=
  String.toList_ofList

/-- What a server takes the path of a target for. -/
def pathRead (target : String) : List UInt8 := unpercent (target.toList.takeWhile (· ≠ '?'))

/-- Text without what an address would not take as it is:

- `marks`: no character that ends a path, is a slash in disguise or is left out;
- `ending`: no blank or control at its end;
- `steps`: no dotted segment;
- `escapes`: no percent sign with two digits. -/
structure Plain (cs : List Char) : Prop where
  marks : ∀ c ∈ cs, c ∉ ['#', '?', '\\', '\t', '\n', '\r']
  ending : ∀ h : cs ≠ [], 0x20 < (cs.getLast h).toNat
  steps : ∀ piece ∈ splitWhere (· == '/') cs, ¬ IsStep piece
  escapes : holdsEscape cs = false

-- The marks are looked for in the text. Otherwise all characters there are might be tried.
instance (cs : List Char) : Decidable (Plain cs) :=
  letI := List.decidableBAll (fun c => c ∉ ['#', '?', '\\', '\t', '\n', '\r']) cs
  decidable_of_iff (_ ∧ _ ∧ _ ∧ _) ⟨fun ⟨marks, ending, steps, escapes⟩ =>
    ⟨marks, ending, steps, escapes⟩, fun h => ⟨h.marks, h.ending, h.steps, h.escapes⟩⟩

/-- A segment that is walked brings no question mark into what is done: it would be written as an
escape. -/
theorem query_not_mem_walk {isLast : Bool} {done : List (List Char)}
    (h : ∀ s ∈ done, '?' ∉ s) (segment : List Char) :
    ∀ s ∈ walk isLast done segment, '?' ∉ s := by
  have hdrop : ∀ s ∈ done.drop 1, '?' ∉ s := fun s hs => h s (List.mem_of_mem_drop hs)
  have hempty : '?' ∉ ([] : List Char) := List.not_mem_nil
  unfold walk
  split
  · rename_i cs _
    refine List.forall_mem_cons.mpr ⟨fun hmem => ?_, h⟩
    obtain ⟨c, -, hc⟩ := List.mem_flatMap.mp hmem
    -- A name is written with its question marks escaped.
    exact query_not_mem_pathChar c hc
  · split
    · exact List.forall_mem_cons.mpr ⟨hempty, h⟩
    · exact h
  · split
    · exact List.forall_mem_cons.mpr ⟨hempty, hdrop⟩
    · exact hdrop

/-- Walking all segments brings no question mark. By induction on the segments. -/
theorem query_not_mem_walkAll {done : List (List Char)} (h : ∀ s ∈ done, '?' ∉ s)
    (segments : List (List Char)) : ∀ s ∈ walkAll done segments, '?' ∉ s := by
  fun_induction walkAll done segments with
  | case1 done => exact h
  | case2 done last => exact query_not_mem_walk h last
  | case3 done segment rest hrest ih => exact ih (query_not_mem_walk h segment)

/-- No question mark stands in a path, so the first one in a target begins the query. -/
theorem query_not_mem_path (cs : List Char) : '?' ∉ path cs := by
  intro hmem
  obtain ⟨s, hs, hquery⟩ := List.mem_flatMap.mp hmem
  rcases List.mem_cons.mp hquery with heq | hquery
  · exact absurd heq (by decide)
  · exact query_not_mem_walkAll (by simp) _ s (List.mem_reverse.mp hs) hquery

/-- Text without question marks, as a filter has it. -/
theorem decide_ne_query {cs : List Char} (h : '?' ∉ cs) : ∀ c ∈ cs, decide (c ≠ '?') = true := by
  intro c hc
  refine decide_eq_true ?_
  rintro rfl
  exact h hc

/-- The query does not change which document is meant. -/
theorem pathRead_target (pasted : String) (pairs : List (String × String)) :
    pathRead (target pasted pairs) = unpercent (path (kept pasted.toList)) := by
  unfold pathRead
  rw [toList_target, List.takeWhile_append_of_pos (decide_ne_query (query_not_mem_path _))]
  split
  · rw [List.takeWhile_nil, List.append_nil]
  · rw [List.takeWhile_cons_of_neg (by decide), List.append_nil]

/-- Cleaning drops blanks and controls at the end, and line breaks and tabs anywhere. -/
theorem cleaned_eq (cs : List Char) : cleaned cs
    = (cs.rdropWhile fun c => c.toNat ≤ 0x20).filter
        fun c => c ≠ '\n' && c ≠ '\r' && c ≠ '\t' := rfl

/-- What is `kept` is found in what is left after cleaning, in its order. -/
theorem kept_sublist_cleaned (cs : List Char) : (kept cs).Sublist (cleaned cs) :=
  (List.takeWhile_sublist _).trans (List.takeWhile_sublist _)

/-- Cleaning only leaves characters out. -/
theorem cleaned_sublist (cs : List Char) :
    (cleaned cs).Sublist (cs.rdropWhile fun c => c.toNat ≤ 0x20) := by
  rw [cleaned_eq]
  exact List.filter_sublist

/-- What is `kept` of a text is found in it, in its order. -/
theorem kept_sublist (cs : List Char) : (kept cs).Sublist cs :=
  ((kept_sublist_cleaned cs).trans (cleaned_sublist cs)).trans
    (List.rdropWhile_prefix _ _).sublist

/-- None of the characters that end a path or are left out of it is `kept`. -/
theorem not_mark_of_mem_kept {cs : List Char} {c : Char} (h : c ∈ kept cs) :
    c ∉ ['#', '?', '\t', '\n', '\r'] := by
  have hcleaned := (kept_sublist_cleaned cs).subset h
  rw [cleaned_eq, List.mem_filter] at hcleaned
  -- Two of the marks end the text, and the other three are left out of it.
  unfold kept at h
  have hquery := List.mem_takeWhile_imp h
  have hsign := List.mem_takeWhile_imp ((List.takeWhile_sublist _).subset h)
  simp_all

/-- The path is all of the text when nothing ends it early, is left out, or stands blank at the
end. -/
theorem kept_eq_self_iff {cs : List Char} : kept cs = cs ↔
    (∀ c ∈ cs, c ∉ ['#', '?', '\t', '\n', '\r']) ∧
      ∀ h : cs ≠ [], 0x20 < (cs.getLast h).toNat := by
  have hending : (cs.rdropWhile fun c => c.toNat ≤ 0x20) = cs ↔
      ∀ h : cs ≠ [], 0x20 < (cs.getLast h).toNat := by
    rw [List.rdropWhile_eq_self_iff]
    simp
  rw [← hending]
  constructor
  · intro h
    refine ⟨fun c hc => not_mark_of_mem_kept (h.symm ▸ hc), ?_⟩
    -- What is kept of the text is no longer than the text without its end.
    have hle := ((kept_sublist_cleaned cs).trans (cleaned_sublist cs)).length_le
    rw [h] at hle
    exact (List.rdropWhile_prefix _ _).sublist.eq_of_length_le hle
  · rintro ⟨hmarks, hend⟩
    have hmark : ∀ c ∈ cs, c ≠ '#' ∧ c ≠ '?' ∧ c ≠ '\t' ∧ c ≠ '\n' ∧ c ≠ '\r' := by
      simpa using hmarks
    have hcleaned : cleaned cs = cs := by
      rw [cleaned_eq, hend]
      refine List.filter_eq_self.mpr fun c hc => ?_
      obtain ⟨-, -, htab, hline, hreturn⟩ := hmark c hc
      simp [htab, hline, hreturn]
    have hsign : cs.takeWhile (· ≠ '#') = cs :=
      List.takeWhile_eq_self_iff.mpr fun c hc => decide_eq_true (hmark c hc).1
    have hquery : cs.takeWhile (· ≠ '?') = cs :=
      List.takeWhile_eq_self_iff.mpr fun c hc => decide_eq_true (hmark c hc).2.1
    rw [kept, hcleaned, hsign, hquery]

/-- Of a rooted text the root is `kept`. -/
theorem kept_slash_cons (cs : List Char) : ∃ ds, kept ('/' :: cs) = '/' :: ds := by
  have hcleaned : ∃ ds, cleaned ('/' :: cs) = '/' :: ds := by
    rw [cleaned_eq, List.rdropWhile, List.reverse_cons, List.dropWhile_append]
    split
    · exact ⟨[], rfl⟩
    · rw [List.reverse_append]
      exact ⟨_, rfl⟩
  obtain ⟨ds, hds⟩ := hcleaned
  rw [kept, hds]
  exact ⟨_, rfl⟩

/-- Text from which characters are left out takes fewer bytes. -/
theorem eq_of_sublist_of_length_encoded {cs ds : List Char} (h : cs.Sublist ds)
    (hlength : (encoded ds).length ≤ (encoded cs).length) : cs = ds := by
  induction h with
  | slnil => rfl
  | @cons cs ds d hsub ih =>
    have hd : 0 < (String.utf8EncodeChar d).length :=
      List.length_pos_iff.mpr String.utf8EncodeChar_ne_nil
    have hmore : (encoded cs).length ≤ (encoded ds).length := (hsub.flatMap _).length_le
    rw [encoded_cons, List.length_append] at hlength
    omega
  | @cons_cons cs ds c hsub ih =>
    rw [encoded_cons, encoded_cons, List.length_append, List.length_append] at hlength
    rw [ih (Nat.le_of_add_le_add_left hlength)]

/-- A rooted text is read back as it is exactly when it is plain. -/
theorem pathRead_target_eq_iff {pasted : String} {cs : List Char}
    (h : pasted.toList = '/' :: cs) (pairs : List (String × String)) :
    pathRead (target pasted pairs) = bytes pasted ↔ Plain pasted.toList := by
  rw [pathRead_target, bytes_eq_encoded, h]
  constructor
  · intro hread
    obtain ⟨ds, hds⟩ := kept_slash_cons cs
    -- Fewer characters would be read as fewer bytes.
    have hkept : kept ('/' :: cs) = '/' :: cs := by
      refine eq_of_sublist_of_length_encoded (kept_sublist _) ?_
      rw [← hread, hds]
      exact (length_unpercent_path ds).1
    rw [hkept, unpercent_path_eq_iff] at hread
    obtain ⟨hslash, hsteps, hescapes⟩ := hread
    obtain ⟨hmarks, hending⟩ := kept_eq_self_iff.mp hkept
    refine ⟨fun c hc => ?_, hending, ?_, hescapes⟩
    · have hmark := hmarks c hc
      have hback : c ≠ '\\' := by
        rintro rfl
        rcases List.mem_cons.mp hc with heq | hc
        · exact absurd heq (by decide)
        · exact hslash hc
      simp_all
    · show ∀ piece ∈ [] :: splitWhere (· == '/') cs, ¬ IsStep piece
      exact List.forall_mem_cons.mpr ⟨by decide, hsteps⟩
  · intro hplain
    have hkept : kept ('/' :: cs) = '/' :: cs := by
      refine kept_eq_self_iff.mpr ⟨fun c hc => ?_, hplain.ending⟩
      have hmark := hplain.marks c hc
      simp_all
    have hslash : '\\' ∉ cs := fun hmem =>
      hplain.marks '\\' (List.mem_cons_of_mem _ hmem) (by decide)
    have hsteps : ∀ piece ∈ [] :: splitWhere (· == '/') cs, ¬ IsStep piece := hplain.steps
    rw [hkept]
    exact unpercent_path_of_plain hslash (List.forall_mem_cons.mp hsteps).2 hplain.escapes

/-! ### A path under another -/

/-- Nothing of a text under a slash reaches over it. -/
theorem plain_child_iff {base : List Char} (h : Plain base) (cs : List Char) :
    Plain (base ++ '/' :: cs) ↔ Plain cs := by
  have hsplit : splitWhere (· == '/') (base ++ '/' :: cs)
      = splitWhere (· == '/') base ++ splitWhere (· == '/') cs :=
    splitWhere_append_cons rfl base cs
  have hescape : holdsEscape (base ++ '/' :: cs) = holdsEscape cs := by
    rw [holdsEscape_append_slash, h.escapes, Bool.false_or]
  constructor
  · intro hall
    -- Marks, steps and escapes of the child are some of the whole text, and both end alike.
    refine ⟨fun c hc => hall.marks c ?_, fun hne => ?_, fun piece hpiece => ?_, ?_⟩
    · exact List.mem_append_right _ (List.mem_cons_of_mem _ hc)
    · have hending := hall.ending (by simp)
      rwa [List.getLast_append_of_ne_nil _ (List.cons_ne_nil _ _), List.getLast_cons hne]
        at hending
    · exact hall.steps piece (hsplit ▸ List.mem_append_right _ hpiece)
    · rw [← hescape]
      exact hall.escapes
  · intro hplain
    -- Whatever is in the whole text is in the base, in the child, or is the slash between them.
    refine ⟨fun c hc => ?_, fun hne => ?_, fun piece hpiece => ?_, hescape.trans hplain.escapes⟩
    · rcases List.mem_append.mp hc with hc | hc
      · exact h.marks c hc
      · rcases List.mem_cons.mp hc with rfl | hc
        · decide
        · exact hplain.marks c hc
    · rw [List.getLast_append_of_ne_nil _ (List.cons_ne_nil _ _)]
      by_cases hcs : cs = []
      · subst hcs
        decide
      · rw [List.getLast_cons hcs]
        exact hplain.ending hcs
    · rw [hsplit] at hpiece
      rcases List.mem_append.mp hpiece with hpiece | hpiece
      · exact h.steps piece hpiece
      · exact hplain.steps piece hpiece

/-! ### Forms behind a path -/

/-- The pairs in the query of a target. -/
def queryPairs? (target : String) : Option (List (String × String)) :=
  formPairs? ((target.toList.dropWhile (· ≠ '?')).drop 1)

/-- Behind a text without question marks the query is the form that is added, and nothing else. -/
theorem queried_of_not_mem {cs : List Char} (h : '?' ∉ cs) {pairs : List (String × String)}
    (hpairs : pairs ≠ []) : queried cs pairs = form pairs := by
  have hnone : '?' ∉ (cleaned cs).takeWhile (· ≠ '#') := fun hmem =>
    h ((List.rdropWhile_prefix _ _).sublist.subset
      ((cleaned_sublist cs).subset ((List.takeWhile_sublist _).subset hmem)))
  have hwritten : ((cleaned cs).takeWhile (· ≠ '#')).dropWhile (· ≠ '?') = [] :=
    List.dropWhile_eq_nil_iff.mpr (decide_ne_query hnone)
  have hfilled : pairs.isEmpty = false := by simpa using hpairs
  unfold queried
  dsimp only
  rw [hwritten, hfilled]
  exact List.intercalate_singleton

/-- A form of some pairs is not empty, since the pairs are read back from it. -/
theorem form_ne_nil {pairs : List (String × String)} (h : pairs ≠ []) : form pairs ≠ [] := by
  intro hnil
  have hread := formPairs?_form h
  rw [hnil] at hread
  exact h (Option.some.inj hread).symm

/-- Behind a text without question marks the pairs of a target are read back as they were given. -/
theorem queryPairs?_target {pasted : String} (h : '?' ∉ pasted.toList)
    {pairs : List (String × String)} (hpairs : pairs ≠ []) :
    queryPairs? (target pasted pairs) = some pairs := by
  have hfilled : (form pairs).isEmpty = false := by simpa using form_ne_nil hpairs
  unfold queryPairs?
  rw [toList_target, queried_of_not_mem h hpairs, hfilled, if_neg Bool.false_ne_true,
    List.dropWhile_append_of_pos (decide_ne_query (query_not_mem_path _)),
    List.dropWhile_cons_of_neg (by decide), List.drop_one, List.tail_cons]
  exact formPairs?_form hpairs

end HomeEnergy.Address
