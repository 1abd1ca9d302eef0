import HomeEnergy.Text.Chars

/-!
# `HomeEnergy.Proofs.Text.Replacing`: a word replaced wherever it stands

`replaceAll` walks along a text and counts the characters of a match that it has still to pass
over. `Replaced` says what comes of it without a walk: the text and the result are put together
from the same pieces, the text with the word between them and the result with the value, and no
piece holds the word.

The two agree for a word whose first character does not occur in it again. Occurrences of such a
word cannot overlap, not even with the end of a piece, so a text has only one row of pieces.

* `replaceAll_singleton`: a word of one character is replaced character by character.
* `replaced_iff`: `replaceAll` gives exactly what is put together so.
-/

set_option autoImplicit false

namespace HomeEnergy.Text

/-- `out` is the text with `value` in every place of `target`, and nothing else changed. -/
def Replaced (target value text out : List Char) : Prop :=
  ∃ pieces : List (List Char), pieces ≠ [] ∧ (∀ piece ∈ pieces, ¬ target <:+: piece) ∧
    text = target.intercalate pieces ∧ out = value.intercalate pieces

/-! ### The walk, place by place -/

section Walk

variable (target value : List Char)

/-- Nothing is replaced in an empty text. -/
theorem replaceAll_nil : replaceAll target value [] = [] := rfl

/-- The characters of a match are passed over. -/
theorem replaceAll_go_append (found rest : List Char) :
    replaceAll.go target value (found ++ rest) found.length = replaceAll target value rest := by
  induction found with
  | nil => rfl
  | cons c found ih =>
    rw [List.cons_append, List.length_cons, replaceAll.go]
    exact ih

/-- A text that begins with the target has the value in its place, and goes on after it. -/
theorem replaceAll_append_self (hne : target ≠ []) (rest : List Char) :
    replaceAll target value (target ++ rest) = value ++ replaceAll target value rest := by
  obtain ⟨c, tail, htarget⟩ := List.exists_cons_of_ne_nil hne
  -- The walk finds the match at its first character, and passes over the rest of it.
  have hmatch : (!target.isEmpty && target.isPrefixOf (c :: (tail ++ rest))) = true := by
    simp [htarget]
  have hlength : target.length - 1 = tail.length := by simp [htarget]
  have htext : target ++ rest = c :: (tail ++ rest) := by simp [htarget]
  rw [htext]
  show replaceAll.go target value (c :: (tail ++ rest)) 0 = _
  rw [replaceAll.go, if_pos hmatch, hlength, replaceAll_go_append]

variable {target}

/-- A character where no match begins is kept. -/
theorem replaceAll_cons_of_not {c : Char} {rest : List Char} (h : ¬ target <+: c :: rest) :
    replaceAll target value (c :: rest) = c :: replaceAll target value rest := by
  have hmatch : ¬ (!target.isEmpty && target.isPrefixOf (c :: rest)) = true := by
    intro hmatch
    rw [Bool.and_eq_true, List.isPrefixOf_iff_prefix] at hmatch
    exact h hmatch.2
  show replaceAll.go target value (c :: rest) 0 = _
  rw [replaceAll.go, if_neg hmatch]
  rfl

/-- A single character is replaced wherever it stands, whatever stands around it. -/
theorem replaceAll_singleton (c : Char) (value text : List Char) :
    replaceAll [c] value text = text.flatMap fun d => if d = c then value else [d] := by
  induction text with
  | nil => rfl
  | cons d text ih =>
    rw [List.flatMap_cons, ← ih]
    by_cases hd : d = c
    · rw [if_pos hd, hd]
      exact replaceAll_append_self [c] value (by simp) text
    · have hstart : ¬ [c] <+: d :: text := fun h => hd (List.cons_prefix_cons.mp h).1.symm
      rw [if_neg hd, replaceAll_cons_of_not value hstart]
      rfl

end Walk

/-! ### Pieces -/

section Pieces

variable {c : Char} {tail value : List Char}

/-- No match begins inside a piece, whatever follows: it would have to go on into the next
occurrence of the word, and that begins with the character which the word does not have again. -/
theorem not_prefix_append (hfirst : c ∉ tail) {d : Char} {piece rest : List Char}
    (hpiece : ¬ c :: tail <:+: d :: piece) (hrest : ∀ e ∈ rest.head?, e = c) :
    ¬ c :: tail <+: d :: piece ++ rest := by
  intro h
  rcases Nat.le_total (c :: tail).length (d :: piece).length with hshort | hlong
  · exact hpiece (List.prefix_of_prefix_length_le h (List.prefix_append _ _) hshort).isInfix
  · -- The piece is the beginning of the word, and what is left of the word begins the rest.
    have hbegin : d :: piece <+: c :: tail :=
      List.prefix_of_prefix_length_le (List.prefix_append _ _) h hlong
    obtain ⟨more, hmore⟩ := hbegin
    rw [← hmore] at h hpiece
    have hmore' : more <+: rest := (List.prefix_append_right_inj _).mp h
    cases more with
    | nil =>
      rw [List.append_nil] at hpiece
      exact hpiece List.infix_rfl
    | cons e more =>
      obtain ⟨later, hlater⟩ := hmore'
      have he : e = c := hrest e (by rw [← hlater]; rfl)
      have htail : tail = piece ++ e :: more := (List.cons.inj hmore).2.symm
      exact hfirst (by simp [htail, he])

/-- A piece is left as it is, up to the next occurrence or the end. -/
theorem replaceAll_piece (hfirst : c ∉ tail) {piece rest : List Char}
    (hpiece : ¬ c :: tail <:+: piece) (hrest : ∀ e ∈ rest.head?, e = c) :
    replaceAll (c :: tail) value (piece ++ rest)
      = piece ++ replaceAll (c :: tail) value rest := by
  induction piece with
  | nil => rfl
  | cons d piece ih =>
    have hlater : ¬ c :: tail <:+: piece := fun h =>
      hpiece (h.trans (List.suffix_cons d piece).isInfix)
    have hstart := not_prefix_append hfirst hpiece hrest
    rw [List.cons_append] at hstart ⊢
    rw [replaceAll_cons_of_not value hstart, ih hlater, List.cons_append]

/-- A text of pieces with the target between them comes out as the pieces with the value between
them. -/
theorem replaceAll_intercalate (hfirst : c ∉ tail) {pieces : List (List Char)}
    (hpieces : ∀ piece ∈ pieces, ¬ c :: tail <:+: piece) :
    replaceAll (c :: tail) value ((c :: tail).intercalate pieces) = value.intercalate pieces := by
  induction pieces with
  | nil => rfl
  | cons piece rest ih =>
    have hpiece := hpieces piece List.mem_cons_self
    cases rest with
    | nil =>
      -- Nothing follows the last piece.
      have hlast : replaceAll (c :: tail) value (piece ++ []) = _ :=
        replaceAll_piece hfirst hpiece nofun
      rw [replaceAll_nil, List.append_nil] at hlast
      rw [List.intercalate_singleton, List.intercalate_singleton, hlast]
    | cons next rest =>
      rw [List.intercalate_cons_cons, List.intercalate_cons_cons, List.append_assoc,
        replaceAll_piece hfirst hpiece (by simp), replaceAll_append_self _ _ (by simp),
        ih fun p hp => hpieces p (List.mem_cons_of_mem _ hp), List.append_assoc]

/-- The first character of the first piece is the first of the whole. -/
theorem intercalate_cons_head (target : List Char) (d : Char) (piece : List Char)
    (more : List (List Char)) :
    target.intercalate ((d :: piece) :: more) = d :: target.intercalate (piece :: more) := by
  cases more with
  | nil => simp only [List.intercalate_singleton]
  | cons next more => simp only [List.intercalate_cons_cons, List.cons_append]

/-- A text begins with its first piece. -/
theorem prefix_intercalate (target piece : List Char) (more : List (List Char)) :
    piece <+: target.intercalate (piece :: more) := by
  cases more with
  | nil => simp only [List.intercalate_singleton, List.prefix_rfl]
  | cons next more =>
    rw [List.intercalate_cons_cons, List.append_assoc]
    exact List.prefix_append _ _

/-- Every text is a row of pieces with the word between them. -/
theorem exists_pieces (target : List Char) (hne : target ≠ []) (text : List Char) :
    ∃ pieces, pieces ≠ [] ∧ (∀ piece ∈ pieces, ¬ target <:+: piece) ∧
      text = target.intercalate pieces := by
  induction hlength : text.length using Nat.strongRecOn generalizing text with
  | ind n ih =>
    subst hlength
    by_cases hstart : target <+: text
    · -- The word comes first, after an empty piece.
      obtain ⟨rest, rfl⟩ := hstart
      have hless : rest.length < (target ++ rest).length := by
        have hpos := List.length_pos_iff.mpr hne
        rw [List.length_append]
        omega
      obtain ⟨pieces, hpieces, hnone, hrest⟩ := ih _ hless rest rfl
      obtain ⟨next, more, rfl⟩ := List.exists_cons_of_ne_nil hpieces
      refine ⟨[] :: next :: more, by simp, ?_, ?_⟩
      · intro piece hpiece
        rcases List.mem_cons.mp hpiece with rfl | hpiece
        · rwa [List.infix_nil]
        · exact hnone piece hpiece
      · rw [List.intercalate_cons_cons, List.nil_append, ← hrest]
    · cases text with
      | nil => exact ⟨[[]], by simp, by simpa using hne, by simp⟩
      | cons d text =>
        -- The first character belongs to the first piece of what follows it.
        obtain ⟨pieces, hpieces, hnone, htext⟩ := ih _ (Nat.lt_succ_self _) text rfl
        obtain ⟨piece, more, rfl⟩ := List.exists_cons_of_ne_nil hpieces
        have hwhole : d :: text = target.intercalate ((d :: piece) :: more) := by
          rw [intercalate_cons_head, ← htext]
        have hbegin : d :: piece <+: d :: text := hwhole ▸ prefix_intercalate _ _ _
        refine ⟨(d :: piece) :: more, by simp, ?_, hwhole⟩
        intro other hother
        rcases List.mem_cons.mp hother with rfl | hother
        · intro hinside
          rcases List.infix_cons_iff.mp hinside with hlead | hinside
          · exact hstart (hlead.trans hbegin)
          · exact hnone piece List.mem_cons_self hinside
        · exact hnone other (List.mem_cons_of_mem _ hother)

end Pieces

/-- What `replaceAll` gives is the only result that `Replaced` allows. -/
theorem replaced_iff {c : Char} {tail : List Char} (hfirst : c ∉ tail)
    {value text out : List Char} :
    Replaced (c :: tail) value text out ↔ out = replaceAll (c :: tail) value text := by
  constructor
  · rintro ⟨pieces, -, hnone, rfl, rfl⟩
    exact (replaceAll_intercalate hfirst hnone).symm
  · rintro rfl
    obtain ⟨pieces, hne, hnone, htext⟩ := exists_pieces (c :: tail) (by simp) text
    refine ⟨pieces, hne, hnone, htext, ?_⟩
    rw [htext, replaceAll_intercalate hfirst hnone]

end HomeEnergy.Text
