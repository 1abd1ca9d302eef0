import HomeEnergy.Text.Chars
import Mathlib.Data.List.TakeWhile

/-!
# `HomeEnergy.Proofs.Text.Words`: a text as words with blanks between them

`words` cuts a text at every blank and drops the empty pieces. `Spaced` puts a text together: a
blank may be put in front of anything, and a word in front of nothing or of a blank. As a word ends
only there, a text has no more than one row of words, and `words` finds it.

* `words_append_blank`: a blank divides the words before it from those after it.
* `words_eq_iff`: the words of a text are those that it can be put together from.
-/

set_option autoImplicit false

namespace HomeEnergy.Text

/-- The text consists of these words in their order, and of blanks. No word is empty or holds a
blank, and between any two of them there is a blank. -/
inductive Spaced : List (List Char) → List Char → Prop
  | nil : Spaced [] []
  | blank {c : Char} {ws : List (List Char)} {cs : List Char} (hc : isBlank c = true)
      (h : Spaced ws cs) : Spaced ws (c :: cs)
  | word {w rest : List Char} {ws : List (List Char)} (hne : w ≠ [])
      (hw : ∀ c ∈ w, isBlank c = false) (hrest : ∀ c ∈ rest.head?, isBlank c = true)
      (h : Spaced ws rest) : Spaced (w :: ws) (w ++ rest)

/-- A blank parts the words: those before it and those after it are found apart. -/
theorem words_append_blank {c : Char} (hc : isBlank c = true) (before after : List Char) :
    words (before ++ c :: after) = words before ++ words after := by
  unfold words
  rw [splitWhere_append_cons hc, List.filter_append]

/-- A blank in front adds no word. -/
theorem words_cons_blank {c : Char} (hc : isBlank c = true) (cs : List Char) :
    words (c :: cs) = words cs :=
  words_append_blank hc [] cs

/-- A text without blanks is one word, unless it is empty. -/
theorem words_word {w : List Char} (hne : w ≠ []) (hw : ∀ c ∈ w, isBlank c = false) :
    words w = [w] := by
  unfold words
  rw [splitWhere_of_forall hw]
  simp [hne]

/-- A word ends where a blank or nothing follows, so it is the first of `words`. -/
theorem words_word_append {w rest : List Char} (hne : w ≠ []) (hw : ∀ c ∈ w, isBlank c = false)
    (hrest : ∀ c ∈ rest.head?, isBlank c = true) : words (w ++ rest) = w :: words rest := by
  cases rest with
  | nil =>
    rw [List.append_nil, words_word hne hw]
    rfl
  | cons c rest =>
    have hc : isBlank c = true := hrest c rfl
    rw [words_append_blank hc, words_word hne hw, words_cons_blank hc]
    rfl

/-- The words found by `words` put the text together. Where no blank stands, a word begins, and it
goes on to the next blank. The induction is on the length, since a whole word is passed at once. -/
theorem spaced_words (cs : List Char) : Spaced (words cs) cs := by
  induction hlength : cs.length using Nat.strongRecOn generalizing cs with
  | ind n ih =>
    cases cs with
    | nil => exact .nil
    | cons c rest =>
      cases hc : isBlank c with
      | true =>
        rw [words_cons_blank hc]
        exact .blank hc (ih rest.length (by simp [← hlength]) rest rfl)
      | false =>
        let w := (c :: rest).takeWhile fun d => !isBlank d
        let tail := (c :: rest).dropWhile fun d => !isBlank d
        -- The word and what is left, which is shorter since the word is not empty.
        have hcs : c :: rest = w ++ tail := List.takeWhile_append_dropWhile.symm
        have hne : w ≠ [] := by simp [w, hc]
        have hw : ∀ d ∈ w, isBlank d = false := by
          intro d hd
          simpa using List.mem_takeWhile_imp hd
        have htail : ∀ d ∈ tail.head?, isBlank d = true := by
          intro d hd
          have hstop := List.head?_dropWhile_not (fun d => !isBlank d) (c :: rest)
          rw [Option.mem_def.mp hd] at hstop
          simpa using hstop
        have hshorter : tail.length < n := by
          have hpos := List.length_pos_iff.mpr hne
          have hlengths := congrArg List.length hcs
          rw [List.length_append, hlength] at hlengths
          omega
        rw [hcs, words_word_append hne hw htail]
        exact .word hne hw htail (ih _ hshorter tail rfl)

/-- What `words` finds is the only row of words that a text can be put together from. -/
theorem words_eq_iff {cs : List Char} {ws : List (List Char)} : words cs = ws ↔ Spaced ws cs := by
  constructor
  · intro h
    rw [← h]
    exact spaced_words cs
  · intro h
    induction h with
    | nil => rfl
    | blank hc _ ih => rw [words_cons_blank hc, ih]
    | word hne hw hrest _ ih => rw [words_word_append hne hw hrest, ih]

end HomeEnergy.Text
