/-!
# `HomeEnergy.Text.Chars`: blanks, words and pieces of text

Text is taken apart as a list of characters. `isBlank` is the `White_Space` property of
Unicode, `splitWhere` cuts a list at every separator, and `words` are the non-empty pieces
between blanks.

* `splitWhere_ne_nil`: there is always a first piece.
* `not_mem_of_mem_splitWhere`: no piece holds a separator.
* `splitWhere_eq_splitOnP`: the pieces are the standard library's.
* `splitWhere_append_cons`: a separator parts the pieces before it from those after it.
-/

set_option autoImplicit false

namespace HomeEnergy.Text

/-- The characters with the Unicode property `White_Space`. -/
def isBlank (c : Char) : Bool :=
  let n := c.toNat
  (0x09 ≤ n && n ≤ 0x0D) || n == 0x20 || n == 0x85 || n == 0xA0 || n == 0x1680
    || (0x2000 ≤ n && n ≤ 0x200A) || n == 0x2028 || n == 0x2029 || n == 0x202F
    || n == 0x205F || n == 0x3000

/-- The text without the blanks before its first other character. -/
def trimStart (cs : List Char) : List Char :=
  cs.dropWhile isBlank

/-- The text without blanks at either end. -/
def trim (cs : List Char) : List Char :=
  (trimStart (trimStart cs).reverse).reverse

/-- The pieces between separators, empty ones included: one more than there are separators. -/
def splitWhere {α : Type} (isSeparator : α → Bool) : List α → List (List α)
  | [] => [[]]
  | c :: cs =>
    if isSeparator c then
      [] :: splitWhere isSeparator cs
    else
      match splitWhere isSeparator cs with
      | [] => [[c]]
      | piece :: pieces => (c :: piece) :: pieces

/-- The maximal runs of characters that are not blank. -/
def words (cs : List Char) : List (List Char) :=
  (splitWhere isBlank cs).filter (fun w => !w.isEmpty)

/-- The text after `lead`, when it starts with it. -/
def stripLead? (lead cs : List Char) : Option (List Char) :=
  if lead.isPrefixOf cs then some (cs.drop lead.length) else none

/-- Every occurrence of `target` in `cs`, found from the left, replaced by `value`. A match
consumes its characters, so the inserted text is not searched again. -/
def replaceAll (target value : List Char) (cs : List Char) : List Char :=
  go cs 0
where
  /-- `skip` counts the characters of the current match still to be passed over. -/
  go : List Char → Nat → List Char
    | [], _ => []
    | _ :: rest, skip + 1 => go rest skip
    | c :: rest, 0 =>
      if !target.isEmpty && target.isPrefixOf (c :: rest) then
        value ++ go rest (target.length - 1)
      else
        c :: go rest 0

/-- ASCII letters in lower case, every other character as it is. -/
def lowerAscii (cs : List Char) : List Char :=
  cs.map Char.toLower

/-- There is always a first piece from `splitWhere`, be it empty. -/
theorem splitWhere_ne_nil {α : Type} (p : α → Bool) (cs : List α) : splitWhere p cs ≠ [] := by
  cases cs with
  | nil => simp [splitWhere]
  | cons c cs =>
    unfold splitWhere
    split
    · simp
    · split <;> simp

/-- No piece of `splitWhere` holds a separator. -/
theorem not_mem_of_mem_splitWhere {α : Type} (p : α → Bool) (cs : List α) :
    ∀ piece ∈ splitWhere p cs, ∀ c ∈ piece, p c = false := by
  induction cs with
  | nil => simp [splitWhere]
  | cons c cs ih =>
    unfold splitWhere
    split
    · simpa using ih
    · rename_i hc
      have hc' : p c = false := by simpa using hc
      split
      · simpa using hc'
      · -- The character joins the first piece, and all other pieces stay.
        rename_i piece pieces heq
        rw [heq] at ih
        intro q hq d hd
        rcases List.mem_cons.mp hq with rfl | hq
        · rcases List.mem_cons.mp hd with rfl | hd
          · exact hc'
          · exact ih piece (by simp) d hd
        · exact ih q (by simp [hq]) d hd

/-- The pieces are those of the standard library, which compiles its function only in another
form. -/
theorem splitWhere_eq_splitOnP {α : Type} (p : α → Bool) (cs : List α) :
    splitWhere p cs = cs.splitOnP p := by
  induction cs with
  | nil => rfl
  | cons c cs ih =>
    rw [splitWhere, List.splitOnP_cons_eq_if_modifyHead, ih]
    cases hsplit : cs.splitOnP p with
    | nil => exact absurd hsplit (List.splitOnP_ne_nil p cs)
    | cons piece pieces => rfl

/-- A separator parts the pieces before it from those after it. The standard library proves it for
its own function, which `splitWhere_eq_splitOnP` makes available. -/
theorem splitWhere_append_cons {α : Type} {p : α → Bool} {c : α} (hc : p c = true)
    (before after : List α) :
    splitWhere p (before ++ c :: after) = splitWhere p before ++ splitWhere p after := by
  simp only [splitWhere_eq_splitOnP]
  exact List.splitOnP_append_cons before after hc

/-- Without a separator there is one piece. -/
theorem splitWhere_of_forall {α : Type} {p : α → Bool} {cs : List α}
    (h : ∀ c ∈ cs, p c = false) : splitWhere p cs = [cs] := by
  rw [splitWhere_eq_splitOnP, List.splitOnP_eq_singleton h]

/-- A list without `x` is one piece when it is cut at each `x`. -/
theorem splitWhere_of_not_mem {α : Type} [BEq α] [LawfulBEq α] {x : α} {cs : List α}
    (h : x ∉ cs) : splitWhere (· == x) cs = [cs] :=
  splitWhere_of_forall fun _ hc => beq_false_of_ne fun heq => h (heq ▸ hc)

/-- The pieces of `splitWhere` with an `x` between any two of them are the list that was cut. -/
theorem intercalate_splitWhere {α : Type} [BEq α] [LawfulBEq α] (x : α) (cs : List α) :
    [x].intercalate (splitWhere (· == x) cs) = cs := by
  rw [splitWhere_eq_splitOnP]
  exact List.intercalate_splitOn x

end HomeEnergy.Text
