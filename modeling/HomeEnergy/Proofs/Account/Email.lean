import HomeEnergy.Account.Registration
import HomeEnergy.Proofs.Text.Cuts
import Mathlib.Computability.RegularExpressions
import Mathlib.Tactic.TFAE

/-!
# `HomeEnergy.Proofs.Account.Email`: which texts are addresses

An address is put together from a user, a domain and a top level, with an at sign and a point
between them. `Parts` is such a triple with what each part may hold, and `pattern` the same as a
regular expression.

A domain may hold points, so the pattern leaves open which point is the one before the top level.
The top level holds letters only, and so it can be no other than the last. That is why cutting the
text at its at sign and its last point, as `CutsWell` does, finds the same addresses.

* `isDomain_iff`, `isEmail_iff`: what is accepted is what can be put together.
* `cutsWell_iff`: the same told by the at sign and the last point.
* `pattern_rmatch_iff`: the same told by the regular expression.
* `isEmail_tfae`: all of these are one.
-/

set_option autoImplicit false

namespace HomeEnergy.Email

open HomeEnergy.Number HomeEnergy.Text

/-! ### Classes of characters -/

/-- The characters from one to another. -/
def between (first last : Char) : List Char :=
  (List.range' first.toNat (last.toNat + 1 - first.toNat)).map Char.ofNat

/-- The ASCII letters. -/
def letters : List Char := between 'A' 'Z' ++ between 'a' 'z'

/-- What a user may hold. -/
def userChars : List Char := letters ++ between '0' '9' ++ "._%+-".toList

/-- What a domain may hold. -/
def domainChars : List Char := letters ++ between '0' '9' ++ ".-".toList

/-- A valid code is the code of its character. -/
theorem toNat_ofNat {n : Nat} (h : n.isValidChar) : (Char.ofNat n).toNat = n := by
  unfold Char.ofNat
  rw [dif_pos h]
  rfl

/-- The characters from one to another are those whose codes are between the two codes. -/
theorem mem_between {first last : Char} (hlast : last.toNat < 0xD800) {c : Char} :
    c ∈ between first last ↔ first.toNat ≤ c.toNat ∧ c.toNat ≤ last.toNat := by
  unfold between
  simp only [List.mem_map, List.mem_range'_1]
  constructor
  · intro ⟨n, hn, hc⟩
    rw [← hc, toNat_ofNat (Or.inl (by omega))]
    omega
  · intro hc
    exact ⟨c.toNat, by omega, Char.ofNat_toNat c⟩

/-- The test `isLetter` and the class `letters` are the same. -/
theorem isLetter_iff {c : Char} : isLetter c = true ↔ c ∈ letters := by
  rw [letters, List.mem_append, mem_between (by decide), mem_between (by decide)]
  simp [isLetter]

/-- The test `isLocalChar` and the class `userChars` are the same. -/
theorem isLocalChar_iff {c : Char} : isLocalChar c = true ↔ c ∈ userChars := by
  rw [userChars, List.mem_append, List.mem_append, ← isLetter_iff, mem_between (by decide)]
  simp [isLocalChar, isDigit, or_assoc]

/-- The test `isDomainChar` and the class `domainChars` are the same. -/
theorem isDomainChar_iff {c : Char} : isDomainChar c = true ↔ c ∈ domainChars := by
  rw [domainChars, List.mem_append, List.mem_append, ← isLetter_iff, mem_between (by decide)]
  simp [isDomainChar, isDigit, or_assoc]

/-! ### Addresses put together -/

/-- The parts of an address. -/
structure Parts where
  user : List Char
  domain : List Char
  top : List Char
  user_ne : user ≠ []
  user_chars : ∀ c ∈ user, c ∈ userChars
  domain_ne : domain ≠ []
  domain_chars : ∀ c ∈ domain, c ∈ domainChars
  two_le_top : 2 ≤ top.length
  top_letters : ∀ c ∈ top, c ∈ letters

/-- The text of the address. -/
def Parts.chars (e : Parts) : List Char := e.user ++ '@' :: (e.domain ++ '.' :: e.top)

/-- No user holds an at sign. -/
theorem at_not_mem_userChars : '@' ∉ userChars := by decide

/-- No domain holds an at sign. -/
theorem at_not_mem_domainChars : '@' ∉ domainChars := by decide

/-- A point is no letter. -/
theorem point_not_mem_letters : '.' ∉ letters := by decide

/-- A host is a domain as a whole: the point and the letters of the top level belong to it. -/
theorem host_chars {domain top : List Char} (hdomain : ∀ c ∈ domain, c ∈ domainChars)
    (htop : ∀ c ∈ top, c ∈ letters) : ∀ c ∈ domain ++ '.' :: top, c ∈ domainChars := by
  have hrest : ∀ c ∈ top, c ∈ domainChars := fun c hc =>
    List.mem_append_left _ (List.mem_append_left _ (htop c hc))
  exact List.forall_mem_append.mpr ⟨hdomain, List.forall_mem_cons.mpr ⟨by decide, hrest⟩⟩

/-- The at sign of an address is not in its user. -/
theorem Parts.at_not_mem_user (e : Parts) : '@' ∉ e.user := fun h =>
  at_not_mem_userChars (e.user_chars '@' h)

/-- The at sign of an address is not in its host either, so it is the only one. -/
theorem Parts.at_not_mem_host (e : Parts) : '@' ∉ e.domain ++ '.' :: e.top := fun h =>
  at_not_mem_domainChars (host_chars e.domain_chars e.top_letters '@' h)

/-- The point before the top level is the last. -/
theorem Parts.point_not_mem_top (e : Parts) : '.' ∉ e.top := fun h =>
  point_not_mem_letters (e.top_letters '.' h)

/-! ### What is accepted -/

/-- The point that counts is the last. -/
theorem isDomain_append_cons {domain top : List Char} (h : '.' ∉ top) :
    isDomain (domain ++ '.' :: top) = true ↔ (∀ c ∈ domain ++ '.' :: top, c ∈ domainChars) ∧
      2 ≤ top.length ∧ (∀ c ∈ top, c ∈ letters) ∧ domain ≠ [] := by
  have hpieces : (splitWhere (· == '.') (domain ++ '.' :: top)).reverse
      = top :: (splitWhere (· == '.') domain).reverse := by
    rw [splitWhere_append_cons rfl, splitWhere_of_not_mem h, List.reverse_concat]
  have hdomain := intercalate_splitWhere '.' domain
  -- The pieces before the last one are never none, and together they are the domain.
  unfold isDomain
  rw [hpieces]
  cases hbefore : (splitWhere (· == '.') domain).reverse with
  | nil => exact absurd (List.reverse_eq_nil_iff.mp hbefore) (splitWhere_ne_nil _ domain)
  | cons name more =>
    rw [← List.reverse_reverse (splitWhere (· == '.') domain), hbefore] at hdomain
    dsimp only
    rw [hdomain]
    simp only [Bool.and_eq_true, List.all_eq_true, decide_eq_true_eq, Bool.not_eq_true',
      List.isEmpty_eq_false_iff, isDomainChar_iff, isLetter_iff, and_assoc]

/-- Without a point there is no domain. -/
theorem isDomain_of_not_mem {cs : List Char} (h : '.' ∉ cs) : isDomain cs = false := by
  unfold isDomain
  rw [splitWhere_of_not_mem h]
  rfl

/-- The check `isDomain` accepts what is put together from a name, a point and a top level of two
letters or more. -/
theorem isDomain_iff {cs : List Char} : isDomain cs = true ↔ ∃ domain top,
    cs = domain ++ '.' :: top ∧ domain ≠ [] ∧ (∀ c ∈ domain, c ∈ domainChars) ∧
      2 ≤ top.length ∧ ∀ c ∈ top, c ∈ letters := by
  constructor
  · intro h
    -- The parts are those at the last point, since no top level holds one.
    by_cases hpoint : '.' ∈ cs
    · have hcs := eq_of_mem_cutLast hpoint
      rw [hcs, isDomain_append_cons (not_mem_cutLast '.' cs)] at h
      obtain ⟨hchars, htwo, hletters, hne⟩ := h
      exact ⟨_, _, hcs, hne, (List.forall_mem_append.mp hchars).1, htwo, hletters⟩
    · rw [isDomain_of_not_mem hpoint] at h
      cases h
  · intro ⟨domain, top, hcs, hne, hdomain, htwo, hletters⟩
    have hpoint : '.' ∉ top := fun h => point_not_mem_letters (hletters '.' h)
    rw [hcs, isDomain_append_cons hpoint]
    exact ⟨host_chars hdomain hletters, htwo, hletters, hne⟩

/-- The check `isEmail` accepts exactly the texts that are put together from the `Parts` of an
address. -/
theorem isEmail_iff {text : String} :
    isEmail text = true ↔ ∃ e : Parts, e.chars = text.toList := by
  unfold isEmail
  constructor
  · intro h
    split at h
    · -- There are two pieces, so the at sign between them is the only one.
      rename_i user host hpieces
      simp only [Bool.and_eq_true, Bool.not_eq_true', List.isEmpty_eq_false_iff, List.all_eq_true,
        isLocalChar_iff] at h
      obtain ⟨⟨huser, hchars⟩, hhost⟩ := h
      obtain ⟨domain, top, hcut, hne, hdomain, htwo, hletters⟩ := isDomain_iff.mp hhost
      obtain ⟨htext, _, _⟩ := splitWhere_eq_pair_iff.mp hpieces
      refine ⟨⟨user, domain, top, huser, hchars, hne, hdomain, htwo, hletters⟩, ?_⟩
      rw [htext, hcut]
      rfl
    · cases h
  · intro ⟨e, he⟩
    have hpieces : splitWhere (· == '@') text.toList = [e.user, e.domain ++ '.' :: e.top] :=
      splitWhere_eq_pair_iff.mpr ⟨he.symm, e.at_not_mem_user, e.at_not_mem_host⟩
    have hhost : isDomain (e.domain ++ '.' :: e.top) = true :=
      isDomain_iff.mpr ⟨_, _, rfl, e.domain_ne, e.domain_chars, e.two_le_top, e.top_letters⟩
    rw [hpieces]
    simp only [Bool.and_eq_true, Bool.not_eq_true', List.isEmpty_eq_false_iff, List.all_eq_true,
      isLocalChar_iff]
    exact ⟨⟨e.user_ne, e.user_chars⟩, hhost⟩

example : isEmail "sam.lee+home@mail.example.org" = true := by decide
example : isEmail "sam@example.org\n" = false := by decide

/-! ### The last point -/

/-- The text has one at sign and is cut there, into a user and a host. The host is cut at its last
point, into something that is not empty and a top level. -/
structure CutsWell (cs : List Char) : Prop where
  once : cs.count '@' = 1
  user_ne : (cutFirst '@' cs).1 ≠ []
  user_chars : ∀ c ∈ (cutFirst '@' cs).1, c ∈ userChars
  host_chars : ∀ c ∈ (cutFirst '@' cs).2, c ∈ domainChars
  domain_ne : (cutLast '.' (cutFirst '@' cs).2).1 ≠ []
  two_le_top : 2 ≤ (cutLast '.' (cutFirst '@' cs).2).2.length
  top_letters : ∀ c ∈ (cutLast '.' (cutFirst '@' cs).2).2, c ∈ letters

/-- An address is cut at its first at sign into user and host. -/
theorem Parts.cutFirst_chars (e : Parts) :
    cutFirst '@' e.chars = (e.user, e.domain ++ '.' :: e.top) :=
  cutFirst_append_cons e.at_not_mem_user

/-- A host is cut at its last point into name and top level. -/
theorem Parts.cutLast_host (e : Parts) :
    cutLast '.' (e.domain ++ '.' :: e.top) = (e.domain, e.top) :=
  cutLast_append_cons e.point_not_mem_top

/-- An address that is put together cuts well: both cuts find the parts again. -/
theorem Parts.cutsWell (e : Parts) : CutsWell e.chars where
  once := by
    -- Neither side has an at sign, so the one between them is the only one.
    have huser := List.count_eq_zero_of_not_mem e.at_not_mem_user
    have hhost := List.count_eq_zero_of_not_mem e.at_not_mem_host
    rw [chars, List.count_append, List.count_cons_self, huser, hhost]
  user_ne := by
    rw [e.cutFirst_chars]
    exact e.user_ne
  user_chars := by
    rw [e.cutFirst_chars]
    exact e.user_chars
  host_chars := by
    rw [e.cutFirst_chars]
    exact Email.host_chars e.domain_chars e.top_letters
  domain_ne := by
    rw [e.cutFirst_chars, e.cutLast_host]
    exact e.domain_ne
  two_le_top := by
    rw [e.cutFirst_chars, e.cutLast_host]
    exact e.two_le_top
  top_letters := by
    rw [e.cutFirst_chars, e.cutLast_host]
    exact e.top_letters

/-- A text that `CutsWell` is put together from what it is cut into. -/
theorem cutsWell_iff {cs : List Char} : CutsWell cs ↔ ∃ e : Parts, e.chars = cs := by
  constructor
  · intro h
    have hat : '@' ∈ cs := List.count_pos_iff.mp (by rw [h.once]; decide)
    have hcs := eq_of_mem_cutFirst hat
    -- Something stands before the last point, and so there is a point.
    have hhost := eq_of_mem_cutLast (mem_of_cutLast_ne h.domain_ne)
    have hdomain : ∀ c ∈ (cutLast '.' (cutFirst '@' cs).2).1, c ∈ domainChars := by
      intro c hc
      exact h.host_chars c (hhost ▸ List.mem_append_left _ hc)
    refine ⟨⟨_, _, _, h.user_ne, h.user_chars, h.domain_ne, hdomain, h.two_le_top, h.top_letters⟩,
      ?_⟩
    show _ ++ '@' :: (_ ++ '.' :: _) = cs
    rw [← hhost, ← hcs]
  · intro ⟨e, he⟩
    rw [← he]
    exact e.cutsWell

/-! ### The regular expression -/

section Pattern

open RegularExpression

/-- One character of a class. -/
def oneOf (cs : List Char) : RegularExpression Char := (cs.map char).sum

/-- One and more characters of a class. -/
def atLeastOne (cs : List Char) : RegularExpression Char := oneOf cs * (oneOf cs).star

/-- Two and more characters of a class. -/
def atLeastTwo (cs : List Char) : RegularExpression Char := oneOf cs * atLeastOne cs

/-- The whole text matches `[A-Z0-9a-z._%+-]+@[A-Za-z0-9.-]+\.[A-Za-z]{2,}`. -/
def pattern : RegularExpression Char :=
  atLeastOne userChars * (char '@' * (atLeastOne domainChars * (char '.' * atLeastTwo letters)))

variable {cs x : List Char} {P Q : RegularExpression Char}

/-- One character of the class matches, and nothing else. -/
theorem oneOf_rmatch_iff : (oneOf cs).rmatch x = true ↔ ∃ c ∈ cs, x = [c] := by
  induction cs with
  | nil =>
    have hzero : (oneOf []).rmatch x = false := zero_rmatch x
    simp [hzero]
  | cons c cs ih =>
    show (char c + oneOf cs).rmatch x = true ↔ _
    rw [add_rmatch_iff, char_rmatch_iff, ih]
    simp

/-- A character of the class and something more match a text that begins with one and goes on so. -/
theorem oneOf_mul_rmatch_iff : (oneOf cs * P).rmatch x = true ↔
    ∃ c rest, x = c :: rest ∧ c ∈ cs ∧ P.rmatch rest = true := by
  rw [mul_rmatch_iff]
  constructor
  · intro ⟨first, rest, hx, hfirst, hrest⟩
    obtain ⟨c, hc, rfl⟩ := oneOf_rmatch_iff.mp hfirst
    exact ⟨c, rest, hx, hc, hrest⟩
  · intro ⟨c, rest, hx, hc, hrest⟩
    exact ⟨[c], rest, hx, oneOf_rmatch_iff.mpr ⟨c, hc, rfl⟩, hrest⟩

/-- Any number of characters of the class match the texts that consist of such. -/
theorem star_oneOf_rmatch_iff : (oneOf cs).star.rmatch x = true ↔ ∀ c ∈ x, c ∈ cs := by
  rw [star_rmatch_iff]
  constructor
  · intro ⟨rounds, hx, hrounds⟩ c hc
    rw [hx] at hc
    obtain ⟨round, hround, hc⟩ := List.mem_flatten.mp hc
    obtain ⟨d, hd, rfl⟩ := oneOf_rmatch_iff.mp (hrounds round hround).2
    rwa [List.mem_singleton.mp hc]
  · intro h
    -- Each character is a round of its own.
    refine ⟨x.map fun c => [c], (List.flatMap_singleton' x).symm, ?_⟩
    intro round hround
    obtain ⟨c, hc, rfl⟩ := List.mem_map.mp hround
    exact ⟨by simp, oneOf_rmatch_iff.mpr ⟨c, h c hc, rfl⟩⟩

/-- The texts matched by `atLeastOne` are those of the class that are not empty. -/
theorem atLeastOne_rmatch_iff :
    (atLeastOne cs).rmatch x = true ↔ x ≠ [] ∧ ∀ c ∈ x, c ∈ cs := by
  unfold atLeastOne
  rw [oneOf_mul_rmatch_iff]
  simp only [star_oneOf_rmatch_iff]
  cases x with
  | nil => simp
  | cons c rest => simp

/-- The texts matched by `atLeastTwo` are those of the class with two characters or more. -/
theorem atLeastTwo_rmatch_iff :
    (atLeastTwo cs).rmatch x = true ↔ 2 ≤ x.length ∧ ∀ c ∈ x, c ∈ cs := by
  unfold atLeastTwo
  rw [oneOf_mul_rmatch_iff]
  simp only [atLeastOne_rmatch_iff]
  match x with
  | [] => simp
  | [c] => simp
  | c :: d :: rest => simp

/-- A sequence with a fixed character in it matches what stands before and after one place of the
character. -/
theorem mul_char_mul_rmatch_iff {c : Char} : (P * (char c * Q)).rmatch x = true ↔
    ∃ before after, x = before ++ c :: after ∧ P.rmatch before = true ∧ Q.rmatch after = true := by
  rw [mul_rmatch_iff]
  constructor
  · intro ⟨before, rest, hx, hbefore, hrest⟩
    obtain ⟨middle, after, hcut, hmiddle, hafter⟩ := (mul_rmatch_iff _ _ _).mp hrest
    rw [(char_rmatch_iff c middle).mp hmiddle] at hcut
    exact ⟨before, after, by rw [hx, hcut]; rfl, hbefore, hafter⟩
  · intro ⟨before, after, hx, hbefore, hafter⟩
    exact ⟨before, c :: after, hx, hbefore, (mul_rmatch_iff _ _ _).mpr
      ⟨[c], after, rfl, (char_rmatch_iff c [c]).mpr rfl, hafter⟩⟩

/-- The regular expression matches exactly what is put together from the `Parts` of an address. -/
theorem pattern_rmatch_iff : pattern.rmatch x = true ↔ ∃ e : Parts, e.chars = x := by
  -- The pieces of a match are the parts of an address.
  unfold pattern
  simp only [mul_char_mul_rmatch_iff, atLeastOne_rmatch_iff, atLeastTwo_rmatch_iff]
  constructor
  · intro ⟨user, host, hx, ⟨huser, hchars⟩, domain, top, hhost, ⟨hne, hdomain⟩, htwo, hletters⟩
    refine ⟨⟨user, domain, top, huser, hchars, hne, hdomain, htwo, hletters⟩, ?_⟩
    rw [hx, hhost]
    rfl
  · intro ⟨e, he⟩
    exact ⟨e.user, _, he.symm, ⟨e.user_ne, e.user_chars⟩, e.domain, e.top, rfl,
      ⟨e.domain_ne, e.domain_chars⟩, e.two_le_top, e.top_letters⟩

end Pattern

/-- The texts that are accepted, told by what they are put together from, by their at sign and
their last point, and by the pattern. -/
theorem isEmail_tfae (text : String) : [
    isEmail text = true,
    ∃ e : Parts, e.chars = text.toList,
    CutsWell text.toList,
    text.toList ∈ pattern.matches'].TFAE := by
  tfae_have 1 ↔ 2 := isEmail_iff
  tfae_have 3 ↔ 2 := cutsWell_iff
  tfae_have 4 ↔ 2 := by
    rw [← RegularExpression.rmatch_iff_matches']
    exact pattern_rmatch_iff
  tfae_finish

end HomeEnergy.Email
