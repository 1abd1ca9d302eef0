import HomeEnergy.Settings.Configuration

/-!
# `HomeEnergy.Proofs.Settings.Placeholder`: how a text with placeholders is read

`Reads` is the grammar of texts with placeholders. It leaves the reader no choice: a dollar sign
is told by the character after it, and a placeholder reaches to the first bracket that closes it
or, without one, to the end of the text. So a text has one reading, the one that `pieces` finds,
and what the text expands to is told piece by piece. A piece has either a text or a fault. The
values of variables are put in when the text has been read, so a dollar sign in a value is a
character like any other.

* `reads_iff`: the reading of a text is the row of its pieces.
* `expandAll_eq_ok_iff`, `expandAll_eq_error_iff`: a row of pieces expands to the texts of its
  pieces, or to the first fault among them.
* `expand_iff_reads`: so every text expands as the grammar says, and a text with every dollar
  sign doubled expands to itself.
-/

set_option autoImplicit false

namespace HomeEnergy.Placeholder

/-! ### The grammar -/

/-- The brackets around the name of a variable. -/
inductive Bracket
  | round
  | curly
  deriving DecidableEq, Repr

/-- The character that opens a placeholder, after the dollar sign. -/
def Bracket.left : Bracket → Char
  | .round => '('
  | .curly => '\x7b'

/-- The character that closes a placeholder. -/
def Bracket.right : Bracket → Char
  | .round => ')'
  | .curly => '\x7d'

/-- The text is read as these pieces, from left to right:

- `plain`: a character that is no dollar sign stands for itself;
- `doubled`: two dollar signs stand for one;
- `lone`: so does one before anything else that opens no placeholder;
- `named`: a placeholder holds a name in which its closing bracket does not occur;
- `unclosed`: a placeholder without a closing bracket takes up the rest of the text. -/
inductive Reads : List Char → List Piece → Prop
  | nil : Reads [] []
  | plain {c : Char} {cs : List Char} {ps : List Piece} :
    c ≠ '$' → Reads cs ps → Reads (c :: cs) (.char c :: ps)
  | doubled {cs : List Char} {ps : List Piece} :
    Reads cs ps → Reads ('$' :: '$' :: cs) (.char '$' :: ps)
  | lone {cs : List Char} {ps : List Piece} :
    (∀ c ∈ cs.head?, c ≠ '$' ∧ ∀ b : Bracket, c ≠ b.left) → Reads cs ps →
    Reads ('$' :: cs) (.char '$' :: ps)
  | named (b : Bracket) {name cs : List Char} {ps : List Piece} :
    b.right ∉ name → Reads cs ps →
    Reads ('$' :: b.left :: (name ++ b.right :: cs)) (.variable name :: ps)
  | unclosed (b : Bracket) {cs : List Char} :
    b.right ∉ cs → Reads ('$' :: b.left :: cs) [.unterminated b.right]

/-! ### The pieces of a text -/

section Pieces

variable {close : Char} {before name cs : List Char} {ps : List Piece}

/-- A placeholder that is not closed is all that is left. -/
theorem piecesFrom_unclosed (h : close ∉ cs) :
    piecesFrom (some (close, before)) cs = [.unterminated close] := by
  induction cs generalizing before with
  | nil => rfl
  | cons c cs ih =>
    rw [List.mem_cons, not_or] at h
    rw [piecesFrom, if_neg (Ne.symm h.1)]
    exact ih h.2

/-- A placeholder ends at the first bracket that closes it. -/
theorem piecesFrom_named (h : close ∉ name) :
    piecesFrom (some (close, before)) (name ++ close :: cs)
      = .variable (before.reverse ++ name) :: piecesFrom none cs := by
  induction name generalizing before with
  | nil =>
    rw [List.nil_append, piecesFrom, if_pos rfl, List.append_nil]
  | cons c name ih =>
    rw [List.mem_cons, not_or] at h
    rw [List.cons_append, piecesFrom, if_neg (Ne.symm h.1), ih h.2, List.reverse_cons,
      List.append_assoc, List.singleton_append]

/-- A bracket after a dollar sign opens a placeholder, which is read up to the bracket that closes
it. -/
theorem piecesFrom_bracket (b : Bracket) :
    piecesFrom none ('$' :: b.left :: cs) = piecesFrom (some (b.right, [])) cs := by
  cases b <;> rfl

/-- A dollar sign before anything else that opens no placeholder stands for itself. -/
theorem piecesFrom_lone (h : ∀ c ∈ cs.head?, c ≠ '$' ∧ ∀ b : Bracket, c ≠ b.left) :
    piecesFrom none ('$' :: cs) = .char '$' :: piecesFrom none cs := by
  -- The earlier rows ask for a second character, which is none of those they ask for.
  rw [piecesFrom]
  · rintro rest - rfl
    exact (h '$' rfl).1 rfl
  · rintro rest - rfl
    exact (h '(' rfl).2 .round rfl
  · rintro rest - rfl
    exact (h '\x7b' rfl).2 .curly rfl

/-- What the grammar puts together is taken apart again. -/
theorem Reads.pieces_eq (h : Reads cs ps) : pieces cs = ps := by
  unfold pieces
  induction h with
  | nil => rfl
  | plain hc _ ih => rw [piecesFrom_none_cons hc, ih]
  | doubled _ ih => rw [piecesFrom, ih]
  | lone hnext _ ih => rw [piecesFrom_lone hnext, ih]
  | named b hname _ ih =>
    rw [piecesFrom_bracket, piecesFrom_named hname, ih, List.reverse_nil, List.nil_append]
  | unclosed b hcs => rw [piecesFrom_bracket, piecesFrom_unclosed hcs]

/-- What follows a dollar sign tells how it is read, if whatever is left then can be read. -/
theorem exists_reads_dollar
    (ih : ∀ rest : List Char, rest.length ≤ cs.length → ∃ ps, Reads rest ps) :
    ∃ ps, Reads ('$' :: cs) ps := by
  cases cs with
  | nil => exact ⟨_, .lone nofun .nil⟩
  | cons d rest =>
    by_cases hd : d = '$'
    · subst hd
      obtain ⟨ps, hps⟩ := ih rest (Nat.le_succ _)
      exact ⟨_, .doubled hps⟩
    · by_cases hbracket : ∃ b : Bracket, d = b.left
      · obtain ⟨b, rfl⟩ := hbracket
        -- The name reaches to the first bracket that closes it, if there is one.
        by_cases hclosed : b.right ∈ rest
        · obtain ⟨name, after, rfl, hname⟩ := List.eq_append_cons_of_mem hclosed
          have hshorter : after.length ≤ (b.left :: (name ++ b.right :: after)).length := by
            rw [List.length_cons, List.length_append, List.length_cons]
            omega
          obtain ⟨ps, hps⟩ := ih after hshorter
          exact ⟨_, .named b hname hps⟩
        · exact ⟨_, .unclosed b hclosed⟩
      · obtain ⟨ps, hps⟩ := ih (d :: rest) (Nat.le_refl _)
        refine ⟨_, .lone (fun c hc => ?_) hps⟩
        obtain rfl := Option.some.inj hc
        exact ⟨hd, fun b hb => hbracket ⟨b, hb⟩⟩

/-- Every text is read in some way. -/
theorem exists_reads (cs : List Char) : ∃ ps, Reads cs ps := by
  -- The induction is on the length: what is left after a placeholder is no tail of the text.
  induction hlength : cs.length using Nat.strongRecOn generalizing cs with
  | ind n ih =>
    subst hlength
    have hrest : ∀ c (tail : List Char), cs = c :: tail →
        ∀ rest : List Char, rest.length ≤ tail.length → ∃ ps, Reads rest ps := by
      rintro c tail rfl rest hle
      exact ih rest.length (Nat.lt_succ_of_le hle) rest rfl
    cases cs with
    | nil => exact ⟨[], .nil⟩
    | cons c tail =>
      by_cases hc : c = '$'
      · subst hc
        exact exists_reads_dollar (hrest '$' tail rfl)
      · obtain ⟨ps, hps⟩ := hrest c tail rfl tail (Nat.le_refl _)
        exact ⟨_, .plain hc hps⟩

/-- A text has one reading: the pieces into which it is taken apart. -/
theorem reads_iff : Reads cs ps ↔ ps = pieces cs := by
  constructor
  · exact fun h => h.pieces_eq.symm
  · rintro rfl
    obtain ⟨qs, hqs⟩ := exists_reads cs
    exact hqs.pieces_eq ▸ hqs

end Pieces

/-! ### What the pieces stand for -/

section Expand

variable (env : Environment)

/-- The text that a piece stands for: the character, or the value of the variable. -/
def Piece.text? : Piece → Option (List Char)
  | .char c => some [c]
  | .variable name => (env.text? (String.ofList name)).map String.toList
  | .unterminated _ => none

/-- What is wrong with a piece: the variable is not set to a text, or the placeholder not
closed. -/
def Piece.fault? : Piece → Option ConfigIssue
  | .char _ => none
  | .variable name =>
    if (env.text? (String.ofList name)).isNone then some (.unsetVariable (String.ofList name))
    else none
  | .unterminated close => some (.unterminated close)

/-- The texts of these pieces one after the other. -/
def joinedTexts (ps : List Piece) : List Char := ps.flatMap fun p => (p.text? env).getD []

variable {env} {p : Piece} {ps : List Piece} {issue : ConfigIssue}

/-- A piece has a text and no fault, or a fault and no text, and this is what becomes of it. -/
theorem Piece.expand_cases (env : Environment) (p : Piece) :
    (∃ text, p.text? env = some text ∧ p.fault? env = none ∧ p.expand env = .ok text) ∨
      ∃ issue, p.text? env = none ∧ p.fault? env = some issue ∧ p.expand env = .error issue := by
  cases p with
  | char c => exact Or.inl ⟨[c], rfl, rfl, rfl⟩
  | unterminated close => exact Or.inr ⟨_, rfl, rfl, rfl⟩
  | «variable» name =>
    cases hvalue : env.text? (String.ofList name) with
    | none =>
      exact Or.inr ⟨.unsetVariable (String.ofList name), by simp [text?, fault?, expand, hvalue]⟩
    | some value => exact Or.inl ⟨value.toList, by simp [text?, fault?, expand, hvalue]⟩

/-- A piece with a text puts its text before that of the others. -/
theorem expandAll_cons_of_text {text : List Char} (h : p.expand env = .ok text) :
    expandAll env (p :: ps) = (expandAll env ps).map (text ++ ·) := by
  rw [expandAll, h]
  cases expandAll env ps <;> rfl

/-- A piece with a fault decides what becomes of the row that it begins. -/
theorem expandAll_cons_of_fault (h : p.expand env = .error issue) :
    expandAll env (p :: ps) = .error issue := by
  rw [expandAll, h]
  rfl

/-- Without a fault a row of pieces stands for their texts. -/
theorem expandAll_of_texts (h : ∀ p ∈ ps, p.fault? env = none) :
    expandAll env ps = .ok (joinedTexts env ps) := by
  induction ps with
  | nil => rfl
  | cons p ps ih =>
    obtain ⟨hp, hps⟩ := List.forall_mem_cons.mp h
    obtain ⟨text, htext, -, hexpand⟩ | ⟨issue, -, hfault, -⟩ := p.expand_cases env
    · have hjoined : joinedTexts env (p :: ps) = text ++ joinedTexts env ps := by
        rw [joinedTexts, List.flatMap_cons, htext]
        rfl
      rw [expandAll_cons_of_text hexpand, ih hps, hjoined]
      rfl
    · rw [hp] at hfault
      cases hfault

/-- The first fault is what comes of a row of pieces. -/
theorem expandAll_of_fault {before after : List Piece}
    (hbefore : ∀ q ∈ before, q.fault? env = none) (hp : p.fault? env = some issue) :
    expandAll env (before ++ p :: after) = .error issue := by
  induction before with
  -- The piece with the fault is the first one.
  | nil =>
    obtain ⟨-, -, hnone, -⟩ | ⟨other, -, hfault, hexpand⟩ := p.expand_cases env
    · rw [hp] at hnone
      cases hnone
    · obtain rfl : issue = other := Option.some.inj (hp.symm.trans hfault)
      exact expandAll_cons_of_fault hexpand
  | cons q before ih =>
    obtain ⟨hq, hrest⟩ := List.forall_mem_cons.mp hbefore
    obtain ⟨text, -, -, hexpand⟩ | ⟨other, -, hfault, -⟩ := q.expand_cases env
    · rw [List.cons_append, expandAll_cons_of_text hexpand, ih hrest]
      rfl
    · rw [hq] at hfault
      cases hfault

/-- A row of pieces has no fault, or a first one. -/
theorem faultless_or_first (env : Environment) (ps : List Piece) :
    (∀ p ∈ ps, p.fault? env = none) ∨ ∃ before p after issue, ps = before ++ p :: after ∧
      (∀ q ∈ before, q.fault? env = none) ∧ p.fault? env = some issue := by
  cases hfind : ps.find? fun p => (p.fault? env).isSome with
  | none =>
    refine Or.inl fun p hp => ?_
    simpa using List.find?_eq_none.mp hfind p hp
  | some p =>
    obtain ⟨hp, before, after, hps, hbefore⟩ := List.find?_eq_some_iff_append.mp hfind
    obtain ⟨issue, hissue⟩ := Option.isSome_iff_exists.mp hp
    refine Or.inr ⟨before, p, after, issue, hps, fun q hq => ?_, hissue⟩
    simpa using hbefore q hq

/-- A row of pieces expands if and only if none has a fault, and then to their texts. -/
theorem expandAll_eq_ok_iff {out : List Char} : expandAll env ps = .ok out ↔
    (∀ p ∈ ps, p.fault? env = none) ∧ out = joinedTexts env ps := by
  constructor
  · intro h
    obtain hnone | ⟨before, p, after, issue, rfl, hbefore, hp⟩ := faultless_or_first env ps
    · rw [expandAll_of_texts hnone] at h
      exact ⟨hnone, (Except.ok.inj h).symm⟩
    · rw [expandAll_of_fault hbefore hp] at h
      cases h
  · rintro ⟨hnone, rfl⟩
    exact expandAll_of_texts hnone

/-- A row of pieces fails by its first fault. -/
theorem expandAll_eq_error_iff : expandAll env ps = .error issue ↔
    ∃ before p after, ps = before ++ p :: after ∧ (∀ q ∈ before, q.fault? env = none) ∧
      p.fault? env = some issue := by
  constructor
  · intro h
    obtain hnone | ⟨before, p, after, first, rfl, hbefore, hp⟩ := faultless_or_first env ps
    · rw [expandAll_of_texts hnone] at h
      cases h
    · rw [expandAll_of_fault hbefore hp] at h
      obtain rfl := Except.error.inj h
      exact ⟨before, p, after, rfl, hbefore, hp⟩
  · rintro ⟨before, p, after, rfl, hbefore, hp⟩
    exact expandAll_of_fault hbefore hp

/-! ### Texts -/

/-- A text expands if its pieces do, to the text they make. -/
theorem expand_eq_ok_iff {text out : String} :
    expand env text = .ok out ↔ expandAll env (pieces text.toList) = .ok out.toList := by
  unfold expand
  cases expandAll env (pieces text.toList) with
  | error issue => exact iff_of_false nofun nofun
  | ok cs =>
    constructor
    · rintro ⟨⟩
      rw [String.toList_ofList]
    · rintro ⟨⟩
      exact congrArg Except.ok String.ofList_toList

/-- A text fails as its pieces do. -/
theorem expand_eq_error_iff {text : String} :
    expand env text = .error issue ↔ expandAll env (pieces text.toList) = .error issue := by
  unfold expand
  cases expandAll env (pieces text.toList) with
  | ok cs => exact iff_of_false nofun nofun
  | error other =>
    constructor
    · rintro ⟨⟩
      rfl
    · rintro ⟨⟩
      rfl

/-- Every text has one reading. It expands to something exactly if no piece of the reading has a
fault, and then to the texts of the pieces, one after the other: characters that stand for
themselves and values of variables, as they are. Otherwise the first piece with a fault decides
what is wrong, and no configuration is read from the text. Doubling its dollar signs keeps a text
from being expanded. -/
theorem expand_iff_reads (env : Environment) (text : String) :
    ∃ ps, (∀ qs, Reads text.toList qs ↔ qs = ps) ∧
      (∀ out, expand env text = .ok out ↔
        (∀ p ∈ ps, p.fault? env = none) ∧ out.toList = joinedTexts env ps) ∧
      (∀ issue, expand env text = .error issue ↔ ∃ before p after, ps = before ++ p :: after ∧
        (∀ q ∈ before, q.fault? env = none) ∧ p.fault? env = some issue) ∧
      (∀ issue, expand env text = .error issue →
        Configuration.ofText env text = .error (.config issue)) ∧
      expand env (String.ofList (doubled text.toList)) = .ok text := by
  refine ⟨pieces text.toList, fun qs => reads_iff, ?_, ?_, ?_, ?_⟩
  · intro out
    rw [expand_eq_ok_iff, expandAll_eq_ok_iff]
  · intro issue
    rw [expand_eq_error_iff, expandAll_eq_error_iff]
  · intro issue h
    -- The text is expanded before it is read as a configuration.
    rw [Configuration.ofText, h]
  · rw [expand_eq_ok_iff, String.toList_ofList]
    exact expand_doubled env text.toList

/-- A value with dollar signs is put in as it is, beside a doubled and a lone one. -/
example : expandAll (.ofTexts [("A", "$(B)$$")]) (pieces "$$(A)=$(A)$".toList)
    = .ok "$(A)=$(B)$$$".toList := by
  cbv

/-- A variable that is set to no text counts as not set. -/
example : expandAll [("A", [0xff])] (pieces "$(A)".toList) = .error (.unsetVariable "A") := by
  rfl

end Expand

end HomeEnergy.Placeholder
