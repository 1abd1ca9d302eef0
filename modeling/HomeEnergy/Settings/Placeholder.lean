import HomeEnergy.Failure

/-!
# `HomeEnergy.Settings.Placeholder`: variables in a text

A text may name variables as `$(name)` or `$\x7bname\x7d`; `$$` stands for one dollar sign,
and a dollar sign before anything else for itself. `Placeholder.pieces` takes a text apart
and `Placeholder.expand` puts the variables' values in, which are not searched again. The
first piece that has no value decides what is wrong. A variable is set to bytes; when these are no
text, it counts as not set.

* `expand_doubled`: with every dollar sign doubled, a text expands to itself.
-/

set_option autoImplicit false

namespace HomeEnergy.Placeholder

/-- The variables that are set, by name. A value is any row of bytes. -/
abbrev Environment := List (String × List UInt8)

/-- Variables that are set to texts. -/
def Environment.ofTexts (texts : List (String × String)) : Environment :=
  texts.map fun e => (e.1, e.2.toUTF8.toList)

/-- The value of a variable that is set to a text. -/
def Environment.text? (env : Environment) (name : String) : Option String :=
  (env.lookup name).bind fun bytes => String.fromUTF8? ⟨bytes.toArray⟩

/-- A piece of a text. -/
inductive Piece
  | char (c : Char)
  | variable (name : List Char)
  | unterminated (close : Char)
  deriving DecidableEq, Repr

/-- The pieces of a text. Inside a placeholder `inside` holds the character that ends it and
the name so far, in reverse. -/
def piecesFrom : Option (Char × List Char) → List Char → List Piece
  | none, [] => []
  | none, '$' :: '$' :: cs => .char '$' :: piecesFrom none cs
  | none, '$' :: '(' :: cs => piecesFrom (some (')', [])) cs
  | none, '$' :: '\x7b' :: cs => piecesFrom (some ('\x7d', [])) cs
  | none, c :: cs => .char c :: piecesFrom none cs
  | some (close, _), [] => [.unterminated close]
  | some (close, name), c :: cs =>
    if c = close then .variable name.reverse :: piecesFrom none cs
    else piecesFrom (some (close, c :: name)) cs

/-- The pieces of a text. -/
def pieces (cs : List Char) : List Piece := piecesFrom none cs

/-- What a piece stands for. -/
def Piece.expand (env : Environment) : Piece → Except ConfigIssue (List Char)
  | .char c => .ok [c]
  | .variable name =>
    match env.text? (String.ofList name) with
    | some value => .ok value.toList
    | none => .error (.unsetVariable (String.ofList name))
  | .unterminated close => .error (.unterminated close)

/-- What a row of pieces stands for. -/
def expandAll (env : Environment) : List Piece → Except ConfigIssue (List Char)
  | [] => .ok []
  | p :: ps => do
    let before ← p.expand env
    let after ← expandAll env ps
    return before ++ after

/-- The text with the values of its variables put in. -/
def expand (env : Environment) (text : String) : Except ConfigIssue String :=
  (expandAll env (pieces text.toList)).map String.ofList

/-- Every dollar sign written twice. -/
def doubled : List Char → List Char
  | [] => []
  | c :: cs => if c = '$' then '$' :: '$' :: doubled cs else c :: doubled cs

/-- Outside a placeholder any character but a dollar sign is a piece. -/
theorem piecesFrom_none_cons {c : Char} (h : c ≠ '$') (cs : List Char) :
    piecesFrom none (c :: cs) = .char c :: piecesFrom none cs := by
  rw [piecesFrom]
  all_goals
    intro rest hc
    exact absurd hc h

/-- With every dollar sign doubled, a text expands to itself, whatever the variables are. -/
theorem expand_doubled (env : Environment) (cs : List Char) :
    expandAll env (pieces (doubled cs)) = .ok cs := by
  unfold pieces
  induction cs with
  | nil => rfl
  | cons c cs ih =>
    unfold doubled
    split
    · rename_i hc
      simp only [piecesFrom, expandAll, Piece.expand, ih, hc]
      rfl
    · rename_i hc
      simp only [piecesFrom_none_cons hc, expandAll, Piece.expand, ih]
      rfl

end HomeEnergy.Placeholder
