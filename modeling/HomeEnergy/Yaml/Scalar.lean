import HomeEnergy.Yaml.Token
import HomeEnergy.Number.Digits

/-!
# `HomeEnergy.Yaml.Scalar`: the text of scalars

Plain, quoted and block scalars. In all but literal ones a single line break between two
lines becomes a space, and of several breaks the first is dropped. Each scan takes fuel, of which
its caller has at least as much as text is left, because every turn consumes a character.
-/

set_option autoImplicit false

namespace HomeEnergy.Yaml

open HomeEnergy.Number

/-- The white space between two runs of a flow scalar: blanks, or a first line break with the
breaks after it. All in reverse. -/
structure Gap where
  spaces : List Char
  first : Option Char
  later : List Char

namespace Gap

/-- No white space. -/
def none : Gap := ⟨[], .none, []⟩

/-- The gap holds a line break. -/
def isBroken (g : Gap) : Bool := g.first.isSome

/-- One line break more; blanks before the first are dropped. -/
def pushBreak (g : Gap) (c : Char) : Gap :=
  match g.first with
  | .none => ⟨[], some c, g.later⟩
  | some _ => { g with later := c :: g.later }

/-- What the gap contributes to the text, in reverse. -/
def folded (g : Gap) : List Char :=
  match g.first with
  | .none => g.spaces
  | some '\n' => if g.later.isEmpty then [' '] else g.later
  | some c => g.later ++ [c]

end Gap

/-! ### Plain scalars -/

/-- The characters that end a plain scalar inside a flow collection. -/
def isFlowIndicator (c : Char) : Bool :=
  c == ',' || c == '[' || c == ']' || c == '\x7b' || c == '\x7d'

/-- A run of a plain scalar, in reverse after `text`. None where a colon in a flow collection
stands before an indicator. -/
def plainRun? (inFlow : Bool) : List Char → List Char → Option (List Char × Nat)
  | [], text => some (text, 0)
  | c :: cs, text =>
    if isSpace c || isBreak c then some (text, 0)
    else
      let next := cs.head?
      let gapNext := match next with
        | none => true
        | some d => isSpace d || isBreak d
      if inFlow && c == ':' && next.any fun d => isFlowIndicator d || d == '?' then none
      else if (c == ':' && gapNext) || (inFlow && isFlowIndicator c) then some (text, 0)
      else (plainRun? inFlow cs (c :: text)).map fun (t, n) => (t, n + 1)

/-- The white space after a run of a plain scalar. None where a tab stands in the
indentation. -/
def plainGap? (indent : Int) : Nat → Cursor → Gap → Option (Cursor × Gap)
  | 0, c, g => some (c, g)
  | fuel + 1, c, g =>
    match c.rest with
    | ch :: _ =>
      if isSpace ch then
        if g.isBroken && (c.column : Int) < indent && ch == '\t' then none
        else
          plainGap? indent fuel (c.skip 1)
            (if g.isBroken then g else { g with spaces := ch :: g.spaces })
      else if isBreak ch then plainGap? indent fuel c.skipLine (g.pushBreak ch)
      else some (c, g)
    | [] => some (c, g)

/-- A plain scalar: its text in reverse, and whether it ended after a line break. -/
def plainScalar? (inFlow : Bool) (indent : Int) :
    Nat → Cursor → List Char → Gap → Option (Cursor × List Char × Bool)
  | 0, c, text, g => some (c, text, g.isBroken)
  | fuel + 1, c, text, g =>
    if c.atDocumentMarker || c.sees '#' then some (c, text, g.isBroken)
    else
      match plainRun? inFlow c.rest [] with
      | none => none
      | some (run, length) =>
        let (text, g) := if length = 0 then (text, g) else (run ++ (g.folded ++ text), Gap.none)
        let c := c.skip length
        if !(c.atSpace || c.atBreak) then some (c, text, g.isBroken)
        else
          match plainGap? indent fuel c g with
          | none => none
          | some (c, g) =>
            if !inFlow && (c.column : Int) < indent then some (c, text, g.isBroken)
            else plainScalar? inFlow indent fuel c text g

/-! ### Quoted scalars -/

/-- The character a letter after a backslash stands for. -/
def escape? (c : Char) : Option Char :=
  match c with
  | '0' => some '\x00'
  | 'a' => some '\x07'
  | 'b' => some '\x08'
  | 't' => some '\t'
  | '\t' => some '\t'
  | 'n' => some '\n'
  | 'v' => some '\x0b'
  | 'f' => some '\x0c'
  | 'r' => some '\r'
  | 'e' => some '\x1b'
  | ' ' => some ' '
  | '"' => some '"'
  | '/' => some '/'
  | '\\' => some '\\'
  | 'N' => some '\u0085'
  | '_' => some '\u00a0'
  | 'L' => some '\u2028'
  | 'P' => some '\u2029'
  | _ => none

/-- The number of hexadecimal digits after a letter that announces some. -/
def codeLength? (c : Char) : Option Nat :=
  if c = 'x' then some 2 else if c = 'u' then some 4 else if c = 'U' then some 8 else none

/-- The character with a code given in hexadecimal digits; surrogates are none. -/
def codePoint? (digits : List Char) : Option Char :=
  match natural? 16 digits with
  | none => none
  | some n => if (0xD800 ≤ n ∧ n ≤ 0xDFFF) ∨ 0x10FFFF < n then none else some (Char.ofNat n)

/-- A run of a quoted scalar, in reverse after `text`: the text, the number of characters, and
whether it ends with an escaped line break. -/
def quotedRun? (single : Bool) : Nat → List Char → List Char → Nat →
    Option (List Char × Nat × Bool)
  | 0, _, text, n => some (text, n, false)
  | fuel + 1, cs, text, n =>
    match cs with
    | [] => some (text, n, false)
    | c :: rest =>
      if isSpace c || isBreak c then some (text, n, false)
      else if single then
        if c = '\'' then
          match rest with
          | '\'' :: rest => quotedRun? single fuel rest ('\'' :: text) (n + 2)
          | _ => some (text, n, false)
        else quotedRun? single fuel rest (c :: text) (n + 1)
      else if c = '"' then some (text, n, false)
      else if c = '\\' then
        match rest with
        | [] => none
        | d :: rest =>
          if isBreak d then some (text, n + 1, true)
          else match codeLength? d with
            | some k =>
              if (rest.take k).length < k then none
              else match codePoint? (rest.take k) with
                | some e => quotedRun? single fuel (rest.drop k) (e :: text) (n + 2 + k)
                | none => none
            | none => match escape? d with
              | some e => quotedRun? single fuel rest (e :: text) (n + 2)
              | none => none
      else quotedRun? single fuel rest (c :: text) (n + 1)

/-- The white space after a run of a quoted scalar. `broken` says that an escaped line break
came before it, which leaves nothing of the blanks. -/
def quotedGap (broken : Bool) : Nat → Cursor → Gap → Cursor × Gap
  | 0, c, g => (c, g)
  | fuel + 1, c, g =>
    match c.rest with
    | ch :: _ =>
      if isSpace ch then
        quotedGap broken fuel (c.skip 1)
          (if broken || g.isBroken then g else { g with spaces := ch :: g.spaces })
      else if isBreak ch then
        quotedGap broken fuel c.skipLine
          (if broken then { g with later := ch :: g.later } else g.pushBreak ch)
      else (c, g)
    | [] => (c, g)

/-- A quoted scalar after its opening quote: the text in reverse. -/
def quotedScalar? (single : Bool) : Nat → Cursor → List Char → Option (Cursor × List Char)
  | 0, _, _ => none
  | fuel + 1, c, text =>
    if c.atDocumentMarker || c.atEnd then none
    else
      match quotedRun? single fuel c.rest text 0 with
      | none => none
      | some (text, length, escaped) =>
        let c := c.skip length
        let c := if escaped then c.skipLine else c
        if !escaped && c.sees (if single then '\'' else '"') then some (c.skip 1, text)
        else
          let (c, g) := quotedGap escaped fuel c Gap.none
          quotedScalar? single fuel c ((if escaped then g.later else g.folded) ++ text)

/-! ### Block scalars -/

/-- The indentation and line breaks before a line of a block scalar. `found` is the deepest
indentation seen while `indent` is not known, that is zero. -/
def blockBreaks? (indent : Nat) : Nat → Cursor → Nat → List Char →
    Option (Cursor × Nat × List Char)
  | 0, c, found, breaks => some (c, found, breaks)
  | fuel + 1, c, found, breaks =>
    let inMargin := fun (c : Cursor) => indent == 0 || c.column < indent
    let spaces := (c.ahead (· == ' ')).length
    let c := c.skip (if indent = 0 then spaces else min spaces (indent - c.column))
    let found := max found c.column
    if inMargin c && c.sees '\t' then none
    else
      match c.rest with
      | ch :: _ =>
        if isBreak ch then blockBreaks? indent fuel c.skipLine found (ch :: breaks)
        else some (c, found, breaks)
      | [] => some (c, found, breaks)

/-- What a block scalar keeps of the line breaks at its end: none, one, or all. -/
inductive Chomping
  | strip
  | clip
  | keep
  deriving DecidableEq, Repr

/-- The header of a block scalar: chomping and indentation in either order. -/
def blockHeader? (c : Cursor) : Option (Chomping × Nat × Cursor) :=
  let chomping := fun (c : Cursor) =>
    if c.sees '+' then (Chomping.keep, c.skip 1)
    else if c.sees '-' then (Chomping.strip, c.skip 1)
    else (Chomping.clip, c)
  let increment := fun (c : Cursor) => match c.rest with
    | ch :: _ => if isDigit ch then (some (ch.toNat - 48), c.skip 1) else (none, c)
    | [] => (none, c)
  let (kept, afterKept) := chomping c
  let (step, rest) := increment afterKept
  let (kept, rest) := if kept = .clip ∧ step.isSome then chomping rest else (kept, rest)
  if step = some 0 then none
  else
    let rest := (rest.skipWhile isSpace).skipComment
    if rest.atBreakOrEnd then some (kept, step.getD 0, if rest.atBreak then rest.skipLine else rest)
    else none

/-- The lines of a block scalar. `text` and the breaks are in reverse; `first` is the break
after the last line, `leading` says that this line began with a blank. -/
def blockLines? (literal : Bool) (indent : Nat) :
    Nat → Cursor → List Char → List Char → List Char → Bool →
    Option (Cursor × List Char × List Char × List Char)
  | 0, c, text, first, later, _ => some (c, text, first, later)
  | fuel + 1, c, text, first, later, leading =>
    if c.column ≠ indent ∨ c.atEnd then some (c, text, first, later)
    else
      let blank := c.atSpace
      let joined :=
        if !literal && first == ['\n'] && !leading && !blank then
          (if later.isEmpty then [' '] else later)
        else later ++ first
      let line := c.ahead fun ch => !isBreak ch
      let c := c.skip line.length
      let text := line.reverse ++ (joined ++ text)
      let (first, c) := match c.rest with
        | ch :: _ => ([ch], c.skipLine)
        | [] => ([], c)
      match blockBreaks? indent fuel c 0 [] with
      | none => none
      | some (c, _, later) => blockLines? literal indent fuel c text first later blank

/-- A block scalar after its `|` or `>`, inside a collection indented by `parent`. -/
def blockScalar? (literal : Bool) (parent : Int) (fuel : Nat) (c : Cursor) :
    Option (Cursor × List Char) :=
  match blockHeader? c with
  | none => none
  | some (chomping, step, c) =>
    let fixed := if step = 0 then 0 else if 0 ≤ parent then parent.toNat + step else step
    match blockBreaks? fixed fuel c 0 [] with
    | none => none
    | some (c, found, breaks) =>
      let indent := if fixed = 0 then max (max found (parent + 1).toNat) 1 else fixed
      match blockLines? literal indent fuel c [] [] breaks false with
      | none => none
      | some (c, text, first, later) =>
        some (c, match chomping with
          | .strip => text
          | .clip => first ++ text
          | .keep => later ++ (first ++ text))

end HomeEnergy.Yaml
