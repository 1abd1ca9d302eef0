import HomeEnergy.Yaml.Scalar

/-!
# `HomeEnergy.Yaml.Lexer`: YAML text to lexemes

The lexer keeps the indentation of the open block collections and, for each open flow
collection and the block around them, the place of a token that may turn out to be a key: a
colon later in the same line, at most 1024 bytes on, puts a `key` token before it. A possible
key at the indentation of its collection must be one. A byte order mark may stand before what
a line begins with.
-/

set_option autoImplicit false

namespace HomeEnergy.Yaml

open HomeEnergy.Number

/-- A token that a colon may still turn into a key. -/
structure PossibleKey where
  required : Bool
  place : Nat
  line : Nat
  column : Nat
  bytes : Nat
  deriving DecidableEq, Repr

/-- A lexer between two tokens. The head of `keys` belongs to the innermost collection. -/
structure Lexer where
  cursor : Cursor
  flowLevel : Nat
  indent : Int
  outer : List Int
  keyAllowed : Bool
  keys : List (Option PossibleKey)
  tokens : Array Token

namespace Lexer

/-- A lexer at the start of a text. -/
def start (text : List Char) : Lexer :=
  ⟨⟨text, 0, 0, 0⟩, 0, -1, [], true, [none], #[]⟩

/-- One token more. -/
def emit (s : Lexer) (t : Token) : Lexer := { s with tokens := s.tokens.push t }

/-- A token put before the one at `place`. -/
def emitAt (s : Lexer) (place : Nat) (t : Token) : Lexer :=
  { s with tokens := s.tokens.insertIdxIfInBounds place t }

/-! ### White space and indentation -/

/-- Past blanks, comments and line ends. A new line of a block may begin with a key. -/
def skipGap : Nat → Lexer → Lexer
  | 0, s => s
  | fuel + 1, s =>
    let tabs := 0 < s.flowLevel || !s.keyAllowed
    let c := (s.cursor.skipMark.skipWhile fun ch => ch == ' ' || (tabs && ch == '\t')).skipComment
    if c.atBreak then
      skipGap fuel { s with cursor := c.skipLine, keyAllowed := s.flowLevel == 0 || s.keyAllowed }
    else { s with cursor := c }

/-- The block collections that are indented more than `column`, closed. -/
def closeBlocks (column indent : Int) : List Int → Array Token → Int × List Int × Array Token
  | [], tokens => (indent, [], tokens)
  | outer :: rest, tokens =>
    if column < indent then closeBlocks column outer rest (tokens.push .blockEnd)
    else (indent, outer :: rest, tokens)

/-- Outside flow collections, the blocks indented more than `column` end here. -/
def unroll (s : Lexer) (column : Int) : Lexer :=
  if 0 < s.flowLevel then s
  else
    let (indent, outer, tokens) := closeBlocks column s.indent s.outer s.tokens
    { s with indent := indent, outer := outer, tokens := tokens }

/-- Outside flow collections, a collection indented more than the present one begins at
`column`: its token is put at `place`, or comes next. -/
def roll (s : Lexer) (column : Nat) (place : Option Nat) (t : Token) : Lexer :=
  if 0 < s.flowLevel ∨ (column : Int) ≤ s.indent then s
  else
    let s := { s with indent := column, outer := s.indent :: s.outer }
    match place with
    | some p => s.emitAt p t
    | none => s.emit t

/-! ### Possible keys -/

/-- The possible key of the innermost collection given up; it must not be a required one. -/
def dropKey? (s : Lexer) : Option Lexer :=
  match s.keys with
  | some k :: rest => if k.required then none else some { s with keys := none :: rest }
  | _ => some s

/-- The next token noted as a possible key, where one is allowed. -/
def noteKey? (s : Lexer) : Option Lexer :=
  if s.keyAllowed then
    let required := s.flowLevel == 0 && s.indent == (s.cursor.column : Int)
    let key : PossibleKey :=
      ⟨required, s.tokens.size, s.cursor.line, s.cursor.column, s.cursor.bytes⟩
    (dropKey? s).map fun s => { s with keys := some key :: s.keys.drop 1 }
  else some s

/-- The key is too far back to be one. -/
def isStale (c : Cursor) (k : PossibleKey) : Bool :=
  k.line < c.line || k.bytes + 1024 < c.bytes

/-- Possible keys too far back given up; none of them may be a required one. -/
def dropStale? (c : Cursor) : List (Option PossibleKey) → Option (List (Option PossibleKey))
  | [] => some []
  | none :: rest => (dropStale? c rest).map (none :: ·)
  | some k :: rest =>
    if isStale c k then
      if k.required then none else (dropStale? c rest).map (none :: ·)
    else (dropStale? c rest).map (some k :: ·)

/-! ### Directives, tags and names -/

/-- The characters of a tag, percent escapes decoded. -/
def isTagChar (verbatim : Bool) (c : Char) : Bool :=
  isNameChar c || c == ';' || c == '/' || c == '?' || c == ':' || c == '@' || c == '&'
    || c == '=' || c == '+' || c == '$' || c == '.' || c == '%' || c == '!' || c == '~'
    || c == '*' || c == '\'' || c == '(' || c == ')'
    || (verbatim && (c == ',' || c == '[' || c == ']'))

/-- The number of bytes in a UTF-8 sequence, by its first. -/
def sequenceLength? (b : Nat) : Option Nat :=
  if b < 0x80 then some 1
  else if b < 0xC0 then none
  else if b < 0xE0 then some 2
  else if b < 0xF0 then some 3
  else if b < 0xF8 then some 4
  else none

/-- The bytes of a tag. Percent escapes give bytes, `missing` of which must still follow to
complete a sequence. A sequence must have the right length and nothing more. -/
def tagBytes? : Nat → List Char → Option (List UInt8)
  | 0, [] => some []
  | _ + 1, [] => none
  | missing, '%' :: high :: low :: rest =>
    match natural? 16 [high, low], missing with
    | none, _ => none
    | some b, 0 =>
      match sequenceLength? b with
      | some n => (tagBytes? (n - 1) rest).map (b.toUInt8 :: ·)
      | none => none
    | some b, missing + 1 =>
      if 0x80 ≤ b ∧ b < 0xC0 then (tagBytes? missing rest).map (b.toUInt8 :: ·) else none
  | 0, c :: rest => if c = '%' then none else (tagBytes? 0 rest).map (c.val.toUInt8 :: ·)
  | _ + 1, _ => none

/-- A tag's bytes up to the first zero. Its text must not be empty where `lead` is. -/
def tag? (verbatim : Bool) (lead : List Char) (c : Cursor) : Option (Tag × Cursor) :=
  let body := c.ahead (isTagChar verbatim)
  if lead.isEmpty && body.isEmpty then none
  else
    (tagBytes? 0 (lead.drop 1 ++ body)).map fun bytes =>
      (bytes.takeWhile (· ≠ 0), c.skip body.length)

/-- A handle: `!`, name characters, and `!` again if it follows. -/
def tagHandle? (c : Cursor) : Option (List Char × Cursor) :=
  if !c.sees '!' then none
  else
    let c := c.skip 1
    let name := c.ahead isNameChar
    let c := c.skip name.length
    if c.sees '!' then some ('!' :: name ++ ['!'], c.skip 1) else some ('!' :: name, c)

/-- A tag: its handle, its suffix and what follows. -/
def tagToken? (inFlow : Bool) (c : Cursor) : Option (Token × Cursor) := do
  let (handle, suffix, c) ←
    if c.peek? 1 = some '<' then do
      let (suffix, c) ← tag? true [] (c.skip 2)
      if c.sees '>' then pure ("", suffix, c.skip 1) else none
    else do
      let (handle, c) ← tagHandle? c
      if 1 < handle.length ∧ handle.getLast? = some '!' then
        let (suffix, c) ← tag? false [] c
        pure (String.ofList handle, suffix, c)
      else
        let (suffix, c) ← tag? false handle c
        if suffix.isEmpty then pure ("", loneTag, c) else pure ("!", suffix, c)
  if c.gapAt 0 || (inFlow && c.sees ',') then some (.tag handle suffix, c) else none

/-- The name of an anchor or alias, after its mark. -/
def name? (c : Cursor) : Option (String × Cursor) :=
  let name := c.ahead isNameChar
  let c := c.skip name.length
  let closed := c.gapAt 0 || c.sees '?' || c.sees ':' || c.sees ',' || c.sees ']' || c.sees '\x7d'
    || c.sees '%' || c.sees '@' || c.sees '\x60'
  if name.isEmpty || !closed then none else some (String.ofList name, c)

/-- The number of a version, at most nine digits. -/
def versionNumber? (c : Cursor) : Option (Nat × Cursor) :=
  let digits := c.ahead isDigit
  if digits.isEmpty || 9 < digits.length then none
  else some (decimalValue digits, c.skip digits.length)

/-- A directive, after its `%`, up to the end of its line. -/
def directive? (c : Cursor) : Option (Token × Cursor) := do
  let name := c.ahead isNameChar
  let c := c.skip name.length
  if name.isEmpty || !c.gapAt 0 then none
  let (token, c) ←
    if name = "YAML".toList then do
      let (major, c) ← versionNumber? (c.skipWhile isSpace)
      if !c.sees '.' then none
      let (minor, c) ← versionNumber? (c.skip 1)
      pure (Token.version major minor, c)
    else if name = "TAG".toList then do
      let (handle, c) ← tagHandle? (c.skipWhile isSpace)
      if handle ≠ ['!'] ∧ handle.getLast? ≠ some '!' then none
      if !c.atSpace then none
      let (lead, c) ← tag? true [] (c.skipWhile isSpace)
      if !c.gapAt 0 then none
      pure (Token.tagHandle (String.ofList handle) lead, c)
    else none
  let c := (c.skipWhile isSpace).skipComment
  if c.atBreakOrEnd then some (token, if c.atBreak then c.skipLine else c) else none

/-! ### Tokens -/

/-- A token of `n` characters. -/
def take (s : Lexer) (n : Nat) (t : Token) : Lexer :=
  { s.emit t with cursor := s.cursor.skip n }

/-- A token that ends all blocks: a directive or a document marker. -/
def atMargin? (s : Lexer) : Option Lexer :=
  ((s.unroll (-1)).dropKey?).map fun s => { s with keyAllowed := false }

/-- The opening of a flow collection. -/
def openFlow? (s : Lexer) (t : Token) : Option Lexer :=
  s.noteKey?.map fun s =>
    { s with keys := none :: s.keys, flowLevel := s.flowLevel + 1, keyAllowed := true }.take 1 t

/-- The end of a flow collection. -/
def closeFlow? (s : Lexer) (t : Token) : Option Lexer :=
  s.dropKey?.map fun s =>
    { s with
      keys := if 0 < s.flowLevel then s.keys.drop 1 else s.keys,
      flowLevel := s.flowLevel - 1, keyAllowed := false }.take 1 t

/-- A comma between the items of a flow collection. -/
def flowEntry? (s : Lexer) : Option Lexer :=
  s.dropKey?.map fun s => { s with keyAllowed := true }.take 1 .flowEntry

/-- A hyphen before an item, or a question mark before a key. In a block it may open the
collection. -/
def entry? (s : Lexer) (opening t : Token) (allowedAfter : Bool) : Option Lexer :=
  if s.flowLevel = 0 ∧ s.keyAllowed = false then none
  else
    (s.roll s.cursor.column none opening).dropKey?.map fun s =>
      { s with keyAllowed := allowedAfter }.take 1 t

/-- A colon before a value. It makes the possible key a key. -/
def value? (s : Lexer) : Option Lexer :=
  match s.keys with
  | some k :: rest =>
    let s := (s.emitAt k.place .key).roll k.column (some k.place) .blockMappingStart
    some ({ s with keys := none :: rest, keyAllowed := false }.take 1 .value)
  | _ =>
    if s.flowLevel = 0 ∧ s.keyAllowed = false then none
    else
      let s := s.roll s.cursor.column none .blockMappingStart
      some ({ s with keyAllowed := s.flowLevel == 0 }.take 1 .value)

/-- A token that may be a key and is read by `scan?`. -/
def keyable? (s : Lexer) (scan? : Cursor → Option (Token × Cursor)) : Option Lexer :=
  s.noteKey?.bind fun s =>
    (scan? s.cursor).map fun (t, c) => { s.emit t with cursor := c, keyAllowed := false }

/-- A block scalar. A key may follow it. -/
def blockText? (fuel : Nat) (s : Lexer) (literal : Bool) : Option Lexer :=
  s.dropKey?.bind fun s =>
    (blockScalar? literal s.indent fuel (s.cursor.skip 1)).map fun (c, text) =>
      { s.emit (.scalar (String.ofList text.reverse) (if literal then .literal else .folded)) with
        cursor := c, keyAllowed := true }

/-- A quoted scalar. -/
def quoted? (fuel : Nat) (single : Bool) (c : Cursor) : Option (Token × Cursor) :=
  (quotedScalar? single fuel (c.skip 1) []).map fun (c, text) =>
    (.scalar (String.ofList text.reverse) (if single then .singleQuoted else .doubleQuoted), c)

/-- A plain scalar. A key may follow it in a new line. -/
def plain? (fuel : Nat) (s : Lexer) : Option Lexer :=
  s.noteKey?.bind fun s =>
    (plainScalar? (0 < s.flowLevel) (s.indent + 1) fuel s.cursor [] Gap.none).map
      fun (c, text, broken) =>
        { s.emit (.scalar (String.ofList text.reverse) .plain) with
          cursor := c, keyAllowed := broken }

/-- The characters that cannot begin a plain scalar. -/
def isIndicator (c : Char) : Bool :=
  "-?:,[]#&*!|>'\"%@".toList.contains c || c == '\x7b' || c == '\x7d' || c == '\x60'

/-- The token that begins with `ch`. The fuel is for the text of a scalar. -/
def dispatch? (fuel : Nat) (s : Lexer) (ch : Char) : Option Lexer :=
  let c := s.cursor
  let inFlow := decide (0 < s.flowLevel)
  if c.column = 0 ∧ ch = '%' then
    s.atMargin?.bind fun s =>
      (directive? (c.skip 1)).map fun (t, c) => { s.emit t with cursor := c }
  else if c.atMarker '-' then s.atMargin?.map (·.take 3 .documentStart)
  else if c.atMarker '.' then s.atMargin?.map (·.take 3 .documentEnd)
  else if ch = '[' then s.openFlow? .flowSequenceStart
  else if ch = '\x7b' then s.openFlow? .flowMappingStart
  else if ch = ']' then s.closeFlow? .flowSequenceEnd
  else if ch = '\x7d' then s.closeFlow? .flowMappingEnd
  else if ch = ',' then s.flowEntry?
  else if ch = '-' ∧ c.gapAt 1 then s.entry? .blockSequenceStart .blockEntry true
  else if ch = '?' ∧ (inFlow ∨ c.gapAt 1) then s.entry? .blockMappingStart .key (!inFlow)
  else if ch = ':' ∧ (inFlow ∨ c.gapAt 1) then s.value?
  else if ch = '*' then
    s.keyable? fun c => (name? (c.skip 1)).map fun (n, c) => (.alias n, c)
  else if ch = '&' then
    s.keyable? fun c => (name? (c.skip 1)).map fun (n, c) => (.anchor n, c)
  else if ch = '!' then s.keyable? (tagToken? inFlow)
  else if ch = '|' ∧ !inFlow then s.blockText? fuel true
  else if ch = '>' ∧ !inFlow then s.blockText? fuel false
  else if ch = '\'' then s.keyable? (quoted? fuel true)
  else if ch = '"' then s.keyable? (quoted? fuel false)
  else
    let spaced := ((c.peek? 1).map isSpace).getD false
    if (!(isSpace ch) && !isIndicator ch) || (ch == '-' && !spaced)
        || (!inFlow && (ch == '?' || ch == ':') && !c.gapAt 1) then s.plain? fuel
    else none

/-- The end of the text: all blocks end. -/
def finish? (s : Lexer) : Option Lexer :=
  ((s.unroll (-1)).dropKey?).map fun s => s.emit .streamEnd

/-- The tokens up to the end. Each consumes a character, so there is always as much fuel as text
left, and it serves for the text between two tokens and inside of one as well. -/
def run? : Nat → Lexer → Option Lexer
  | 0, _ => none
  | fuel + 1, s =>
    let s := skipGap fuel s
    match dropStale? s.cursor s.keys with
    | none => none
    | some keys =>
      let s := { s with keys := keys }.unroll s.cursor.column
      match s.cursor.rest with
      | [] => s.finish?
      | ch :: _ => (s.dispatch? fuel ch).bind (run? fuel)

end Lexer

/-- The lexemes of a text, up to `streamEnd`. -/
def tokens? (text : String) : Option (List Token) :=
  let cs := text.toList
  if cs.all isAllowed then
    let cs := normalize cs
    (Lexer.run? (cs.length + 2) (Lexer.start cs)).map fun s => s.tokens.toList
  else none

end HomeEnergy.Yaml
