import HomeEnergy.Yaml.Lexer

/-!
# `HomeEnergy.Yaml.Node`: YAML text to a tree

A document is a tree of scalars, sequences and mappings, with tags resolved. Anchors and
aliases become numbers. A new anchor takes the number of names in use before it, so that an
anchor that uses a name again shares its number with the next new name. `Node.read?` takes a
text of at most one document and gives none for an empty one.

The grammar functions consume tokens one way or another at every turn; their fuel is set to a
multiple of the number of tokens.
-/

set_option autoImplicit false

namespace HomeEnergy.Yaml

/-- A node. The tag is the resolved one, if the node has any. -/
inductive Node
  | scalar (tag : Option Tag) (style : Style) (text : String)
  | sequence (tag : Option Tag) (items : List Node)
  | mapping (tag : Option Tag) (pairs : List (Node × Node))
  | anchored (number : Nat) (node : Node)
  | alias (number : Nat)

namespace Node

/-- A scalar without text. -/
def blank : Node := .scalar none .plain ""

/-- What the parser knows besides the tokens: tag handles, and the numbers of the anchors by
name, each name once. -/
structure Scope where
  handles : List (String × Tag)
  anchors : List (String × Nat)

/-- A node, the tokens after it, and the scope with its anchors. -/
abbrev Parsed (α : Type) := Option (α × List Token × Scope)

/-- The handles every document has. -/
def defaultHandles : List (String × Tag) :=
  [("!", loneTag), ("!!", "tag:yaml.org,2002:".toUTF8.toList)]

/-- The tag that a handle and a suffix stand for. -/
def resolveTag? (scope : Scope) (handle : String) (suffix : Tag) : Option Tag :=
  if handle = "" then some suffix
  else (scope.handles.lookup handle).map (· ++ suffix)

/-- The anchor and tag before a node, in either order. -/
def properties? (scope : Scope) :
    List Token → Option (Option String × Option Tag × List Token)
  | .anchor name :: .tag h t :: rest =>
    (resolveTag? scope h t).map fun tag => (some name, some tag, rest)
  | .tag h t :: .anchor name :: rest =>
    (resolveTag? scope h t).map fun tag => (some name, some tag, rest)
  | .anchor name :: rest => some (some name, none, rest)
  | .tag h t :: rest => (resolveTag? scope h t).map fun tag => (none, some tag, rest)
  | rest => some (none, none, rest)

/-- The scope in which a node with this anchor stands, and the mark that the anchor puts on
it. -/
def Scope.bind (scope : Scope) : Option String → Scope × (Node → Node)
  | some name =>
    let number := scope.anchors.length
    ({ scope with anchors := (name, number) :: scope.anchors.filter fun a => a.1 ≠ name },
      .anchored number)
  | none => (scope, id)

/-- The next token is one of these. -/
def comes (tokens : List Token) (among : List Token) : Bool :=
  match tokens with
  | t :: _ => among.contains t
  | [] => false

mutual

/-- A node. Block collections only where `inBlock`; a sequence may stand at the indentation of
its key where `indentless`. -/
def node? (inBlock indentless : Bool) : Nat → List Token → Scope → Parsed Node
  | 0, _, _ => none
  | _ + 1, .alias name :: rest, scope =>
    (scope.anchors.lookup name).map fun number => (.alias number, rest, scope)
  | fuel + 1, tokens, scope =>
    match properties? scope tokens with
    | none => none
    | some (anchor, tag, rest) =>
      let (scope, mark) := scope.bind anchor
      let sequence := fun (result : Parsed (List Node)) =>
        result.map fun (items, rest, scope) => (mark (.sequence tag items), rest, scope)
      let mapping := fun (result : Parsed (List (Node × Node))) =>
        result.map fun (pairs, rest, scope) => (mark (.mapping tag pairs), rest, scope)
      let empty :=
        if anchor.isSome || tag.isSome then some (mark (.scalar tag .plain ""), rest, scope)
        else none
      match rest with
      | .blockEntry :: _ =>
        if indentless then sequence (indentlessItems? fuel rest scope) else empty
      | .scalar text style :: rest => some (mark (.scalar tag style text), rest, scope)
      | .flowSequenceStart :: rest => sequence (flowItems? fuel true rest scope)
      | .flowMappingStart :: rest => mapping (flowPairs? fuel true rest scope)
      | .blockSequenceStart :: inner =>
        if inBlock then sequence (blockItems? fuel inner scope) else empty
      | .blockMappingStart :: inner =>
        if inBlock then mapping (blockPairs? fuel inner scope) else empty
      | _ => empty

/-- A node, or an empty scalar where one of `stops` comes next. -/
def nodeUnless? (stops : List Token) (inBlock indentless : Bool) :
    Nat → List Token → Scope → Parsed Node
  | 0, _, _ => none
  | fuel + 1, tokens, scope =>
    if comes tokens stops then some (blank, tokens, scope)
    else node? inBlock indentless fuel tokens scope

/-- The items of a block sequence, up to its end. -/
def blockItems? : Nat → List Token → Scope → Parsed (List Node)
  | 0, _, _ => none
  | fuel + 1, .blockEntry :: rest, scope =>
    match nodeUnless? [.blockEntry, .blockEnd] true false fuel rest scope with
    | none => none
    | some (item, rest, scope) =>
      (blockItems? fuel rest scope).map fun (items, r, sc) => (item :: items, r, sc)
  | _ + 1, .blockEnd :: rest, scope => some ([], rest, scope)
  | _ + 1, _, _ => none

/-- The items of a sequence that stands at the indentation of its key. -/
def indentlessItems? : Nat → List Token → Scope → Parsed (List Node)
  | 0, _, _ => none
  | fuel + 1, .blockEntry :: rest, scope =>
    match nodeUnless? [.blockEntry, .key, .value, .blockEnd] true false fuel rest scope with
    | none => none
    | some (item, rest, scope) =>
      (indentlessItems? fuel rest scope).map fun (items, r, sc) => (item :: items, r, sc)
  | _ + 1, tokens, scope => some ([], tokens, scope)

/-- The pairs of a block mapping, up to its end. -/
def blockPairs? : Nat → List Token → Scope → Parsed (List (Node × Node))
  | 0, _, _ => none
  | fuel + 1, .key :: rest, scope =>
    match nodeUnless? [.key, .value, .blockEnd] true true fuel rest scope with
    | none => none
    | some (key, rest, scope) =>
      match blockValue? fuel rest scope with
      | none => none
      | some (value, rest, scope) =>
        (blockPairs? fuel rest scope).map fun (pairs, r, sc) => ((key, value) :: pairs, r, sc)
  | _ + 1, .blockEnd :: rest, scope => some ([], rest, scope)
  | _ + 1, _, _ => none

/-- The value of a pair in a block. -/
def blockValue? : Nat → List Token → Scope → Parsed Node
  | 0, _, _ => none
  | fuel + 1, .value :: rest, scope =>
    nodeUnless? [.key, .value, .blockEnd] true true fuel rest scope
  | _ + 1, tokens, scope => some (blank, tokens, scope)

/-- The items of a flow sequence. An item with a colon is a mapping of one pair. -/
def flowItems? : Nat → Bool → List Token → Scope → Parsed (List Node)
  | 0, _, _, _ => none
  | fuel + 1, first, tokens, scope =>
    match (if first || comes tokens [.flowSequenceEnd] then some tokens
      else match tokens with
        | .flowEntry :: rest => some rest
        | _ => none) with
    | none => none
    | some (.flowSequenceEnd :: rest) => some ([], rest, scope)
    | some (.key :: rest) =>
      match (if comes rest [.value, .flowEntry, .flowSequenceEnd] then
          some (blank, rest.drop 1, scope)
        else node? false false fuel rest scope) with
      | none => none
      | some (key, rest, scope) =>
        match flowValue? [.flowEntry, .flowSequenceEnd] fuel rest scope with
        | none => none
        | some (value, rest, scope) =>
          (flowItems? fuel false rest scope).map fun (items, r, sc) =>
            (.mapping none [(key, value)] :: items, r, sc)
    | some rest =>
      match node? false false fuel rest scope with
      | none => none
      | some (item, rest, scope) =>
        (flowItems? fuel false rest scope).map fun (items, r, sc) => (item :: items, r, sc)

/-- The pairs of a flow mapping. A key without a colon has an empty value. -/
def flowPairs? : Nat → Bool → List Token → Scope → Parsed (List (Node × Node))
  | 0, _, _, _ => none
  | fuel + 1, first, tokens, scope =>
    match (if first || comes tokens [.flowMappingEnd] then some tokens
      else match tokens with
        | .flowEntry :: rest => some rest
        | _ => none) with
    | none => none
    | some (.flowMappingEnd :: rest) => some ([], rest, scope)
    | some (.key :: rest) =>
      match nodeUnless? [.value, .flowEntry, .flowMappingEnd] false false fuel rest scope with
      | none => none
      | some (key, rest, scope) =>
        match flowValue? [.flowEntry, .flowMappingEnd] fuel rest scope with
        | none => none
        | some (value, rest, scope) =>
          (flowPairs? fuel false rest scope).map fun (pairs, r, sc) =>
            ((key, value) :: pairs, r, sc)
    | some rest =>
      match node? false false fuel rest scope with
      | none => none
      | some (key, rest, scope) =>
        (flowPairs? fuel false rest scope).map fun (pairs, r, sc) => ((key, blank) :: pairs, r, sc)

/-- The value of a pair in a flow collection. -/
def flowValue? (stops : List Token) : Nat → List Token → Scope → Parsed Node
  | 0, _, _ => none
  | fuel + 1, .value :: rest, scope => nodeUnless? stops false false fuel rest scope
  | _ + 1, tokens, scope => some (blank, tokens, scope)

end

/-! ### Documents -/

/-- The directives before a document: at most one version, which must be 1.1 or 1.2, and no
handle twice. -/
def directives? : List Token → Bool → List (String × Tag) →
    Option (List (String × Tag) × List Token)
  | .version major minor :: rest, versioned, handles =>
    if versioned || major ≠ 1 || (minor ≠ 1 && minor ≠ 2) then none
    else directives? rest true handles
  | .tagHandle handle lead :: rest, versioned, handles =>
    if (handles.lookup handle).isSome then none
    else directives? rest versioned ((handle, lead) :: handles)
  | tokens, _, handles => some (handles, tokens)

/-- Nothing but document ends is left. -/
def atStreamEnd : List Token → Bool
  | .documentEnd :: rest => atStreamEnd rest
  | .streamEnd :: _ => true
  | _ => false

/-- The fuel that a row of tokens can use up. -/
def fuelFor (tokens : List Token) : Nat := 4 * tokens.length + 8

/-- The content of a document. -/
def content? (handles : List (String × Tag)) (tokens : List Token) : Option Node :=
  let scope : Scope := ⟨handles ++ defaultHandles, []⟩
  let result :=
    if comes tokens [.documentStart, .documentEnd, .streamEnd] then some (blank, tokens, scope)
    else match tokens with
      | .version _ _ :: _ => some (blank, tokens, scope)
      | .tagHandle _ _ :: _ => some (blank, tokens, scope)
      | _ => node? true false (fuelFor tokens) tokens scope
  match result with
  | some (node, rest, _) => if atStreamEnd rest then some node else none
  | none => none

/-- The document of a row of tokens; `some none` if there is none. -/
def ofTokens? (tokens : List Token) : Option (Option Node) :=
  match tokens with
  | .streamEnd :: _ => some none
  | _ =>
    match directives? tokens false [] with
    | none => none
    | some (handles, .documentStart :: rest) => (content? handles rest).map some
    | some (handles, rest) =>
      if handles.isEmpty && rest.length = tokens.length then
        (node? true false (fuelFor rest) rest ⟨defaultHandles, []⟩).bind fun (node, rest, _) =>
          if atStreamEnd rest then some (some node) else none
      else none

/-- The only document of a text, `some none` if it has none. -/
def read? (text : String) : Option (Option Node) :=
  (tokens? text).bind ofTokens?

end Node

end HomeEnergy.Yaml
