import HomeEnergy.Json.Numeral

/-!
# `HomeEnergy.Json.Reader`: JSON text to values

`Json.read?` reads the one value of a text. Arrays and objects nest at most `maxDepth` deep.
`Scan.pass` only finds the end of a value. What is passed over has to be well formed, but its
numbers may be of any size, its strings any bytes, and it may nest to any depth.
-/

set_option autoImplicit false

namespace HomeEnergy.Json

/-- The deepest nesting that is read. -/
def maxDepth : Nat := 127

namespace Scan

variable {α : Type}

/-! ### Items and members -/

/-- Another item of an array comes next; the comma before it is passed over. -/
def anotherItem (first : Bool) : Scan Bool := do
  match ← peekAfterBlanks with
  | none => failure
  | some b =>
    if b = byte ']' then return false
    else if first then return true
    else if b = byte ',' then
      advance
      if (← peekAfterBlanks) == some (byte ']') then failure else return true
    else failure

/-- The items of an array. -/
def items (item : Scan α) : Nat → Bool → Scan (List α)
  | 0, _ => failure
  | fuel + 1, first => do
    if ← anotherItem first then
      let a ← item
      return a :: (← items item fuel false)
    else return []

/-- As many items of an array as there are ways to read them, or fewer. -/
def itemsBy : List (Scan α) → Bool → Scan (List α)
  | [], _ => return []
  | item :: rest, first => do
    if ← anotherItem first then
      let a ← item
      return a :: (← itemsBy rest false)
    else return []

/-- The end of an array. A comma before it is passed over. -/
def endItems : Scan Unit := do
  let b ← given (← peekAfterBlanks)
  if b = byte ']' then advance
  else
    if b = byte ',' then
      advance
      let _ ← peekAfterBlanks
    failure

/-- A key and the colon after it, after the opening quotation mark. -/
def key : Scan String := do
  let key ← string
  if (← peekAfterBlanks) == some (byte ':') then advance else failure
  return key

/-- Another member of an object comes next; what stands before its key is passed over. -/
def anotherMember (first : Bool) : Scan Bool := do
  let b ← given (← peekAfterBlanks)
  if b = byte '\x7d' then return false
  else
    let mut ahead := some b
    if !first then
      if b = byte ',' then
        advance
        ahead ← peekAfterBlanks
      else failure
    if ahead == some (byte '"') then
      advance
      return true
    else failure

/-- The members of an object, each read in the way of its key. -/
def members (value : String → Scan α) : Nat → Bool → Scan (List (String × α))
  | 0, _ => failure
  | fuel + 1, first => do
    if ← anotherMember first then
      let key ← key
      let a ← value key
      return (key, a) :: (← members value fuel false)
    else return []

/-- The end of an object. -/
def endMembers : Scan Unit := do
  if (← peekAfterBlanks) == some (byte '\x7d') then advance else failure

/-- All items of an array, after its bracket. -/
def arrayOf (item : Scan α) : Scan (List α) := do
  enclosed (items item ((← get).length + 1) true) endItems

/-- All members of an object, after its brace. -/
def objectOf (value : String → Scan α) : Scan (List (String × α)) := do
  enclosed (members value ((← get).length + 1) true) endMembers

/-! ### Values -/

/-- A value without parts, beginning with a byte. -/
def scalar (b : UInt8) : Scan Json := do
  if b = byte 'n' then
    word ['n', 'u', 'l', 'l']
    return .null
  else if b = byte 't' then
    word ['t', 'r', 'u', 'e']
    return .bool true
  else if b = byte 'f' then
    word ['f', 'a', 'l', 's', 'e']
    return .bool false
  else if b = byte '"' then
    advance
    return .string (← string)
  else if b = byte '-' || isDecimal b then
    return .number (← number)
  else failure

/-- A value whose arrays and objects nest no deeper than a number. -/
def value : Nat → Scan Json
  | 0 => do
    let b ← given (← peekAfterBlanks)
    scalar b
  | depth + 1 => do
    let b ← given (← peekAfterBlanks)
    if b = byte '[' then
      advance
      return .array (← arrayOf (value depth))
    else if b = byte '\x7b' then
      advance
      return .object (← objectOf fun _ => value depth)
    else scalar b

/-! ### Passing over -/

/-- A collection that is open: an object, or else an array. -/
structure Open where
  isObject : Bool
  deriving DecidableEq, Repr

/-- What closes a collection. -/
def Open.closer (o : Open) : Char := if o.isObject then '\x7d' else ']'

/-- A key passed over, with its colon. -/
def passKey : Scan Unit := do
  if ← sees '"' then advance else failure
  passString
  if (← peekAfterBlanks) == some (byte ':') then advance else failure

mutual

/-- A value passed over inside collections, the innermost one first, and then these. -/
def passFrom : Nat → List Open → Scan Unit
  | 0, _ => failure
  | fuel + 1, outer => do
    let b ← given (← peekAfterBlanks)
    if b = byte '[' || b = byte '\x7b' then
      advance
      let opened : Open := ⟨b = byte '\x7b'⟩
      if (← peekAfterBlanks) == some (byte opened.closer) then
        advance
        passRest fuel outer
      else
        if opened.isObject then passKey
        passFrom fuel (opened :: outer)
    else
      if b = byte '"' then
        advance
        passString
      else if b = byte '-' || isDecimal b then
        let _ ← numeral
      else
        let _ ← scalar b
      passRest fuel outer

/-- What is left of collections after a value in the innermost one. -/
def passRest : Nat → List Open → Scan Unit
  | _, [] => return ()
  | 0, _ => failure
  | fuel + 1, innermost :: outer => do
    let b ← given (← peekAfterBlanks)
    advance
    if b = byte innermost.closer then passRest fuel outer
    else if b = byte ',' then
      if innermost.isObject then
        let _ ← peekAfterBlanks
        passKey
      passFrom fuel (innermost :: outer)
    else failure

end

/-- A value passed over. -/
def pass : Scan Unit := do passFrom (2 * (← get).length + 1) []

end Scan

/-- The value that bytes denote. -/
def ofBytes? (bytes : List UInt8) : Option Json := (Scan.value maxDepth).read? bytes

/-- The value a text denotes. -/
def read? (text : String) : Option Json := ofBytes? text.toUTF8.toList

end HomeEnergy.Json
