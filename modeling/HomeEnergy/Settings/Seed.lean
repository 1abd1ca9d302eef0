import HomeEnergy.Account.Directory
import HomeEnergy.Calendar.DayId
import HomeEnergy.Store.Memory
import HomeEnergy.Text.Chars
import HomeEnergy.Yaml.Typed

/-!
# `HomeEnergy.Settings.Seed`: accounts and documents to begin with

A seed is a YAML mapping of accounts and documents for the backend in memory. A document's
path may hold `\x7btoday\x7d`, which stands for the id of the day on which the seed is
applied. Accounts come first, in their order; then the documents by ascending path, their
JSON members made into fields.
-/

set_option autoImplicit false

namespace HomeEnergy

open HomeEnergy.Calendar HomeEnergy.Data HomeEnergy.Yaml

/-- An account to begin with. -/
structure SeedAccount where
  uid : Option String
  email : String
  password : String
  verified : Bool
  deriving DecidableEq, Repr

/-- Accounts, and by path the members of documents. -/
structure Seed where
  accounts : List SeedAccount
  documents : Table (Table Json)

namespace Seed

/-- How deep the values of a document may nest: the whole text 128 collections, of which three
are the seed, its documents and the document. -/
def maxDepth : Nat := 125

/-- An account of a seed. -/
def readAccount (node : Node) : NodeReader SeedAccount := do
  match ← node.fields ["uid", "email", "password", "verified"] with
  | [uid, some email, some password, verified] =>
    let uid ← match uid with
      | some node => node.nullable Node.text
      | none => pure none
    let verified ← match verified with
      | some node => node.bool
      | none => pure false
    return ⟨uid, ← email.text, ← password.text, verified⟩
  | _ => failure

/-- The members of a document of a seed. -/
def readMembers (node : Node) : NodeReader (Table Json) := do
  let members ← (← node.pairs).mapM fun (key, value) =>
    return (← key.text, ← value.json maxDepth)
  return Table.empty.insertAll members

/-- The documents of a seed. -/
def readDocuments (node : Node) : NodeReader (Table (Table Json)) := do
  let pairs ← (← node.members).mapM fun (path, node) => return (path, ← readMembers node)
  return Table.empty.insertAll pairs

/-- The seed that a tree holds. -/
def ofNode (node : Node) : NodeReader Seed := do
  match ← node.fields ["accounts", "documents"] with
  | [accounts, documents] =>
    let accounts ← match accounts with
      | some node => (← node.items).mapM readAccount
      | none => pure []
    let documents ← match documents with
      | some node => readDocuments node
      | none => pure Table.empty
    return ⟨accounts, documents⟩
  | _ => failure

/-- The seed that a text holds; an empty text holds an empty one. -/
def ofText (text : String) : Except Failure Seed :=
  match Node.read? text with
  | some none => .ok ⟨[], .empty⟩
  | some (some root) =>
    match (Document.ofRoot root).read? ofNode with
    | some seed => .ok seed
    | none => .error .yaml
  | none => .error .yaml

/-- The word that stands for the day. -/
def todayWord : List Char := "\x7btoday\x7d".toList

/-- A path with the day put in. -/
def pathOn (today : Date) (path : String) : String :=
  String.ofList (Text.replaceAll todayWord today.dayIdChars path.toList)

/-- Accounts are added until one is refused. -/
def addAccounts : List SeedAccount → Directory → Except Failure Unit × Directory
  | [], d => (.ok (), d)
  | a :: rest, d =>
    match d.add a.uid a.email a.password a.verified with
    | .ok (_, d) => addAccounts rest d
    | .error e => (.error e, d)

/-- Documents are written until one is refused. -/
def putDocuments (today : Date) :
    Entries (Table Json) → MemoryStore → Except Failure Unit × MemoryStore
  | [], s => (.ok (), s)
  | (path, members) :: rest, s =>
    match s.set (pathOn today path) (Fields.ofMembers members.entries) with
    | .ok s => putDocuments today rest s
    | .error e => (.error e, s)

/-- The seed is applied: accounts, and then documents, up to the first that is refused. -/
def apply (seed : Seed) (today : Date) (d : Directory) (s : MemoryStore) :
    Except Failure Unit × Directory × MemoryStore :=
  match addAccounts seed.accounts d with
  | (.error e, d) => (.error e, d, s)
  | (.ok (), d) =>
    let (result, s) := putDocuments today seed.documents.entries s
    (result, d, s)

/-- The paths that the seed's documents have on a day, ascending and each once. -/
def paths (seed : Seed) (today : Date) : List String :=
  (Entries.ofList (seed.documents.entries.map fun e => (pathOn today e.1, ()))).map Prod.fst

end Seed

end HomeEnergy
