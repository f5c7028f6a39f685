import DriverCompat.Json.Printer
import DriverCompat.Named
import DriverCompat.Text.Hex

/-! # A store of collections

A store keeps named collections of documents, the names in order, and the number of identifiers
it has generated. Filters match by equality of fields, and an update sets fields.
-/

namespace DriverCompat.Memory

/-- A store. -/
structure Store where
  collections : Named (List Document)
  /-- How many identifiers have been generated. A counter of 64 bits stands behind the number, which
  is exact as long as there are fewer than `2 ^ 64` of them. -/
  generated : Nat

namespace Store

def empty : Store := ⟨.empty, 0⟩

/-- The documents of a collection, if it exists. -/
def get? (store : Store) (name : String) : Option (List Document) := store.collections.get? name

/-- The store with these documents in a collection, instead of those it had. -/
def set (store : Store) (name : String) (documents : List Document) : Store :=
  { store with collections := store.collections.set name documents }

/-- The store without a collection. -/
def remove (store : Store) (name : String) : Store :=
  { store with collections := store.collections.erase name }

/-- The names of all collections, in order. -/
def names (store : Store) : List String := store.collections.names

/-! ## Identifiers -/

/-- The identifier with a number: twenty-four hexadecimal digits. -/
def identifier (n : Nat) : String := String.ofList (Text.paddedHex 24 n)

/-- How an identifier is reported: a string as it is, any other value as its JSON text. -/
def reported : Json → String
  | .string id => id
  | value => value.compactText

/-- Gives a document an identifier if it has none. -/
def identify (store : Store) (document : Document) : Store × Document × String :=
  match document.get? "_id" with
  | some id => (store, document, reported id)
  | none =>
    let id := identifier (store.generated + 1)
    ({ store with generated := store.generated + 1 }, document.insert "_id" (.string id), id)

/-- Gives each document that has none an identifier, in order. -/
def identifyAll (store : Store) : List Document → Store × List Document × List String
  | [] => (store, [], [])
  | document :: rest =>
    let (store, document, id) := store.identify document
    let (store, documents, ids) := store.identifyAll rest
    (store, document :: documents, id :: ids)

/-- Makes a collection of these documents. -/
def seed (store : Store) (name : String) (documents : List Document) : Store :=
  let (store, documents, _) := store.identifyAll documents
  store.set name documents

/-- Appends documents to a collection, which is made if need be, and says their identifiers. -/
def append (store : Store) (name : String) (documents : List Document) : Store × List String :=
  let (store, documents, ids) := store.identifyAll documents
  (store.set name ((store.get? name).getD [] ++ documents), ids)

/-! ## Queries and changes -/

/-- Whether a document has an equal value for every key of a filter. -/
def matchesFilter (filter document : Document) : Bool :=
  filter.all fun (key, expected) =>
    match document.get? key with
    | some value => value.same expected
    | none => false

/-- All documents of a collection that match, in order. -/
def matching (store : Store) (name : String) (filter : Document) : List Document :=
  ((store.get? name).getD []).filter (matchesFilter filter)

/-- The first documents, as many as a positive limit says, and otherwise all. -/
def limited (limit : Option Int) (documents : List Document) : List Document :=
  match limit with
  | some n => if 0 < n then documents.take n.toNat else documents
  | none => documents

/-- Sets fields whose values differ, and says whether there were any. -/
def setFields (document : Document) : Document → Document × Bool
  | [] => (document, false)
  | (key, value) :: rest =>
    let same := match document.get? key with
      | some old => old.same value
      | none => false
    if same then setFields document rest
    else ((setFields (document.insert key value) rest).1, true)

/-- Applies a change to the first document that matches, and says what the change said. -/
def changeFirst {α : Type} (filter : Document) (change : Document → Option Document × α) :
    List Document → Option (List Document × α)
  | [] => none
  | document :: rest =>
    if matchesFilter filter document then
      let (changed, said) := change document
      some (changed.toList ++ rest, said)
    else (changeFirst filter change rest).map fun (documents, said) => (document :: documents, said)

/-- Changes the first document of a collection that matches, if there is one. -/
def change {α : Type} (store : Store) (name : String) (filter : Document)
    (f : Document → Option Document × α) : Option (Store × α) := do
  let documents ← store.get? name
  let (documents, said) ← changeFirst filter f documents
  return (store.set name documents, said)

end Store

end DriverCompat.Memory
