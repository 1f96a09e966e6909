/-!
Contract: the values of a settings document and how its tables grow.

Owns: the value tree, dotted keys, table headers, and the rule that nothing is
defined twice.

Does not own: characters. Numbers with a fraction, dates and arrays of tables
are no values here, because no setting is one.
-/

namespace TransportBridge.Toml

/-- How a table came to be, which decides what may still be added to it. -/
inductive Origin where
  /-- Named by a header of its own. -/
  | header
  /-- Only passed through by a longer header. -/
  | implied
  /-- Made by a dotted key. -/
  | dotted
  /-- Written between braces, and complete as written. -/
  | inline
deriving DecidableEq, Repr

inductive Value where
  | text (value : String)
  | integer (value : Int)
  | boolean (value : Bool)
  | array (items : List Value)
  | table (origin : Origin) (entries : List (String × Value))

abbrev Entries := List (String × Value)

namespace Entries

def lookup? (entries : Entries) (key : String) : Option Value :=
  (List.find? (·.1 = key) entries).map (·.2)

/-- Puts a value at a key: in place where the key is known, else at the end. -/
def put (entries : Entries) (key : String) (value : Value) : Entries :=
  if entries.any (·.1 = key) then
    entries.map fun entry => if entry.1 = key then (key, value) else entry
  else entries ++ [(key, value)]

/-- Adds a key under a path of dotted keys. The table that takes the key must
have been made by dotted keys too, unless the path is empty. -/
def define (entries : Entries) (key : String) (value : Value) : List String → Option Entries
  | [] => if (entries.lookup? key).isSome then none else some (entries.put key value)
  | step :: rest =>
    match entries.lookup? step with
    | none => do
      let inner ← define [] key value rest
      return entries.put step (.table .dotted inner)
    | some (.table .dotted known) => do
      let inner ← define known key value rest
      return entries.put step (.table .dotted inner)
    | some (.table .implied known) =>
      if rest.isEmpty then none
      else do
        let inner ← define known key value rest
        return entries.put step (.table .implied inner)
    | some _ => none

/-- Opens the table that a header names. Opening a table twice is refused; a
table that longer headers passed through may still be opened once. -/
def openTable (entries : Entries) : List String → Option Entries
  | [] => none
  | [key] =>
    match entries.lookup? key with
    | none => some (entries.put key (.table .header []))
    | some (.table .implied known) => some (entries.put key (.table .header known))
    | some _ => none
  | step :: rest =>
    match entries.lookup? step with
    | none => do
      let inner ← openTable [] rest
      return entries.put step (.table .implied inner)
    | some (.table .inline _) => none
    | some (.table origin known) => do
      let inner ← openTable known rest
      return entries.put step (.table origin inner)
    | some _ => none

/-- Changes the table at a path of open tables. -/
def within (entries : Entries) (change : Entries → Option Entries) :
    List String → Option Entries
  | [] => change entries
  | step :: rest =>
    match entries.lookup? step with
    | some (.table origin known) => do
      let inner ← within known change rest
      return entries.put step (.table origin inner)
    | _ => none

end Entries

/-- A value that holds nothing: a table or an array without entries. -/
def Value.isEmptyCollection : Value → Bool
  | .array items => items.isEmpty
  | .table _ entries => entries.isEmpty
  | _ => false

end TransportBridge.Toml
