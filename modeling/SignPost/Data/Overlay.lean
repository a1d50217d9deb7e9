import SignPost.Data.Path
import SignPost.Text.Lowercase

/-!
# Laying one document over another

The values of a document replace those of an earlier one at the same path, tables being merged key
by key. What is not a table where one is needed becomes one.
-/

namespace SignPost.Data

def storedKey (key : String) : String :=
  String.ofList (Text.lower key.toList)

/-- The entries of a value, none for what is no table. -/
def Value.entries : Value → Entries
  | .table entries => entries
  | _ => []

/-- The items of a value, none for what is no list. -/
def Value.items : Value → List Value
  | .list items => items
  | _ => []

mutual

/-- The entries with a value for a key; a table is merged into what the key has. -/
def Entries.overlay (key : String) : Value → Entries → Entries
  | .table incoming, entries =>
    let current := (entries.get? (storedKey key)).getD (.table [])
    entries.set (storedKey key) (mergeInto incoming current)
  | value, entries => entries.set (storedKey key) value

/-- A value with further entries. Without entries it stays what it is. -/
def mergeInto : List (String × Value) → Value → Value
  | [], current => current
  | (key, value) :: rest, current =>
    mergeInto rest (.table (Entries.overlay key value current.entries))

end

/-- The items with another value at an index; missing ones in between are null. An index before the
first item puts the value in front. -/
def setItem (index : Int) (change : Value → Value) (items : List Value) : List Value :=
  let n := Int.ofNat items.length
  let place := if 0 ≤ index then index else n + index
  if 0 ≤ place then
    let padded := items ++ List.replicate (place.toNat + 1 - items.length) .null
    padded.set place.toNat (change (padded.getD place.toNat .null))
  else
    change .null :: List.replicate (place.natAbs - 1) .null ++ items

/-- Changes the value at a path inside entries, which is null where there is none yet. -/
def Entries.change : Path → (Value → Value) → Entries → Entries
  | .key name, f, entries => entries.set name (f ((entries.get? name).getD .null))
  | .child parent name, f, entries =>
    Entries.change parent
      (fun v => .table (v.entries.set name (f ((v.entries.get? name).getD .null)))) entries
  | .item parent index, f, entries =>
    Entries.change parent (fun v => .list (setItem index f v.items)) entries

def Entries.setAt : Path → Value → Entries → Entries
  | .key name, value, entries => entries.overlay name value
  | .child parent name, value, entries =>
    Entries.change parent (fun v => .table (v.entries.overlay name value)) entries
  | .item parent index, value, entries =>
    Entries.change parent (fun v => .list (setItem index (fun _ => value) v.items)) entries

/-- The entries of a document laid over earlier ones. -/
def Entries.overlayAll (document entries : Entries) : Entries :=
  document.foldl (fun entries (key, value) => entries.setAt (.ofKey key) value) entries

end SignPost.Data
