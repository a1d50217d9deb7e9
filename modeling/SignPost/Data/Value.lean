import SignPost.Number.Shortest

/-!
# Structured data

The values that documents are made of, whatever their notation: scalars, lists, and tables from
keys to values. A key stands in a table once; setting it again replaces the value.
-/

namespace SignPost.Data

inductive Value where
  | null
  | bool (b : Bool)
  | int (n : Int)
  | float (x : Number.Binary64)
  | text (s : String)
  | list (items : List Value)
  | table (entries : List (String × Value))
deriving Repr, Inhabited

/-- What a value is, and its content if it is a scalar. -/
inductive Shape where
  | null
  | bool (b : Bool)
  | int (n : Int)
  | float (x : Number.Binary64)
  | text (s : String)
  | list
  | table (keys : List String)
deriving DecidableEq, Repr

def Value.shape : Value → Shape
  | .null => .null
  | .bool b => .bool b
  | .int n => .int n
  | .float x => .float x
  | .text s => .text s
  | .list _ => .list
  | .table entries => .table (entries.map Prod.fst)

abbrev Entries := List (String × Value)

namespace Entries

def get? (entries : Entries) (key : String) : Option Value :=
  entries.lookup key

/-- The entries with a value for a key, in the place of an earlier one. -/
def set (key : String) (value : Value) : Entries → Entries
  | [] => [(key, value)]
  | (k, v) :: rest => if k = key then (k, value) :: rest else (k, v) :: set key value rest

theorem get?_set (key : String) (value : Value) (entries : Entries) (wanted : String) :
    get? (set key value entries) wanted =
      if wanted = key then some value else get? entries wanted := by
  induction entries with
  | nil =>
    by_cases h : wanted = key
    · simp [set, get?, h]
    · simp [set, get?, List.lookup_cons, h, beq_eq_false_iff_ne.2 h]
  | cons p rest ih =>
    obtain ⟨k, v⟩ := p
    simp only [get?] at ih
    by_cases hk : k = key
    · subst hk
      by_cases h : wanted = k
      · simp [set, get?, h]
      · simp [set, get?, List.lookup_cons, h, beq_eq_false_iff_ne.2 h]
    · by_cases h : wanted = k
      · subst h
        simp [set, get?, hk]
      · have : (wanted == k) = false := beq_eq_false_iff_ne.2 h
        simp [set, get?, List.lookup_cons, hk, this, ih]

theorem get?_cons (key : String) (value : Value) (entries : Entries) (wanted : String) :
    get? ((key, value) :: entries) wanted =
      if wanted = key then some value else get? entries wanted := by
  by_cases h : wanted = key
  · simp [get?, h]
  · simp [get?, List.lookup_cons, h, beq_eq_false_iff_ne.2 h]

theorem get?_nil (wanted : String) : get? [] wanted = none := rfl

theorem get?_append (front back : Entries) (wanted : String) :
    get? (front ++ back) wanted = (get? front wanted).or (get? back wanted) :=
  List.lookup_append

def keys (entries : Entries) : List String := entries.map Prod.fst

@[simp]
theorem keys_cons (key : String) (value : Value) (entries : Entries) :
    keys ((key, value) :: entries) = key :: keys entries := rfl

theorem keys_append (front back : Entries) : keys (front ++ back) = keys front ++ keys back :=
  List.map_append

/-- A value for a key that is not there yet comes last. -/
theorem set_of_not_mem {key : String} (value : Value) {entries : Entries} (h : key ∉ keys entries) :
    set key value entries = entries ++ [(key, value)] := by
  induction entries with
  | nil => rfl
  | cons entry rest ih =>
    obtain ⟨k, v⟩ := entry
    rw [keys_cons, List.mem_cons, not_or] at h
    rw [set, if_neg (Ne.symm h.1), ih h.2, List.cons_append]

end Entries

end SignPost.Data
