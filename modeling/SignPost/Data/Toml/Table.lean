import SignPost.Data.Value

/-!
# Tables under construction

A TOML document builds its tables step by step, and which steps are allowed depends on how a table
came to be: by a header of its own, as the parent of another header, or inside a dotted key. A
table has one header at most, a key one value, and a value that is written out is closed.
-/

namespace SignPost.Data.Toml

inductive Origin where
  /-- It has a header, or is the element of a list of tables. -/
  | header
  | parent
  | dotted
deriving DecidableEq, Repr

inductive Node where
  | value (v : Value)
  | table (origin : Origin) (entries : List (String × Node))
  /-- A list of tables, of which the last may still grow. -/
  | tables (elements : List (List (String × Node)))
deriving Repr

abbrev Tree := List (String × Node)

/-- A key in steps: the tables that lead to it, and its name in the last of them. -/
structure Key where
  path : List String
  name : String
deriving DecidableEq, Repr

structure Assignment where
  key : Key
  value : Value
deriving Repr

namespace Tree

/-- The tree with a node for a name, in the place of an earlier one. -/
def set (name : String) (node : Node) : Tree → Tree
  | [] => [(name, node)]
  | (k, n) :: rest => if k = name then (k, node) :: rest else (k, n) :: set name node rest

def changeLast (change : Tree → Option Tree) : List Tree → Option (List Tree)
  | [] => none
  | [t] => (change t).map ([·])
  | t :: u :: rest => (changeLast change (u :: rest)).map (t :: ·)

/-- Assigns a value below dotted names. The last of them has to be a table of dotted keys, those
before it have to have no header. -/
def assign (name : String) (value : Value) : List String → Tree → Option Tree
  | [], tree =>
    match tree.lookup name with
    | none => some (tree.set name (.value value))
    | some _ => none
  | step :: path, tree =>
    match tree.lookup step with
    | none => (assign name value path []).map fun t => tree.set step (.table .dotted t)
    | some (.table .dotted t) =>
      (assign name value path t).map fun t => tree.set step (.table .dotted t)
    | some (.table .parent t) =>
      if path.isEmpty then none
      else (assign name value path t).map fun t => tree.set step (.table .parent t)
    | some (.tables ts) =>
      if path.isEmpty then none
      else (changeLast (assign name value path) ts).map fun ts => tree.set step (.tables ts)
    | some _ => none

def assignAll (assignments : List Assignment) (tree : Tree) : Option Tree :=
  assignments.foldlM (fun t a => t.assign a.key.name a.value a.key.path) tree

/-- Changes what a name stands for, below names that lead to it. -/
def change (name : String) (f : Option Node → Option Node) : List String → Tree → Option Tree
  | [], tree => (f (tree.lookup name)).map fun n => tree.set name n
  | step :: path, tree =>
    match tree.lookup step with
    | none => (change name f path []).map fun t => tree.set step (.table .parent t)
    | some (.table origin t) => (change name f path t).map fun t => tree.set step (.table origin t)
    | some (.tables ts) =>
      (changeLast (change name f path) ts).map fun ts => tree.set step (.tables ts)
    | some (.value _) => none

def addTable (assignments : List Assignment) : Option Node → Option Node
  | none => (assignAll assignments []).map (.table .header)
  | some (.table .parent t) => (assignAll assignments t).map (.table .header)
  | some _ => none

/-- Adds an element to a list of tables and fills it. -/
def addElement (assignments : List Assignment) : Option Node → Option Node
  | none => (assignAll assignments []).map fun t => .tables [t]
  | some (.tables ts) => (assignAll assignments []).map fun t => .tables (ts ++ [t])
  | some _ => none

end Tree

structure Section where
  /-- The header adds an element to a list of tables. -/
  isElement : Bool
  key : Key
  assignments : List Assignment
deriving Repr

def Section.add (s : Section) (tree : Tree) : Option Tree :=
  tree.change s.key.name
    (if s.isElement then Tree.addElement s.assignments else Tree.addTable s.assignments) s.key.path

mutual

def Node.toValue : Node → Value
  | .value v => v
  | .table _ entries => .table (entriesValue entries)
  | .tables elements => .list (elementsValue elements)

def entriesValue : List (String × Node) → Entries
  | [] => []
  | (k, n) :: rest => (k, n.toValue) :: entriesValue rest

def elementsValue : List (List (String × Node)) → List Value
  | [] => []
  | t :: rest => .table (entriesValue t) :: elementsValue rest

end

/-- The table of dotted assignments inside braces. -/
def inlineTable (assignments : List Assignment) : Option Value :=
  (Tree.assignAll assignments []).map fun t => .table (entriesValue t)

/-- The document of the assignments before all headers and the sections after them. -/
def document (assignments : List Assignment) (sections : List Section) : Option Value := do
  let tree ← Tree.assignAll assignments []
  let tree ← sections.foldlM (fun t s => s.add t) tree
  return .table (entriesValue tree)

end SignPost.Data.Toml
