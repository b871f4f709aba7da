import LineShell.Computer.Sh.Machine

/-!
# Lists and tables

What variables of the extended language hold besides one text: texts at places, and texts under keys.
A table shows its entries in an order of its own, by a number that is computed from each key.
-/

namespace LineShell.Sh.Holding

/-- The number that is computed from a key. -/
def hash (key : Text) : Nat :=
  key.foldl (fun n c => (n * 16777619 % 4294967296) ^^^ c.toNat) 2166136261

/-- How many places a table has. -/
def tableSize : Nat := 1024

/-- The place of a key in a table. -/
def bucket (key : Text) : Nat :=
  hash key % tableSize

/-- Entries, last one first, in the order in which a table shows them. -/
def shown {α : Type} (entries : List (Text × α)) : List (Text × α) :=
  entries.mergeSort fun a b => bucket a.1 ≤ bucket b.1

/-- The items of a variable, with their keys. -/
def items : Holding → List (Text × Text)
  | .text t => [(Variable.firstKey, t)]
  | .list items => items.map fun (n, t) => (numeral n, t)
  | .table entries => shown entries

/-- The number after the place of the last item of a list. -/
def places : Holding → Nat
  | .text _ => 1
  | .list items => (items.getLast?.map fun item => item.1 + 1).getD 0
  | .table _ => 0

/-- The keys are texts. -/
def isTable : Holding → Bool
  | .table _ => true
  | _ => false

/-- Items with one at a place. -/
def putAt (n : Nat) (t : Text) : List (Nat × Text) → List (Nat × Text)
  | [] => [(n, t)]
  | (m, u) :: rest =>
    if m < n then (m, u) :: putAt n t rest
    else if m = n then (n, t) :: rest
    else (n, t) :: (m, u) :: rest

/-- The items of a list, of which a text is the first one. -/
def asList : Option Holding → List (Nat × Text)
  | some (.text t) => [(0, t)]
  | some (.list items) => items
  | _ => []

/-- The item with a key. -/
def item? (h : Holding) (key : Text) : Option Text :=
  match h with
  | .table entries => entries.lookup key
  | .list items => (wholeInteger? false key).bind fun n => items.lookup n.toNat
  | .text t => if wholeInteger? false key = some 0 then some t else none

/-- The variable with an item under a key. -/
def put (h : Option Holding) (key : Text) (t : Text) : Holding :=
  match h with
  | some (.table entries) =>
    if (entries.lookup key).isSome then
      .table (entries.map fun entry => if entry.1 = key then (key, t) else entry)
    else .table ((key, t) :: entries)
  | h => .list (putAt (((wholeInteger? false key).getD 0).toNat) t (asList h))

/-- The variable without the item under a key. -/
def drop (h : Holding) (key : Text) : Holding :=
  match h with
  | .table entries => .table (entries.filter (·.1 ≠ key))
  | .list items => .list (items.filter fun item => numeral item.1 ≠ key)
  | h => h

/-- The variable with one text, which is the first item if there are several. -/
def assign (h : Option Holding) (t : Text) : Holding :=
  match h with
  | some (.table entries) => put (some (.table entries)) Variable.firstKey t
  | some (.list items) => .list (putAt 0 t items)
  | _ => .text t

/-- A list of texts. -/
def ofTexts (ts : List Text) : Holding :=
  .list ((List.range ts.length).zip ts)

end LineShell.Sh.Holding
