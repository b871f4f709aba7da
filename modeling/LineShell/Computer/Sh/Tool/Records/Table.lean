import LineShell.Computer.Sh.Tool.Records.Value
import Std.Data.HashMap

/-!
# Tables of values

A table holds values under texts.  It is indexed in two ways, by number and by text, and an entry is
in the index by which it has been found.  The entries of an index are in buckets, and in a bucket the
entry that was found last comes first.  Texts are listed by the buckets of their index.
-/

namespace LineShell.Sh.Tool.Records

/-- What an entry of a table is sought by. -/
inductive Key where
  | number (n : Int)
  | text (t : Text)

/-- The text under which an entry is kept. -/
def Key.toText : Key → Text
  | .number n => signedNumeral n
  | .text t => t

/-- The numbers by which entries are sought as numbers are not farther from zero than this. -/
def greatestKey : Int := 2147483647

/-- The key for a value. -/
def Key.ofValue (pattern : Text) (v : Value) : Key :=
  match v with
  | .number x =>
    let n := Floating.integerPart (-greatestKey) greatestKey x
    if Float.ofInt n == x then .number n else .text (v.toText pattern)
  | v => .text (v.toText pattern)

/-- Characters are spread over buckets by their numbers. -/
instance charSpread : Hashable Char where
  hash c := hash c.val

/-- An entry of a table. -/
structure Entry where
  value : Value
  /-- When it was last found by its number. -/
  byNumber : Option (Int × Nat)
  /-- When it was last found by its text. -/
  byText : Option Nat

/-- A table. -/
structure Table where
  entries : Std.HashMap Text Entry
  /-- How often something has been found. -/
  clock : Nat
  /-- All entries are in the index by text. -/
  isByText : Bool
  /-- How many buckets an index has. -/
  buckets : Nat

namespace Table

/-- How many buckets there are at first. -/
def fewestBuckets : Nat := 64

/-- How many entries there are at most for each bucket. -/
def entriesPerBucket : Nat := 12

/-- A table without entries. -/
def empty : Table := ⟨∅, 0, false, fewestBuckets⟩

instance : Inhabited Table := ⟨empty⟩

/-- A number that is computed from all bytes of a text. -/
def digest (t : Text) : UInt32 :=
  t.foldl (fun h c => (h ^^^ UInt32.ofNat c.toNat) * 16777619) 2166136261

/-- The bucket of a text. -/
def textBucket (t : Table) (key : Text) : Nat := (digest key).toNat % t.buckets

/-- The bucket of a number. -/
def numberBucket (t : Table) (n : Int) : Nat := (n % (t.buckets : Int)).toNat

/-- Sorts what has a bucket and a time, in each bucket the latest first. -/
def listed {α : Type} (xs : List (Nat × Nat × α)) : List α :=
  let sorted := xs.toArray.qsort fun a b => a.1 < b.1 || (a.1 == b.1 && b.2.1 < a.2.1)
  sorted.toList.map (·.2.2)

/-- The table with all entries in the index by text. -/
def indexed (t : Table) : Table :=
  if t.isByText then t
  else
    let missing := t.entries.fold (fun missing key e =>
      match e.byText, e.byNumber with
      | none, some (n, time) => (t.numberBucket n, time, (key, e)) :: missing
      | _, _ => missing) []
    (listed missing).foldl (fun t (key, e) =>
      { t with
        entries := t.entries.insert key { e with byText := some t.clock }
        clock := t.clock + 1 }) { t with isByText := true }

/-- The table with as many buckets as its entries need. -/
def widened (t : Table) : Table :=
  if t.buckets * entriesPerBucket < t.entries.size then { t with buckets := 2 * t.buckets } else t

/-- The value under a key, and the table after it has been sought; if it `creates`, there is a new
entry if there was none. -/
def find (creates : Bool) (key : Key) (t : Table) : Option Value × Table :=
  let t : Table := match key with
    | .number _ => t
    | .text _ => t.indexed
  let name := key.toText
  match t.entries[name]?, key with
  | some e, .text _ =>
    (some e.value, { t with
      entries := t.entries.insert name { e with byText := some t.clock }
      clock := t.clock + 1 })
  | some e, .number n =>
    let byText := if e.byNumber.isNone then some t.clock else e.byText
    (some e.value, { t with
      entries := t.entries.insert name { e with byNumber := some (n, t.clock), byText }
      clock := t.clock + 1 })
  | none, key =>
    if !creates then (none, t)
    else
      let e : Entry := match key with
        | .text _ => ⟨.unset, none, some t.clock⟩
        | .number n => ⟨.unset, some (n, t.clock), if t.isByText then some t.clock else none⟩
      (some .unset, widened { t with entries := t.entries.insert name e, clock := t.clock + 1 })

/-- The table with a value under a key. -/
def set (key : Key) (v : Value) (t : Table) : Table :=
  let t := (t.find true key).2
  { t with entries := t.entries.modify key.toText fun e => { e with value := v } }

/-- The table without the entry under a key. -/
def remove (key : Key) (t : Table) : Table :=
  let (found, t) := t.find false key
  if found.isNone then t
  else
    let entries := t.entries.erase key.toText
    if entries.isEmpty then empty else { t with entries }

/-- The texts under which there are entries, and the table after they have been listed. -/
def names (t : Table) : List Text × Table :=
  let t := t.indexed
  (listed (t.entries.fold (fun xs key e =>
    (t.textBucket key, e.byText.getD 0, key) :: xs) []), t)

/-- A table with values under the numbers from one on. -/
def ofValues (vs : List Value) : Table :=
  vs.zipIdx.foldl (fun t (v, i) => t.set (.number (i + 1)) v) empty

end Table

end LineShell.Sh.Tool.Records
