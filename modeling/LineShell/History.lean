import LineShell.Text.Utf8

/-!
# The history

All lines read in a session, oldest first.  Lines are numbered from 1 in the order in which they
were read, and nothing is ever removed, so a number once valid keeps its meaning.
-/

namespace LineShell

/-- The lines read so far. -/
structure History where
  lines : List Text
deriving DecidableEq, Repr

namespace History

/-- A history without lines. -/
def empty : History := ⟨[]⟩

instance : Inhabited History := ⟨empty⟩

/-- The history with one more line at its end. -/
def append (h : History) (line : Text) : History :=
  ⟨h.lines ++ [line]⟩

/-- The number of lines. -/
def size (h : History) : Nat :=
  h.lines.length

/-- The line with the given number, if there is one. -/
def get? (h : History) (n : Int) : Option Text :=
  if n < 1 then none else h.lines[(n - 1).toNat]?

/-- The lines with their numbers, in order. -/
def numbered (h : History) : List (Nat × Text) :=
  h.lines.zipIdx.map fun entry => (entry.2 + 1, entry.1)

@[simp]
theorem lines_append (h : History) (line : Text) : (h.append line).lines = h.lines ++ [line] := rfl

@[simp]
theorem size_append (h : History) (line : Text) : (h.append line).size = h.size + 1 := by
  simp [size]

end History

end LineShell
