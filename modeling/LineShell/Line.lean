import LineShell.Text.Pieces

/-!
# Input lines

A line is read with its newline and has to fit a buffer of `Line.capacity` bytes.  `Line.fit` cuts
what does not fit at a character boundary; `Line.tokens` splits a line at its spaces; and
`Line.upToNewline` drops a newline and all that follows it.
-/

namespace LineShell

namespace Line

/-- The size of the line buffer in bytes, one of which stays free. -/
def capacity : Nat := 256

/-- The longest part at the beginning of a text that takes at most `room` bytes and ends between
two characters. -/
def takeBytes : Nat → Text → Text
  | _, [] => []
  | room, c :: t => if c.utf8Size ≤ room then c :: takeBytes (room - c.utf8Size) t else []

/-- The line as it fits the buffer: a line of fewer than `capacity` bytes unchanged, a longer one
cut to `capacity - 2` bytes at most and ended by a newline. -/
def fit (line : Text) : Text :=
  if Utf8.size line < capacity then line else takeBytes (capacity - 2) line ++ ['\n']

/-- The tokens of a line: its maximal parts without a space. -/
def tokens (line : Text) : List Text :=
  (pieces ' ' line).filter (· ≠ [])

/-- The part of a token before its first newline. -/
def upToNewline (token : Text) : Text :=
  token.takeWhile (· ≠ '\n')

/-- The text without the newlines at its end. -/
def dropNewlines (t : Text) : Text :=
  (t.reverse.dropWhile (· = '\n')).reverse

end Line

end LineShell
