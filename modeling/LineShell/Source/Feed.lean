import LineShell.Fault

/-!
# Buffered input

Input that arrives in pieces: bytes in chunks of any size, a report that the input has ended for the
moment, or a failure.  After the last piece the input has ended for good.  `Feed.take` collects the
bytes up to and including the next newline, across chunks.  An end hands over what has been
collected so far; a failure loses it.
-/

namespace LineShell

/-- One piece of input. -/
inductive Piece where
  /-- Some bytes, possibly none. -/
  | chunk (bytes : List UInt8)
  /-- The input reports its end once and then goes on. -/
  | pause
  /-- The input fails once and then goes on. -/
  | failure (e : IoError)
deriving DecidableEq, Repr

/-- The pieces of input still to come. -/
abbrev Feed := List Piece

namespace Feed

/-- The byte that ends a line. -/
def newline : UInt8 := 0x0A

/-- The bytes up to and including the first newline, and the bytes after it; nothing if there is no
newline. -/
def cutAfterNewline? : List UInt8 → Option (List UInt8 × List UInt8)
  | [] => none
  | b :: bs =>
    if b = newline then some ([b], bs)
    else (cutAfterNewline? bs).map fun cut => (b :: cut.1, cut.2)

/-- The bytes of the next line, given those collected already, and the input that is left.  No bytes
at all mean that the input has ended. -/
def takeFrom (held : List UInt8) : Feed → Except IoError (List UInt8) × Feed
  | [] => (.ok held, [])
  | .pause :: feed => (.ok held, feed)
  | .failure e :: feed => (.error e, feed)
  | .chunk bytes :: feed =>
    match cutAfterNewline? bytes with
    | some (line, rest) => (.ok (held ++ line), .chunk rest :: feed)
    | none => takeFrom (held ++ bytes) feed

/-- The bytes of the next line and the input that is left. -/
def take (feed : Feed) : Except IoError (List UInt8) × Feed :=
  takeFrom [] feed

/-- All bytes still to come. -/
def bytes (feed : Feed) : List UInt8 :=
  feed.flatMap fun
    | .chunk bytes => bytes
    | _ => []

/-- The number of reports of an end and of failures still to come. -/
def interruptions (feed : Feed) : Nat :=
  feed.countP fun
    | .chunk _ => false
    | _ => true

end Feed

end LineShell
