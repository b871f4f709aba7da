import LineShell.Fault

/-!
# Output streams

The shell writes to two streams, and it flushes one of them.  Either call may fail, so each has an
answer: the bytes that were taken, and whether all went well.

What a stream does is told by its `Room`.  A stream of unlimited room takes everything.  One that
goes by `Manner.upTo` has room for a given number of bytes: the write that crosses the limit is
taken up to the limit and refused, and from then on every write of at least one byte is refused.
One that goes by `Manner.replying` gives replies that are laid down beforehand, one for each call,
and nothing is assumed about them: it may refuse a write and take the next one, or take bytes and
say no sooner than at a flush that it has not got rid of them.  Whatever a stream is, it gives
certain replies in a run, so what holds over all replies holds over all streams.
-/

namespace LineShell

/-- The two output streams. -/
inductive Stream where
  | out
  | err
deriving DecidableEq, Repr

/-- What a stream does about one call, a write or a flush.  A text may reach the stream in several
parts; then this is what has become of them all. -/
inductive Reply where
  /-- It does as it is asked. -/
  | complies
  /-- It takes so many bytes at most, and fails. -/
  | fails (taken : Nat) (e : IoError)
deriving DecidableEq, Repr

/-- How a stream goes about its calls, if it does not take everything. -/
inductive Manner where
  /-- It has room for so many bytes, and its flushes succeed. -/
  | upTo (bytes : Nat)
  /-- It gives one of these replies after the other. -/
  | replying (replies : Nat → Reply)

/-- What a stream will do, or `none` if it takes everything and its flushes succeed. -/
abbrev Room := Option Manner

/-- The room of a stream that takes so many bytes, or everything. -/
instance : Coe (Option Nat) Room := ⟨fun limit => limit.map .upTo⟩

namespace Room

/-- What becomes of a call. -/
structure Answer where
  /-- The bytes that were taken. -/
  taken : List UInt8
  /-- Whether the call has succeeded. -/
  result : Except IoError Unit
  /-- The room that is left. -/
  left : Room

/-- What becomes of a call with these bytes if a stream replies to it in this way. -/
def Answer.ofReply (bytes : List UInt8) (left : Room) : Reply → Answer
  | .complies => { taken := bytes, result := .ok (), left }
  | .fails n e => { taken := bytes.take n, result := .error e, left }

/-- Offers bytes to a stream. -/
def offer (room : Room) (bytes : List UInt8) : Answer :=
  match room with
  | none => { taken := bytes, result := .ok (), left := none }
  | some (.upTo n) =>
    if bytes.length ≤ n then
      { taken := bytes, result := .ok (), left := some (.upTo (n - bytes.length)) }
    else { taken := bytes.take n, result := .error .refused, left := some (.upTo 0) }
  | some (.replying replies) =>
    .ofReply bytes (some (.replying fun k => replies (k + 1))) (replies 0)

/-- The number of bytes for which there is room, if there is such a number. -/
def size : Room → Nat
  | some (.upTo n) => n
  | _ => 0

/-- Flushes a stream. -/
def flush (room : Room) : Answer :=
  match room with
  | some (.replying replies) =>
    .ofReply [] (some (.replying fun k => replies (k + 1))) (replies 0)
  | _ => { taken := [], result := .ok (), left := room }

end Room

end LineShell
