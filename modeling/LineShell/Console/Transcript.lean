import LineShell.Console.Event

/-!
# Transcripts

What somebody at the console sees of a run: what appears on the two streams and which texts go to
the system shell, in order.  Bytes that follow each other on one stream are one entry, however many
writes they took.
-/

namespace LineShell

/-- One thing to be seen. -/
inductive Entry where
  /-- Bytes appear on a stream. -/
  | shown (stream : Stream) (bytes : List UInt8)
  /-- A text is handed to the system shell. -/
  | ran (text : Text)
deriving DecidableEq, Repr

namespace Transcript

/-- Bytes that appear before all else.  They join the bytes that follow on the same stream. -/
def appear (stream : Stream) (bytes : List UInt8) (rest : List Entry) : List Entry :=
  match bytes, rest with
  | [], _ => rest
  | _, .shown stream' bytes' :: rest' =>
    if stream = stream' then .shown stream (bytes ++ bytes') :: rest'
    else .shown stream bytes :: rest
  | _, _ => .shown stream bytes :: rest

/-- The transcript of a run. -/
def ofEvents (events : List Event) : List Entry :=
  events.foldr (fun event rest =>
    match event with
    | .wrote stream bytes => appear stream bytes rest
    | .printed stream bytes => appear stream bytes rest
    | .ran text _ => .ran text :: rest
    | _ => rest) []

end Transcript

end LineShell
