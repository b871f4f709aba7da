import LineShell.Log.Layout
import LineShell.Program
import Std.Time.DateTime.Timestamp

/-!
# The command line

Collects what the program starts from, runs it on a computer in memory, and writes what it has
written.  Nothing is decided here.
-/

namespace LineShell

/-- All that a stream still gives. -/
partial def readAll (stream : IO.FS.Stream) (bytes : ByteArray) : IO ByteArray := do
  let more ← stream.read 65536
  if more.isEmpty then return bytes else readAll stream (bytes ++ more)

/-- The stamp of the present moment. -/
def presentStamp : IO Text := do
  let now ← Std.Time.Timestamp.now
  return Stamp.ofMicroseconds (now.toNanosecondsSinceUnixEpoch.val.toNat / 1000)

/-- Writes what the program wrote to its streams, in order. -/
def writeAll (out err : IO.FS.Stream) (written : List (Stream × List UInt8)) : IO Unit := do
  for (stream, bytes) in written do
    let stream := match stream with
      | .out => out
      | .err => err
    stream.write ⟨bytes.toArray⟩
    stream.flush

end LineShell

open LineShell in
/-- Runs the program. -/
def main (arguments : List String) : IO UInt32 := do
  let user := (← IO.getEnv "USER").map String.toList
  let log := (← IO.getEnv "TINYSH_LOG").map String.toList
  let ended := Program.run {
    arguments := arguments.map String.toList
    input := (← readAll (← IO.getStdin) .empty).toList
    user, log
    stamp := ← presentStamp
    computer := Computer.bare "work".toList user log }
  writeAll (← IO.getStdout) (← IO.getStderr) ended.written
  return UInt32.ofNat ended.code.toNat
