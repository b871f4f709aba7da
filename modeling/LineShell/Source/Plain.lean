import LineShell.Line
import LineShell.Source.Basic
import LineShell.Source.Feed

/-!
# The plain source

Lines from input that is not typed at a terminal.  The source writes the prompt, flushes it, takes
the bytes of one line, reads them as text whatever they are, and fits the line to the buffer.  A
prompt that cannot be written or flushed is a failed read, and then the input is not touched.
-/

namespace LineShell

/-- The line that bytes stand for. -/
def Line.ofBytes (bytes : List UInt8) : Text :=
  Line.fit (Utf8.decodeLossy bytes)

/-- What the bytes taken for a line say: none at all that the input has ended. -/
def Read.ofBytes : List UInt8 → Read
  | [] => .ended
  | bytes => .line (Line.ofBytes bytes)

/-- The source that takes its lines from buffered input. -/
def LineSource.plain : LineSource Feed :=
  ⟨fun prompt feed =>
    .write prompt fun
      | .error e => .done (.error e) feed
      | .ok () => .flush fun
        | .error e => .done (.error e) feed
        | .ok () => .consult <|
          let taken := feed.take
          .done (taken.1.map Read.ofBytes) taken.2⟩

end LineShell
