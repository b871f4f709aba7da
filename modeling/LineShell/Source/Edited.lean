import LineShell.Line
import LineShell.Source.Basic
import LineShell.Source.Feed

/-!
# The edited source

Lines from a line editor.  A `LineEditor` is all that the source has of it: the editor gives one
line at a time without its line ending, and it remembers lines for those who type more of them.  The
source asks it for a line, has it remember the line, ends the line by a newline again and fits it to
the buffer.  A line that the editor cannot remember is a failed read.

`LineEditor.offTerminal` is the editor on input that is not a terminal.  It shows no prompt there.
It takes one line at a time without its line ending, a newline with a carriage return before it if
there is one, and refuses a line that is not well-formed text.
-/

namespace LineShell

/-- A line editor with states `ι`. -/
structure LineEditor (ι : Type) where
  /-- Shows a prompt in its own way and takes a line, which has no line ending any more. -/
  takeLine : Text → ι → ReadResult × ι
  /-- Remembers a line. -/
  remember : Text → ι → Except IoError Unit × ι

/-- The source that takes its lines from an editor. -/
def LineSource.ofEditor {ι : Type} (editor : LineEditor ι) : LineSource ι :=
  ⟨fun prompt i =>
    .consult <|
      match editor.takeLine prompt i with
      | (.ok (.line line), i) =>
        match editor.remember line i with
        | (.ok (), i) => .done (.ok (.line (Line.fit (line ++ ['\n'])))) i
        | (.error e, i) => .done (.error e) i
      | (.ok .ended, i) => .done (.ok .ended) i
      | (.error e, i) => .done (.error e) i⟩

/-- The failure of a line that is not text. -/
def IoError.notText : IoError := ⟨"stream did not contain valid UTF-8".toList⟩

/-- A line without its line ending. -/
def Line.dropEnding (line : Text) : Text :=
  match line.reverse with
  | '\n' :: '\r' :: rest => rest.reverse
  | '\n' :: rest => rest.reverse
  | _ => line

namespace LineEditor

/-- The editor on input that is not a terminal, where the bytes are those still to come.  It
remembers nothing that would ever be asked for. -/
def offTerminal : LineEditor (List UInt8) where
  takeLine _ bytes :=
    if bytes = [] then (.ok .ended, [])
    else
      let (line, rest) := (Feed.cutAfterNewline? bytes).getD (bytes, [])
      match Utf8.decode? line with
      | some text => (.ok (.line (Line.dropEnding text)), rest)
      | none => (.error .notText, rest)
  remember _ bytes := (.ok (), bytes)

end LineEditor

/-- The source that takes its lines from an editor on input that is not a terminal. -/
def LineSource.edited : LineSource (List UInt8) :=
  .ofEditor .offTerminal

end LineShell
