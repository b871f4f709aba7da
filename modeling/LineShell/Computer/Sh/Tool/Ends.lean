import LineShell.Computer.Sh.Tool.Show

/-!
# Tools that show the ends of files

Tools that write the first or the last lines or bytes of their input.  They take as little from it
as they need.
-/

namespace LineShell.Sh.Tool

/-- What is counted. -/
inductive Counted where
  | lines
  | bytes
deriving DecidableEq, Repr

/-- Which part of a file is shown. -/
structure Portion where
  counted : Counted
  /-- The sign in front of the number. -/
  sign : Option Char
  n : Nat
deriving DecidableEq, Repr

namespace Portion

/-- The part that the value of an option names, or what is wrong with it. -/
def ofText (counted : Counted) (t : Text) : Except Text Portion :=
  let (sign, digits) : Option Char × Text :=
    match t with
    | '-' :: ds => (some '-', ds)
    | '+' :: ds => (some '+', ds)
    | ds => (none, ds)
  let what := if counted = .bytes then "bytes" else "lines"
  match Amount.ofText Amount.usualLetters digits with
  | .ok n => .ok ⟨counted, sign, n⟩
  | .error fault =>
    .error ("invalid number of ".toList ++ what.toList ++ ": ".toList ++
      Quoting.word (if sign = some '+' then t else digits) ++ Amount.reason fault)

/-- The part that options name, if they do. -/
def ofGiven (given : Given) : Except Text Portion :=
  match given.reverse.find? fun entry => entry.1 = "c" || entry.1 = "n" with
  | some ("c", t) => ofText .bytes t
  | some (_, t) => ofText .lines t
  | none => .ok ⟨.lines, none, 10⟩

end Portion

/-- How the two tools take options. -/
def endsForms : List OptionForm :=
  OptionForm.valuedFlags [('c', "bytes"), ('n', "lines")] ++
    OptionForm.flags [('q', "quiet"), ('v', "verbose"), ('z', "zero-terminated")] ++
    OptionForm.names ["silent"]

/-- The options that a first argument of digits and letters stands for, or the letter that is
wrong. -/
def numberOption (sign : Text) (usual : Char) (known : Text) (t : Text) :
    Except Char (Option (List Text)) :=
  let digits := t.takeWhile Char.isDigit
  let letters := t.drop digits.length
  if digits.isEmpty then .ok none
  else
    match letters.find? (!known.contains ·) with
    | some c => .error c
    | none =>
      let unit := (letters.filter fun c => c = 'b' || c = 'k' || c = 'm').take 1
      let counted := if letters.contains 'c' ∨ unit ≠ [] then 'c' else usual
      let flags := letters.filter fun c => c = 'q' || c = 'v' || c = 'z' || c = 'f'
      .ok (some (['-', counted] :: (sign ++ digits ++ unit) :: flags.map fun c => ['-', c]))

/-- The names of the files that headings are about. -/
def headingName (path : Text) : Text :=
  if path = ['-'] then "standard input".toList else path

/-- Shows one part of each file, with headings if there are several. -/
def showEach (given : Given) (paths : List Text) (part : Nat → Task (Except FileFault Unit)) :
    Task Int := do
  let asked := given.reverse.find? fun entry => ["q", "v", "silent"].contains entry.1
  let isHeaded : Bool :=
    match asked with
    | some entry => entry.1 == "v"
    | none => decide (1 < paths.length)
  let mut status : Int := 0
  let mut isFirst := true
  for path in if paths.isEmpty then [['-']] else paths do
    let before := if isFirst then [] else ['\n']
    let showOne (descriptor : Nat) : Task (Except FileFault Unit) := do
      if isHeaded then print (before ++ "==> ".toList ++ headingName path ++ " <==\n".toList)
      part descriptor
    match ← withInput path showOne with
    | .ok result =>
      isFirst := false
      if let .error fault := result then
        complainOf "error reading" (headingName path) fault
        status := 1
    | .error fault =>
      complain ("cannot open ".toList ++ Quoting.always path ++ " for reading: ".toList ++
        fault.message)
      status := 1
  return status

/-- Shows a number of bytes, of which no more are taken. -/
def firstBytes (descriptor : Nat) : (fuel n : Nat) → Task (Except FileFault Unit)
  | 0, _ => return .ok ()
  | _, 0 => return .ok ()
  | fuel + 1, n => do
    match ← Task.take descriptor (min n 8192) with
    | .error fault => return .error fault
    | .ok [] => return .ok ()
    | .ok bytes =>
      emit bytes
      firstBytes descriptor fuel (n - bytes.length)

/-- Shows a number of lines. -/
def firstLines (descriptor : Nat) (ending : UInt8) (n : Nat) : Task (Except FileFault Unit) := do
  if n = 0 then return .ok ()
  let use (left : Nat) (line : List UInt8) (isWhole : Bool) : Task (Except Nat Nat) := do
    emit (if isWhole then line ++ [ending] else line)
    return if left = 0 then .error 0 else .ok (left - 1)
  return (← eachLine descriptor ending use (n - 1)).map fun _ => ()

/-- Lines as bytes, each with what ends it, but for the last one if it lacks that. -/
def rejoined (ending : UInt8) (isWhole : Bool) (ls : List (List UInt8)) : List UInt8 :=
  if isWhole then ls.flatMap (· ++ [ending]) else [ending].intercalate ls

/-- The lines of some bytes, and whether the last one has its end. -/
def endedLines (ending : UInt8) (bytes : List UInt8) : List (List UInt8) × Bool :=
  (linesFrom ending [] bytes, bytes.getLast?.all (· = ending))

/-- How the tool that shows beginnings takes options. -/
def headUsage : Usage := .free (OptionForm.letters "" ++ endsForms)

/-- Shows the beginning of its input; a number with a minus sign counts what is left out. -/
def head (arguments : List Text) : Task Int := do
  let run (given : Given) (paths : List Text) : Task Int := do
    let ending : UInt8 := if given.has "z" then 0 else newline
    match Portion.ofGiven given with
    | .error message =>
      complain message
      return 1
    | .ok ⟨counted, sign, n⟩ =>
      showEach given paths fun descriptor => do
        match counted, sign == some '-' with
        | .bytes, false => firstBytes descriptor Task.blockLimit n
        | .lines, false => firstLines descriptor ending n
        | .bytes, true =>
          match ← Task.takeAll descriptor with
          | .error fault => return .error fault
          | .ok bytes =>
            emit (bytes.take (bytes.length - n))
            return .ok ()
        | .lines, true =>
          match ← Task.takeAll descriptor with
          | .error fault => return .error fault
          | .ok bytes =>
            let (ls, isWhole) := endedLines ending bytes
            emit (rejoined ending (isWhole || n ≠ 0) (ls.take (ls.length - n)))
            return .ok ()
  match arguments with
  | ('-' :: t) :: rest =>
    match numberOption [] 'n' "bckmlnqvz".toList t with
    | .error c => refuse ("invalid trailing option -- ".toList ++ [c]) 1
    | .ok options => headUsage.call run ((options.getD ['-' :: t]) ++ rest)
  | _ => headUsage.call run arguments

/-- How the tool that shows ends takes options. -/
def tailUsage : Usage :=
  .free (endsForms ++ OptionForm.letters "F" ++
    [⟨some 'f', some "follow", .never⟩, ⟨none, some "retry", .never⟩] ++
    OptionForm.valuedFlags [('s', "sleep-interval")] ++ OptionForm.valuedNames ["pid"])

/-- Shows all but some bytes at the beginning, as they come. -/
def withoutBytes (descriptor n : Nat) : Task (Except FileFault Unit) := do
  let rec copy : (fuel : Nat) → (n : Nat) → Task (Except FileFault Unit)
    | 0, _ => return .ok ()
    | fuel + 1, n => do
      match ← Task.take descriptor Task.blockSize with
      | .error fault => return .error fault
      | .ok [] => return .ok ()
      | .ok bytes =>
        emit (bytes.drop n)
        copy fuel (n - bytes.length)
  copy Task.blockLimit n

/-- Shows all but some lines at the beginning, as they come. -/
def withoutLines (descriptor : Nat) (ending : UInt8) (n : Nat) : Task (Except FileFault Unit) := do
  let use (left : Nat) (line : List UInt8) (isWhole : Bool) : Task (Except Nat Nat) := do
    if left = 0 then emit (if isWhole then line ++ [ending] else line)
    return .ok (left - 1)
  return (← eachLine descriptor ending use n).map fun _ => ()

/-- Goes on as long as it is not ended by others. -/
def watch : Task Unit := do
  flush
  Task.await .never

/-- Shows the end of its input; a number with a plus sign is where the end begins. -/
def tail (arguments : List Text) : Task Int := do
  let run (given : Given) (paths : List Text) : Task Int := do
    let ending : UInt8 := if given.has "z" then 0 else newline
    match Portion.ofGiven given with
    | .error message =>
      complain message
      return 1
    | .ok ⟨counted, sign, n⟩ =>
      let status ← showEach given paths fun descriptor => do
        match counted, sign == some '+' with
        | .bytes, true => withoutBytes descriptor (n - 1)
        | .lines, true => withoutLines descriptor ending (n - 1)
        | .bytes, false =>
          match ← Task.takeAll descriptor with
          | .error fault => return .error fault
          | .ok bytes =>
            emit (bytes.drop (bytes.length - n))
            return .ok ()
        | .lines, false =>
          match ← Task.takeAll descriptor with
          | .error fault => return .error fault
          | .ok bytes =>
            let (ls, isWhole) := endedLines ending bytes
            emit (rejoined ending isWhole (ls.drop (ls.length - n)))
            return .ok ()
      if (given.has "f" || given.has "F") && !paths.isEmpty then watch
      return status
  match arguments with
  | ('-' :: t) :: rest =>
    match numberOption [] 'n' "bcflnqvz".toList t with
    | .ok (some options) => tailUsage.call run (options ++ rest)
    | _ => tailUsage.call run arguments
  | ('+' :: t) :: rest =>
    match numberOption ['+'] 'n' "bclf".toList t with
    | .ok (some options) => tailUsage.call run (options ++ rest)
    | _ => tailUsage.call run arguments
  | _ => tailUsage.call run arguments

/-- How `nl` takes options. -/
def nlUsage : Usage :=
  .free (OptionForm.valuedFlags [('b', "body-numbering"), ('d', "section-delimiter"),
    ('f', "footer-numbering"), ('h', "header-numbering"), ('i', "line-increment"),
    ('l', "join-blank-lines"), ('n', "number-format"), ('s', "number-separator"),
    ('v', "starting-line-number"), ('w', "number-width")] ++ OptionForm.flags [('p', "no-renumber")])

/-- How far the lines have come that are numbered. -/
structure Numbering where
  next : Int
  /-- How many empty lines there were in a row. -/
  empties : Nat
  /-- How the lines of this part are numbered. -/
  style : Text

/-- A number in a column. -/
def inNumberColumn (form : Text) (width : Nat) (n : Int) : Text :=
  let t := signedNumeral n
  let missing := width - t.length
  if form = "ln".toList then t ++ List.replicate missing ' '
  else if form = "rz".toList then
    if n < 0 then '-' :: List.replicate missing '0' ++ t.tail else List.replicate missing '0' ++ t
  else List.replicate missing ' ' ++ t

/-- Writes its input with the numbers of its lines. -/
def nl (given : Given) (paths : List Text) : Task Int := do
  let number (key : String) (usual : Int) : Int :=
    ((given.value? key).bind (wholeInteger? false)).getD usual
  let form := (given.value? "n").getD "rn".toList
  if ¬ ["ln", "rn", "rz"].contains (String.ofList form) then
    return ← refuse ("invalid line numbering format: ".toList ++ Quoting.word form) 1
  let faulty (key what : String) : Option Text :=
    (given.value? key).bind fun t =>
      if (wholeInteger? false t).isSome then none
      else some ("invalid ".toList ++ what.toList ++ ": ".toList ++ Quoting.word t)
  for (key, what) in [("v", "starting line number"), ("i", "line number increment"),
      ("l", "line number of blank lines"), ("w", "line number field width")] do
    if let some message := faulty key what then
      complain message
      return 1
  let style (key : String) (usual : Text) : Text := (given.value? key).getD usual
  for (key, what) in [("b", "body"), ("h", "header"), ("f", "footer")] do
    if ¬ ("atnp".toList.contains ((style key ['n']).headD ' ')) then
      return ← refuse ("invalid ".toList ++ what.toList ++ " numbering style: ".toList ++
        Quoting.word (style key [])) 1
  let delimiter := match given.value? "d" with
    | some [c] => [c, ':']
    | some t => t
    | none => ['\\', ':']
  let width := (number "w" 6).toNat
  let separator := (given.value? "s").getD ['\t']
  let join := (number "l" 1).toNat
  let use (s : Numbering) (line : List UInt8) (_ : Bool) : Task (Except Numbering Numbering) := do
    let t := Raw.ofBytes line
    let section? : Option Text :=
      if delimiter.isEmpty then none
      else if t = delimiter ++ delimiter ++ delimiter then some (style "h" ['n'])
      else if t = delimiter ++ delimiter then some (style "b" ['t'])
      else if t = delimiter then some (style "f" ['n'])
      else none
    match section? with
    | some style =>
      printLine []
      return .ok { s with style, next := if given.has "p" then s.next else number "v" 1 }
    | none =>
      let empties := if t.isEmpty then s.empties + 1 else 0
      let isNumbered := match s.style.head? with
        | some 'a' => !t.isEmpty || empties % (max join 1) = 0
        | some 't' => !t.isEmpty
        | _ => false
      if isNumbered then
        printLine (inNumberColumn form width s.next ++ separator ++ t)
        return .ok { s with next := s.next + number "i" 1, empties }
      else
        printLine (List.replicate (width + separator.length) ' ' ++ t)
        return .ok { s with empties }
  let (_, succeeds) ← eachLineOf complainAbout newline use
    ⟨number "v" 1, 0, style "b" ['t']⟩ paths
  return if succeeds then 0 else 1

end LineShell.Sh.Tool
