import LineShell.Computer.Sh.Format
import LineShell.Computer.Sh.Tool.Listing

/-!
# Descriptions of files

A pattern says what is to be told of a file: directives after percent signs stand for what is known
of it, and backslashes spell characters.
-/

namespace LineShell.Sh.Tool.Finding

/-- How something is brought to a width. -/
structure Spacing where
  flags : Text
  width : Nat
  precision : Option Nat

/-- A piece of a description. -/
inductive Piece where
  | plain (t : Text)
  /-- What a letter stands for. -/
  | field (spacing : Spacing) (letter : Char)
  /-- A time of a file, of which a letter tells a part. -/
  | time (spacing : Spacing) (part : Char)
  /-- Nothing more is written. -/
  | stop

namespace Piece

/-- The letters that stand for something. -/
def letters : Text := "abcdDfFgGhHiklmMnpPsStuUyYZ".toList

/-- The letters for which something must be known of a file besides its name and kind. -/
def needsFacts : Piece → Bool
  | .field _ letter => !"dfhHpPyY".toList.contains letter
  | .time .. => true
  | _ => false

/-- The letters that tell a part of a time. -/
def timeLetters : Text := "aAbBcCdDeFgGhHIjklmMnprRstTuUVwWxXyYZz@+S".toList

/-- What is wrong with the directive that a letter ends. -/
def warned (what : String) (letter : Char) (rest : String) : Text :=
  "warning: ".toList ++ what.toList ++ letter :: rest.toList

/-- The flags, the width and the precision in front of a letter, and what follows them. -/
def spacing (t : Text) : Spacing × Text :=
  let flags := t.takeWhile fun c => "-+ #0".toList.contains c
  let t := t.drop flags.length
  let width := t.takeWhile Char.isDigit
  match t.drop width.length with
  | '.' :: t =>
    let digits := t.takeWhile Char.isDigit
    (⟨flags, digitsValue width, some (digitsValue digits)⟩, t.drop digits.length)
  | t => (⟨flags, digitsValue width, none⟩, t)

/-- The pieces of a description, and warnings; or else what is wrong with it. -/
def read : (fuel : Nat) → Text → Except Text (List Piece × List Text)
  | 0, _ => .ok ([], [])
  | _, [] => .ok ([], [])
  | fuel + 1, '\\' :: t =>
    let going (piece : Piece) (warnings : List Text) (t : Text) :
        Except Text (List Piece × List Text) := do
      let (pieces, more) ← read fuel t
      return (piece :: pieces, warnings ++ more)
    match t with
    | [] => .ok ([.plain ['\\']], ["warning: escape \x60\\' followed by nothing at all".toList])
    | 'c' :: _ => .ok ([.stop], [])
    | c :: rest =>
      match ("abfnrtv\\".toList.zip "\x07\x08\x0c\n\x0d\t\x0b\\".toList).lookup c with
      | some d => going (.plain [d]) [] rest
      | none =>
        if '0' ≤ c ∧ c ≤ '7' then
          let digits := (t.takeWhile fun c => '0' ≤ c && c ≤ '7').take 3
          going (.plain [Char.ofNat (digitsIn 8 digits % 256)]) [] (t.drop digits.length)
        else going (.plain ['\\', c]) [warned "unrecognized escape \x60\\" c "'"] rest
  | fuel + 1, '%' :: t =>
    let going (piece : Piece) (warnings : List Text) (t : Text) :
        Except Text (List Piece × List Text) := do
      let (pieces, more) ← read fuel t
      return (piece :: pieces, warnings ++ more)
    let (spacing, rest) := spacing t
    let front := '%' :: t.take (t.length - rest.length)
    match rest with
    | [] =>
      if t.isEmpty then .error "error: % at end of format string".toList
      else .error "error: the format directive \x60%\x00' is reserved for future use".toList
    | c :: rest =>
      if c = '%' then going (.plain (if front.length = 1 then ['%'] else front)) [] rest
      else if ['\x7b', '[', '('].contains c then
        .error ("error: the format directive \x60%".toList ++ c ::
          "' is reserved for future use".toList)
      else if ['A', 'B', 'C', 'T'].contains c then
        match rest with
        | [] =>
          going (.plain (front ++ [c]))
            [warned "format directive \x60%" c "' should be followed by another character"] []
        | part :: rest =>
          if c = 'B' then going (.plain []) [] rest
          else if timeLetters.contains part then going (.time spacing part) [] rest
          else going (.plain ['%', part]) [] rest
      else if letters.contains c then going (.field spacing c) [] rest
      else going (.plain (front ++ [c])) [warned "unrecognized format directive \x60%" c "'"] rest
  | fuel + 1, t =>
    let part := t.takeWhile fun c => c ≠ '\\' && c ≠ '%'
    do
      let (pieces, more) ← read fuel (t.drop part.length)
      return (.plain part :: pieces, more)

end Piece

/-- A file that has been found. -/
structure Entry where
  path : Text
  /-- The path from which the search came. -/
  start : Text
  depth : Nat
  id : NodeId
  /-- What counts as the file: what a link leads to if links are followed. -/
  node : Node
  /-- What the path itself names. -/
  itself : Node
  /-- Why nothing but the name and the kind of the file is known, if that is so. -/
  fault : Option FileFault

/-- The moment of a file's time. -/
def momentOf (node : Node) : Calendar.Moment :=
  .ofSeconds (node.time.fdiv 1000000) ((node.time.fmod 1000000).toNat * 1000)

/-- A part of the time of a file. -/
def timePart (node : Node) (part : Char) : Text :=
  let m := momentOf node
  let fraction := ".%N0"
  let pattern : String := match part with
    | '@' => "%s" ++ fraction
    | '+' => "%Y-%m-%d+%H:%M:%S" ++ fraction
    | 'S' => "%S" ++ fraction
    | 'T' => "%H:%M:%S" ++ fraction
    | 'X' => "%H:%M:%S" ++ fraction
    | c => "%" ++ String.singleton c
  m.written pattern.toList

/-- The letter of a file's kind. -/
def kindOf (node : Node) : Char :=
  let c := Listing.kindLetter node
  if c = '-' then 'f' else c

/-- The name of a file without the directories around it. -/
def Entry.name (e : Entry) : Text :=
  let bare := Path.bare e.path
  let name := (bare.reverse.takeWhile (· ≠ '/')).reverse
  if name.isEmpty then ['/'] else name

/-- The path of what is around a file. -/
def Entry.around (e : Entry) : Text :=
  if e.path.contains '/' then ((e.path.reverse.dropWhile (· ≠ '/')).drop 1).reverse else ['.']

/-- The last part of a path, with the slashes behind it. -/
def lastPart (path : Text) : Text :=
  let bare := Path.bare path
  let name := (bare.reverse.takeWhile (· ≠ '/')).reverse
  if name.isEmpty then ['/']
  else name ++ if path.length ≠ bare.length then ['/'] else []

/-- What is known of a file under a letter. -/
def Entry.field (files : FileTree) (e : Entry) (other : Char) (spacing : Spacing) (letter : Char) :
    Text :=
  let text (t : Text) : Text :=
    let t := match spacing.precision with
      | some n => t.take n
      | none => t
    Format.padded spacing.flags spacing.width t
  let number (letter : Char) (n : Nat) : Text :=
    Format.integer spacing.flags spacing.width spacing.precision letter n
  match letter with
  | 'p' => text e.path
  | 'f' => text (lastPart e.path)
  | 'h' => text e.around
  | 'H' => text e.start
  | 'P' =>
    let rest := e.path.drop e.start.length
    text (if e.depth = 0 then [] else if rest.head? = some '/' then rest.tail else rest)
  | 'd' => number 'd' e.depth
  | 's' => text (numeral e.node.size)
  | 'k' => text (numeral (Listing.blocks e.node))
  | 'b' => text (numeral (2 * Listing.blocks e.node))
  | 'S' =>
    let size := e.node.size
    let sparseness := if size = 0 then Binary.nearest .usual false 1 1
      else Binary.nearest .usual false (Listing.blocks e.node * 1024) size
    Format.fraction .usual spacing.flags spacing.width spacing.precision 'g' sparseness.value
  | 'm' => number 'o' e.node.mode
  | 'M' => text (Listing.kindLetter e.node :: Mode.shown e.node.mode)
  | 'y' => text [kindOf e.node]
  | 'Y' => text [other]
  | 'l' =>
    match e.node.kind with
    | .link target => text target
    | _ => text []
  | 'n' => text (numeral (Listing.linkCount files e.id))
  | 'i' => text (numeral (e.id + 1000))
  | 'u' => text "root".toList
  | 'g' => text "root".toList
  | 'U' => text ['0']
  | 'G' => text ['0']
  | 'D' => text "64769".toList
  | 'F' => text "overlay".toList
  | 'Z' => text []
  | _ => text ((momentOf e.node).written "%a %b %e %H:%M:%S.%N0 %Y".toList)

/-- A file described by pieces. -/
def Entry.described (files : FileTree) (e : Entry) (other : Char) : List Piece → Text
  | [] => []
  | .plain t :: pieces => t ++ described files e other pieces
  | .field spacing letter :: pieces =>
    e.field files other spacing letter ++ described files e other pieces
  | .time spacing part :: pieces =>
    let t := timePart e.node part
    let t := match spacing.precision with
      | some n => t.take n
      | none => t
    Format.padded spacing.flags spacing.width t ++ described files e other pieces
  | .stop :: _ => []

/-- A path in which bytes that do not show, blanks, quotes and backslashes are spelled out. -/
def spelledOut (path : Text) : Text :=
  path.flatMap fun c =>
    match ("\x07\x08\x0c\n\x0d\t\x0b \"\\".toList.zip "abfnrtv \"\\".toList).lookup c with
    | some letter => ['\\', letter]
    | none =>
      if ' ' ≤ c && c ≤ '~' then [c]
      else '\\' :: [c.toNat / 64, c.toNat / 8 % 8, c.toNat % 8].map Nat.digitChar

/-- A line that tells all of a file, as seen from a moment. -/
def Entry.listed (files : FileTree) (now : Int) (e : Entry) : Text :=
  let node := e.node
  let seconds := node.time.fdiv 1000000
  let isRecent := now - 15778476 < seconds && seconds ≤ now
  let right (n : Nat) (t : Text) : Text := Listing.padded true n t
  let size : Text := match node.kind with
    | .device _ => "  1,   3".toList
    | _ => numeral node.size
  let target : Text := match node.kind with
    | .link target => " -> ".toList ++ spelledOut target
    | _ => []
  right 9 (numeral (e.id + 1000)) ++ [' '] ++ right 6 (numeral (Listing.blocks node)) ++ [' '] ++
    Listing.kindLetter node :: Mode.shown node.mode ++ [' '] ++
    right 3 (numeral (Listing.linkCount files e.id)) ++ " root     root     ".toList ++
    right 8 size ++ [' '] ++
    (momentOf node).written (if isRecent then "%b %e %H:%M" else "%b %e  %Y").toList ++ [' '] ++
    spelledOut e.path ++ target

end LineShell.Sh.Tool.Finding
