import LineShell.Computer.Sh.Script
import LineShell.Text.Numeral

/-!
# How scripts are shown

A process of the extended language can be asked for its functions and for what it carries out beside
itself.  A script is then laid out anew: simple commands as they were written, and what stands around
them with one command a line.
-/

namespace LineShell.Sh.Layout

/-- A part stands between double quotation marks. -/
def isInQuotes : Part → Bool
  | .quoted _ => true
  | .value _ b => b
  | .length _ b => b
  | .adjusted _ _ _ b => b
  | .arithmetic _ b => b
  | .captured _ b => b
  | .reference _ _ _ _ _ b => b
  | _ => false

/-- The sign of an adjustment. -/
def sign : Adjustment → Text
  | .otherwise b => if b then [':', '-'] else ['-']
  | .assigned b => if b then [':', '='] else ['=']
  | .demanded b => if b then [':', '?'] else ['?']
  | .instead b => if b then [':', '+'] else ['+']
  | .withoutFront b => if b then ['#', '#'] else ['#']
  | .withoutBack b => if b then ['%', '%'] else ['%']

/-- The indentation of a level. -/
def indentation (level : Nat) : Text :=
  List.replicate (4 * level) ' '

/-- A text that ends a command, unless it needs no sign for that. -/
def ended (t : Text) : Text :=
  match t.getLast? with
  | some '&' => t
  | some '\n' => t
  | _ => t ++ [';']

/-- The mark that ends an arm. -/
def armMark : ArmEnding → Text
  | .leaves => ";;".toList
  | .falls => ";&".toList
  | .tries => ";;&".toList

/-- Where a command is shown. -/
structure Place where
  level : Nat
  /-- It belongs to a function, so that each command has a line of its own. -/
  isInFunction : Bool

namespace Place

/-- One level further in. -/
def inner (p : Place) : Place := { p with level := p.level + 1 }

/-- A new line at this place. -/
def newLine (p : Place) : Text := '\n' :: indentation p.level

/-- What stands between two commands. -/
def between (p : Place) : Text :=
  if p.isInFunction then p.newLine else [' ']

end Place

mutual

/-- A word, of which the part before may be in quotes, so that they are open. -/
def word (fuel : Nat) (isOpen : Bool) (w : Word) : Text :=
  match fuel, w with
  | 0, _ => []
  | _, [] => if isOpen then ['"'] else []
  | fuel + 1, p :: rest =>
    let quotes := isInQuotes p
    (if quotes != isOpen then ['"'] else []) ++ part fuel p ++ word fuel quotes rest
termination_by structural fuel

/-- A part of a word. -/
def part (fuel : Nat) (p : Part) : Text :=
  match fuel with
  | 0 => []
  | fuel + 1 =>
    let braced (t : Text) : Text := "$\x7b".toList ++ t ++ ['\x7d']
    match p with
    | .plain t => t
    | .quoted t => t.flatMap fun c =>
        if ['"', '$', '\x60', '\\'].contains c then ['\\', c] else [c]
    | .value name _ => '$' :: name
    | .length name _ => braced ('#' :: name)
    | .adjusted name how w _ => braced (name ++ sign how ++ word fuel true w)
    | .arithmetic e _ => "$((".toList ++ e.flatMap (part fuel) ++ "))".toList
    | .captured s _ => "$(".toList ++ script fuel ⟨0, false⟩ s ++ [')']
    | .senseless t => t
    | .reference _ _ _ _ t _ => t
    | .items values =>
      '(' :: [' '].intercalate (values.map fun item => word fuel false item.value) ++ [')']
    | .connection s taken =>
      (if taken then ['>', '('] else ['<', '(']) ++ script fuel ⟨0, false⟩ s ++ [')']
termination_by structural fuel

/-- A redirection. -/
def redirection (fuel : Nat) (r : Redirection) : Text :=
  match fuel with
  | 0 => []
  | fuel + 1 =>
    let target := word fuel false r.target
    let number (usual : Nat) : Text := if r.descriptor = usual then [] else numeral r.descriptor
    match r.connection with
    | .input => number 0 ++ "< ".toList ++ target
    | .output => number 1 ++ "> ".toList ++ target
    | .outputAnyway => number 1 ++ ">| ".toList ++ target
    | .append => number 1 ++ ">> ".toList ++ target
    | .both => number 0 ++ "<> ".toList ++ target
    | .duplicate => numeral r.descriptor ++ ">&".toList ++ target
    | .here => number 0 ++ "<<< ".toList ++ word fuel false r.target.dropLast
termination_by structural fuel

/-- A condition. -/
def check (fuel : Nat) (c : Check) : Text :=
  match fuel with
  | 0 => []
  | fuel + 1 =>
    match c with
    | .question op w => op ++ ' ' :: word fuel false w
    | .comparison op l r => word fuel false l ++ ' ' :: op ++ ' ' :: word fuel false r
    | .denied c => "! ".toList ++ check fuel c
    | .both a b => check fuel a ++ " && ".toList ++ check fuel b
    | .either a b => check fuel a ++ " || ".toList ++ check fuel b
termination_by structural fuel

/-- A command. -/
def script (fuel : Nat) (place : Place) (s : Script) : Text :=
  match fuel with
  | 0 => []
  | fuel + 1 =>
    let here (s : Script) : Text := script fuel place s
    let within (s : Script) : Text := script fuel place.inner s
    let body (s : Script) : Text := indentation place.inner.level ++ ended (within s)
    let operand (s : Script) : Text :=
      match s with
      | .inOrder (_ :: _) => grouped fuel place s
      | s => script fuel place s
    let words (ws : List Word) : Text := [' '].intercalate (ws.map (word fuel false))
    let overWords (what name : Text) (ws : Option (List Word)) (s : Script) : Text :=
      what ++ name ++ " in ".toList ++ ((ws.map words).getD "\"$@\"".toList) ++ [';'] ++
        place.newLine ++ "do\n".toList ++ body s ++ place.newLine ++ "done".toList
    match s with
    | .simple _ _ _ rs written =>
      [' '].intercalate (written ++ rs.map (redirection fuel))
    | .pipeline several => " | ".toList.intercalate (several.map operand)
    | .negated s => "! ".toList ++ operand s
    | .andThen a b => operand a ++ " && ".toList ++ operand b
    | .orElse a b => operand a ++ " || ".toList ++ operand b
    | .inOrder [] => []
    | .inOrder [s] => here s
    | .inOrder (s :: rest) =>
      let first := operand s
      let left := script fuel place (.inOrder rest)
      if left.isEmpty then first
      else if first.getLast? = some '&' then first ++ ' ' :: left
      else ended first ++ place.between ++ left
    | .background s => operand s ++ " &".toList
    | .subshell s => "( ".toList ++ here s ++ " )".toList
    | .redirected _ s rs =>
      [' '].intercalate (operand s :: rs.map (redirection fuel))
    | .choose condition consequence alternative =>
      "if ".toList ++ ended (here condition) ++ " then\n".toList ++ body consequence ++
        (match alternative with
          | .inOrder [] => []
          | s => place.newLine ++ "else\n".toList ++ body s) ++
        place.newLine ++ "fi".toList
    | .loop untilTrue condition s =>
      (if untilTrue then "until ".toList else "while ".toList) ++ ended (here condition) ++
        " do\n".toList ++ body s ++ place.newLine ++ "done".toList
    | .each name ws s => overWords "for ".toList name ws s
    | .offer name ws s => overWords "select ".toList name ws s
    | .count _ first condition next s =>
      "for ((".toList ++ first.flatMap (part fuel) ++ "; ".toList ++
        condition.flatMap (part fuel) ++ "; ".toList ++ next.flatMap (part fuel) ++
        "))".toList ++ place.newLine ++ "do\n".toList ++
        body s ++ place.newLine ++ "done".toList
    | .select subject arms =>
      let arm (a : List Word × Script × ArmEnding) : Text :=
        place.inner.newLine ++ " | ".toList.intercalate (a.1.map (word fuel false)) ++
          ")\n".toList ++
          (match a.2.1 with
            | .inOrder [] => []
            | s => indentation place.inner.inner.level ++ script fuel place.inner.inner s) ++
          place.inner.newLine ++ armMark a.2.2
      "case ".toList ++ word fuel false subject ++ " in ".toList ++ arms.flatMap arm ++
        place.newLine ++ "esac".toList
    | .define name s =>
      "function ".toList ++ name ++ " () ".toList ++ place.newLine ++
        grouped fuel { place with isInFunction := true } s
    | .check _ c => "[[ ".toList ++ check fuel c ++ " ]]".toList
    | .calculate _ e => "((".toList ++ e.flatMap (part fuel) ++ "))".toList
    | .timed isPlain s => (if isPlain then "time -p " else "time ").toList ++ operand s
termination_by structural fuel

/-- A command with braces around it, unless it has words or brackets of its own. -/
def grouped (fuel : Nat) (place : Place) (s : Script) : Text :=
  match fuel with
  | 0 => []
  | fuel + 1 =>
    match s with
    | .inOrder several =>
      if place.isInFunction then
        "\x7b ".toList ++ place.inner.newLine ++ script fuel place.inner (.inOrder several) ++
          place.newLine ++ ['\x7d']
      else "\x7b ".toList ++ ended (script fuel place (.inOrder several)) ++ " \x7d".toList
    | .redirected _ s rs =>
      [' '].intercalate (grouped fuel place s :: rs.map (redirection fuel))
    | s =>
      if place.isInFunction then
        "\x7b ".toList ++ place.inner.newLine ++ script fuel place.inner s ++ place.newLine ++
          ['\x7d']
      else script fuel place s
termination_by structural fuel

end

/-- How deep scripts are shown. -/
def depth : Nat := 2000

/-- A command on its own. -/
def command (s : Script) : Text :=
  match s with
  | .inOrder _ => grouped depth ⟨0, false⟩ s
  | s => script depth ⟨0, false⟩ s

/-- A function. -/
def function (name : Text) (body : Script) : Text :=
  name ++ " () \n".toList ++ grouped depth ⟨0, true⟩ body ++ ['\n']

end LineShell.Sh.Layout
