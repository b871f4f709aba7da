import LineShell.Computer.Sh.Person
import LineShell.Computer.Sh.Tool.Entries

/-!
# Tools that give files away

All files belong to the user and to the group of the user, and that cannot be altered.
-/

namespace LineShell.Sh.Tool

namespace Owning

/-- The owner and the group that files are to have, if they are to have certain ones. -/
structure Wish where
  owner : Option Nat
  group : Option Nat

/-- The greatest number of a person or a group. -/
def greatestNumber : Nat := 4294967294

/-- The number that a word stands for: by a name, or else by digits. -/
def numbered? (named? : Text → Option Nat) (t : Text) : Option Nat :=
  let (isNumber, digits) : Bool × Text := match t with
    | '+' :: digits => (true, digits)
    | t => (false, t)
  let n := digitsValue digits
  let byDigits :=
    if digits.isEmpty || !digits.all Char.isDigit || greatestNumber < n then none else some n
  if isNumber then byDigits else (named? t).or byDigits

/-- The person whom a word names. -/
def owner? : Text → Option Nat :=
  numbered? fun t => (Person.named? t).map Person.number

/-- The group that a word names. -/
def group? : Text → Option Nat :=
  numbered? Person.groupNamed?

/-- The owner and the group that a text names, where a mark stands between them, or what is wrong. -/
def ofText (mark : Char) (t : Text) : Except String Wish := do
  let name := t.takeWhile (· ≠ mark)
  let rest := t.drop name.length
  let owner ← if name.isEmpty then pure none
    else match owner? name with
      | some n => pure (some n)
      | none => throw "invalid user"
  match rest with
  | [] => return ⟨owner, none⟩
  | [_] =>
    if name.isEmpty then return ⟨none, none⟩
    match Person.named? name with
    | some p => return ⟨owner, some p.group⟩
    | none => throw "invalid spec"
  | _ :: group =>
    match group? group with
    | some n => return ⟨owner, some n⟩
    | none => throw "invalid group"

/-- How a tool speaks of owners or groups. -/
structure Manner where
  /-- What is told of files of which the user is asked for. -/
  isOfOwners : Bool
  wish : Wish

namespace Manner

/-- The owner and the group of a file, as far as they are spoken of. -/
def present (m : Manner) : Text :=
  let user := Person.user.name.toList
  let group := (Person.groupName? Person.user.group).elim [] String.toList
  match m.isOfOwners && (m.wish.owner.isSome || m.wish.group.isSome), m.wish.group.isSome with
  | true, true => user ++ ':' :: group
  | true, false => user
  | false, true => group
  | false, false => []

/-- The owner and the group that are wished for. -/
def wanted (m : Manner) : Text :=
  let name (n : Nat) : Text := match Person.numbered? n with
    | some p => p.name.toList
    | none => numeral n
  let groupName (n : Nat) : Text := match Person.groupName? n with
    | some t => t.toList
    | none => numeral n
  let group := (m.wish.group.map groupName).getD []
  if m.isOfOwners then
    (m.wish.owner.map name).getD [] ++ if m.wish.group.isSome then ':' :: group else []
  else group

/-- What a tool speaks of. -/
def subject (m : Manner) : Text :=
  (if m.isOfOwners || m.wish.group.isNone then "ownership of " else "group of ").toList

/-- The wish is what holds already. -/
def isMet (m : Manner) : Bool :=
  m.wish.owner.all (· = Person.user.number) && m.wish.group.all (· = Person.user.group)

end Manner

/-- How a tool takes options. -/
def usage : Usage :=
  .free (OptionForm.flags [('c', "changes"), ('f', "silent"), ('f', "quiet"), ('v', "verbose"),
    ('R', "recursive"), ('h', "no-dereference")] ++ OptionForm.letters "HLP" ++
    OptionForm.names ["dereference", "preserve-root", "no-preserve-root"] ++
    OptionForm.valuedNames ["from", "reference"])

/-- Gives away what a path leads to, and if so asked all within it first, as deeply as given.  The
result tells whether that was possible. -/
def giveAway (given : Given) (m : Manner) (isTop : Bool) : (fuel : Nat) → Text → Task Bool
  | 0, _ => return true
  | fuel + 1, path => do
    let isQuiet := given.has "f"
    let isDescending := given.has "R"
    let follows := if isDescending then
        given.lastOf "HLP" = some 'L' || (isTop && given.lastOf "HLP" = some 'H')
      else !given.has "h"
    match ← look follows path with
    | .error fault =>
      unless isQuiet do complainOf "cannot access" path fault
      if given.has "v" then
        printLine ("failed to change ".toList ++ m.subject ++ Quoting.always path ++
          " to ".toList ++ m.wanted)
      return false
    | .ok (_, node) =>
      let mut succeeds := true
      if isDescending && node.isDirectory then
        for name in ← entriesAt path do
          unless ← giveAway given m false fuel (Path.join path name) do succeeds := false
      if m.isMet then
        if given.has "v" then
          let shown := m.present
          printLine (m.subject ++ Quoting.always path ++ " retained".toList ++
            (if shown.isEmpty then [] else " as ".toList ++ shown))
        return succeeds
      unless isQuiet do
        complain ("changing ".toList ++ m.subject ++ Quoting.always path ++ ": ".toList ++
          FileFault.message .notPermitted)
      if given.has "v" then
        printLine ("failed to change ".toList ++ m.subject ++ Quoting.always path ++
          " from ".toList ++ m.present ++ " to ".toList ++ m.wanted)
      return false

/-- Gives files away. -/
def run (isOfOwners : Bool) (read : Text → Task (Except Text Wish)) (given : Given)
    (operands : List Text) : Task Int := do
  let fail (message : Text) : Task Int := do
    complain message
    return 1
  if given.has "R" && given.has "dereference" && !given.hasAny "HL" then
    return ← fail "-R --dereference requires either -H or -L".toList
  let reference := given.value? "reference"
  let (written, paths) : Option Text × List Text :=
    if reference.isSome then (none, operands) else (operands.head?, operands.tail)
  if paths.isEmpty then
    match operands.head? with
    | none => return ← refuse "missing operand".toList 1
    | some t => return ← refuse ("missing operand after ".toList ++ Quoting.word t) 1
  let wish ← match reference, written with
    | some path, _ => do
      match ← look true path with
      | .ok _ => pure (⟨if isOfOwners then some 0 else none, some 0⟩ : Wish)
      | .error fault =>
        complainOf "failed to get attributes of" path fault
        return 1
    | none, t => do
      match ← read (t.getD []) with
      | .ok wish => pure wish
      | .error message => return ← fail message
  let mut isKnown := true
  if let some t := given.value? "from" then
    match ← read t with
    | .ok owned => isKnown := Manner.isMet ⟨true, owned⟩
    | .error message => return ← fail message
  let m : Manner := ⟨isOfOwners, if isKnown then wish else ⟨none, none⟩⟩
  let mut status : Int := 0
  for path in paths do
    unless ← giveAway given m true ((← Task.files).nodes.size + 1) path do status := 1
  return status

end Owning

/-- Gives files to other owners. -/
def chown : Given → List Text → Task Int :=
  Owning.run true fun t => do
    match Owning.ofText ':' t with
    | .ok wish => return .ok wish
    | .error trouble =>
      let refused : Text := trouble.toList ++ ": ".toList ++ Quoting.word t
      if t.contains ':' then return .error refused
      match Owning.ofText '.' t with
      | .ok wish =>
        complain ("warning: '.' should be ':': ".toList ++ Quoting.word t)
        return .ok wish
      | .error _ => return .error refused

/-- Gives files to other groups. -/
def chgrp : Given → List Text → Task Int :=
  Owning.run false fun t => do
    if t.isEmpty then return .ok ⟨none, none⟩
    match Owning.group? t with
    | some n => return .ok ⟨none, some n⟩
    | none => return .error ("invalid group: ".toList ++ Quoting.word t)

end LineShell.Sh.Tool
