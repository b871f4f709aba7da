import LineShell.Computer.Search.Syntax

/-!
# Scripts that edit lines

A script is a sequence of commands, each of which is carried out for the lines that it selects: all
lines, one line, or the lines from one to another.
-/

namespace LineShell.Sh.Tool.Edit

open Search

/-- What lines are searched for. -/
structure Sought where
  expression : Expression
  /-- How many groups the expression has. -/
  groups : Nat
  ignoresCase : Bool
  isMultiline : Bool

/-- What selects a line.  Where no expression is given, the last one counts that was used. -/
inductive Address where
  | line (n : Nat)
  | last
  /-- The lines from one on, one for each step. -/
  | every (first step : Nat)
  | matching (sought : Option Sought)

/-- Where the lines end that a command selects, counted from the first one. -/
inductive Limit where
  | at (a : Address)
  | plus (n : Nat)
  /-- At the next line whose number is a multiple. -/
  | multiple (n : Nat)

/-- How letters are altered in what replaces something. -/
inductive CaseChange where
  | upper
  | lower
  | none
  | upperNext
  | lowerNext
deriving DecidableEq, Repr

/-- A part of what replaces something. -/
inductive Piece where
  | text (t : Text)
  /-- What a group has matched, or all of the match. -/
  | group (n : Nat)
  | change (c : CaseChange)
deriving Repr

/-- A replacement of what is found. -/
structure Substitution where
  sought : Option Sought
  replacement : List Piece
  isGlobal : Bool
  /-- Which match is the first one that is replaced. -/
  number : Nat
  prints : Bool
  /-- The result is a command, whose output takes its place. -/
  evaluates : Bool
  /-- The file to which the result is written. -/
  target : Option Text

/-- When a command jumps. -/
inductive Occasion where
  | always
  | afterReplacing
  | unlessReplacing
deriving DecidableEq, Repr

/-- What a command does. -/
inductive Action where
  /-- It begins a block, after which the commands from a number on follow. -/
  | block (after : Nat)
  /-- It does nothing. -/
  | nothing
  | append (t : Text)
  | insert (t : Text)
  | change (t : Text)
  | delete
  | deleteFirst
  | print
  | printFirst
  | number
  | name
  | recall
  | recallMore
  | keep
  | keepMore
  | exchange
  | next
  | nextMore
  | spell (width : Option Nat)
  | quit (code : Nat)
  | quitSilently (code : Nat)
  | readFile (path : Text)
  | readLine (path : Text)
  | write (path : Text)
  | writeFirst (path : Text)
  | substitute (s : Substitution)
  | translate (table : List (Symbol × Symbol))
  | clear
  | jump (occasion : Occasion) (label : Text)
  /-- It runs a command of the shell, or the line as one. -/
  | run (command : Option Text)

/-- A command. -/
structure Command where
  first : Option Address
  limit : Option Limit
  isNegated : Bool
  action : Action

/-- A script. -/
structure Script where
  commands : Array Command
  /-- The places to which commands may jump. -/
  labels : List (Text × Nat)
  /-- Lines are not shown unless a command does that. -/
  isSilent : Bool

/-- The files that a script writes to. -/
def Script.targets (s : Script) : List Text :=
  s.commands.toList.filterMap fun c =>
    match c.action with
    | .write path => some path
    | .writeFirst path => some path
    | .substitute s => s.target
    | _ => none

end LineShell.Sh.Tool.Edit
