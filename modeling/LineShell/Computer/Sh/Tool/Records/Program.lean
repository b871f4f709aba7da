import LineShell.Computer.Search.Basic
import LineShell.Computer.Sh.Tool.Records.Value

/-!
# Programs for records

A program is a list of rules.  Each has a pattern, which tells for which records it is carried out,
and an action, and there are functions that both may call.
-/

namespace LineShell.Sh.Tool.Records

/-- Where a variable or a table is kept. -/
inductive Location where
  | global (n : Nat)
  /-- Among the parameters of the function that is called. -/
  | parameter (n : Nat)
deriving DecidableEq, Repr

/-- What is done with two numbers. -/
inductive Calculation where
  | add | subtract | multiply | divide | remainder | power
deriving DecidableEq, Repr

/-- How two values are compared. -/
inductive Relation where
  | less | atMost | equal | unequal | greater | atLeast
deriving DecidableEq, Repr

/-- The functions that there are without being defined, as far as their arguments are plain values.
-/
inductive Builtin where
  | length | index | substr | sprintf | sin | cos | atan2 | exp | log | sqrt | int | rand | srand
  | close | system | fflush | toupper | tolower | systime | mktime | strftime
deriving DecidableEq, Repr

namespace Builtin

/-- The functions by their names, with the least and the greatest number of their arguments. -/
def table : List (String × Builtin × Nat × Nat) :=
  [("length", length, 0, 1), ("index", index, 2, 2), ("substr", substr, 2, 3),
    ("sprintf", sprintf, 1, 255), ("sin", sin, 1, 1), ("cos", cos, 1, 1), ("atan2", atan2, 2, 2),
    ("exp", exp, 1, 1), ("log", log, 1, 1), ("sqrt", sqrt, 1, 1), ("int", int, 1, 1),
    ("rand", rand, 0, 0), ("srand", srand, 0, 1), ("close", close, 1, 1), ("system", system, 1, 1),
    ("fflush", fflush, 0, 1), ("toupper", toupper, 1, 1), ("tolower", tolower, 1, 1),
    ("systime", systime, 0, 0), ("mktime", mktime, 1, 1), ("strftime", strftime, 0, 3)]

end Builtin

/-- An expression. -/
inductive Expr where
  | number (x : Float)
  | text (t : Text)
  /-- An expression that describes texts; as a value it tells if it describes the record. -/
  | pattern (e : Search.Expression)
  | named (l : Location)
  | field (n : Expr)
  | element (table : Location) (subscripts : List Expr)
  | assign (target value : Expr)
  /-- The target is assigned what is calculated from it and another number. -/
  | update (c : Calculation) (target value : Expr)
  /-- The target grows by an amount; the value is the one before or behind that. -/
  | step (isBefore : Bool) (amount : Float) (target : Expr)
  | both (a b : Expr)
  | either (a b : Expr)
  | negation (a : Expr)
  | opposite (a : Expr)
  | asNumber (a : Expr)
  | choice (condition a b : Expr)
  | calculation (c : Calculation) (a b : Expr)
  | relation (r : Relation) (a b : Expr)
  | joined (a b : Expr)
  | matched (isNegated : Bool) (a described : Expr)
  /-- There is an entry in a table. -/
  | isElement (subscripts : List Expr) (table : Location)
  | call (function : Nat) (arguments : List Expr)
  | builtin (f : Builtin) (arguments : List Expr)
  /-- The number of entries of a table. -/
  | size (table : Location)
  /-- The place where a text is as described. -/
  | position (a described : Expr)
  /-- The pieces of a text become the entries of a table. -/
  | split (a : Expr) (table : Location) (separator : Option Expr)
  | substitute (isGlobal : Bool) (described replacement target : Expr)
  /-- The next record becomes the record or the value of a target. -/
  | read (target : Option Expr)
  | readFile (target : Option Expr) (path : Expr)
  | readCommand (target : Option Expr) (command : Expr)

namespace Expr

/-- The expression names something that can be assigned. -/
def isTarget : Expr → Bool
  | named _ => true
  | field _ => true
  | element _ _ => true
  | _ => false

/-- The expression names a field. -/
def isField : Expr → Bool
  | field _ => true
  | _ => false

end Expr

/-- Where something is printed. -/
inductive Outlet where
  | file
  | append
  | command
deriving DecidableEq, Repr

/-- A statement. -/
inductive Statement where
  | nothing
  | expression (e : Expr)
  | print (arguments : List Expr) (outlet : Option (Outlet × Expr))
  | printf (arguments : List Expr) (outlet : Option (Outlet × Expr))
  | block (body : List Statement)
  | choice (condition : Expr) (a b : Statement)
  | loop (condition : Expr) (body : Statement)
  /-- The condition is looked at after the body. -/
  | loopOnce (body : Statement) (condition : Expr)
  | counting (start : Statement) (condition : Option Expr) (step : Statement) (body : Statement)
  /-- The body is carried out for each text of a table. -/
  | forEach (target : Location) (table : Location) (body : Statement)
  | nextRecord
  | nextFile
  | leave (code : Option Expr)
  | result (e : Option Expr)
  | leaveLoop
  | nextTurn
  | remove (table : Location) (subscripts : Option (List Expr))

/-- When an action is carried out. -/
inductive Condition where
  | atBeginning
  | atEnd
  | always
  | when (e : Expr)
  /-- From a record to another one. -/
  | between (first last : Expr)

/-- A rule.  Where no action is written, the record is printed. -/
structure Rule where
  condition : Condition
  action : Statement

/-- What a name stands for, as far as is known. -/
inductive Kind where
  | unknown
  | scalar
  | table
deriving DecidableEq, Repr

/-- A function. -/
structure Routine where
  name : Text
  parameters : Array Kind
  body : Statement

/-- A program. -/
structure Program where
  rules : List Rule
  functions : Array Routine
  /-- The global names, and what they stand for. -/
  names : List (Text × Kind)

namespace Program

/-- The variables that have a meaning of their own. -/
def specialNames : List String :=
  ["NR", "FNR", "NF", "FS", "OFS", "RS", "ORS", "FILENAME", "SUBSEP", "CONVFMT", "OFMT", "RSTART",
    "RLENGTH", "ARGC", "ENVIRON", "ARGV"]

end Program

namespace Special

/-- How many records have been read. -/
def recordNumber : Nat := 0

/-- How many records of the file have been read. -/
def fileRecordNumber : Nat := 1

/-- How many fields the record has. -/
def fieldCount : Nat := 2

/-- What separates the fields of a record. -/
def fieldSeparator : Nat := 3

/-- What is printed between values. -/
def outputFieldSeparator : Nat := 4

/-- What separates records. -/
def recordSeparator : Nat := 5

/-- What is printed behind values. -/
def outputRecordSeparator : Nat := 6

/-- The file that is read. -/
def fileName : Nat := 7

/-- What stands between the subscripts of an entry. -/
def subscriptSeparator : Nat := 8

/-- How numbers are written. -/
def numberFormat : Nat := 9

/-- How numbers are printed. -/
def outputFormat : Nat := 10

/-- Where something described has been found. -/
def matchStart : Nat := 11

/-- How long it is. -/
def matchLength : Nat := 12

/-- How many arguments there are. -/
def argumentCount : Nat := 13

/-- The table of the variables that other processes know. -/
def environment : Nat := 14

/-- The table of the arguments. -/
def arguments : Nat := 15

/-- Only the last two names stand for tables. -/
def kind (n : Nat) : Kind := if n < 14 then .scalar else .table

end Special

end LineShell.Sh.Tool.Records
