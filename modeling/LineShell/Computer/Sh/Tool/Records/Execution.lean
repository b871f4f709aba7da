import LineShell.Computer.Sh.Tool.Records.Evaluation

/-!
# How programs for records are carried out

First come the actions at the beginning, then for each record those whose conditions hold, and at last
those at the end.
-/

namespace LineShell.Sh.Tool.Records

namespace Run

/-- How often a loop is run at most. -/
def mostTurns : Nat := 1000000000000064

/-- After how many turns of a loop others may go on. -/
def turnsAtOnce : Nat := 128

/-- How much time passes with that many turns, in microseconds. -/
def turnsTime : Nat := 512

/-- Repeats something as long as it asks for that. -/
def repeating (turn : Run Bool) : (most : Nat) → Run Unit
  | 0 => return
  | most + 1 => do
    if ← turn then
      if most % turnsAtOnce = 0 then ofTask (Task.spend turnsTime)
      repeating turn most

/-- Does the body of a loop, and tells if the loop goes on. -/
def turn (body : Run Unit) : Run Bool := do
  try
    body
    return true
  catch
    | .leaveLoop => return false
    | .nextTurn => return true
    | stop => throw stop

/-- The values that are printed, as texts. -/
def printedTexts (v : Evaluator) (arguments : List Expr) : Run (List Text) := do
  let values ← arguments.mapM v.value
  let mut texts := []
  for value in values do
    let t ← match value with
      | .number x => do
        match wholeText? x with
        | some t => pure t
        | none => pure ((Value.number x).toText (← keptText Special.outputFormat))
      | value => textOf value
    texts := t :: texts
  return texts.reverse

/-- Where something is printed. -/
def outletOf (v : Evaluator) (out : Option (Outlet × Expr)) : Run (Option (Outlet × Text)) := do
  match out with
  | none => return none
  | some (kind, e) => return some (kind, ← v.text e)

/-- Carries out a statement, the parts of which are carried out as told. -/
def carryOut (v : Evaluator) : Statement → Run Unit
  | .nothing => return
  | .expression e => do
    let _ ← v.value e
  | .print arguments out => do
    let texts ← if arguments.isEmpty then (do return [(← get).record])
      else printedTexts v arguments
    let separator ← keptText Special.outputFieldSeparator
    let ending ← keptText Special.outputRecordSeparator
    let out ← outletOf v out
    printTo out ((texts.intersperse separator).flatten ++ ending)
  | .printf arguments out => do
    let values ← arguments.mapM v.value
    let out ← outletOf v out
    printTo out (← formattedText "printf" (printTo out) values)
  | .block body => body.forM v.perform
  | .choice condition a b => do
    if ← v.holds condition then v.perform a else v.perform b
  | .loop condition body =>
    repeating (do
      if ← v.holds condition then turn (v.perform body) else return false) mostTurns
  | .loopOnce body condition =>
    repeating (do
      if ← turn (v.perform body) then v.holds condition else return false) mostTurns
  | .counting start condition step body => do
    v.perform start
    let goesOn : Run Bool := match condition with
      | some e => v.holds e
      | none => return true
    repeating (do
      if ← goesOn then
        if ← turn (v.perform body) then
          v.perform step
          return true
      return false) mostTurns
  | .forEach target table body => do
    let n ← tableNumber table
    let names ← withTable n Table.names
    let target ← v.target (.named target)
    let rec each : List Text → Run Unit
      | [] => return
      | name :: names => do
        setAt target (.input name)
        if ← turn (v.perform body) then each names
    each names
  | .nextRecord => throw .nextRecord
  | .nextFile => throw .nextFile
  | .leave code => do
    if let some e := code then
      let status := integerOf (← v.number e)
      modify fun s => { s with status }
    throw .leave
  | .result e => do
    let value ← match e with
      | some e => v.value e
      | none => pure .unset
    throw (.result value)
  | .leaveLoop => throw .leaveLoop
  | .nextTurn => throw .nextTurn
  | .remove table subscripts => do
    match subscripts with
    | none => do
      let n ← tableNumber table
      alterTable n fun _ => .empty
    | some es => do
      let key ← v.key es
      let n ← tableNumber table
      alterTable n (Table.remove key)

/-- How expressions are evaluated and statements are carried out, to a depth. -/
def evaluator : (depth : Nat) → Evaluator
  | 0 => ⟨fun _ => fail "function call nesting too deep for evaluation stack".toList,
      fun _ => return⟩
  | depth + 1 =>
    { value := fun e => evaluate (evaluator depth) e
      perform := fun s => carryOut (evaluator depth) s }

/-- How deeply expressions, statements and calls may be nested. -/
def mostNested : Nat := 1000000

/-- How expressions are evaluated and statements are carried out. -/
def anyEvaluator : Evaluator := evaluator mostNested

/-- The condition of the rule with a number holds for the record. -/
def isMet (n : Nat) (condition : Condition) : Run Bool := do
  let v := anyEvaluator
  match condition with
  | .atBeginning => return false
  | .atEnd => return false
  | .always => return true
  | .when e => v.holds e
  | .between first last =>
    let isInside := (← get).ranges.contains n
    if isInside || (← v.holds first) then
      if ← v.holds last then modify fun s => { s with ranges := s.ranges.filter (· ≠ n) }
      else if ¬ isInside then modify fun s => { s with ranges := n :: s.ranges }
      return true
    return false

/-- Carries out the rules for a record. -/
def applyRules : List (Rule × Nat) → Run Unit
  | [] => return
  | (rule, n) :: rules => do
    if ← isMet n rule.condition then anyEvaluator.perform rule.action
    applyRules rules

/-- Deals with the next record, and tells if there was one. -/
def dealWithRecord (rules : List (Rule × Nat)) : Run Bool := do
  match ← nextRecord? mostArguments with
  | none => return false
  | some t =>
    setRecord t
    try
      applyRules rules
    catch
      | .nextRecord => pure ()
      | .nextFile => leaveFile
      | stop => throw stop
    return true

/-- The actions at the beginning or at the end. -/
def special (program : Program) (isEnd : Bool) : List Statement :=
  program.rules.filterMap fun r =>
    match r.condition, isEnd with
    | .atBeginning, false => some r.action
    | .atEnd, true => some r.action
    | _, _ => none

/-- The rules for records. -/
def ordinary (program : Program) : List Rule :=
  program.rules.filter fun r =>
    match r.condition with
    | .atBeginning => false
    | .atEnd => false
    | _ => true

/-- Carries out actions one after another, until the program is left, and tells if it was not. -/
def performing (action : Run Unit) : Run Bool := do
  try
    action
    return true
  catch
    | .failure => throw .failure
    | _ => return false

/-- Carries out a whole program. -/
def runAll (program : Program) : Run Unit := do
  let atEnd := special program true
  let rules := (ordinary program).zipIdx
  let goesOn ← performing ((special program false).forM anyEvaluator.perform)
  if goesOn ∧ ¬ (rules.isEmpty ∧ atEnd.isEmpty) then
    let _ ← performing (repeating (dealWithRecord rules) mostTurns)
  let _ ← performing (atEnd.forM anyEvaluator.perform)
  closeAll

end Run

/-- The values with which a program starts. -/
def startValues : List (Nat × String) :=
  [(Special.fieldSeparator, " "), (Special.outputFieldSeparator, " "),
    (Special.recordSeparator, "\n"), (Special.outputRecordSeparator, "\n"),
    (Special.subscriptSeparator, "\x1c"), (Special.numberFormat, "%.6g"),
    (Special.outputFormat, "%.6g")]

/-- What a program knows when it starts, with its name and its arguments and the variables that other
processes know. -/
def State.start (launcher : Launcher) (program : Program) (arguments : List Text)
    (environment : List (Text × Text)) (seed : Nat) : State :=
  let values : Array Value := (program.names.map fun _ => Value.unset).toArray
  let zeros := [Special.recordNumber, Special.fileRecordNumber, Special.fieldCount,
    Special.matchStart]
  let values := zeros.foldl (fun vs n => vs.setIfInBounds n (.number 0.0)) values
  let values := startValues.foldl (fun vs (n, t) => vs.setIfInBounds n (.text t.toList)) values
  let values := values.setIfInBounds Special.matchLength (.number (-1.0))
  let values := values.setIfInBounds Special.argumentCount (.ofNat arguments.length)
  let tables : Array Table := (program.names.map fun _ => Table.empty).toArray
  let announced := environment.foldl (fun (t : Table) (name, value) =>
    t.set (.text name) (.input value)) .empty
  let given := arguments.zipIdx.foldl (fun (t : Table) (a, i) =>
    t.set (.number i) (.input a)) .empty
  { program
    launcher
    values
    tables := (tables.setIfInBounds Special.environment announced).setIfInBounds
      Special.arguments given
    frame := #[]
    record := []
    fields := #[]
    isSplit := true
    outflows := [Run.standardOutflow]
    inflows := []
    feed := .waiting
    argument := 1
    hasRead := false
    ranges := []
    patterns := ∅
    seed := .ofNat seed
    generator := .ofSeed seed
    status := 0 }

end LineShell.Sh.Tool.Records
