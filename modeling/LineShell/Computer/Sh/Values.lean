import LineShell.Computer.Sh.Bindings
import LineShell.Computer.Sh.Calculation
import LineShell.Computer.Sh.Holdings
import LineShell.Computer.Sh.Switch
import LineShell.Computer.Search.Basic

/-!
# Variables of the extended language

Some variables are computed when they are asked for.  All others hold texts, lists or tables, and an
assignment goes by what the variable is: its values may be computed, or it may stand for another
variable.
-/

namespace LineShell.Sh.Values

/-- Drops the rest of the line that is being carried out. -/
def drop {α : Type} (message : Text) : Task α := do
  Task.complainAs none message
  Task.setStatus 1
  throw .dropLine

/-- Ends the process because of a parameter that has no value. -/
def quit {α : Type} (message : Text) : Task α := do
  Task.complainAs none message
  let p ← Task.process
  Task.setStatus (if p.extras.isTold ∧ p.id = p.shell ∧ ¬ p.isOn 'e' then 127 else 1)
  throw .leave

/-- The next one of the numbers by chance, given the one before. -/
def chanceAfter (n : Nat) : Nat :=
  let n : Int := if n = 0 then 123459876 else n
  let high := n / 127773
  let low := n % 127773
  let next := 16807 * low - 2836 * high
  (if next < 0 then next + 0x7fffffff else next).toNat

/-- A number by chance below 32768. -/
def chance : Task Nat := do
  let n := chanceAfter (← Task.process).extras.chance
  Task.modifyProcess fun p => { p with extras := { p.extras with chance := n } }
  return (n / 65536 ^^^ n % 65536) % 32768

/-- How many processes a process is away from its shell. -/
def distance (p : Process) : Nat :=
  if p.id = p.shell then 0 else (p.ancestors.findIdx (· = p.shell)) + 1

/-- The functions that are being called, the last one first. -/
def callers (p : Process) : List Text :=
  if p.extras.callers.isEmpty then []
  else p.extras.callers.map Prod.fst ++ if p.extras.hasFile then ["main".toList] else []

/-- A variable that is computed when it is asked for. -/
def computed? (name : Text) : Task (Option Variable) := do
  let p ← Task.process
  let text (t : Text) : Option Variable := some (.ofText (some t) false false)
  let list (ts : List Text) : Option Variable :=
    some { Variable.ofText none false false with holding := some (.ofTexts ts) }
  match String.ofList name with
  | "RANDOM" => return text (numeral (← chance))
  | "SRANDOM" => return text (numeral (← chance))
  | "SECONDS" => return text (signedNumeral ((p.time - p.extras.origin) / 1000000))
  | "EPOCHSECONDS" => return text (numeral (p.time / 1000000))
  | "LINENO" => return text (numeral p.line)
  | "BASHPID" => return text (numeral p.id)
  | "BASH_SUBSHELL" => return text (numeral (distance p))
  | "_" => return text p.extras.last
  | "FUNCNAME" => return if (callers p).isEmpty then none else list (callers p)
  | "BASH_LINENO" =>
    return list ((p.extras.callers.map fun caller => numeral caller.2) ++
      if p.extras.hasFile then [['0']] else [])
  | "BASH_COMMAND" => return text p.extras.current
  | "SHELLOPTS" =>
    let names := (Switch.extendedTable.filter fun entry =>
      match entry.2 with
      | some letter => p.isOn letter
      | none => p.extras.settings.contains entry.1).map Prod.fst
    return (text ([':'].intercalate names)).map fun v => { v with fixed := true }
  | "BASHOPTS" =>
    let names := (Switch.settings.map Prod.fst).filter p.extras.settings.contains
    return (text ([':'].intercalate names)).map fun v => { v with fixed := true }
  | "PIPESTATUS" => return list (p.extras.statuses.map signedNumeral)
  | "DIRSTACK" => return list (p.path :: p.extras.directories)
  | "BASH_SOURCE" => return list p.extras.sources
  | "GROUPS" => return list [['0']]
  | _ => return none

/-- The variable that a name stands for, by way of those that only name another one; in at most as
many steps as given. -/
def resolved (bindings : List (Text × Variable)) : Nat → Text → Text
  | 0, name => name
  | fuel + 1, name =>
    match bindings.lookup name with
    | some v =>
      match if v.traits.isReference then v.value else none with
      | some other => if other.isEmpty then name else resolved bindings fuel other
      | none => name
    | none => name

/-- How many names may stand for each other. -/
def referenceLimit : Nat := 8

/-- The variable that a name stands for. -/
def find? (name : Text) : Task (Option Variable) := do
  let bindings := (← Task.process).bindings
  let name := resolved bindings referenceLimit name
  match ← computed? name with
  | some v => return some v
  | none => return bindings.lookup name

/-- The text of a variable. -/
def text? (name : Text) : Task (Option Text) := do
  return (← find? name).bind Variable.value

/-- A name is found in a text. -/
def mentions (name : Text) : Text → Bool
  | [] => false
  | c :: t => name.isPrefixOf (c :: t) || mentions name t

/-- The variables that are computed when an expression asks for them, among those it names. -/
def computedNames (t : Text) : List Text :=
  let names := ["RANDOM", "SRANDOM", "SECONDS", "EPOCHSECONDS", "LINENO", "BASHPID", "BASH_SUBSHELL",
    "PIPESTATUS", "DIRSTACK"].map String.toList
  names.filter fun name => mentions name t

/-- The outcome of an expression, with the assignments that it makes, which are not carried out. -/
def evaluated (t : Text) : Task (Except Calculation.Fault Int × List (Calculation.Target × Int)) := do
  let mut computed : List (Text × Variable) := []
  for name in computedNames t do
    if let some v ← computed? name then computed := (name, v) :: computed
  let p ← Task.process
  let known := computed
  let find? (name : Text) : Option Variable :=
    let name := resolved p.bindings referenceLimit name
    (known.lookup name).or (p.bindings.lookup name)
  let holding? (name : Text) : Option Holding := (find? name).bind Variable.holding
  return Calculation.value
    { text? := fun target =>
        match target.key with
        | none => (find? target.name).bind Variable.value
        | some key => (holding? target.name).bind fun h => h.item? key
      isTable := fun name => ((find? name).map Variable.isTable).getD false
      places := fun name => ((holding? name).map Holding.places).getD 0
      isReadOnly := fun name => ((find? name).map Variable.fixed).getD false
      isStrict := p.isOn 'u' } t

/-- A letter altered as told. -/
def recasedLetter (casing : Casing) (c : Char) : Char :=
  let capital := Char.ofNat (Search.capital c.toNat)
  let small := Char.ofNat (Search.small c.toNat)
  match casing with
  | .capital => capital
  | .small => small
  | .swapped => if capital = c then small else capital

/-- The letters of a raw text altered as told: all of them, or only the first one. -/
def recased (casing : Casing) (everywhere : Bool) (fits : Char → Bool) (t : Text) : Text :=
  let altered (c : Char) : Char := if fits c then recasedLetter casing c else c
  Raw.ofCharacters <|
    match Raw.characters t with
    | [] => []
    | c :: t => altered c :: if everywhere then t.map altered else t

/-- The letters of a value, as a variable has them altered. -/
def inCase (casing : Casing) (t : Text) : Text :=
  match casing with
  | .swapped => recased .capital false (fun _ => true) (recased .small true (fun _ => true) t)
  | casing => recased casing true (fun _ => true) t

/-- Puts a value where a variable is, which is the text itself or an item of it. -/
def place (name : Text) (key : Option Text) (value : Text) : Task Unit := do
  let p ← Task.process
  let old := (p.bindings.lookup name).getD (.ofText none false false)
  let holding := match key with
    | none => Holding.assign old.content value
    | some key => Holding.put old.content key value
  let new := { old with holding := some holding, exported := old.exported || p.isOn 'a' }
  Task.modifyProcess fun p => { p with bindings := Task.assign name new p.bindings }
  match String.ofList name with
  | "RANDOM" =>
    let seed := ((wholeInteger? false value).getD 0).toNat % 4294967296
    Task.modifyProcess fun p => { p with extras := { p.extras with chance := seed } }
  | "SECONDS" =>
    let start := ((wholeInteger? false value).getD 0)
    Task.modifyProcess fun p =>
      { p with extras := { p.extras with origin := p.time - start * 1000000 } }
  | "OPTIND" =>
    let n := ((wholeInteger? false value).getD 1).toNat
    Task.modifyProcess fun p => { p with options := ⟨max n 1, none⟩ }
  | "PATH" => Task.modifyProcess fun p => { p with found := [] }
  | _ => pure ()

/-- Carries out the assignments of an expression. -/
def settle (assignments : List (Calculation.Target × Int)) : Task Unit := do
  for (target, n) in assignments do
    let name := resolved (← Task.process).bindings referenceLimit target.name
    place name target.key (signedNumeral n)

/-- The value of an expression, whose assignments take effect.  A fault is told in the name of
something and drops the line. -/
def calculated (speaker : Text) (t : Text) : Task Int := do
  let command := ((← Task.process).speaker).getD []
  let isCarrier := (["eval", ".", "source"].map String.toList).contains command
  let speaker := if speaker.isEmpty ∧ ¬ command.isEmpty ∧ ¬ isCarrier then command ++ [':', ' ']
    else speaker
  let (result, assignments) ← evaluated t
  settle assignments
  match result with
  | .ok n => return n
  | .error (.unbound name) => quit (Calculation.Fault.unbound name).message
  | .error f => drop (speaker ++ f.message)

/-- The key of an item, by the text in the brackets: for a table the text itself, for a list the value
of an expression, which counts from the end if it is negative. -/
def keyOf (name text : Text) : Task Text := do
  let v ← find? name
  if (v.map Variable.isTable).getD false then return text
  else
    let holding := v.bind Variable.holding
    let n ← calculated [] text
    let places : Int := ((holding.map Holding.places).getD 0 : Nat)
    let n := if n < 0 then n + places else n
    if n < 0 then drop (name ++ '[' :: text ++ "]: bad array subscript".toList)
    return signedNumeral n

/-- The value that an assignment gives, where the value before it is told. -/
def valueFor (traits : Traits) (adds : Bool) (old value : Text) : Task Text := do
  let whole : Text ←
    if traits.isInteger then do
      let n ← calculated [] value
      let before ← if adds then calculated [] old else pure 0
      pure (signedNumeral (Arithmetic.wrap (before + n)))
    else pure (if adds then old ++ value else value)
  return match traits.casing with
    | some casing => inCase casing whole
    | none => whole

/-- Makes sure that a variable can be altered. -/
def check (name : Text) : Task Unit := do
  if ((← Task.process).bindings.lookup name).any Variable.fixed then
    drop (name ++ ": readonly variable".toList)

/-- Gives a variable or an item of it a value. -/
def assign (name : Text) (index : Option Text) (adds : Bool) (value : Text) : Task Unit := do
  let bindings := (← Task.process).bindings
  let name := resolved bindings referenceLimit name
  check name
  let v := (bindings.lookup name).getD (.ofText none false false)
  let key ← match index with
    | none => pure none
    | some t =>
      if t.isEmpty then drop (name ++ "[]: bad array subscript".toList)
      pure (some (← keyOf name t))
  let old := match key with
    | none => v.value
    | some key => v.holding.bind fun h => h.item? key
  place name key (← valueFor v.traits adds (old.getD []) value)

/-- Gives a variable a list of values, each perhaps with its key. -/
def assignList (name : Text) (adds : Bool) (items : List (Option Text × Bool × Text)) : Task Unit := do
  let name := resolved (← Task.process).bindings referenceLimit name
  check name
  let v := ((← Task.process).bindings.lookup name).getD (.ofText none false false)
  let isTable := v.isTable
  let start : Holding :=
    if adds then
      if isTable then v.content.getD (.table []) else .list (Holding.asList v.holding)
    else if isTable then .table [] else .list []
  let set (h : Holding) : Task Unit :=
    Task.modifyProcess fun p =>
      { p with bindings := Task.assign name { v with holding := some h } p.bindings }
  set start
  let mut next := start.places
  let mut pendingKey : Option Text := none
  for (index, addsHere, value) in items do
    match index with
    | some t =>
      let key ← keyOf name t
      let h := (((← Task.process).bindings.lookup name).bind Variable.holding).getD start
      place name (some key) (← valueFor v.traits addsHere ((h.item? key).getD []) value)
      next := ((wholeInteger? false key).getD 0).toNat + 1
    | none =>
      if isTable then
        match pendingKey with
        | none => pendingKey := some value
        | some key =>
          place name (some key) (← valueFor v.traits false [] value)
          pendingKey := none
      else
        place name (some (numeral next)) (← valueFor v.traits addsHere [] value)
        next := next + 1
  if let some key := pendingKey then place name (some key) []

/-- Takes a variable away. -/
def unset (name : Text) : Task Unit := do
  Task.modifyProcess fun p => { p with bindings := p.bindings.filter (·.1 ≠ name) }
  if name = "PATH".toList then Task.modifyProcess fun p => { p with found := [] }

end LineShell.Sh.Values
