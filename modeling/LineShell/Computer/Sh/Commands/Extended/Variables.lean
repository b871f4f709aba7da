import LineShell.Computer.Sh.Commands.Extended.Basic
import LineShell.Computer.Sh.Commands.Settings

/-!
# Declarations of the extended language

Variables are declared, told to other processes, fixed, made a function's own, listed and taken
away.  A declaration may give a variable traits, and a list of values in brackets.
-/

namespace LineShell.Sh.Commands.Extended

/-- An argument of a command. -/
structure Argument where
  text : Text
  /-- The items of a list that is assigned: their places, whether they are put behind what is there,
  and their values. -/
  items : Option (List (Option Text × Bool × Text))

/-- An argument that is a text and nothing else. -/
def Argument.ofText (t : Text) : Argument := ⟨t, none⟩

/-- What an argument declares. -/
structure Declared where
  name : Text
  index : Option Text
  /-- The value is put behind the one before. -/
  adds : Bool
  value : Option Text
  items : Option (List (Option Text × Bool × Text))

/-- What an argument declares, if it begins with a name. -/
def declared? (a : Argument) : Option Declared :=
  let name := a.text.takeWhile Token.isNameChar
  let rest := a.text.drop name.length
  let (index, rest) : Option Text × Text :=
    match rest with
    | '[' :: inside =>
      match Calculation.bracketed? 0 inside with
      | some (index, rest) => (some index, rest)
      | none => (none, rest)
    | rest => (none, rest)
  if ¬ Grammar.isName name then none
  else
    match rest with
    | [] => some ⟨name, index, false, none, a.items⟩
    | '=' :: value => some ⟨name, index, false, some value, a.items⟩
    | '+' :: '=' :: value => some ⟨name, index, true, some value, a.items⟩
    | _ => none

namespace Declaring

/-- A declaration of a variable that can be read again. -/
def shown (name : Text) (v : Variable) : Text :=
  let letters := Expansion.attributes v
  let value : Text := match v.holding with
    | none => []
    | some (.text t) => '=' :: Quotation.declared t
    | some h => '=' :: Expansion.listedItems h
  "declare -".toList ++ (if letters.isEmpty then ['-'] else letters) ++ ' ' :: name ++ value ++
    ['\n']

/-- A variable as it is listed. -/
def listed (name : Text) (v : Variable) : Text :=
  match v.holding with
  | none => []
  | some (.text t) => name ++ '=' :: Quotation.listed t ++ ['\n']
  | some h => name ++ '=' :: Expansion.listedItems h ++ ['\n']

/-- The names of all variables, in order. -/
def names : Task (List Text) := do
  return sorted ((← Task.process).bindings.map Prod.fst)

/-- Lists the variables with some trait. -/
def list (show? : Text → Variable → Text) (p : Variable → Bool) : Task Unit := do
  let bindings := (← Task.process).bindings
  for name in ← names do
    match bindings.lookup name with
    | some v => if p v then Task.print 1 (show? name v)
    | none => pure ()

/-- The options of a declaration: the letters that are given and those that are taken back, and the
arguments after them. -/
def options : List Argument → Except Text (Text × Text × List Argument)
  | [] => .ok ([], [], [])
  | a :: rest =>
    match a.text with
    | ['-', '-'] => .ok ([], [], rest)
    | sign :: c :: cs =>
      if sign ≠ '-' ∧ sign ≠ '+' then .ok ([], [], a :: rest)
      else
        match (c :: cs).find? fun c => !("aAfFgiIlnprtuxc".toList.contains c) with
        | some c => .error (sign :: c :: ": invalid option".toList)
        | none => do
          let (on, off, rest) ← options rest
          return if sign = '-' then (c :: cs ++ on, off, rest) else (on, c :: cs ++ off, rest)
    | _ => .ok ([], [], a :: rest)

/-- Makes a variable a function's own, which is not set at first. -/
def makeOwn (keeps : Bool) (name : Text) : Task Unit :=
  Task.modifyProcess fun p =>
    let saved := p.locals.getD []
    if (saved.lookup name).isSome then p
    else
      { p with
        locals := some (saved ++ [(name, p.bindings.lookup name)])
        bindings := if keeps then p.bindings else p.bindings.filter (·.1 ≠ name) }

/-- The traits that letters give a variable, after some are taken back. -/
def altered (on off : Text) (v : Variable) : Variable :=
  let t := v.traits
  let casing : Option Casing :=
    if on.contains 'l' then some .small
    else if on.contains 'u' then some .capital
    else if on.contains 'c' then some .swapped
    else if off.any ['l', 'u', 'c'].contains then none
    else t.casing
  let isOn (c : Char) (before : Bool) : Bool :=
    on.contains c || (before && !off.contains c)
  let traits : Traits :=
    { shape := if on.contains 'A' then .table else if on.contains 'a' then .list else t.shape
      isInteger := isOn 'i' t.isInteger
      casing
      isReference := isOn 'n' t.isReference }
  let holding : Option Holding :=
    match v.holding with
    | some (.text x) =>
      if on.contains 'A' then some (.table [(Variable.firstKey, x)])
      else if on.contains 'a' then some (.list [(0, x)])
      else v.holding
    | h => h
  { v with traits, holding, exported := isOn 'x' v.exported }

/-- Declares one variable. -/
def one (on off : Text) (d : Declared) : Task Unit := do
  let p ← Task.process
  let isReference := on.contains 'n'
  let name := if isReference then d.name
    else Values.resolved p.bindings Values.referenceLimit d.name
  let v := (p.bindings.lookup name).getD (.ofText none false false)
  if v.fixed ∧ (d.value.isSome ∨ off.contains 'r') then
    fail (name ++ ": readonly variable".toList)
  match v.content with
  | some (.table _) =>
    if on.contains 'a' then
      fail (name ++ ": cannot convert associative to indexed array".toList)
  | some (.list _) =>
    if on.contains 'A' then
      fail (name ++ ": cannot convert indexed to associative array".toList)
  | _ => pure ()
  let on := if d.index.isSome ∧ v.content.isNone ∧ ¬ on.contains 'A' then 'a' :: on else on
  let v := altered on off v
  Task.modifyProcess fun p => { p with bindings := Task.assign name v p.bindings }
  match d.items, d.value with
  | some items, _ => Values.assignList name d.adds items
  | none, some value =>
    if isReference then
      Task.modifyProcess fun p =>
        { p with bindings := Task.assign name { v with holding := some (.text value) } p.bindings }
    else Values.assign name d.index d.adds value
  | none, none => pure ()
  if on.contains 'r' then
    Task.modifyProcess fun p => { p with bindings := p.bindings.map fun (other, v) =>
      if other = name then (other, { v with fixed := true }) else (other, v) }

/-- Declares a variable outside of the function that has one of its own with that name. -/
def outside (on off : Text) (d : Declared) : Task Unit := do
  let p ← Task.process
  match p.locals.bind fun saved => saved.lookup d.name with
  | none => one on off d
  | some before =>
    let own := p.bindings.lookup d.name
    let bound (v : Option Variable) (bindings : List (Text × Variable)) :
        List (Text × Variable) :=
      match v with
      | some v => Task.assign d.name v bindings
      | none => bindings.filter (·.1 ≠ d.name)
    Task.modifyProcess fun p => { p with bindings := bound before p.bindings }
    (one on off d).andAfterwards (Task.modifyProcess fun p =>
      let now := p.bindings.lookup d.name
      { p with
        bindings := bound own p.bindings
        locals := p.locals.map fun saved => saved.map fun entry =>
          if entry.1 = d.name then (d.name, now) else entry })

end Declaring

/-- Declares variables, which within a function are its own ones unless told otherwise. -/
def declareAll (isOwn : Bool) (on off : Text) (arguments : List Argument) : Task Int := do
  let mut status : Int := 0
  for a in arguments do
    match declared? a with
    | none =>
      Task.complain (notName a.text)
      status := 1
    | some d =>
      let declare : Task Unit := do
        if isOwn then
          let p ← Task.process
          let isFixed := (p.bindings.lookup d.name).any Variable.fixed &&
            ((p.locals.getD []).lookup d.name).isNone
          if isFixed then fail (d.name ++ ": readonly variable".toList)
          Declaring.makeOwn (on.contains 'I') d.name
        if on.contains 'g' then Declaring.outside on off d else Declaring.one on off d
      match ← Task.ending declare with
      | .error .failed => status := 1
      | .error flow => throw flow
      | .ok () => pure ()
  return status

/-- Shows the declarations of variables. -/
def showDeclared (arguments : List Argument) : Task Int := do
  let mut status : Int := 0
  for a in arguments do
    match ((← Task.process).bindings.lookup a.text).or (← Values.find? a.text) with
    | some v => Task.print 1 (Declaring.shown a.text v)
    | none =>
      Task.complain (a.text ++ ": not found".toList)
      status := 1
  return status

/-- Declares or shows variables or functions, of which `showFunction` gives the text. -/
def declare (showFunction : Text → Script → Text) (arguments : List Argument) : Task Int := do
  let p ← Task.process
  match Declaring.options arguments with
  | .error message => misused message
  | .ok (on, off, rest) =>
    if on.contains 'f' ∨ on.contains 'F' then
      let names := if rest.isEmpty then sorted (p.functions.map Prod.fst) else rest.map (·.text)
      let mut status : Int := 0
      for name in names do
        match p.functions.lookup name with
        | some body =>
          if ¬ on.contains 'F' then Task.print 1 (showFunction name body)
          else if rest.isEmpty then Task.print 1 ("declare -f ".toList ++ name ++ ['\n'])
          else Task.print 1 (name ++ ['\n'])
        | none => status := 1
      return status
    let traits := on.filter fun c => !(['p', 'g', 'I'].contains c)
    if rest.isEmpty then
      let holds (v : Variable) : Bool :=
        traits.all fun c => (Expansion.attributes v).contains c
      if traits.isEmpty ∧ ¬ on.contains 'p' then
        Declaring.list Declaring.listed holds
        for name in sorted (p.functions.map Prod.fst) do
          match p.functions.lookup name with
          | some body => Task.print 1 (showFunction name body)
          | none => pure ()
      else Declaring.list Declaring.shown holds
      return 0
    if on.contains 'p' then return ← showDeclared rest
    declareAll (p.locals.isSome && !on.contains 'g') on off rest

/-- Declares variables that are a function's own. -/
def declareOwn (arguments : List Argument) : Task Int := do
  let p ← Task.process
  if p.locals.isNone then fail "can only be used in a function".toList
  match Declaring.options arguments with
  | .error message => misused message
  | .ok (on, off, rest) =>
    if rest.isEmpty then
      let own := (p.locals.getD []).map Prod.fst
      for name in sorted own do
        match p.bindings.lookup name with
        | some v => Task.print 1 (Declaring.listed name v)
        | none => pure ()
      return 0
    declareAll true on off rest

/-- Makes variables known to other processes or fixes them, by a letter, or no longer. -/
def mark (letter : Char) (known : String) (arguments : List Argument) : Task Int := do
  let texts := arguments.map (·.text)
  let (given, rest) ← optionsOf known "" texts
  let arguments := arguments.drop (arguments.length - rest.length)
  let holds (v : Variable) : Bool :=
    (Expansion.attributes v).contains letter &&
      (!has given 'a' || (Expansion.attributes v).contains 'a') &&
      (!has given 'A' || (Expansion.attributes v).contains 'A')
  if has given 'f' then
    let mut status : Int := 0
    for name in rest do
      if ((← Task.process).functions.lookup name).isNone then
        Task.complain (name ++ ": not a function".toList)
        status := 1
    return status
  if rest.isEmpty then
    Declaring.list Declaring.shown holds
    return 0
  let mut status : Int := 0
  for a in arguments do
    match declared? a with
    | none =>
      Task.complain (notName a.text)
      status := 1
    | some d =>
      if d.index.isSome ∧ d.value.isNone then
        Task.complain (notName a.text)
        status := 1
      else
        let isFixed := ((← Task.process).bindings.lookup d.name).any Variable.fixed
        if isFixed ∧ d.value.isSome then
          Task.complainAs none (d.name ++ ": readonly variable".toList)
          status := 1
        else
          let on := letter :: (given.map Prod.fst).filter fun c => c = 'a' || c = 'A'
          let (on, off) : Text × Text := if has given 'n' then ([], ['x']) else (on, [])
          match ← Task.ending (Declaring.one on off d) with
          | .error .failed => status := 1
          | .error flow => throw flow
          | .ok () => pure ()
  return status

/-- Takes away variables, items of them or functions. -/
def unset (arguments : List Text) : Task Int := do
  let (given, names) ← optionsOf "fnv" "" arguments
  if has given 'f' ∧ has given 'v' then
    fail "cannot simultaneously unset a function and a variable".toList
  let mut status : Int := 0
  for word in names do
    let p ← Task.process
    let dropFunction : Task Unit := Task.modifyProcess fun p =>
      { p with functions := p.functions.filter (·.1 ≠ word) }
    if has given 'f' then dropFunction
    else
      match target? word with
      | none =>
        if ¬ has given 'v' then dropFunction
        else
          Task.complain (notName word)
          status := 1
      | some (name, key) =>
        let name := if has given 'n' then name
          else Values.resolved p.bindings Values.referenceLimit name
        match p.bindings.lookup name with
        | none =>
          if ¬ has given 'v' ∧ key.isNone then dropFunction
        | some v =>
          if v.fixed then
            Task.complain (name ++ ": cannot unset: readonly variable".toList)
            status := 1
          else
            match key with
            | none => Values.unset name
            | some key =>
              if key = ['@'] ∨ key = ['*'] then Values.unset name
              else
                let key ← Values.keyOf name key
                let holding := v.holding.map fun h => h.drop key
                Task.modifyProcess fun p =>
                  { p with bindings := Task.assign name { v with holding } p.bindings }
  return status

end LineShell.Sh.Commands.Extended
