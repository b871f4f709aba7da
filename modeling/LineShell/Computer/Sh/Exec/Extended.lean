import LineShell.Computer.Sh.Commands.Extended
import LineShell.Computer.Sh.Exec.Flow
import LineShell.Computer.Search.Syntax

/-!
# Simple commands of the extended language

How the extended language carries out a command by its name, and what it does around that: commands
are shown before they are carried out, texts may be prepared for what happens, and the exit codes of
a pipeline are kept.  Here are also the commands that carry out others or look for them.
-/

namespace LineShell.Sh

namespace Exec

namespace Extended

open Control
open Commands.Extended (Argument optionsOf has value? fail failWith misused mistaken)

/-- The items of a list that is assigned. -/
def itemsOf (exec : Executor) : List Item → Task (List (Option Text × Bool × Text))
  | [] => return []
  | item :: rest => do
    let first ← match item.index with
      | some index => do
        let index ← Expansion.text (capture exec) index
        pure [(some index, item.adds, ← Expansion.assigned (capture exec) item.value)]
      | none => do
        let texts ← Expansion.fieldsOf (capture exec) item.value
        pure (texts.map fun t => (none, false, t))
    return first ++ (← itemsOf exec rest)

/-- The list that a word is, if it is one. -/
def list? : Word → Option (List Item)
  | [.items values] => some values
  | _ => none

/-- A list as it is shown. -/
def shownItems (items : List (Option Text × Bool × Text)) : Text :=
  let shown (item : Option Text × Bool × Text) : Text :=
    let value := Quotation.shown item.2.2
    match item.1 with
    | some key => '[' :: key ++ "]=".toList ++ value
    | none => value
  '(' :: [' '].intercalate (items.map shown) ++ [')']

/-- The argument that an assignment is. -/
def argumentOf (exec : Executor) (a : Assignment) : Task Argument := do
  let index ← match a.index with
    | some w => do pure ('[' :: (← Expansion.text (capture exec) w) ++ [']'])
    | none => pure []
  let front := a.name ++ index ++ if a.adds then ['+', '='] else ['=']
  match list? a.value with
  | some items =>
    let items ← itemsOf exec items
    return ⟨front ++ shownItems items, some items⟩
  | none => return .ofText (front ++ (← Expansion.assigned (capture exec) a.value))

/-- The command whose arguments may be declarations is named by the words, perhaps behind others. -/
def isDeclaring : List Word → Bool
  | [.plain t] :: rest =>
    Grammar.declaring.contains t ||
      ((t = "command".toList || t = "builtin".toList) && isDeclaring rest)
  | _ => false

/-- The arguments that words become. -/
def argumentsOf (exec : Executor) (declares : Bool) : List Word → Task (List Argument)
  | [] => return []
  | w :: ws => do
    let first ← match if declares then Grammar.assignment? .extended w else none with
      | some a => do pure [← argumentOf exec a]
      | none => do pure ((← Expansion.fieldsOf (capture exec) w).map .ofText)
    return first ++ (← argumentsOf exec declares ws)

/-- Shows what is carried out, if a switch asks for that. -/
def trace (exec : Executor) (shown : Text) : Task Unit := do
  let p ← Task.process
  if p.isOn 'x' then
    let mark := (← Values.text? "PS4".toList).getD []
    Task.modifyProcess fun p => { p with switches := p.switches.filter (· ≠ 'x') }
    let mark ← match Grammar.expandable (← manner) mark with
      | .ok w => Expansion.text (capture exec) w
      | .error _ => pure mark
    let deep := List.replicate p.extras.depth (mark.headD ' ')
    Task.print 2 (deep ++ mark ++ shown ++ ['\n'])
    Task.modifyProcess fun q => { q with switches := p.switches }

/-- Carries out an assignment. -/
def assign (exec : Executor) (a : Assignment) : Task Unit := do
  let index ← match a.index with
    | some w => do pure (some (← Expansion.text (capture exec) w))
    | none => pure none
  let shownIndex := (index.map fun t => '[' :: t ++ [']']).getD []
  let front := a.name ++ shownIndex ++ if a.adds then ['+', '='] else ['=']
  match list? a.value with
  | some items =>
    let items ← itemsOf exec items
    trace exec (front ++ shownItems items)
    if index.isSome then
      Values.drop (a.name ++ shownIndex ++ ": cannot assign list to array member".toList)
    Values.assignList a.name a.adds items
  | none =>
    let value ← Expansion.assigned (capture exec) a.value
    trace exec (front ++ if value.isEmpty then [] else Quotation.shown value)
    Values.assign a.name index a.adds value

/-- Carries out assignments. -/
def assignAll (exec : Executor) : List Assignment → Task Unit
  | [] => pure ()
  | a :: rest => do
    assign exec a
    assignAll exec rest

/-- Does a task with assignments, which are told to other processes and are gone afterwards.  One
that is not possible is told, and left out. -/
def withAssignments (exec : Executor) (assignments : List Assignment) (task : Task Unit) :
    Task Unit := do
  if assignments.isEmpty then task
  else
    let old := (← Task.process).bindings
    let saved := assignments.map fun a => (a.name, old.lookup a.name)
    let whole : Task Unit := do
      for a in assignments do
        let isFixed := ((← Task.process).bindings.lookup a.name).any Variable.fixed
        if isFixed then Task.complainAs none (a.name ++ ": readonly variable".toList)
        else
          assign exec a
          Task.modifyProcess fun p => { p with bindings := p.bindings.map fun (name, v) =>
            if name = a.name then (name, { v with exported := true }) else (name, v) }
      task
    whole.andAfterwards (Task.modifyProcess fun p =>
      { p with bindings := restored saved p.bindings })

/-- Does a task in which texts are nested one deeper. -/
def deeper {α : Type} (task : Task α) : Task α := do
  let depth := (← Task.process).extras.depth
  Task.modifyProcess fun p => { p with extras := { p.extras with depth := depth + 1 } }
  task.andAfterwards
    (Task.modifyProcess fun p => { p with extras := { p.extras with depth := depth } })

/-- What is prepared for, and not passed on to functions unless switches say so. -/
def hidden (p : Process) : List (Signal × Text) :=
  p.traps.filter fun trap =>
    (trap.1 = Signal.failure && !p.isOn 'E') ||
      ((trap.1 = Signal.step || trap.1 = Signal.comeback) && !p.isOn 'T')

/-- What a call of a function leaves behind: what was hidden from it is there again, unless the
function has prepared for something else. -/
def unhidden (hidden : List (Signal × Text)) (traps : List (Signal × Text)) :
    List (Signal × Text) :=
  hidden.filter (fun trap => (traps.lookup trap.1).isNone) ++ traps

/-- The file to which the functions of a process belong. -/
def functionFile (p : Process) : Text :=
  if p.extras.hasFile then p.extras.sources.getLastD []
  else if p.extras.isTold then "environment".toList
  else "main".toList

/-- How many functions may call each other. -/
def callLimit : Nat := 10000

/-- Calls a function. -/
def call (exec : Executor) (name : Text) (body : Script) (arguments : List Text) : Task Unit := do
  let p ← Task.process
  let limit := ((← Values.text? "FUNCNEST".toList).bind (wholeInteger? false)).getD 0
  if 0 < limit ∧ limit.toNat ≤ p.calls then
    Values.drop (name ++ ": maximum function nesting level exceeded (".toList ++
      signedNumeral limit ++ [')'])
  if callLimit ≤ p.calls then throw (.killed Signal.tooDeep)
  let hidden := hidden p
  Task.modifyProcess fun q => { q with
    arguments
    loops := 0
    locals := some []
    ownSwitches := none
    calls := p.calls + 1
    traps := q.traps.filter fun trap => !hidden.contains trap
    extras := { q.extras with
      callers := (name, p.line) :: p.extras.callers
      sources := functionFile p :: p.extras.sources } }
  let result ← Task.ending (exec body)
  if result matches .ok () ∨ result matches .error .giveBack then
    runTrap exec Signal.comeback
  Task.modifyProcess fun q => { q with
    arguments := p.arguments
    loops := p.loops
    locals := p.locals
    switches := q.ownSwitches.getD q.switches
    ownSwitches := p.ownSwitches
    calls := p.calls
    line := p.line
    traps := unhidden hidden q.traps
    bindings := restored (q.locals.getD []) q.bindings
    extras := { q.extras with
      callers := p.extras.callers
      sources := p.extras.sources } }
  match result with
  | .error .giveBack => pure ()
  | .error flow => throw flow
  | .ok () => pure ()

/-- Carries out a text in the process itself. -/
def evaluate (exec : Executor) (arguments : List Text) : Task Unit := do
  let (_, texts) ← optionsOf "" "" arguments
  let t := [' '].intercalate texts
  Task.setStatus 0
  if t.any (!Token.isSeparator ·) then
    deeper (runTextFrom exec false (← Task.process).line t)

/-- The file of commands that a name stands for: a path, or a file that is looked for, at last in the
directory itself. -/
def commandFile (name : Text) : Task (Option Text) := do
  if name.contains '/' then return some name
  let m ← get
  for candidate in (← Executable.candidates name) ++ [name] do
    if let .ok node := m.files.nodeAt true m.process.directory candidate then
      if node.isFile ∨ candidate = name then return some candidate
  return none

/-- Carries out a file in the process itself, perhaps with other arguments. -/
def includeFile (exec : Executor) (arguments : List Text) : Task Unit := do
  let (_, rest) ← optionsOf "" "" arguments
  match rest with
  | [] => misused "filename argument required".toList
  | name :: arguments =>
    let refuse (message : Text) : Task Unit := do
      Task.complainAs none message
      failWith 1
    match ← commandFile name with
    | none => refuse (name ++ ": No such file or directory".toList)
    | some path =>
      if ← Tool.isDirectoryAt path then fail (name ++ ": is a directory".toList)
      match ← Tool.bytesOf path with
      | .error fault => refuse (name ++ ": ".toList ++ fault.message)
      | .ok bytes =>
        let p ← Task.process
        Task.modifyProcess fun q => { q with
          status := 0
          speaker := none
          arguments := if arguments.isEmpty then q.arguments else arguments
          extras := { q.extras with sources := path :: q.extras.sources } }
        let result ← Task.ending (deeper (runText exec false (Raw.ofBytes bytes)))
        if result matches .ok () ∨ result matches .error .giveBack then
          runTrap exec Signal.comeback
        Task.modifyProcess fun q => { q with
          line := p.line
          speaker := p.speaker
          arguments := if arguments.isEmpty then q.arguments else p.arguments
          extras := { q.extras with sources := p.extras.sources } }
        match result with
        | .error .giveBack => pure ()
        | .error flow => throw flow
        | .ok () => pure ()

/-- What a name stands for as a command. -/
inductive Meaning where
  | keyword
  | word (value : Text)
  | function (body : Script)
  | builtin
  | file (path : Text) (isKept : Bool)

/-- The files that a name stands for, in the order in which they are looked for. -/
def filesNamed (name : Text) : Task (List Text) := do
  let m ← get
  let isProgram (path : Text) : Bool :=
    (Executable.ofPath m.files m.process.directory path).toOption.isSome
  if name.contains '/' then return if isProgram name then [name] else []
  return (← Executable.candidates name).filter isProgram

/-- All that a name stands for as a command, first what would be carried out. -/
def meanings (withFunctions : Bool) (name : Text) : Task (List Meaning) := do
  let p ← Task.process
  let isAliased := p.extras.settings.contains "expand_aliases".toList
  let aliased : List Meaning :=
    match if isAliased then p.aliases.lookup name else none with
    | some value => [.word value]
    | none => []
  let keyword : List Meaning :=
    if (Grammar.keywordsOf .extended ++ [']', ']'] :: []).contains name then [.keyword] else []
  let function : List Meaning :=
    match if withFunctions then p.functions.lookup name else none with
    | some body => [.function body]
    | none => []
  let builtin : List Meaning := if Commands.Extended.isKnown p name then [.builtin] else []
  let kept : List Meaning :=
    match p.found.lookup name with
    | some path => [.file path true]
    | none => []
  let files := (← filesNamed name).map fun path => Meaning.file path false
  return aliased ++ keyword ++ function ++ builtin ++ kept ++
    (if kept.isEmpty then files else files.drop 0)

/-- Tells how a name would be understood as a command. -/
def tell (name : Text) (m : Meaning) : Task Unit :=
  Task.print 1 (match m with
    | .keyword => name ++ " is a shell keyword\n".toList
    | .word value => name ++ " is aliased to \x60".toList ++ value ++ "'\n".toList
    | .function body => name ++ " is a function\n".toList ++ Layout.function name body
    | .builtin => name ++ " is a shell builtin\n".toList
    | .file path isKept =>
      if isKept then name ++ " is hashed (".toList ++ path ++ ")\n".toList
      else name ++ " is ".toList ++ path ++ ['\n'])

/-- The word for the kind of thing that a name stands for. -/
def Meaning.kind : Meaning → Text
  | .keyword => "keyword".toList
  | .word _ => "alias".toList
  | .function _ => "function".toList
  | .builtin => "builtin".toList
  | .file _ _ => "file".toList

/-- Tells how names would be understood as commands. -/
def describe (arguments : List Text) : Task Unit := do
  let (given, names) ← optionsOf "afptP" "" arguments
  let mut status : Int := 0
  for name in names do
    let found ← if has given 'P' then do
        pure ((← filesNamed name).map fun path => Meaning.file path false)
      else meanings (!has given 'f') name
    let shown := if has given 'a' then found.filter fun
        | .file _ isKept => !isKept
        | _ => true
      else found.take 1
    if shown.isEmpty then
      if !(has given 't' || has given 'p' || has given 'P') then
        Task.complain (name ++ ": not found".toList)
      status := 1
    for m in shown do
      if has given 't' then Task.print 1 (m.kind ++ ['\n'])
      else if has given 'p' ∨ has given 'P' then
        match m with
        | .file path _ => Task.print 1 (path ++ ['\n'])
        | _ => pure ()
      else tell name m
  Task.setStatus status

/-- Tells what would be carried out for names, briefly or in full. -/
def look (isBrief : Bool) (names : List Text) : Task Unit := do
  let mut anyFound := false
  for name in names do
    match (← meanings true name).head? with
    | none => if ¬ isBrief then Task.complain (name ++ ": not found".toList)
    | some m =>
      anyFound := true
      if isBrief then
        Task.print 1 (match m with
          | .word value =>
            "alias ".toList ++ name ++ '=' :: Quotation.inSingle value ++ ['\n']
          | .file path _ => path ++ ['\n']
          | _ => name ++ ['\n'])
      else tell name m
  Task.setStatus (if anyFound then 0 else 1)

/-- Looks programs up by their names, forgets them, or lists those that are known. -/
def hash (arguments : List Text) : Task Unit := do
  let (given, names) ← optionsOf "lrdt" "p" arguments
  let p ← Task.process
  if has given 'r' then
    Task.modifyProcess fun p => { p with found := [], extras := { p.extras with hits := [] } }
  if names.isEmpty then
    if given.isEmpty ∨ has given 'l' then
      if p.found.isEmpty then
        if given.isEmpty then Task.print 1 "hash: hash table empty\n".toList
      else if has given 'l' then
        for (name, path) in Holding.shown p.found.reverse do
          Task.print 1 ("builtin hash -p ".toList ++ path ++ ' ' :: name ++ ['\n'])
      else
        Task.print 1 "hits\tcommand\n".toList
        for (name, path) in Holding.shown p.found.reverse do
          let hits := numeral ((p.extras.hits.lookup name).getD 0)
          Task.print 1 (List.replicate (4 - hits.length) ' ' ++ hits ++ '\t' :: path ++ ['\n'])
  let mut status : Int := 0
  for name in names do
    let known := (← Task.process).found.lookup name
    let missing : Task Unit := Task.complain (name ++ ": not found".toList)
    match value? given 'p' with
    | some path =>
      Task.modifyProcess fun p => { p with found := Task.assign name path p.found }
    | none =>
      if has given 't' then
        match known with
        | some path =>
          let label := if names.length = 1 then [] else name ++ ['\t']
          Task.print 1 (label ++ path ++ ['\n'])
        | none => do missing; status := 1
      else if has given 'd' then
        if known.isSome then
          Task.modifyProcess fun p => { p with found := p.found.filter (·.1 ≠ name) }
        else do missing; status := 1
      else if name.contains '/' ∨ Commands.Extended.isKnown p name then pure ()
      else
        match ← filesNamed name with
        | path :: _ =>
          Task.modifyProcess fun p => { p with found := Task.assign name path p.found }
        | [] => do missing; status := 1
  Task.setStatus status

/-- Waits for commands in the background. -/
def waitFor (arguments : List Text) : Task Unit := do
  let (given, targets) ← optionsOf "fn" "p" arguments
  let finish (c : Child) : Task (Option Int) := do
    let interruption ← if c.isNoticed then pure none else await 2 [c.id]
    match interruption with
    | some s => return some (Signal.exitCode s)
    | none =>
      let ending := ((← get).ended.lookup c.id).getD ⟨0, none⟩
      markAwaited (·.id = c.id)
      Task.setStatus ending.code
      if let some name := value? given 'p' then
        Values.assign name none false (numeral c.id)
      return none
  if has given 'n' then
    let m ← get
    let left := m.process.children.filter fun c => !c.isWaitedFor
    if left.isEmpty then
      Task.setStatus 127
      return
    let done := left.reverse.find? fun c => (m.ended.lookup c.id).isSome
    let chosen ← match done with
      | some c => pure (some c)
      | none => do
        Task.wait ⟨.ending (left.map Child.id), none, true⟩
        let m ← get
        pure (left.reverse.find? fun c => (m.ended.lookup c.id).isSome)
    match chosen with
    | some c => let _ ← finish c
    | none => Task.setStatus 127
    return
  if targets.isEmpty then
    let ids := ((← Task.process).children.filter (!·.isNoticed)).map Child.id
    let interruption ← await (ids.length + 1) ids
    markAwaited fun _ => true
    Task.setStatus ((interruption.map Signal.exitCode).getD 0)
    return
  for target in targets do
    let children := (← Task.process).children
    if target.head? = some '%' then
      match Commands.Extended.child? children target with
      | (some c, _) =>
        if let some code ← finish c then
          Task.setStatus code
          return
      | (none, _) =>
        Task.complain (target ++ ": no such job".toList)
        Task.setStatus 127
    else
      match wholeInteger? false target with
      | none =>
        Task.complain ('\x60' :: target ++ "': not a pid or valid job spec".toList)
        Task.setStatus 1
      | some id =>
        match children.find? (·.id = id.toNat) with
        | some c =>
          if let some code ← finish c then
            Task.setStatus code
            return
        | none =>
          Task.complain ("pid ".toList ++ target ++ " is not a child of this shell".toList)
          Task.setStatus 127

/-- The variables that are told to a program that is found at a path. -/
def told (path : Text) (bindings : List (Text × Variable)) : List (Text × Variable) :=
  let exported := bindings.filterMap fun (name, v) =>
    match v.exported, v.holding with
    | true, some (.text t) => some (name, Variable.told t)
    | _, _ => none
  Holding.shown (exported.filter (·.1 ≠ ['_'])).reverse ++ [(['_'], .told path)]

/-- Runs a program in the place of the process. -/
def become (exec : Executor) (command : Text) (arguments : List Text) (path : Text)
    (found : Executable) : Task Unit := do
  Task.modifyProcess fun p => { p with bindings := told path p.bindings }
  Executable.run exec command arguments Executable.depth found

/-- One more or one less shell that is nested. -/
def nested (change : Int) (p : Process) : Process :=
  let level := ((p.bindings.lookup "SHLVL".toList).bind Variable.value).bind (wholeInteger? false)
  let value := signedNumeral (max 0 (level.getD 0 + change))
  { p with bindings := Task.assign "SHLVL".toList (.told value) p.bindings }

/-- Why a program at a path cannot be run, and the exit code for that. -/
def refusal (files : FileTree) (directory : NodeId) (path : Text) (fault : FileFault) :
    Text × Int :=
  match fault with
  | .missing => ("No such file or directory".toList, 127)
  | .denied =>
    match files.nodeAt true directory path with
    | .ok node => (if node.isDirectory then "Is a directory".toList
        else fault.message, 126)
    | .error _ => (fault.message, 126)
  | fault => (fault.message, 126)

/-- Runs a program by its name, in a process of its own unless the process has nothing else to do.
One that is not found may be told to a function. -/
def runProgram (exec : Executor) (isLast : Bool) (command : Text) (arguments : List Text) :
    Task Unit := do
  let start (path : Text) (found : Executable) : Task Unit := do
    if isLast && !(← Task.process).isPrepared then
      if (← Task.process).extras.isTold then Task.modifyProcess (nested (-1))
      become exec command arguments path found
      throw .leave
    else waitedFor exec id (become exec command arguments path found)
  let fail (message : Text) (status : Int) : Task Unit := do
    Task.complainAs none (command ++ ": ".toList ++ message)
    Task.setStatus status
  let m ← get
  if command.contains '/' then
    match Executable.ofPath m.files m.process.directory command with
    | .ok found => start command found
    | .error fault =>
      let (message, status) := refusal m.files m.process.directory command fault
      fail message status
  else
    let kept := m.process.found.lookup command
    let place ← match kept with
      | some path => do
        pure ((Executable.ofPath m.files m.process.directory path).map (path, ·))
      | none => Executable.named command
    match if command.isEmpty then .error .missing else place with
    | .ok (path, found) =>
      let hits := ((m.process.extras.hits.lookup command).getD 0) + 1
      Task.modifyProcess fun p => { p with
        found := Task.assign command path p.found
        extras := { p.extras with hits := Task.assign command hits p.extras.hits } }
      start path found
    | .error _ =>
      match m.process.functions.lookup "command_not_found_handle".toList with
      | some body =>
        waitedFor exec id (call exec "command_not_found_handle".toList body
          (command :: arguments))
      | none => fail "command not found".toList 127

/-- Runs a program in the place of the process. -/
def replaceProcess (exec : Executor) (arguments : List Text) : Task Unit := do
  let (given, rest) ← optionsOf "cl" "a" arguments
  match rest with
  | [] => Task.setStatus 0
  | command :: arguments =>
    let m ← get
    let isKept := m.process.extras.settings.contains "execfail".toList
    let whole (path : Text) : Text :=
      if path.head? = some '/' then path else Commands.joinedPath m.process.path path
    let place ← if command.contains '/' then
        pure ((Executable.ofPath m.files m.process.directory command).map (command, ·))
      else Executable.named command
    match place with
    | .ok (path, found) =>
      Task.modifyProcess fun p => { p with
        traps := p.traps.filter (·.2 = [])
        speaker := none
        bindings := if has given 'c' then [] else p.bindings }
      Task.modifyProcess (nested (-1))
      let called := (value? given 'a').getD command
      let called := if has given 'l' then '-' :: called else called
      become exec called arguments path found
      throw .leave
    | .error fault =>
      let path := command
      let isThere := (m.files.nodeAt true m.process.directory path).toOption.isSome
      if command.contains '/' then
        let (message, status) := refusal m.files m.process.directory path fault
        Task.complainAs none (whole path ++ ": ".toList ++ message)
        if status = 126 then
          Task.complain (whole path ++ ": cannot execute: ".toList ++ message)
        Task.setStatus status
      else if isThere then
        let (message, status) := refusal m.files m.process.directory path .denied
        Task.complain (path ++ ": cannot execute: ".toList ++ message)
        Task.setStatus status
      else
        Task.complain (command ++ ": not found".toList)
        Task.setStatus 127
      if isKept then throw .failed
      throw .leave

/-- Carries out a command of the language in its own name.  Its failure is forgiven, and output that
nobody takes is told. -/
def runBuiltin (name : Text) (action : Task Unit) : Task Unit := do
  modify fun m => { m with lost := none }
  match ← Task.ending (Task.speakingAs name action) with
  | .error .failed => pure ()
  | .error flow => throw flow
  | .ok () =>
    match (← get).lost with
    | none => pure ()
    | some fault =>
      modify fun m => { m with lost := none }
      if name ≠ ['e', 'v', 'a', 'l'] then
        Task.speakingAs name (Task.complain ("write error: ".toList ++ fault.message))
        Task.setStatus 1

/-- Carries out a command by its name and its arguments, other than a function. -/
def plainly (exec : Executor) (isLast : Bool) (name : Text) (arguments : List Argument) :
    Task Unit := do
  let p ← Task.process
  let texts := arguments.map Argument.text
  let status (action : Task Int) : Task Unit := do
    Task.setStatus (← action)
  if ¬ Commands.Extended.isKnown p name then runProgram exec isLast name texts
  else
    let known := String.ofList name
    runBuiltin name <|
      match known with
      | "eval" => evaluate exec texts
      | "." => includeFile exec texts
      | "source" => includeFile exec texts
      | "exec" => replaceProcess exec texts
      | "type" => describe texts
      | "hash" => hash texts
      | "wait" => waitFor texts
      | "enable" => status (Commands.Extended.enable texts)
      | "mapfile" => status (Commands.Extended.kept 1
          (Commands.Extended.mapfile (runText exec false)) texts)
      | "readarray" => status (Commands.Extended.kept 1
          (Commands.Extended.mapfile (runText exec false)) texts)
      | known =>
        match Commands.Extended.declaring.lookup known with
        | some action => status (action arguments)
        | none =>
          match Commands.Extended.plain.lookup known with
          | some action => status (action texts)
          | none => Task.setStatus 0

/-- Carries out the command that is given as arguments, without regard for functions, or describes
it. -/
def commandItself (exec : Executor) (isLast : Bool) (arguments : List Argument) : Task Unit := do
  let own := "command".toList
  let options := Commands.Extended.optionsWithin "pvV".toList [] (arguments.length + 1)
    (arguments.map Argument.text)
  match options with
  | .error message => runBuiltin own (misused message)
  | .ok (given, rest) =>
    let arguments := arguments.drop (arguments.length - rest.length)
    match arguments with
    | [] => Task.setStatus 0
    | name :: others =>
      if has given 'v' ∨ has given 'V' then
        runBuiltin own (look (has given 'v') rest)
      else plainly exec isLast name.text others

/-- Carries out a command of the language that is given as arguments. -/
def builtinItself (exec : Executor) (isLast : Bool) (arguments : List Argument) : Task Unit := do
  let arguments := if (arguments.head?.map Argument.text) = some ['-', '-'] then arguments.tail
    else arguments
  match arguments with
  | [] => Task.setStatus 0
  | name :: others =>
    if Commands.Extended.isKnown (← Task.process) name.text then
      plainly exec isLast name.text others
    else
      runBuiltin "builtin".toList (fail (name.text ++ ": not a shell builtin".toList))

/-- Carries out a command by its name. -/
def named (exec : Executor) (isLast : Bool) (name : Text) (arguments : List Argument) :
    Task Unit := do
  let p ← Task.process
  match p.functions.lookup name with
  | some body => call exec name body (arguments.map Argument.text)
  | none =>
    let isOn := Commands.Extended.isKnown p name
    if name = "command".toList ∧ isOn then commandItself exec isLast arguments
    else if name = "builtin".toList ∧ isOn then builtinItself exec isLast arguments
    else plainly exec isLast name arguments

/-- Keeps the exit code of a command that is no pipeline. -/
def noteStatus : Task Unit :=
  Task.modifyProcess fun p => { p with extras := { p.extras with statuses := [p.status] } }

/-- What comes before a command: it is kept as it is shown, and what is prepared is carried out. -/
def before (exec : Executor) (line : Nat) (shown : Text) : Task Unit := do
  Task.modifyProcess fun p =>
    let current := if p.extras.isInTrap then p.extras.current else shown
    { p with line, extras := { p.extras with current } }
  runTrap exec Signal.step

/-- Carries out a simple command: its words are expanded first, then its assignments are made or its
redirections. -/
def simple (exec : Executor) (isLast : Bool) (line : Nat) (assignments : List Assignment)
    (words : List Word) (rs : List Redirection) (written : List Text) : Task Unit := do
  Task.spend commandTime
  before exec line ([' '].intercalate (written ++ rs.map (Layout.redirection Layout.depth)))
  Task.modifyProcess fun p => { p with capturedStatus := 0 }
  closingPaths do
    match ← argumentsOf exec (isDeclaring words) words with
    | [] =>
      assignAll exec assignments
      redirected exec false rs (do Task.setStatus (← Task.process).capturedStatus)
      Task.modifyProcess fun p => { p with extras := { p.extras with last := [] } }
    | name :: arguments =>
      let texts := (name :: arguments).map Argument.text
      let last := texts.getLastD []
      let shown := [' '].intercalate (texts.map fun t =>
        if t.isEmpty then ['\'', '\''] else Quotation.shown t)
      let task : Task Unit := withAssignments exec assignments do
        trace exec shown
        if name.text = "exec".toList ∧ arguments.isEmpty ∧ assignments.isEmpty then
          if ← redirectAll exec rs then Task.setStatus 0 else Task.setStatus 1
        else if name.text = "exec".toList then
          if ← redirectAll exec rs then named exec isLast name.text arguments
          else Task.setStatus 1
        else redirected exec false rs (named exec isLast name.text arguments)
      task.andAfterwards
        (Task.modifyProcess fun p => { p with extras := { p.extras with last } })
  noteStatus

/-- The patterns of double brackets always have groups. -/
def rulesWithin : Task PatternRules := do
  return { ← Expansion.rules with groups := true }

/-- An expression that is searched for, in which what stood in quotes is meant itself. -/
def searched (gs : List Glyph) : Text :=
  gs.flatMap fun g =>
    if g.quoted ∧ "\\^$.[]|()*+?\x7b\x7d".toList.contains g.char then ['\\', g.char] else [g.char]

/-- Searches a text for an expression, and keeps what its groups have found; nothing if the
expression is none. -/
def matchesSearch (t : Text) (gs : List Glyph) : Task (Option Bool) := do
  let written := (Search.symbols (searched gs)).toList
  let isCaseless := (← Expansion.rules).folds
  match Search.compile .extended written with
  | .error _ => return none
  | .ok c =>
    let symbols := Search.symbols t
    let subject : Search.Subject := ⟨symbols, isCaseless, false, false⟩
    match c.expression.search subject 0 with
    | none =>
      Values.assignList "BASH_REMATCH".toList false []
      return some false
    | some found =>
      let texts := (List.range (c.groups + 1)).map fun n =>
        match found.group? n with
        | some (i, j) => ((symbols.extract i j).toList).flatMap Search.textOf
        | none => []
      Values.assignList "BASH_REMATCH".toList false (texts.map fun t => (none, false, t))
      return some true

/-- The value of an expression in double brackets; a fault is told and drops nothing. -/
def computed (speaker : String) (t : Text) : Task (Option Int) := do
  let (result, assignments) ← Values.evaluated t
  Values.settle assignments
  match result with
  | .ok n => return some n
  | .error f =>
    Task.complainAs none (speaker.toList ++ f.message)
    return none

/-- A text as an operand in double brackets is shown. -/
def shownOperand (t : Text) : Text :=
  if t.isEmpty then ['\'', '\''] else Quotation.shown t

/-- Checks a condition in double brackets, which fails where it is none. -/
def holds (exec : Executor) : Check → Task (Option Bool)
  | .question op w => do
    let t ← Expansion.text (capture exec) w
    trace exec ("[[ ".toList ++ op ++ ' ' :: shownOperand t ++ " ]]".toList)
    return some (← Commands.Extended.Testing.answer (op.getLastD ' ') t)
  | .comparison op l r => do
    let left ← Expansion.text (capture exec) l
    let gs := Expansion.glyphs (← Expansion.parts (capture exec) .value true r)
    let right := Glyph.text gs
    let shown := if right.isEmpty then ['\'', '\''] else gs.flatMap fun g =>
      if g.quoted then ['\\', g.char] else [g.char]
    trace exec ("[[ ".toList ++ shownOperand left ++ ' ' :: op ++ ' ' :: shown ++ " ]]".toList)
    match String.ofList op with
    | "=" => return some ((Pattern.ofGlyphs (← rulesWithin) gs).isMatch left)
    | "==" => return some ((Pattern.ofGlyphs (← rulesWithin) gs).isMatch left)
    | "!=" => return some (!(Pattern.ofGlyphs (← rulesWithin) gs).isMatch left)
    | "=~" => matchesSearch left gs
    | _ =>
      match Commands.Extended.Testing.numberComparison? op with
      | some p =>
        match ← computed "[[: " left with
        | none => return some false
        | some m =>
          match ← computed "[[: " right with
          | none => return some false
          | some n => return some (p m n)
      | none => return some (← Commands.Extended.Testing.compareTexts op left right)
  | .denied c => do
    return (← holds exec c).map (!·)
  | .both a b => do
    match ← holds exec a with
    | some true => holds exec b
    | other => return other
  | .either a b => do
    match ← holds exec a with
    | some false => holds exec b
    | other => return other

/-- Carries out a condition in double brackets. -/
def check (exec : Executor) (line : Nat) (c : Check) : Task Unit := do
  before exec line (Layout.script Layout.depth ⟨0, false⟩ (.check line c))
  let code : Int := match ← closingPaths (holds exec c) with
    | some true => 0
    | some false => 1
    | none => 2
  Task.setStatus code
  noteStatus

/-- The value of an expression in double round brackets, which is one if it is empty. -/
def countValue (exec : Executor) (w : Word) : Task (Option Int) := do
  let t ← Expansion.text (capture exec) w
  trace exec ("((".toList ++ ' ' :: t ++ " ))".toList)
  computed "((: " t

/-- Carries out an expression in double round brackets. -/
def calculate (exec : Executor) (line : Nat) (w : Word) : Task Unit := do
  before exec line (Layout.script Layout.depth ⟨0, false⟩ (.calculate line w))
  let t ← Expansion.text (capture exec) w
  let blank (c : Char) : Bool := c = ' '
  let shown := ((t.dropWhile blank).reverse.dropWhile blank).reverse
  trace exec ("(( ".toList ++ shown ++ " ))".toList)
  let code : Int := match ← computed "((: " t with
    | some 0 => 1
    | some _ => 0
    | none => 1
  Task.setStatus code
  noteStatus

/-- Carries out the rounds of a loop that counts. -/
def countRounds (exec : Executor) (condition next : Word) (body : Script) :
    Nat → Task Unit
  | 0 => throw (.killed Signal.kill)
  | fuel + 1 => do
    let status := (← Task.process).status
    let goesOn ← if condition.isEmpty then pure (some 1) else countValue exec condition
    match goesOn with
    | none => Task.setStatus 1
    | some 0 => Task.setStatus status
    | some _ =>
      let more ← round do
        exec body
        return true
      if more then
        if next.isEmpty then countRounds exec condition next body fuel
        else
          let status := (← Task.process).status
          match ← countValue exec next with
          | none => Task.setStatus 1
          | some _ =>
            Task.setStatus status
            countRounds exec condition next body fuel

/-- Carries out a loop that counts. -/
def count (exec : Executor) (line : Nat) (first condition next : Word) (body : Script) :
    Task Unit := do
  Task.modifyProcess fun p => { p with line }
  let begun ← if first.isEmpty then pure (some 0) else countValue exec first
  match begun with
  | none => Task.setStatus 1
  | some _ =>
    Task.setStatus 0
    countRounds exec condition next body roundLimit

/-- Carries out a command for each of some values of a variable. -/
def forEach (exec : Executor) (name shown : Text) (body : Script) : List Text → Task Unit
  | [] => pure ()
  | value :: rest => do
    let more ← round do
      trace exec shown
      before exec (← Task.process).line shown
      let isFixed := ((← Task.process).bindings.lookup name).any Variable.fixed
      if isFixed then
        Task.complainAs none (name ++ ": readonly variable".toList)
        Task.setStatus 1
        return false
      Values.assign name none false value
      exec body
      return true
    if more then forEach exec name shown body rest

/-- Carries out a loop over words. -/
def each (exec : Executor) (name : Text) (words : Option (List Word)) (body : Script) :
    Task Unit := do
  if !Grammar.isName name then
    Task.complainAs none (Commands.Extended.notName name)
    Task.setStatus 1
  else
    let values ←
      match words with
      | some ws => Expansion.fields (capture exec) ws
      | none => pure (← Task.process).arguments
    if values.isEmpty then Task.setStatus 0
    let shown := "for ".toList ++ name ++ " in ".toList ++
      match words with
      | some ws => [' '].intercalate (ws.map (Layout.word Layout.depth false))
      | none => "\"$@\"".toList
    forEach exec name shown body values

namespace Menu

/-- Blanks and tabs from one column to another one. -/
def gap (fuel : Nat) (start stop : Nat) : Text :=
  match fuel with
  | 0 => []
  | fuel + 1 =>
    if stop ≤ start then []
    else if start / 8 < stop / 8 then '\t' :: gap fuel (start + 8 - start % 8) stop
    else ' ' :: gap fuel (start + 1) stop

/-- The width of a text on a screen. -/
def width (t : Text) : Nat := (Raw.characters t).length

/-- The choices with their numbers, in columns. -/
def table (screen : Nat) (choices : List Text) : Text :=
  let count := choices.length
  let digits (n : Nat) : Nat := (numeral n).length
  let widest := (choices.map width).foldl max 0 + digits count + 2 + 2
  let columns := max 1 (screen / widest)
  let rows := count / columns + (if count % columns = 0 then 0 else 1)
  let columns := count / rows + (if count % rows = 0 then 0 else 1)
  let rows := if rows = 1 then columns else rows
  (List.range rows).flatMap fun row =>
    let cells := (List.range count).filter fun i => i % rows = row
    let shown := (cells.zip (List.range cells.length)).map fun (i, column) =>
      let choice := (choices[i]?).getD []
      let room := if column = 0 then digits rows else digits count
      let number := numeral (i + 1)
      let cell := List.replicate (room - number.length) ' ' ++ number ++ ") ".toList ++ choice
      let stop := (column + 1) * widest
      let start := column * widest + room + 2 + width choice
      if column + 1 = cells.length then cell else cell ++ gap (widest + 8) start stop
    shown.flatten ++ ['\n']

end Menu

/-- Carries out a command for each choice from a menu. -/
def offerRounds (exec : Executor) (name : Text) (choices : List Text) (body : Script) :
    (fuel : Nat) → (shows : Bool) → Task Unit
  | 0, _ => throw (.killed Signal.kill)
  | fuel + 1, shows => do
    let screen := ((← Values.text? "COLUMNS".toList).bind (wholeInteger? false)).getD 80
    if shows then Task.print 2 (Menu.table screen.toNat choices)
    Task.print 2 ((← Values.text? "PS3".toList).getD "#? ".toList)
    let code ← Commands.Extended.read (← Expansion.separators) []
    if code ≠ 0 then
      Task.print 1 ['\n']
      Task.setStatus 1
    else
      let reply := (← Values.text? "REPLY".toList).getD []
      if reply.isEmpty then offerRounds exec name choices body fuel true
      else
        let chosen := match wholeInteger? false reply with
          | some n => if 1 ≤ n then (choices[n.toNat - 1]?).getD [] else []
          | none => []
        let more ← round do
          Values.assign name none false chosen
          exec body
          return true
        let reply := (← Values.text? "REPLY".toList).getD []
        if more then offerRounds exec name choices body fuel reply.isEmpty

/-- Carries out a menu. -/
def offer (exec : Executor) (name : Text) (words : Option (List Word)) (body : Script) :
    Task Unit := do
  if !Grammar.isName name then
    Task.complainAs none (Commands.Extended.notName name)
    Task.setStatus 1
  else
    let choices ←
      match words with
      | some ws => Expansion.fields (capture exec) ws
      | none => pure (← Task.process).arguments
    Task.setStatus 0
    if !choices.isEmpty then offerRounds exec name choices body roundLimit true

/-- Carries out a command whose time is told. -/
def timed (exec : Executor) (isPlain : Bool) (body : Script) : Task Unit := do
  let start := (← Task.process).time
  exec body
  let spent := (← Task.process).time - start
  let fraction (digits : Nat) : Text :=
    let n := numeral (spent % 1000000 / 1000)
    (List.replicate (3 - n.length) '0' ++ n).take digits
  Task.print 2 <|
    if isPlain then
      "real ".toList ++ numeral (spent / 1000000) ++ '.' :: fraction 2 ++
        "\nuser 0.00\nsys 0.00\n".toList
    else
      "\nreal\t".toList ++ numeral (spent / 60000000) ++ 'm' ::
        numeral (spent / 1000000 % 60) ++ '.' :: fraction 3 ++
        "s\nuser\t0m0.000s\nsys\t0m0.000s\n".toList

/-- Carries out the arms of a selection from the first one with a pattern that matches: the ones
after it follow if it says so. -/
def selection (exec : Executor) (subject : Text) (last : Script → Task Unit) :
    (isReached : Bool) → List (List Word × Script × ArmEnding) → Task Unit
  | _, [] => pure ()
  | isReached, (ws, body, ending) :: rest => do
    let mut fits := isReached
    for w in ws do
      if ¬ fits then
        fits := (← Expansion.pattern (capture exec) w).isMatch subject
    if ¬ fits then selection exec subject last false rest
    else
      match ending with
      | .leaves => execOrSucceed last body
      | .falls =>
        execOrSucceed exec body
        selection exec subject last true rest
      | .tries =>
        execOrSucceed exec body
        selection exec subject last false rest

/-- Carries out a selection. -/
def select (exec : Executor) (subject : Word) (arms : List (List Word × Script × ArmEnding))
    (last : Script → Task Unit) : Task Unit := do
  let t ← Expansion.text (capture exec) subject
  let shown := "case ".toList ++ Layout.word Layout.depth false subject ++ " in".toList
  trace exec shown
  before exec (← Task.process).line (shown ++ [' '])
  Task.setStatus 0
  selection exec t last false arms

/-- Keeps the exit codes of a pipeline, of which the last one that is no success may count. -/
def notePipeline (stages : List Script) (codes : List Int) : Task Unit := do
  let current := (stages.getLast?.map Layout.command).getD []
  Task.modifyProcess fun p => { p with extras := { p.extras with statuses := codes, current } }
  let p ← Task.process
  if p.extras.settings.contains "pipefail".toList then
    Task.setStatus ((codes.reverse.find? (· ≠ 0)).getD 0)

end Extended

end Exec

end LineShell.Sh
