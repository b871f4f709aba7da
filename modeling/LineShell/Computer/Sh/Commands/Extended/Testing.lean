import LineShell.Computer.Sh.Commands.Extended.Basic
import LineShell.Computer.Sh.Condition
import LineShell.Computer.Sh.Switch

/-!
# Conditions of the extended language

The command `test` reads a condition from its arguments: how many they are decides how they are
read.  The questions and comparisons are shared with the conditions in double brackets, whose words
are known beforehand.
-/

namespace LineShell.Sh.Commands.Extended

namespace Testing

/-- Where conditions are checked. -/
def setting : Task Condition.Setting := do
  let m ← get
  let descriptor? (n : Nat) : Option Node := do
    match m.channels[← m.process.descriptors.lookup n]? with
    | some (.file id ..) => m.files.node? id
    | some (.device d) => some ⟨.device d, 0o666, 0⟩
    | some _ => some ⟨.pipe, 0o600, 0⟩
    | none => none
  return ⟨m.files, m.process.directory, descriptor?⟩

/-- The letters of the questions about one text. -/
def questions : Text := "abcdefghknoprstuvwxzGLOSNR".toList

/-- The text asks a question about the text after it. -/
def isQuestion : Text → Bool
  | ['-', c] => questions.contains c
  | _ => false

/-- The comparisons of numbers. -/
def numberComparison? (op : Text) : Option (Int → Int → Bool) :=
  match String.ofList op with
  | "-eq" => some fun m n => m = n
  | "-ne" => some fun m n => m ≠ n
  | "-lt" => some fun m n => m < n
  | "-le" => some fun m n => m ≤ n
  | "-gt" => some fun m n => m > n
  | "-ge" => some fun m n => m ≥ n
  | _ => none

/-- The text compares the texts before and after it. -/
def isComparison (op : Text) : Bool :=
  (["=", "==", "!=", "<", ">", "-nt", "-ot", "-ef"].map String.toList).contains op ||
    (numberComparison? op).isSome

/-- A switch or setting is on. -/
def isOn (name : Text) : Task Bool := do
  let p ← Task.process
  match Switch.extendedTable.lookup name with
  | some (some letter) => return p.isOn letter
  | some none => return p.extras.settings.contains name
  | none => return false

/-- A variable or an item of one has a value. -/
def isSet (word : Text) : Task Bool := do
  match target? word with
  | none =>
    match wholeInteger? false word with
    | some n => return 0 < n && n.toNat ≤ (← Task.process).arguments.length
    | none => return false
  | some (name, none) => return (← Values.text? name).isSome
  | some (name, some key) =>
    let holding := (← Values.find? name).bind Variable.holding
    if key = ['@'] ∨ key = ['*'] then
      return (holding.map fun h => !h.items.isEmpty).getD false
    else
      let key ← Values.keyOf name key
      return ((holding.bind fun h => h.item? key)).isSome

/-- The answer to a question about a text. -/
def answer (letter : Char) (t : Text) : Task Bool := do
  match letter with
  | 'n' => return !t.isEmpty
  | 'z' => return t.isEmpty
  | 'o' => isOn t
  | 'v' => isSet t
  | 'R' =>
    let v := (← Task.process).bindings.lookup t
    return (v.map fun v => v.traits.isReference && v.value.isSome).getD false
  | 't' => return false
  | letter =>
    let s ← setting
    let letter := if letter = 'a' then 'e' else letter
    if letter = 'N' then return false
    match Condition.fileQuestion? letter with
    | some (follow, p) => return (s.node? follow t).any p
    | none => return false

/-- Two texts as a comparison of texts or of files has them. -/
def compareTexts (op s t : Text) : Task Bool := do
  let setting ← setting
  match String.ofList op with
  | "=" => return s = t
  | "==" => return s = t
  | "!=" => return s ≠ t
  | "<" => return comesFirst s t && s ≠ t
  | ">" => return comesFirst t s && s ≠ t
  | "-ef" => return setting.isSame s t
  | "-nt" =>
    match setting.node? true s, setting.node? true t with
    | some a, some b => return b.time < a.time
    | a, b => return a.isSome && b.isNone
  | "-ot" =>
    match setting.node? true s, setting.node? true t with
    | some a, some b => return a.time < b.time
    | a, b => return a.isNone && b.isSome
  | _ => return false

/-- Something that takes words from the front of those that are left. -/
abbrev Reader := StateT (List Text) Task

/-- Leaves words for later. -/
def leave (words : List Text) : Reader Unit :=
  modify fun _ => words

/-- Fails because the condition is none. -/
def wrong {α : Type} (message : Text) : Reader α := do
  Task.complain message
  failWith (α := α) 2

/-- Fails because a word is missing. -/
def short {α : Type} : Reader α :=
  wrong "argument expected".toList

/-- Takes the next word. -/
def taken : Reader Text := do
  match ← get with
  | [] => short
  | w :: ws =>
    leave ws
    return w

/-- The number that a word denotes. -/
def number (t : Text) : Reader Int := do
  match wholeInteger? false t with
  | some n => return n
  | none => wrong (t ++ ": integer expression expected".toList)

/-- A comparison, whose three words come next. -/
def comparison : Reader Bool := do
  let s ← taken
  let op ← taken
  let t ← taken
  match numberComparison? op with
  | some p => return p (← number s) (← number t)
  | none => compareTexts op s t

/-- A question, whose words come next.  Without a number the terminal of the output is meant. -/
def question : Reader Bool := do
  let op ← taken
  if op = "-t".toList then
    match ← get with
    | t :: rest =>
      if (wholeInteger? false t).isSome then leave rest
      return false
    | [] => return false
  let t ← taken
  answer (op.getLastD ' ') t

/-- The condition that two words are. -/
def ofTwo : Reader Bool := do
  match ← get with
  | ['!'] :: t :: rest =>
    leave rest
    return t.isEmpty
  | op :: _ =>
    match op with
    | ['-', _] =>
      if isQuestion op then question else wrong (op ++ ": unary operator expected".toList)
    | _ => wrong (op ++ ": unary operator expected".toList)
  | [] => short

/-- The condition that three words are. -/
def ofThree : Reader Bool := do
  match ← get with
  | l :: op :: r :: rest =>
    if isComparison op then comparison
    else if op = "-a".toList then
      leave rest
      return !l.isEmpty && !r.isEmpty
    else if op = "-o".toList then
      leave rest
      return !l.isEmpty || !r.isEmpty
    else if l = ['!'] then
      leave (op :: r :: rest)
      return !(← ofTwo)
    else if l = ['('] ∧ r = [')'] then
      leave rest
      return !op.isEmpty
    else wrong (op ++ ": binary operator expected".toList)
  | _ => short

mutual

/-- Conditions of which one has to hold. -/
def either (fuel : Nat) : Reader Bool := do
  match fuel with
  | 0 => return false
  | fuel + 1 =>
    let first ← both fuel
    match ← get with
    | ['-', 'o'] :: rest =>
      leave rest
      let second ← either fuel
      return first || second
    | _ => return first
termination_by structural fuel

/-- Conditions that all have to hold. -/
def both (fuel : Nat) : Reader Bool := do
  match fuel with
  | 0 => return false
  | fuel + 1 =>
    let first ← single fuel
    match ← get with
    | ['-', 'a'] :: rest =>
      leave rest
      let second ← both fuel
      return first && second
    | _ => return first
termination_by structural fuel

/-- One condition. -/
def single (fuel : Nat) : Reader Bool := do
  match fuel with
  | 0 => return false
  | fuel + 1 =>
    match ← get with
    | [] => short
    | ['!'] :: rest =>
      if rest.isEmpty then short
      leave rest
      return !(← single fuel)
    | ['('] :: rest =>
      if rest.isEmpty then short
      leave rest
      let result ← either fuel
      match ← get with
      | [] => wrong "\x60)' expected".toList
      | [')'] :: rest =>
        leave rest
        return result
      | other :: _ => wrong ("\x60)' expected, found ".toList ++ other)
    | w :: rest =>
      if 2 ≤ rest.length ∧ isComparison (rest.headD []) then comparison
      else if 1 ≤ rest.length ∧ isQuestion w then question
      else
        leave rest
        return !w.isEmpty
termination_by structural fuel

end

/-- The condition that some words are, by their number. -/
def whole : Reader Bool := do
  let words ← get
  match words with
  | [] => return false
  | [w] =>
    leave ([] : List Text)
    return !w.isEmpty
  | [_, _] =>
    let result ← ofTwo
    leave ([] : List Text)
    return result
  | [_, _, _] =>
    let result ← ofThree
    leave ([] : List Text)
    return result
  | [['!'], _, _, _] =>
    leave words.tail
    return !(← ofThree)
  | [['('], _, _, [')']] =>
    leave words.tail
    let result ← ofTwo
    leave ([] : List Text)
    return result
  | words => either (4 * words.length + 4)

end Testing

/-- Checks a condition. -/
def test (words : List Text) : Task Int := do
  let (result, left) ← Testing.whole.run words
  match left with
  | [] => return if result then 0 else 1
  | w :: _ =>
    if w.head? = some '-' then
      Task.complain ("syntax error: \x60".toList ++ w ++ "' unexpected".toList)
    else Task.complain "too many arguments".toList
    failWith 2

/-- Checks a condition in brackets. -/
def bracket (words : List Text) : Task Int := do
  if words.getLast? = some [']'] then test words.dropLast
  else
    Task.complain "missing \x60]'".toList
    failWith 2

end LineShell.Sh.Commands.Extended
