import LineShell.Computer.Files.Tree
import LineShell.Computer.Text.Integer

/-!
# Conditions

The conditions that the command `test` checks: comparisons of texts and of numbers, questions about
files, and their combinations.
-/

namespace LineShell.Sh.Condition

/-- Where conditions are checked. -/
structure Setting where
  files : FileTree
  directory : NodeId
  /-- What the descriptors of a process are connected to. -/
  descriptor? : Nat → Option Node

/-- The node that a path leads to. -/
def Setting.node? (s : Setting) (follow : Bool) (path : Text) : Option Node :=
  match s.files.nodeAt follow s.directory path with
  | .ok node =>
    match node.kind with
    | .descriptor n => if follow then s.descriptor? n else some node
    | _ => some node
  | .error _ => none

/-- The first path leads to something that was altered after what the second one leads to. -/
def Setting.isNewer (s : Setting) (t u : Text) : Bool :=
  match s.node? true t, s.node? true u with
  | some a, some b => b.time < a.time
  | _, _ => false

/-- Two paths lead to the same node. -/
def Setting.isSame (s : Setting) (t u : Text) : Bool :=
  match s.files.find true s.directory t, s.files.find true s.directory u with
  | .ok a, .ok b => a = b
  | _, _ => false

/-- A number in a comparison, which sixty-four bits have to hold. -/
def integer (t : Text) : Except Text Int :=
  match wholeInteger? false t with
  | some n => .ok n
  | none => .error ("Illegal number: ".toList ++ t)

/-- A question about a file, by its letter, and whether links are followed. -/
def fileQuestion? (letter : Char) : Option (Bool × (Node → Bool)) :=
  let hasBit (bit : Nat) (node : Node) : Bool := node.mode / bit % 2 = 1
  match letter with
  | 'e' => some (true, fun _ => true)
  | 'f' => some (true, Node.isFile)
  | 'd' => some (true, Node.isDirectory)
  | 'h' => some (false, Node.isLink)
  | 'L' => some (false, Node.isLink)
  | 'c' => some (true, fun node => node.kind matches .device _)
  | 's' => some (true, fun node => node.size ≠ 0 || node.kind matches .program _)
  | 'r' => some (true, Node.isReadable)
  | 'w' => some (true, Node.isWritable)
  | 'x' => some (true, Node.isRunnable)
  | 'p' => some (true, fun node => node.kind matches .pipe)
  | 'b' => some (true, fun _ => false)
  | 'S' => some (true, fun _ => false)
  | 'u' => some (true, hasBit 0o4000)
  | 'g' => some (true, hasBit 0o2000)
  | 'k' => some (true, hasBit 0o1000)
  | 'O' => some (true, fun _ => true)
  | 'G' => some (true, fun _ => true)
  | _ => none

/-- A question about one text, by its letter.  No descriptor is connected to a terminal. -/
def unary? (s : Setting) (op : Text) : Option (Text → Except Text Bool) :=
  match op with
  | ['-', 'n'] => some fun t => .ok (t ≠ [])
  | ['-', 'z'] => some fun t => .ok (t = [])
  | ['-', 't'] => some fun t => do
    let _ ← integer t
    return false
  | ['-', letter] =>
    (fileQuestion? letter).map fun (follow, p) t => .ok ((s.node? follow t).any p)
  | _ => none

/-- What is wrong with a word, which is told unless it is empty. -/
def complaint (word : Text) (message : String) : Text :=
  (if word = [] then [] else word ++ [':', ' ']) ++ message.toList

/-- A comparison of two texts. -/
def binary? (s : Setting) (op : Text) : Option (Text → Text → Except Text Bool) :=
  let numbers (p : Int → Int → Bool) (s t : Text) : Except Text Bool := do
    return p (← integer s) (← integer t)
  match String.ofList op with
  | "=" => some fun s t => .ok (s = t)
  | "!=" => some fun s t => .ok (s ≠ t)
  | "<" => some fun s t => .ok (s < t)
  | ">" => some fun s t => .ok (t < s)
  | "-eq" => some (numbers fun m n => m = n)
  | "-ne" => some (numbers fun m n => m ≠ n)
  | "-lt" => some (numbers fun m n => m < n)
  | "-le" => some (numbers fun m n => m ≤ n)
  | "-gt" => some (numbers fun m n => m > n)
  | "-ge" => some (numbers fun m n => m ≥ n)
  | "-ef" => some fun t u => .ok (s.isSame t u)
  | "-nt" => some fun t u => .ok (s.isNewer t u)
  | "-ot" => some fun t u => .ok (s.isNewer u t)
  | _ => none

/-- What a word is where a condition may begin. -/
inductive Role where
  | ended
  | operand
  | question (p : Text → Except Text Bool)
  | comparison (p : Text → Text → Except Text Bool)
  | not
  | and
  | or
  | opening
  | closing

/-- The role of the first of some words.  The letter of a question is an operand itself where
nothing follows it or where a comparison does. -/
def role (s : Setting) : List Text → Role
  | [] => .ended
  | t :: rest =>
    let compared :=
      match rest with
      | op :: _ :: _ => (binary? s op).isSome
      | _ => false
    match unary? s t, binary? s t with
    | some p, _ => if rest.isEmpty || compared then .operand else .question p
    | none, some p => .comparison p
    | none, none =>
      match String.ofList t with
      | "!" => .not
      | "-a" => .and
      | "-o" => .or
      | "(" => if rest.isEmpty then .operand else .opening
      | ")" => .closing
      | _ => .operand

/-- Whether a condition holds, and the words from the last one of it on. -/
abbrev Outcome := Except Text (Bool × List Text)

mutual

/-- Conditions of which one has to hold. -/
def either (s : Setting) (fuel : Nat) (ts : List Text) : Outcome :=
  match fuel with
  | 0 => .ok (false, ts)
  | fuel + 1 => do
    let (b, rest) ← both s fuel ts
    match role s rest.tail with
    | .or =>
      let (b', rest) ← either s fuel (rest.drop 2)
      return (b || b', rest)
    | _ => return (b, rest)
termination_by structural fuel

/-- Conditions that all have to hold. -/
def both (s : Setting) (fuel : Nat) (ts : List Text) : Outcome :=
  match fuel with
  | 0 => .ok (false, ts)
  | fuel + 1 => do
    let (b, rest) ← single s fuel ts
    match role s rest.tail with
    | .and =>
      let (b', rest) ← both s fuel (rest.drop 2)
      return (b && b', rest)
    | _ => return (b, rest)
termination_by structural fuel

/-- One condition.  A word that stands alone holds unless it is empty, and where no word is left
nothing holds. -/
def single (s : Setting) (fuel : Nat) (ts : List Text) : Outcome :=
  match fuel with
  | 0 => .ok (false, ts)
  | fuel + 1 =>
    match role s ts, ts with
    | _, [] => .ok (false, [])
    | .not, t :: rest => do
      let (b, rest) ← single s fuel rest
      return (!b, if rest.isEmpty then [t] else rest)
    | .opening, _ :: rest =>
      match role s rest with
      | .closing => .ok (false, rest)
      | _ => do
        let (b, rest) ← either s fuel rest
        match role s rest.tail with
        | .closing => return (b, rest.tail)
        | _ => throw "closing paren expected".toList
    | .question p, _ :: rest =>
      match rest with
      | t :: _ => do return (← p t, rest)
      | [] => .ok (false, [])
    | _, t :: rest =>
      match role s rest, rest with
      | .comparison p, _ :: operand :: rest => do return (← p t operand, operand :: rest)
      | .comparison _, op :: _ => .error (complaint op "argument expected")
      | _, _ => .ok (t ≠ [], ts)
termination_by structural fuel

end

/-- Checks a whole condition in which every word has its role. -/
def general (s : Setting) (ts : List Text) : Except Text Bool := do
  let (b, rest) ← either s (4 * ts.length + 4) ts
  match rest with
  | t :: _ :: _ => throw (complaint t "unexpected operator")
  | _ => return b

/-- Checks a condition.  Without any words none holds.  The second of three words decides that they
are a comparison; otherwise three or four words may be a condition in brackets or a denial. -/
def holds (s : Setting) : List Text → Except Text Bool
  | [] => .ok false
  | [l, op, r] =>
    match binary? s op with
    | some p => p l r
    | none =>
      if l = ['('] ∧ r = [')'] then general s [op]
      else if l = ['!'] then return !(← general s [op, r])
      else general s [l, op, r]
  | [l, t, u, r] =>
    if l = ['('] ∧ r = [')'] then general s [t, u]
    else if l = ['!'] then return !(← holds s [t, u, r])
    else general s [l, t, u, r]
  | ts => general s ts

end LineShell.Sh.Condition
