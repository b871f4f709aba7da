import LineShell.Text.Alphanumeric

/-!
# Well-formed regular expressions

A filter may ask for values of a field by a regular expression.  No value is ever matched here, but
a text that is no regular expression is no filter either, so this file decides which texts are one.

An expression is read from left to right.  What the reader has to remember is a `Mode`: whether
characters or bytes are matched, and whether blanks count.  Flags change the mode up to the end of
the group that they stand in, so the modes of the open groups are kept on a stack.  Whatever could
match a part of a character is refused, and so are the boundaries of words unless they are those of
ASCII.  An expression whose parts are nested too deep is refused as well; a `Nest` counts how deep
they are.
-/

namespace LineShell.Regular

/-- How deep the parts of an expression may be nested. -/
def nestLimit : Nat := 250

/-- How deep the items of a sequence are nested, which may be one of several that are joined. -/
structure Nest where
  /-- How many items there are. -/
  count : Nat
  /-- The depth of the deepest item before the last one. -/
  before : Nat
  /-- The depth of the last item. -/
  last : Nat
  /-- The depth of what is joined to the sequence from the left, if something is. -/
  joined : Option Nat
deriving DecidableEq, Repr

namespace Nest

/-- A sequence without items. -/
def empty : Nest := ⟨0, 0, 0, none⟩

/-- The sequence with one more item. -/
def push (n : Nest) (depth : Nat) : Nest :=
  { n with count := n.count + 1, before := max n.before n.last, last := depth }

/-- The sequence with its last item one level deeper. -/
def deepen (n : Nest) : Nest :=
  { n with last := n.last + 1 }

/-- The depth of the sequence by itself.  Two items and more are a level of their own. -/
def own (n : Nest) : Nat :=
  if n.count ≤ 1 then n.last else max n.before n.last + 1

/-- The depth of alternatives, all of which are on one level below them. -/
def ofAlternatives (n : Nest) : Nat :=
  match n.joined with
  | none => n.own
  | some depth => max depth n.own + 1

/-- A new alternative beside those before it. -/
def alternative (n : Nest) : Nest :=
  { empty with joined := some (max (n.joined.getD 0) n.own) }

/-- The depth of operands, of which the first two are one level below the next one. -/
def ofOperands (n : Nest) : Nat :=
  n.ofAlternatives

/-- A new operand after those before it. -/
def operand (n : Nest) : Nest :=
  { empty with joined := some n.ofOperands }

end Nest

/-- How an expression is read. -/
structure Mode where
  /-- Characters are matched, and not bytes. -/
  unicode : Bool
  /-- Blanks and comments do not count. -/
  spaced : Bool
deriving DecidableEq, Repr

/-- How an expression is read unless flags say otherwise. -/
def Mode.usual : Mode := ⟨true, false⟩

/-- Leaves out blanks and comments if the mode says so. -/
def Mode.skip (m : Mode) : Nat → Text → Text
  | 0, t => t
  | fuel + 1, t =>
    if !m.spaced then t
    else
      match t.dropWhile isBlank with
      | '#' :: t => m.skip fuel (t.dropWhile (· ≠ '\n'))
      | t => t

/-- Leaves out all blanks and comments at the beginning of a text if the mode says so. -/
def Mode.rest (m : Mode) (t : Text) : Text :=
  m.skip (t.length + 1) t

/-- The value of a hexadecimal digit. -/
def hexDigit? (c : Char) : Option Nat :=
  if c.isDigit then some (c.toNat - '0'.toNat)
  else if 'a' ≤ c ∧ c ≤ 'f' then some (c.toNat - 'a'.toNat + 10)
  else if 'A' ≤ c ∧ c ≤ 'F' then some (c.toNat - 'A'.toNat + 10)
  else none

/-- What a backslash and the text after it stand for. -/
inductive Escape where
  | literal (c : Char)
  /-- A class of characters with a name of one letter, such as the digits. -/
  | named (negated : Bool)
  /-- A property of characters. -/
  | property
  /-- The beginning or the end of the text. -/
  | edge
  /-- A boundary of words. -/
  | boundary
deriving DecidableEq, Repr

/-- The character of a number of hexadecimal digits, and the text after them. -/
def numbered? (m : Mode) (digits : Nat) (t : Text) : Option (Char × Text) :=
  let rec read : Nat → Nat → Text → Option (Nat × Text)
    | 0, n, t => some (n, t)
    | k + 1, n, t =>
      match m.rest t with
      | c :: t => (hexDigit? c).bind fun d => read k (n * 16 + d) t
      | [] => none
  match read digits 0 t with
  | some (n, t) => if n.isValidChar then some (Char.ofNat n, m.rest t) else none
  | none => none

/-- The escape after a backslash, and the text after it. -/
def escape? (m : Mode) : Text → Option (Escape × Text)
  | [] => none
  | c :: t =>
    let asNumber (digits : Nat) : Option (Escape × Text) :=
      (numbered? m digits t).map fun (c, t) => (.literal c, t)
    match c with
    | 'x' => asNumber 2
    | 'u' => asNumber 4
    | 'U' => asNumber 8
    | 'p' | 'P' =>
      match m.rest t with
      | letter :: t => if letter ∈ "CLMNPSZclmnpsz".toList then some (.property, m.rest t) else none
      | [] => none
    | 'd' | 's' | 'w' => some (.named false, t)
    | 'D' | 'S' | 'W' => some (.named true, t)
    | 'A' | 'z' => some (.edge, t)
    | 'b' | 'B' | '<' | '>' => some (.boundary, t)
    | 'a' => some (.literal '\x07', t)
    | 'f' => some (.literal '\x0c', t)
    | 'n' => some (.literal '\n', t)
    | 'r' => some (.literal '\x0d', t)
    | 't' => some (.literal '\t', t)
    | 'v' => some (.literal '\x0b', t)
    | _ => if c.toNat < 0x80 ∧ ¬ c.isAlphanum then some (.literal c, t) else none

/-- An escape may stand in an expression: where bytes are matched, nothing may match a part of a
character, and where characters are matched, no boundary of words is known. -/
def Escape.isAllowed (m : Mode) : Escape → Bool
  | .literal _ => true
  | .named negated => m.unicode || !negated
  | .property => m.unicode
  | .edge => true
  | .boundary => !m.unicode

/-- The escape names a byte that is no character by itself. -/
def namesByte (m : Mode) (e : Escape) (t : Text) : Bool :=
  !m.unicode && t.head? = some 'x' && match e with
    | .literal c => 0x7F < c.toNat
    | _ => false

/-- The names of the classes that stand between colons. -/
def classNames : List String :=
  ["alnum", "alpha", "ascii", "blank", "cntrl", "digit", "graph", "lower", "print", "punct",
    "space", "upper", "word", "xdigit"]

/-- A class between colons, after the bracket that begins it: whether it is negated, and the text
after it. -/
def colonClass? (t : Text) : Option (Bool × Text) :=
  match t with
  | ':' :: t =>
    let (negated, t) := match t with
      | '^' :: t => (true, t)
      | _ => (false, t)
    let name := t.takeWhile (· ≠ ':')
    match t.drop name.length with
    | ':' :: ']' :: t => if String.ofList name ∈ classNames then some (negated, t) else none
    | _ => none
  | _ => none

/-- The beginning of a set after its bracket: minus signs and a closing bracket stand for themselves
there.  The result tells whether the set is negated, and how many of them there are. -/
def setBegin? (m : Mode) (t : Text) : Option (Bool × Nat × Text) :=
  let t := m.rest t
  let (negated, t) := match t with
    | '^' :: t => (true, m.rest t)
    | _ => (false, t)
  let rec signs (n : Nat) : Nat → Text → Text × Nat
    | 0, t => (t, n)
    | fuel + 1, t =>
      match t with
      | '-' :: t => signs (n + 1) fuel (m.rest t)
      | _ => (t, n)
  let (t, n) := signs 0 t.length t
  let (t, n) := match n, t with
    | 0, ']' :: t => (m.rest t, 1)
    | _, _ => (t, n)
  if t = [] then none else some (negated, n, t)

/-- One element of a set: a character, or nothing for a class of them; and the text after it. -/
def member? (m : Mode) : Text → Option (Option Char × Text)
  | [] => none
  | '\\' :: t =>
    match escape? m t with
    | some (e, rest) =>
      if !e.isAllowed m || namesByte m e t then none
      else
        match e with
        | .literal c => if fits m c then some (some c, rest) else none
        | .named _ | .property => some (none, rest)
        | .edge | .boundary => none
    | none => none
  | c :: t => if fits m c then some (some c, t) else none
where
  /-- The character may be an element: where bytes are matched, it has to be one byte. -/
  fits (m : Mode) (c : Char) : Bool := m.unicode || c.toNat < 0x80

/-- A minus sign stands between the ends of a range: what follows it is not the end of the set and
not another minus sign. -/
def rangeEnd? (m : Mode) (t : Text) : Option Text :=
  match m.rest t with
  | '-' :: t =>
    match m.rest t with
    | ']' :: _ => none
    | '-' :: _ => none
    | t => some t
  | _ => none

/-- The depth of the sets that are open and the text after them.  `outer` are the items of the sets
around the innermost one, and `inner` are its own. -/
def afterSet? (m : Mode) : (fuel : Nat) → (outer : List Nest) → (inner : Nest) → Text →
    Option (Nat × Text)
  | 0, _, _, _ => none
  | fuel + 1, outer, inner, t =>
    match m.rest t with
    | [] => none
    | ']' :: t =>
      let depth := inner.ofOperands + 1
      match outer with
      | [] => some (depth, t)
      | inner :: outer => afterSet? m fuel outer (inner.push depth) t
    | '[' :: t =>
      match colonClass? t with
      | some (negated, t) =>
        if m.unicode || !negated then afterSet? m fuel outer (inner.push 0) t else none
      | none =>
        match setBegin? m t with
        | some (negated, signs, t) =>
          if m.unicode || !negated then
            afterSet? m fuel (inner :: outer) (ofSigns signs) t
          else none
        | none => none
    | '&' :: '&' :: t => afterSet? m fuel outer inner.operand t
    | '-' :: '-' :: t => afterSet? m fuel outer inner.operand t
    | '~' :: '~' :: t => afterSet? m fuel outer inner.operand t
    | t =>
      match member? m t with
      | none => none
      | some (first, t) =>
        match rangeEnd? m t with
        | none => afterSet? m fuel outer (inner.push 0) t
        | some t =>
          match first, member? m t with
          | some a, some (some b, t) =>
            if a ≤ b then afterSet? m fuel outer (inner.push 0) t else none
          | _, _ => none
where
  /-- The items at the beginning of a set that stand for themselves. -/
  ofSigns (signs : Nat) : Nest :=
    (List.range signs).foldl (fun n _ => n.push 0) .empty

/-- The depth of a set and the text after it, given the text after the bracket that opens it. -/
def set? (m : Mode) (t : Text) : Option (Nat × Text) :=
  match setBegin? m t with
  | some (negated, signs, t) =>
    if m.unicode || !negated then afterSet? m (t.length + 1) [] (afterSet?.ofSigns signs) t
    else none
  | none => none

/-- A text is the name of a group. -/
def isName (t : Text) : Bool :=
  match t with
  | [] => false
  | c :: cs =>
    (c = '_' || isAlphabetic c) &&
      cs.all fun c => c ∈ ['_', '.', '[', ']'] || isAlphanumeric c

/-- The mode that flags make, if they are well formed: each flag and the minus sign stand at most
once, and the sign not at the end. -/
def flagged? (m : Mode) (flags : Text) : Option Mode :=
  if flags.all "imsUuRx-".toList.contains ∧ flags.Nodup ∧ flags.getLast? ≠ some '-' then
    let on := flags.takeWhile (· ≠ '-')
    let off := flags.drop on.length
    let after (c : Char) (before : Bool) : Bool :=
      if on.contains c then true else if off.contains c then false else before
    some ⟨after 'u' m.unicode, after 'x' m.spaced⟩
  else none

/-- What an opening bracket begins. -/
inductive Opening where
  /-- Flags for what follows. -/
  | flags (m : Mode)
  /-- A group, possibly with a name. -/
  | group (m : Mode) (name : Option Text)
deriving DecidableEq, Repr

/-- What an opening bracket begins, and the text after its beginning. -/
def opening? (m : Mode) (t : Text) : Option (Opening × Text) :=
  let named (t : Text) : Option (Opening × Text) :=
    let name := t.takeWhile (· ≠ '>')
    match t.drop name.length with
    | _ :: t => if isName name then some (.group m (some name), t) else none
    | [] => none
  match m.rest t with
  | '?' :: 'P' :: '<' :: t => named t
  | '?' :: '<' :: t => named t
  | '?' :: t =>
    let flags := t.takeWhile fun c => c ≠ ':' ∧ c ≠ ')'
    match t.drop flags.length, flagged? m flags with
    | ')' :: t, some m => if flags = [] then none else some (.flags m, t)
    | ':' :: t, some m => some (.group m none, t)
    | _, _ => none
  | t => some (.group m none, t)

/-- Reads the rest of an expression.  `groups` are the modes around the groups that are open and what
stands before these, `names` the names of groups so far, `nest` is what stands in the innermost
group, and `repeatable` tells that something stands before the text that may be repeated. -/
def accepts : (fuel : Nat) → (groups : List (Mode × Nest)) → (names : List Text) → (m : Mode) →
    (nest : Nest) → (repeatable : Bool) → Text → Bool
  | 0, _, _, _, _, _, _ => false
  | fuel + 1, groups, names, m, nest, repeatable, t =>
    match m.rest t with
    | [] => groups.isEmpty && nest.ofAlternatives ≤ nestLimit
    | '(' :: t =>
      match opening? m t with
      | none => false
      | some (.flags m, t) => accepts fuel groups names m (nest.push 0) false t
      | some (.group inner name, t) =>
        !name.any names.contains &&
          accepts fuel ((m, nest) :: groups) (name.toList ++ names) inner .empty false t
    | ')' :: t =>
      match groups with
      | [] => false
      | (m, outer) :: groups =>
        accepts fuel groups names m (outer.push (nest.ofAlternatives + 1)) true t
    | '|' :: t => accepts fuel groups names m nest.alternative false t
    | '[' :: t =>
      match set? m t with
      | none => false
      | some (depth, t) => accepts fuel groups names m (nest.push depth) true t
    | '\\' :: t =>
      match escape? m t with
      | none => false
      | some (e, rest) =>
        e.isAllowed m && !namesByte m e t && accepts fuel groups names m (nest.push 0) true rest
    | '\x7b' :: _ => false
    | '.' :: t => m.unicode && accepts fuel groups names m (nest.push 0) true t
    | c :: t =>
      if c ∈ ['?', '*', '+'] then
        repeatable && accepts fuel groups names m nest.deepen true
          (if t.head? = some '?' then t.tail else t)
      else accepts fuel groups names m (nest.push 0) true t

/-- The text is a regular expression. -/
def isWellFormed (t : Text) : Bool :=
  accepts (t.length + 1) [] [] .usual .empty false t

/-- The text is a number in decimal, possibly with a fraction and an exponent, or the name of a
value that is no finite number. -/
def isNumber (t : Text) : Bool :=
  let whole := t.takeWhile Char.isDigit
  let t' := t.drop whole.length
  let fraction := match t' with
    | '.' :: t => t.takeWhile Char.isDigit
    | _ => []
  let t' := match t' with
    | '.' :: t => t.drop fraction.length
    | _ => t'
  let isExponent : Bool := match t' with
    | [] => true
    | e :: t =>
      let digits := match t with
        | '+' :: t => t
        | '-' :: t => t
        | t => t
      e.toLower = 'e' && !digits.isEmpty && digits.all Char.isDigit
  (!(whole ++ fraction).isEmpty && isExponent) ||
    ["inf", "infinity", "nan"].contains (String.ofList (t.map Char.toLower))

/-- The text may stand as the value of a field: as a number, whose sign counts, or else as a regular
expression. -/
def isValue (t : Text) : Bool :=
  isWellFormed t || match t with
    | '+' :: t => isNumber t
    | _ => false

end LineShell.Regular
