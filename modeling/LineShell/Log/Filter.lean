import LineShell.Log.Layout
import LineShell.Log.Regular
import LineShell.Text.Pieces

/-!
# Which log records are shown

A filter is a list of directives, written with commas between them.  A directive names a target, or
fields, or neither, and the greatest rank that it lets through; of the directives that are about a
record, the most specific one decides, and of those that are as specific as each other the one whose
fields come last in the alphabet.
-/

namespace LineShell

/-- One directive. -/
structure Directive where
  /-- The directive is about targets that begin like this. -/
  target : Option Text
  /-- The directive is about records that have all these fields. -/
  fields : List Text
  /-- The greatest rank that is let through. -/
  greatest : Nat
deriving DecidableEq, Repr

namespace Directive

/-- The rank of a level by its name, whatever its case, or by its number. -/
def rank? (t : Text) : Option Nat :=
  let digits := if t.head? = some '+' then t.tail else t
  if digits ≠ [] ∧ digits.all Char.isDigit then
    if digitsValue digits ≤ 5 then some (digitsValue digits) else none
  else
    match String.ofList (t.map Char.toLower) with
    | "off" => some 0
    | "error" => some 1
    | "warn" => some 2
    | "info" => some 3
    | "debug" => some 4
    | "trace" => some 5
    | _ => none

/-- The rank after an equality sign, all of them if nothing stands there. -/
def rankAfterSign? (t : Text) : Option Nat :=
  if t = [] then some Level.trace.rank else rank? t

/-- The part of a text between two numbers of bytes, unless that would cut a character. -/
def between? (t : Text) (start stop : Nat) : Option Text := do
  let (_, t) ← Utf8.splitAt? start t
  let (t, _) ← Utf8.splitAt? (stop - start) t
  return t

/-- A field in the braces of a directive, and whether a value of it is asked for.  The value has to
be a number or a regular expression. -/
def field? (t : Text) : Option (Text × Bool) :=
  match pieces '=' t with
  | name :: value :: _ => if Regular.isValue value then some (name, true) else none
  | name :: [] => some (name, false)
  | [] => none

/-- A character that a directive may begin with. -/
def mayBegin (c : Char) : Bool :=
  isAlphanumeric c || c ∈ ['-', ':', '_', '[']

/-- Where the marks of a directive are, counted in bytes. -/
structure Marks where
  /-- The end of the target. -/
  target : Nat
  /-- The beginning and the end of what is named in brackets. -/
  name : Nat × Nat
  /-- The beginning and the end of the field in braces. -/
  field : Option (Nat × Nat)
  /-- The beginning of the level. -/
  level : Option Nat

/-- The marks of a directive with brackets, given the text after its opening bracket, which is at a
given place. -/
def marks? (target : Nat) (t : Text) : Option Marks :=
  let name := t.takeWhile fun c => c ≠ ']' ∧ c ≠ '{'
  let nameEnd := target + 1 + Utf8.size name
  let finish (field : Option (Nat × Nat)) (place : Nat) : Text → Option Marks
    | [] => some ⟨target, (target + 1, nameEnd), field, none⟩
    | '=' :: _ => some ⟨target, (target + 1, nameEnd), field, some (place + 1)⟩
    | _ => none
  match t.drop name.length with
  | ']' :: rest => finish none (nameEnd + 1) rest
  | '{' :: rest =>
    let field := rest.takeWhile (· ≠ '}')
    let fieldEnd := nameEnd + 1 + Utf8.size field
    match rest.drop field.length with
    | '}' :: ']' :: rest => finish (some (nameEnd + 1, fieldEnd)) (fieldEnd + 2) rest
    | _ => none
  | _ => none

/-- The directive of a text without brackets whose first equality sign has a given place. -/
def plain? (t : Text) : Option Nat → Option Directive
  | none =>
    match rank? t with
    | some greatest => some ⟨none, [], greatest⟩
    | none => some ⟨some t, [], Level.trace.rank⟩
  | some sign => do
    let target ← between? t 0 sign
    let greatest ← rankAfterSign? (← between? t (sign + 1) (Utf8.size t))
    return ⟨some target, [], greatest⟩

/-- The directive of a text with brackets, whose marks are given.  A directive about what happens
within something named, or about the value of a field, is well formed and lets nothing through by
itself. -/
def bracketed? (t : Text) (marks : Marks) : Option (Option Directive) := do
  let target ← between? t 0 marks.target
  let name ← between? t marks.name.1 marks.name.2
  let field ←
    match marks.field with
    | none => pure none
    | some (start, stop) => do
      let text ← between? t start stop
      if text = [] then none
      else (field? text).map some
  let greatest ←
    match marks.level with
    | none => pure Level.trace.rank
    | some place => do rankAfterSign? (← between? t place (Utf8.size t))
  if field.isNone || !name.isEmpty || field.any Prod.snd then return none
  return some ⟨if marks.target = 0 then none else some target, (field.map Prod.fst).toList, greatest⟩

/-- The directive of a text, or nothing if the text is none.  Blanks around a text do not count when
its marks are looked for, but they do count when the text is cut at the places of its marks. -/
def ofText? (t : Text) : Option (Option Directive) :=
  let trimmed := trim t
  let target := trimmed.takeWhile fun c => c ≠ '=' ∧ c ≠ '['
  if !(trimmed.head?.any mayBegin) then none
  else
    match trimmed.drop target.length with
    | [] => (plain? t none).map some
    | '=' :: _ => (plain? t (Utf8.size target)).map some
    | _ :: rest => do bracketed? t (← marks? (Utf8.size target) rest)

/-- The directive is about a record. -/
def isAbout (d : Directive) (s : Spelling) : Bool :=
  (d.target.all fun t => t.isPrefixOf s.target) &&
    d.fields.all fun f => f = "message".toList || s.fields.any (·.1 = f)

/-- The names of one list come before those of another one, or are the same. -/
def namesComeFirst : List Text → List Text → Bool
  | [], _ => true
  | _ :: _, [] => false
  | s :: ss, t :: ts => if s = t then namesComeFirst ss ts else comesFirst s t

/-- The directive is tried before another one, or is about the same: it names a longer target, or as
long a target and more fields, or as many fields that come later in the alphabet. -/
def precedes (d e : Directive) : Bool :=
  let length (d : Directive) : Nat :=
    match d.target with
    | none => 0
    | some t => Utf8.size t + 1
  if length d ≠ length e then length e < length d
  else if d.fields.length ≠ e.fields.length then e.fields.length < d.fields.length
  else namesComeFirst e.fields d.fields

end Directive

/-- A filter: directives, more specific ones first. -/
structure Filter where
  directives : List Directive
deriving DecidableEq, Repr

namespace Filter

/-- A filter that lets nothing through. -/
def nothing : Filter := ⟨[]⟩

/-- A filter that lets through what is as urgent as a level. -/
def upTo (level : Level) : Filter := ⟨[⟨none, [], level.rank⟩]⟩

/-- The filter with one more directive, which replaces one about the same. -/
def add (f : Filter) (d : Directive) : Filter :=
  let others := f.directives.filter fun e => e.target ≠ d.target ∨ e.fields ≠ d.fields
  ⟨others.takeWhile (·.precedes d) ++ d :: others.dropWhile (·.precedes d)⟩

/-- The filter of a text, or nothing if one of its directives is none. -/
def ofText? (t : Text) : Option Filter := do
  let directives ← ((pieces ',' t).filter (· ≠ [])).mapM Directive.ofText?
  return (directives.filterMap id).foldl add nothing

/-- The filter of a text that may be missing.  Without a filter only warnings and worse are shown.
-/
def ofSetting (t : Option Text) : Filter :=
  (t.bind ofText?).getD (upTo .warn)

/-- The filter lets a record through. -/
def lets (f : Filter) (s : Spelling) : Bool :=
  match f.directives.find? (·.isAbout s) with
  | some d => s.level.rank ≤ d.greatest
  | none => false

end Filter

end LineShell
