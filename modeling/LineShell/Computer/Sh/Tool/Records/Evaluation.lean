import LineShell.Computer.Sh.Tool.Records.State
import LineShell.Computer.Text.Calendar

/-!
# What expressions come to

Expressions are evaluated from the left to the right.  What is assigned is found before the value
that it gets.
-/

namespace LineShell.Sh.Tool.Records

open Calendar

namespace Run

/-- What can be assigned. -/
inductive Target where
  | global (n : Nat)
  | parameter (n : Nat)
  | field (n : Int)
  | entry (table : Nat) (key : Key)

/-- The value of something that can be assigned. -/
def valueAt : Target → Run Value
  | .global n => globalAt n
  | .parameter n => do
    match (← get).frame.getD n default with
    | .value v => return v
    | .table _ => return .unset
  | .field n => fieldAt n
  | .entry table key => do
    return (← withTable table (Table.find true key)).getD .unset

/-- Assigns a value. -/
def setAt (target : Target) (v : Value) : Run Unit :=
  match target with
  | .global n => setGlobal n v
  | .parameter n => modify fun s => { s with frame := s.frame.setIfInBounds n (.value v) }
  | .field n => setField n v
  | .entry table key => alterTable table (Table.set key v)

/-- The remainder of a division whose quotient is an integer, rounded toward zero. -/
def remainder (x y : Float) : Float :=
  match Binary.ofFloat x, Binary.ofFloat y with
  | .finite negative m e, .finite _ n f =>
    if n = 0 then 0.0 / 0.0
    else
      let least := min e f
      let m := (scaled 2 m 1 (e - least)).1
      let n := (scaled 2 n 1 (f - least)).1
      (Binary.finite negative (m % n) least).toFloat
  | .finite .., .infinite _ => x
  | _, _ => 0.0 / 0.0

/-- What is calculated from two numbers. -/
def calculate (c : Calculation) (x y : Float) : Float :=
  match c with
  | .add => x + y
  | .subtract => x - y
  | .multiply => x * y
  | .divide => x / y
  | .remainder => remainder x y
  | .power => Float.pow x y

/-- Values in an order are related. -/
def related (r : Relation) (o : Ordering) : Bool :=
  match r with
  | .less => o == .lt
  | .atMost => o != .gt
  | .equal => o == .eq
  | .unequal => o != .eq
  | .greater => o == .gt
  | .atLeast => o != .lt

/-- The integer that is nearest to a number, of two equally near ones the even one. -/
def rounded (x : Float) : Int :=
  match Binary.ofFloat x with
  | .finite negative m e =>
    let n : Int := nearestScaled 2 m 1 e
    if negative then -n else n
  | .infinite negative => if negative then leastInteger else greatestInteger
  | .undefined _ => leastInteger

/-- The part of a text that begins at a place, counted from one, and has a length. -/
def partAt (t : Text) (place : Float) (length : Option Float) : Text :=
  let first := max (rounded place) 1
  let last : Int :=
    match length with
    | none => t.length + 1
    | some n => min (rounded (place + n)) (t.length + 1)
  if last ≤ first then [] else (t.drop (first - 1).toNat).take (last - first).toNat

/-- The integers that a text holds between blanks, if it holds nothing else. -/
def integersIn? (t : Text) : Option (List Int) :=
  (words [] t).mapM fun w =>
    let (negative, digits) := splitSign w
    if digits.isEmpty || !digits.all Char.isDigit then none
    else some (if negative then -(digitsValue digits : Int) else digitsValue digits)

/-- The seconds since the beginning of 1970 at a moment that is told by six numbers. -/
def secondsAt (t : Text) : Int :=
  match integersIn? t with
  | some (year :: month :: day :: hour :: minute :: second :: _) =>
    let months := year * 12 + (month - 1)
    let date : Date := ⟨months.fdiv 12, (months.fmod 12).toNat + 1, 1⟩
    (date.number + day - 1) * 86400 + hour * 3600 + minute * 60 + second
  | _ => -1

/-- The present second. -/
def presentSecond : Run Int := do
  return (← ofTask Task.now).fdiv 1000000

/-- What becomes of a format, or what is wrong with it. -/
def formattedText (name : String) (prints : Text → Run Unit) (arguments : List Value) : Run Text := do
  let pattern ← textOf (arguments.headD .unset)
  let format ← numberFormat
  let (t, fault) := formatted (Value.toText format) pattern arguments.tail
  let told := (name ++ "(\"").toList ++ pattern ++ "\")".toList
  match fault with
  | none => return t
  | some .tooFewArguments =>
    prints t
    fail ("not enough arguments passed to ".toList ++ told)
  | some (.improper n) =>
    prints t
    fail ("improper conversion(number ".toList ++ numeral n ++ ") in ".toList ++ told)

/-- What a built-in function gives for some arguments. -/
def apply (f : Builtin) (arguments : List Value) : Run Value := do
  let first := arguments.headD .unset
  let x := first.toNumber
  match f with
  | .length =>
    let t ← if arguments.isEmpty then (do return (← get).record) else textOf first
    return .ofNat t.length
  | .index =>
    let t ← textOf first
    return .ofNat (placeOf (← textOf (arguments.getD 1 .unset)) t)
  | .substr =>
    let t ← textOf first
    return .text (partAt t (arguments.getD 1 .unset).toNumber (arguments[2]?.map Value.toNumber))
  | .sprintf => return .text (← formattedText "sprintf" (fun _ => pure ()) arguments)
  | .sin => return .number x.sin
  | .cos => return .number x.cos
  | .atan2 => return .number (Float.atan2 x (arguments.getD 1 .unset).toNumber)
  | .exp => return .number x.exp
  | .log => return .number x.log
  | .sqrt => return .number x.sqrt
  | .int => return .number (if x < 0.0 then x.ceil else x.floor)
  | .rand =>
    let (n, generator) := (← get).generator.next
    modify fun s => { s with generator }
    return .number ((n >>> 1).toNat.toFloat / 2147483647.0)
  | .srand =>
    let seed ← if arguments.isEmpty then (do return Value.ofInt (← presentSecond)) else pure first
    let before := (← get).seed
    modify fun s => { s with
      seed
      generator := .ofSeed (Floating.integerPart 0 greatestNatural seed.toNumber).toNat }
    return before
  | .close => return .ofInt (← close (← textOf first))
  | .system =>
    let command ← textOf first
    flushAll
    return .ofInt (codeOf (← ofTask ((← get).launcher.awaitShell command)))
  | .fflush =>
    if arguments.isEmpty then
      ofTask flush
      return .number 0.0
    let name ← textOf first
    if standardOutput.contains (String.ofList name) then
      ofTask flush
      return .number 0.0
    let isThere := (← get).outflows.any (·.name = name)
    let outflows ← (← get).outflows.mapM fun o => if o.name = name then flushOutflow o else pure o
    modify fun s => { s with outflows }
    return .number (if isThere then 0.0 else -1.0)
  | .toupper => return .text ((← textOf first).map Char.toUpper)
  | .tolower => return .text ((← textOf first).map Char.toLower)
  | .systime => return .ofInt (← presentSecond)
  | .mktime => return .ofInt (secondsAt (← textOf first))
  | .strftime =>
    let pattern ← if arguments.isEmpty then pure "%c".toList else textOf first
    let second ← match arguments[1]? with
      | some v => pure (integerOf v.toNumber)
      | none => presentSecond
    return .text ((Moment.ofSeconds second 0).written pattern)

/-- How expressions are evaluated and statements are carried out. -/
structure Evaluator where
  value : Expr → Run Value
  perform : Statement → Run Unit

/-- The text of an expression. -/
def Evaluator.text (v : Evaluator) (e : Expr) : Run Text := do
  textOf (← v.value e)

/-- The number of an expression. -/
def Evaluator.number (v : Evaluator) (e : Expr) : Run Float := do
  return (← v.value e).toNumber

/-- An expression holds. -/
def Evaluator.holds (v : Evaluator) (e : Expr) : Run Bool := do
  return (← v.value e).holds

/-- The key to which subscripts come. -/
def Evaluator.key (v : Evaluator) (subscripts : List Expr) : Run Key := do
  match subscripts with
  | [e] =>
    match ← v.value e with
    | .number x => return .ofValue (← numberFormat) (.number x)
    | .unset => return .text []
    | .text t => return .text t
    | .input t => return .text t
  | es =>
    let texts ← es.mapM v.text
    let separator ← keptText Special.subscriptSeparator
    return .text (texts.intersperse separator).flatten

/-- What an expression describes. -/
def Evaluator.described (v : Evaluator) (e : Expr) : Run Search.Expression := do
  match e with
  | .pattern p => return p
  | e => patternOf (← v.text e)

/-- What an expression names that can be assigned. -/
def Evaluator.target (v : Evaluator) (e : Expr) : Run Target := do
  match e with
  | .named (.global n) => return .global n
  | .named (.parameter n) => return .parameter n
  | .field n => return .field (integerOf (← v.number n))
  | .element table subscripts =>
    let key ← v.key subscripts
    let n ← tableNumber table
    let _ ← withTable n (Table.find true key)
    return .entry n key
  | _ => return .global 0

/-- Takes a record that has been read as the value of a target, or as the record. -/
def Evaluator.take (v : Evaluator) (target : Option Expr) (t : Text) : Run Unit := do
  match target with
  | none =>
    setRecord t
    cutFields
  | some e => setAt (← v.target e) (.input t)

/-- Calls a function. -/
def Evaluator.call (v : Evaluator) (function : Nat) (arguments : List Expr) : Run Value := do
  match (← get).program.functions[function]? with
  | none => return .unset
  | some f =>
    let base := (← get).tables.size
    let mut slots : Array Slot := #[]
    let mut rest := arguments
    for kind in f.parameters do
      match rest, kind with
      | .named l :: es, .table =>
        slots := slots.push (.table (← tableNumber l))
        rest := es
      | e :: es, _ =>
        slots := slots.push (.value (← v.value e))
        rest := es
      | [], .table =>
        let n := (← get).tables.size
        modify fun s => { s with tables := s.tables.push .empty }
        slots := slots.push (.table n)
      | [], _ => slots := slots.push (.value .unset)
    let caller := (← get).frame
    modify fun s => { s with frame := slots }
    let leave : Run Unit :=
      modify fun s => { s with frame := caller, tables := s.tables.extract 0 base }
    try
      v.perform f.body
      leave
      return .unset
    catch
      | .result result => do
        leave
        return result
      | stop => do
        leave
        throw stop

/-- The value of an expression, the parts of which are evaluated as told. -/
def evaluate (v : Evaluator) : Expr → Run Value
  | .number x => return .number x
  | .text t => return .text t
  | .pattern p => do
    return .ofBool (p.search (subjectOf (← get).record) 0).isSome
  | .named (.global n) => globalAt n
  | .named (.parameter n) => valueAt (.parameter n)
  | .field n => do fieldAt (integerOf (← v.number n))
  | .element table subscripts => do
    let key ← v.key subscripts
    let n ← tableNumber table
    return (← withTable n (Table.find true key)).getD .unset
  | .assign target value => do
    let target ← v.target target
    let value ← v.value value
    setAt target value
    return value
  | .update c target value => do
    let target ← v.target target
    let y ← v.number value
    let x := (← valueAt target).toNumber
    let result := Value.number (calculate c x y)
    setAt target result
    return result
  | .step isBefore amount target => do
    let target ← v.target target
    let x := (← valueAt target).toNumber
    setAt target (.number (x + amount))
    return .number (if isBefore then x + amount else x)
  | .both a b => do
    if ← v.holds a then return .ofBool (← v.holds b)
    return .number 0.0
  | .either a b => do
    if ← v.holds a then return .number 1.0
    return .ofBool (← v.holds b)
  | .negation a => do return .ofBool (!(← v.holds a))
  | .opposite a => do return .number (-(← v.number a))
  | .asNumber a => do return .number (← v.number a)
  | .choice condition a b => do
    if ← v.holds condition then v.value a else v.value b
  | .calculation c a b => do
    let x ← v.number a
    return .number (calculate c x (← v.number b))
  | .relation r a b => do
    let x ← v.value a
    let y ← v.value b
    let format ← numberFormat
    return .ofBool (related r (x.compare format y))
  | .joined a b => do
    let s ← v.text a
    return .text (s ++ (← v.text b))
  | .matched isNegated a described => do
    let t ← v.text a
    let p ← v.described described
    return .ofBool ((p.search (subjectOf t) 0).isSome != isNegated)
  | .isElement subscripts table => do
    let key ← v.key subscripts
    let n ← tableNumber table
    return .ofBool (← withTable n (Table.find false key)).isSome
  | .call function arguments => v.call function arguments
  | .builtin f arguments => do apply f (← arguments.mapM v.value)
  | .size location => do
    let value ← match location with
      | .global n => globalAt n
      | .parameter n =>
        match (← get).frame.getD n default with
        | .value value => pure value
        | .table _ => pure .unset
    match value with
    | .unset => do
      let frame := (← get).frame
      let isTable : Bool := match location with
        | .global _ => true
        | .parameter n => frame.getD n default matches .table _
      if ¬ isTable then return .number 0.0
      let n ← tableNumber location
      return .ofNat (← withTable n fun t => (t.entries.size, t))
    | value => return .ofNat (← textOf value).length
  | .position a described => do
    let t ← v.text a
    let p ← v.described described
    let (start, length) : Int × Int :=
      match p.search (subjectOf t) 0 with
      | some found => (found.first + 1, (found.last : Int) - found.first)
      | none => (0, -1)
    keep Special.matchStart (.ofInt start)
    keep Special.matchLength (.ofInt length)
    return .ofInt start
  | .split a table separator => do
    let t ← v.text a
    let separator ← match separator with
      | some (.pattern p) => pure (.pattern p)
      | some e => do separatorOf (← v.text e)
      | none => do separatorOf (← keptText Special.fieldSeparator)
    let found := pieces separator t
    let n ← tableNumber table
    alterTable n fun _ => .ofValues (found.map Value.input)
    return .ofNat found.length
  | .substitute isGlobal described replacement target => do
    let p ← v.described described
    let replacing ← v.text replacement
    let target ← v.target target
    let t ← textOf (← valueAt target)
    let (t, n) := substituted p isGlobal replacing t
    if n ≠ 0 then setAt target (.text t)
    return .ofNat n
  | .read target => do
    match ← nextRecord? mostArguments with
    | some t =>
      v.take target t
      return .number 1.0
    | none => return .number 0.0
  | .readFile target path => do
    let name ← v.text path
    let (code, t) ← recordOf false name
    if code = 1 then v.take target t
    return .ofInt code
  | .readCommand target command => do
    let name ← v.text command
    let (code, t) ← recordOf true name
    if code = 1 then v.take target t
    return .ofInt code

end Run

end LineShell.Sh.Tool.Records
