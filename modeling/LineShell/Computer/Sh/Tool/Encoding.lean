import LineShell.Computer.Sh.Tool.Basic
import LineShell.Computer.Sh.Tool.Size
import LineShell.Computer.Text.Encoding

/-!
# Tools that write bytes in letters

Tools that write their input in the letters of an alphabet, in lines of some length, and that read
such letters.
-/

namespace LineShell.Sh.Tool

/-- The options of tools that write bytes in letters. -/
def encodingForms : List OptionForm :=
  OptionForm.flags [('d', "decode"), ('i', "ignore-garbage")] ++
    OptionForm.valuedFlags [('w', "wrap")]

/-- A text in lines of a length, of which each one ends; read in at most `fuel` lines. -/
def wrapped (size : Nat) : (fuel : Nat) → Text → Text
  | 0, _ => []
  | _, [] => []
  | fuel + 1, t => t.take size ++ '\n' :: wrapped size fuel (t.drop size)

/-- The length of lines that an option asks for; none means that there are none. -/
def wrapSize? (given : Given) : Option (Option Nat) :=
  match given.value? "w" with
  | none => some (some 76)
  | some t =>
    match Amount.ofText "" t with
    | .ok n => some (if n = 0 then none else some n)
    | .error .tooGreat => some none
    | .error .malformed => none

/-- The bytes of the one file that may be named. -/
def soleInput (paths : List Text) : Task (Option (List UInt8)) := do
  match ← bytesOf (paths.headD ['-']) with
  | .ok bytes => return some bytes
  | .error fault =>
    if fault = .isDirectory then complain ("read error: ".toList ++ fault.message)
    else complainAbout (paths.headD []) fault
    return none

/-- Writes bytes in letters, or reads such letters. -/
def encodeWith (encode : List UInt8 → Except Text Text) (isLetter : Char → Bool)
    (decode : Text → List UInt8 × Bool) (given : Given) (paths : List Text) : Task Int := do
  let some size := wrapSize? given
    | do
      complain ("invalid wrap size: ".toList ++ Quoting.word ((given.value? "w").getD []))
      return 1
  if let some extra := paths[1]? then return ← refuseExtra extra
  let some bytes ← soleInput paths | return 1
  if given.has "d" then
    let t := (Raw.ofBytes bytes).filter fun c =>
      c ≠ '\n' && (!given.has "i" || isLetter c || c = Encoding.filler)
    let (found, succeeds) := decode t
    emit found
    if ¬ succeeds then
      complain "invalid input".toList
      return 1
    return 0
  else
    match encode bytes with
    | .error message =>
      complain message
      return 1
    | .ok t =>
      match size with
      | none => print t
      | some n => print (wrapped n t.length t)
      return 0

/-- Writes bytes in the letters of an encoding, or reads such letters. -/
def encodeIn (e : Encoding) : Given → List Text → Task Int :=
  encodeWith (fun bytes => .ok (e.encode bytes)) (fun c => (e.letter? c).isSome) e.decode

namespace Dense

/-- The letters of a dense way to write bytes: five of them stand for four bytes. -/
def alphabet : Text :=
  Encoding.digits ++ Encoding.smalls ++ Encoding.capitals ++
    ".-:+=^!/*?&<>()[]\x7b\x7d@%$#".toList

/-- The letters of a number, as many as given. -/
def letters : (count n : Nat) → Text
  | 0, _ => []
  | count + 1, n => letters count (n / 85) ++ [alphabet.getD (n % 85) ' ']

/-- Bytes in letters, in at most `fuel` groups. -/
def encodeWithin : (fuel : Nat) → List UInt8 → Text
  | 0, _ => []
  | _, [] => []
  | fuel + 1, bytes =>
    letters 5 ((bytes.take 4).foldl (fun n b => n * 256 + b.toNat) 0) ++
      encodeWithin fuel (bytes.drop 4)

/-- Bytes in letters, for which they have to fill whole groups. -/
def encode (bytes : List UInt8) : Except Text Text :=
  if bytes.length % 4 = 0 then .ok (encodeWithin bytes.length bytes)
  else .error "invalid input (length must be multiple of 4 characters)".toList

/-- The bytes of a number, as many as given. -/
def bytesOfNumber : (count n : Nat) → List UInt8
  | 0, _ => []
  | count + 1, n => bytesOfNumber count (n / 256) ++ [UInt8.ofNat (n % 256)]

/-- The bytes that letters stand for, as far as they are read, and whether all of them are. -/
def decodeWithin : (fuel : Nat) → Text → List UInt8 × Bool
  | 0, _ => ([], true)
  | _, [] => ([], true)
  | fuel + 1, t =>
    match (t.take 5).mapM fun c => alphabet.findIdx? (· = c) with
    | none => ([], false)
    | some ds =>
      let n := ds.foldl (fun n d => n * 85 + d) 0
      if ds.length < 5 ∨ 0x100000000 ≤ n then ([], false)
      else
        let (more, succeeds) := decodeWithin fuel (t.drop 5)
        (bytesOfNumber 4 n ++ more, succeeds)

end Dense

/-- Writes bytes in letters that an option names, or reads such letters. -/
def basenc : List Text → Task Int :=
  let names := Encoding.named.map Prod.fst ++ ["z85"]
  (Usage.free (encodingForms ++ OptionForm.names names)).call fun given paths => do
    match (given.reverse.find? fun (key, _) => names.contains key).map Prod.fst with
    | none => refuse "missing encoding type".toList 1
    | some name =>
      match Encoding.named.lookup name with
      | some e => encodeIn e given paths
      | none =>
        encodeWith Dense.encode Dense.alphabet.contains
          (fun t => Dense.decodeWithin t.length t) given paths

end LineShell.Sh.Tool
