import LineShell.Computer.Digest.Basic
import LineShell.Computer.Digest.Rounds
import LineShell.Computer.Sh.Tool.Basic
import LineShell.Computer.Sh.Tool.Options
import LineShell.Computer.Sh.Tool.Size

/-!
# Tools that tell files apart

Tools that print digests and sums of files, and that check digests which were printed before.
-/

namespace LineShell.Sh.Tool

/-- How a digest is made. -/
structure Algorithm where
  /-- What it is called in front of a digest. -/
  tag : String
  /-- How many bytes a digest has. -/
  size : Nat
  digest : List UInt8 → List UInt8

namespace Algorithm

/-- The digest of any length, with a number of bytes. -/
def blake (size : Nat) : Algorithm :=
  ⟨if size = 64 then "BLAKE2b" else "BLAKE2b-" ++ String.ofList (numeral (8 * size)), size,
    Digest.Blake.digest size⟩

/-- The algorithms, by their names. -/
def named : List (String × Algorithm) :=
  [("md5", ⟨"MD5", 16, Digest.Md5.digest⟩), ("sha1", ⟨"SHA1", 20, Digest.Sha1.digest⟩),
    ("sha224", ⟨"SHA224", 28, Digest.Sha2.digest224⟩),
    ("sha256", ⟨"SHA256", 32, Digest.Sha2.digest256⟩),
    ("sha384", ⟨"SHA384", 48, Digest.Sha2.digest384⟩),
    ("sha512", ⟨"SHA512", 64, Digest.Sha2.digest512⟩), ("blake2b", blake 64)]

/-- The algorithm of a name. -/
def ofName (name : String) : Algorithm :=
  (named.lookup name).getD (blake 64)

end Algorithm

/-- How the tools that print digests take options. -/
def digestUsage (more : List OptionForm) : Usage :=
  .free (OptionForm.flags [('b', "binary"), ('c', "check"), ('t', "text"), ('z', "zero"),
    ('w', "warn")] ++
    OptionForm.names ["tag", "untagged", "quiet", "status", "strict", "ignore-missing"] ++ more)

/-- A name in which backslashes and ends of lines are spelled out, if there are any. -/
def spelledName (path : Text) : Text × Bool :=
  let spelled := path.flatMap fun
    | '\\' => ['\\', '\\']
    | '\n' => ['\\', 'n']
    | '\x0d' => ['\\', 'r']
    | c => [c]
  (spelled, spelled ≠ path)

/-- The name that is spelled out, if it is spelled properly. -/
def unspelledName? : Text → Option Text
  | [] => some []
  | '\\' :: 'n' :: t => (unspelledName? t).map ('\n' :: ·)
  | '\\' :: 'r' :: t => (unspelledName? t).map ('\x0d' :: ·)
  | '\\' :: '\\' :: t => (unspelledName? t).map ('\\' :: ·)
  | '\\' :: _ => none
  | c :: t => (unspelledName? t).map (c :: ·)

/-- How digests are printed. -/
structure DigestStyle where
  isTagged : Bool
  isBinary : Bool
  ending : Char

/-- The line for the digest of a file. -/
def digestLine (style : DigestStyle) (a : Algorithm) (path digest : Text) : Text :=
  let (name, isSpelled) := if style.ending = '\n' then spelledName path else (path, false)
  (if isSpelled then ['\\'] else []) ++
    (if style.isTagged then a.tag.toList ++ " (".toList ++ name ++ ") = ".toList ++ digest
    else digest ++ [' ', if style.isBinary then '*' else ' '] ++ name) ++ [style.ending]

/-- What a line of digests says. -/
structure DigestEntry where
  algorithm : Algorithm
  digest : Text
  path : Text

/-- The part of a line behind a tag, if it begins with one. -/
def afterTag? (a : Algorithm) (t : Text) : Option Text :=
  let tag := a.tag.toList
  if tag.isPrefixOf t then
    match t.drop tag.length with
    | ' ' :: '(' :: rest => some rest
    | '(' :: rest => some rest
    | _ => none
  else none

/-- A text is a digest of an algorithm. -/
def isDigest (a : Algorithm) (t : Text) : Bool :=
  t.length = 2 * a.size && t.all fun c => (digitIn? 16 c).isSome

/-- What a line of digests says, with a tag of one of some algorithms or of one that is known.  In a
short form, one blank is between the digest and the name. -/
def DigestEntry.ofLine? (known : Option Algorithm) (isShort : Option Bool) (line : Text) :
    Option (DigestEntry × Option Bool) := do
  let line := line.dropWhile fun c => c = ' ' || c = '\t'
  let (isSpelled, line) := match line with
    | '\\' :: t => (true, t)
    | t => (false, t)
  let nameOf (t : Text) : Option Text := if isSpelled then unspelledName? t else some t
  let among := match known with
    | some a => [a]
    | none => Algorithm.named.map Prod.snd
  match among.findSome? fun a => (afterTag? a line).map (a, ·) with
  | some (a, rest) =>
    let behind := rest.reverse.takeWhile (· ≠ ')')
    let name := rest.take (rest.length - behind.length - 1)
    guard (behind.length < rest.length)
    let isApart (c : Char) : Bool := c = ' ' || c = '\t'
    match behind.reverse.dropWhile isApart with
    | '=' :: digest =>
      let digest := digest.dropWhile isApart
      guard (isDigest a digest)
      return (⟨a, digest, ← nameOf name⟩, isShort)
    | _ => none
  | none =>
    let a ← known
    let digest := line.take (2 * a.size)
    guard (isDigest a digest)
    match line.drop digest.length with
    | c :: rest =>
      guard (c = ' ' || c = '\t')
      let looksShort := rest.length = 1 || !(rest.head?.any fun c => c = ' ' || c = '*')
      if looksShort then
        guard (isShort ≠ some false)
        return (⟨a, digest, ← nameOf rest⟩, some true)
      else if isShort = some true then return (⟨a, digest, ← nameOf rest⟩, isShort)
      else return (⟨a, digest, ← nameOf rest.tail⟩, some false)
    | [] => none

/-- What has been found while digests were checked. -/
structure CheckedDigests where
  proper : Nat := 0
  improper : Nat := 0
  matched : Nat := 0
  mismatched : Nat := 0
  unreadable : Nat := 0

/-- A number of things that something is wrong with, for a warning. -/
def warnOf (n : Nat) (one several : String) : Task Unit := do
  if n ≠ 0 then
    complain ("WARNING: ".toList ++ numeral n ++ ' ' :: (if n = 1 then one else several).toList)

/-- Checks the digests that a file lists. -/
def checkDigests (given : Given) (known : Option Algorithm) (list : Text) : Task Bool := do
  let shownList := if list = ['-'] then "standard input".toList else list
  let isSilent := given.has "status"
  match ← bytesOf list with
  | .error fault =>
    complainAbout list fault
    return false
  | .ok bytes =>
    let mut found : CheckedDigests := {}
    let mut isShort : Option Bool := none
    let mut number := 0
    for line in lines bytes do
      number := number + 1
      let line := Raw.ofBytes line
      let line := if line.getLast? = some '\x0d' then line.dropLast else line
      if line.head? = some '#' || line.isEmpty then continue
      match DigestEntry.ofLine? known isShort line with
      | none =>
        found := { found with improper := found.improper + 1 }
        if given.has "w" then
          complain (Quoting.beforeColon shownList ++ ": ".toList ++ numeral number ++
            ": improperly formatted ".toList ++ (known.elim "" Algorithm.tag).toList ++
            " checksum line".toList)
      | some (entry, short) =>
        isShort := short
        found := { found with proper := found.proper + 1 }
        let (name, isSpelled) := spelledName entry.path
        let name := if isSpelled then '\\' :: name else name
        match ← bytesOf entry.path with
        | .error fault =>
          if fault = .missing ∧ given.has "ignore-missing" then continue
          complainAbout entry.path fault
          found := { found with unreadable := found.unreadable + 1 }
          if ¬ isSilent then printLine (name ++ ": FAILED open or read".toList)
        | .ok content =>
          let digest := Digest.hexadecimal (entry.algorithm.digest content)
          let isSame := digest = entry.digest.map Char.toLower
          if isSame then found := { found with matched := found.matched + 1 }
          else found := { found with mismatched := found.mismatched + 1 }
          if ¬ isSilent ∧ ¬ (isSame ∧ given.has "quiet") then
            printLine (name ++ (if isSame then ": OK" else ": FAILED").toList)
    if found.proper = 0 then
      complain (Quoting.beforeColon shownList ++
        ": no properly formatted checksum lines found".toList)
    else if ¬ isSilent then
      warnOf found.improper "line is improperly formatted" "lines are improperly formatted"
      warnOf found.unreadable "listed file could not be read" "listed files could not be read"
      warnOf found.mismatched "computed checksum did NOT match" "computed checksums did NOT match"
      if given.has "ignore-missing" ∧ found.matched + found.mismatched = 0 then
        complain (Quoting.beforeColon shownList ++ ": no file was verified".toList)
    return 0 < found.matched && found.mismatched = 0 && found.unreadable = 0 &&
      !(given.has "strict" && found.improper ≠ 0)

/-- The options that count only when digests are checked. -/
def checkingOptions : List (String × String) :=
  [("ignore-missing", "ignore-missing"), ("status", "status"), ("w", "warn"), ("quiet", "quiet"),
    ("strict", "strict")]

/-- What is wrong with the options for digests, if something is. -/
def digestFault? (given : Given) (mayBeText : Bool) : Option Text :=
  let isCheck := given.has "c"
  let order := (given.map Prod.fst).filter fun o => o = "tag" || o = "t" || o = "b"
  if given.has "tag" ∧ order.getLast? = some "t" ∧ mayBeText then
    some "--tag does not support --text mode".toList
  else if given.has "z" ∧ isCheck then
    some "the --zero option is not supported when verifying checksums".toList
  else if given.has "tag" ∧ isCheck then
    some "the --tag option is meaningless when verifying checksums".toList
  else if isCheck ∧ given.hasAny "bt" then
    some "the --binary and --text options are meaningless when verifying checksums".toList
  else if isCheck then none
  else
    (checkingOptions.find? fun (key, _) => given.has key).map fun (_, name) =>
      "the --".toList ++ name.toList ++
        " option is meaningful only when verifying checksums".toList

/-- Prints the digests of files. -/
def printDigests (style : DigestStyle) (a : Algorithm) (shown : List UInt8 → Text)
    (paths : List Text) : Task Int := do
  let mut status : Int := 0
  for path in if paths.isEmpty then [['-']] else paths do
    match ← bytesOf path with
    | .error fault =>
      complainAbout path fault
      status := 1
    | .ok bytes => print (digestLine style a path (shown (a.digest bytes)))
  return status

/-- Prints the digests of files, or checks those that files list. -/
def digestsWith (given : Given) (a : Algorithm) (paths : List Text) : Task Int := do
  if let some fault := digestFault? given true then return ← refuse fault 1
  if given.has "c" then
    let mut status : Int := 0
    for list in if paths.isEmpty then [['-']] else paths do
      if ¬ (← checkDigests given (some a) list) then status := 1
    return status
  let style : DigestStyle := {
    isTagged := given.has "tag"
    isBinary := given.lastOf "bt" = some 'b'
    ending := if given.has "z" then '\x00' else '\n' }
  printDigests style a Digest.hexadecimal paths

/-- Prints digests that are made in the way of a name. -/
def digests (name : String) : List Text → Task Int :=
  (digestUsage []).call fun given paths => digestsWith given (Algorithm.ofName name) paths

/-- The size of a digest in bytes that options ask for, or what is wrong with it. -/
def blakeSize (given : Given) : Except (List Text) Nat :=
  match given.value? "l" with
  | none => .ok 64
  | some t =>
    let about : Text := "invalid length: ".toList ++ Quoting.word t
    match Amount.ofText "" t with
    | .error _ => .error [about]
    | .ok n =>
      if n % 8 ≠ 0 then .error [about, "length is not a multiple of 8".toList]
      else if 512 < n then
        .error [about, "maximum digest length for ".toList ++ Quoting.word "BLAKE2b".toList ++
          " is 512 bits".toList]
      else .ok (if n = 0 then 64 else n / 8)

/-- Prints digests of any length. -/
def blakeDigests : List Text → Task Int :=
  (digestUsage (OptionForm.valuedFlags [('l', "length")])).call fun given paths => do
    match blakeSize given with
    | .error messages =>
      for message in messages do complain message
      return 1
    | .ok size => digestsWith given (.blake size) paths

/-- Prints a sum of files and how large they are. -/
def printSums (named : Bool) (shown : List UInt8 → Text) (paths : List Text) : Task Int := do
  let mut status : Int := 0
  for path in if paths.isEmpty then [['-']] else paths do
    match ← bytesOf path with
    | .error fault =>
      complainAbout path fault
      status := 1
    | .ok bytes => printLine (shown bytes ++ if named then ' ' :: path else [])
  return status

/-- How many blocks of a size it takes to hold bytes. -/
def blocksOf (size : Nat) (bytes : List UInt8) : Nat :=
  (bytes.length + size - 1) / size

/-- The sum that is turned to the right, and the number of blocks. -/
def turnedSumLine (bytes : List UInt8) : Text :=
  let count := numeral (blocksOf 1024 bytes)
  paddedNumeral 5 (Digest.turnedSum bytes) ++ ' ' :: List.replicate (5 - count.length) ' ' ++ count

/-- The sum that is folded, and the number of blocks. -/
def foldedSumLine (bytes : List UInt8) : Text :=
  numeral (Digest.foldedSum bytes) ++ ' ' :: numeral (blocksOf 512 bytes)

/-- The remainder, and the number of bytes. -/
def remainderLine (bytes : List UInt8) : Text :=
  numeral (Digest.remainder bytes) ++ ' ' :: numeral bytes.length

/-- Prints sums of files. -/
def sum : List Text → Task Int :=
  (Usage.free (OptionForm.letters "r" ++ OptionForm.flags [('s', "sysv")])).call fun given paths =>
    printSums (!paths.isEmpty)
      (if given.lastOf "rs" = some 's' then foldedSumLine else turnedSumLine) paths

/-- The ways to make sums and digests, by their names. -/
def sumNames : List String :=
  ["bsd", "sysv", "crc"] ++ Algorithm.named.map Prod.fst ++ ["sm3"]

/-- Prints sums or digests of files in the way that an option names. -/
def cksum : List Text → Task Int :=
  (digestUsage (OptionForm.valuedFlags [('a', "algorithm"), ('l', "length")])).call
    fun given paths => do
  let table := sumNames.map fun name => ([name], name)
  let name ← match Choice.ofGiven given "a" "algorithm" table with
    | .ok name => pure (name.getD "crc")
    | .error message => return ← refuse message 1
  let known := Algorithm.named.lookup name
  if given.has "l" ∧ name ≠ "blake2b" then
    complain "--length is only supported with --algorithm=blake2b".toList
    return 1
  if known.isNone ∧ given.has "a" ∧ given.has "c" then
    complain "--check is not supported with --algorithm=\x7bbsd,sysv,crc\x7d".toList
    return 1
  if let some fault := digestFault? given false then return ← refuse fault 1
  if given.has "c" then
    let mut status : Int := 0
    for list in if paths.isEmpty then [['-']] else paths do
      if ¬ (← checkDigests given known list) then status := 1
    return status
  match known with
  | none =>
    printSums (!paths.isEmpty) (if name = "bsd" then turnedSumLine
      else if name = "sysv" then foldedSumLine else remainderLine) paths
  | some a =>
    match if name = "blake2b" then (blakeSize given).map Algorithm.blake else .ok a with
    | .error messages =>
      for message in messages do complain message
      return 1
    | .ok a =>
      let isTagged := given.reverse.findSome? fun (key, _) =>
        if key = "tag" then some true else if key = "untagged" then some false else none
      let style : DigestStyle := {
        isTagged := isTagged.getD true
        isBinary := given.lastOf "bt" = some 'b'
        ending := if given.has "z" then '\x00' else '\n' }
      printDigests style a Digest.hexadecimal paths

end LineShell.Sh.Tool
