import LineShell.Computer.Text.Integer
import LineShell.Computer.Text.Raw

/-!
# Quotation marks of the extended language

Texts after a dollar sign in single quotes, in which a backslash begins an escape, and texts that are
put in quotes so that they can be read again.
-/

namespace LineShell.Sh.Quotation

/-- The number that digits at the beginning of a text denote, at most as many as given, and what
follows them; nothing if there are none. -/
def number? (base limit : Nat) (t : Text) : Option (Nat × Text) :=
  let isDigit (c : Char) : Bool :=
    if base = 8 then '0' ≤ c && c ≤ '7'
    else c.isDigit || ('a' ≤ c && c ≤ 'f') || ('A' ≤ c && c ≤ 'F')
  let digits := (t.take limit).takeWhile isDigit
  if digits.isEmpty then none else some (digitsIn base digits, t.drop digits.length)

/-- The raw text of a character by its number. -/
def character (n : Nat) : Text :=
  Raw.ofText [Char.ofNat n]

/-- What an escape stands for after its backslash, and what follows it.  An unknown one stands for
itself. -/
def escape : Text → Text × Text
  | [] => (['\\'], [])
  | c :: t =>
    let numbered (base limit : Nat) (source : Text) (make : Nat → Text) : Text × Text :=
      match number? base limit source with
      | some (n, rest) => (make n, rest)
      | none => (['\\', c], t)
    let byte (n : Nat) : Text := [Char.ofNat (n % 256)]
    match c with
    | 'a' => (['\x07'], t)
    | 'b' => (['\x08'], t)
    | 'e' => (['\x1b'], t)
    | 'E' => (['\x1b'], t)
    | 'f' => (['\x0c'], t)
    | 'n' => (['\n'], t)
    | 'r' => (['\x0d'], t)
    | 't' => (['\t'], t)
    | 'v' => (['\x0b'], t)
    | '\\' => (['\\'], t)
    | '\'' => (['\''], t)
    | '"' => (['"'], t)
    | '?' => (['?'], t)
    | 'x' => numbered 16 2 t byte
    | 'u' => numbered 16 4 t character
    | 'U' => numbered 16 8 t character
    | 'c' =>
      match t with
      | [] => (['\\', 'c'], [])
      | d :: rest =>
        if d = '?' then (['\x7f'], rest) else ([Char.ofNat (d.toUpper.toNat % 32)], rest)
    | _ => numbered 8 3 (c :: t) byte

/-- The text up to the quotation mark that ends it, with its escapes carried out, and what follows
it; nothing if it is never closed. -/
def ofEscaped (t : Text) : Option (Text × Text) :=
  (go t.length t).map fun (inside, rest) => (inside.takeWhile (· ≠ '\x00'), rest)
where
  /-- Reads on, in at most as many steps as given. -/
  go : Nat → Text → Option (Text × Text)
    | _, [] => none
    | 0, _ => none
    | _ + 1, '\'' :: rest => some ([], rest)
    | fuel + 1, '\\' :: t =>
      let (found, rest) := escape t
      (go fuel rest).map fun (inside, rest) => (found ++ inside, rest)
    | fuel + 1, c :: t => (go fuel t).map fun (inside, rest) => (c :: inside, rest)

/-- A byte cannot be shown in plain quotes. -/
def isHiddenByte (c : Char) : Bool :=
  c < ' ' || c = '\x7f'

/-- A text has to be shown with escapes: it holds characters that do not show, or bytes that are part
of no character. -/
def needsEscapes (t : Text) : Bool :=
  (Raw.units t).any fun (bytes, c) => c.isNone || bytes.any isHiddenByte

/-- A character within escapes. -/
def escaped (c : Char) : Text :=
  match c with
  | '\x07' => "\\a".toList
  | '\x08' => "\\b".toList
  | '\x1b' => "\\E".toList
  | '\x0c' => "\\f".toList
  | '\n' => "\\n".toList
  | '\x0d' => "\\r".toList
  | '\t' => "\\t".toList
  | '\x0b' => "\\v".toList
  | '\\' => "\\\\".toList
  | '\'' => "\\'".toList
  | c =>
    if isHiddenByte c ∨ '\x80' ≤ c then
      let n := c.toNat
      '\\' :: [n / 64, n / 8 % 8, n % 8].flatMap numeral
    else [c]

/-- A text after a dollar sign in single quotes. -/
def inEscapes (t : Text) : Text :=
  "$'".toList ++ ((Raw.units t).flatMap fun (bytes, c) =>
    if c.isSome ∧ 1 < bytes.length then bytes else bytes.flatMap escaped) ++ ['\'']

/-- A text in single quotes; a single quote is put behind a backslash between two quotations. -/
def inSingle (t : Text) : Text :=
  if t = ['\''] then "\\'".toList
  else
    '\'' :: (t.flatMap fun c => if c = '\'' then "'\\''".toList else [c]) ++ ['\'']

/-- A text in double quotes, in which the characters that have a meaning there follow a backslash. -/
def inDouble (t : Text) : Text :=
  '"' :: (t.flatMap fun c =>
    if ['"', '$', '\x60', '\\'].contains c then ['\\', c] else [c]) ++ ['"']

/-- Characters that have a meaning where a word may stand. -/
def special : Text :=
  " \t\n'\"\\|&;()<>!{}*[]?^$\x60,".toList

/-- A text with a backslash before each character that has a meaning. -/
def inBackslashes (t : Text) : Text :=
  (t.zip (List.range t.length)).flatMap fun (c, i) =>
    let isHome := c = '~' && (i = 0 || ['=', ':'].contains (t.getD (i - 1) ' '))
    let isComment := c = '#' && i = 0
    if special.contains c || isHome || isComment then ['\\', c] else [c]

/-- A text as a word that can be read again. -/
def asWord (t : Text) : Text :=
  if t.isEmpty then "''".toList
  else if needsEscapes t then inEscapes t
  else inBackslashes t

/-- A text in quotes that can be read again. -/
def quoted (t : Text) : Text :=
  if needsEscapes t then inEscapes t else inSingle t

/-- The value of a variable in a declaration that can be read again. -/
def declared (t : Text) : Text :=
  if needsEscapes t then inEscapes t else inDouble t

/-- A text has a meaning of its own where a word may stand, unless it is in quotes. -/
def isSpecial (t : Text) : Bool :=
  t.any (fun c => c ≠ ',' && special.contains c) || t.head? = some '~' || t.head? = some '#'

/-- The value of a variable where it is listed: in quotes if it needs some. -/
def listed (t : Text) : Text :=
  if needsEscapes t then inEscapes t else if isSpecial t then inSingle t else t

/-- A word that is shown before a command is carried out: in quotes if it needs some. -/
def shown (t : Text) : Text :=
  if isSpecial t then inSingle t else if needsEscapes t then inEscapes t else t

end LineShell.Sh.Quotation
