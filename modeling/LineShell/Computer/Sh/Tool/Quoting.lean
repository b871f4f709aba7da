import LineShell.Computer.Text.Raw

/-!
# Names in quotes

Tools name files in such a way that the name can be read by a shell again: between single quotes, or
between double ones if it holds a single quote and nothing else that is special there.  Bytes that
do not show are spelled out.  Words that are no names stand between curly quotes.
-/

namespace LineShell.Sh.Quoting

/-- The character shows when it is printed. -/
def isPrinted (c : Char) : Bool :=
  (' ' ≤ c && c ≤ '~') || ('\u00a0' ≤ c && c ≠ '\u2028' && c ≠ '\u2029')

/-- How a byte is spelled that does not show. -/
def spelled (c : Char) : Text :=
  match ("\x07\x08\x0c\n\x0d\t\x0b".toList.zip "abfnrtv".toList).lookup c with
  | some letter => ['\\', letter]
  | none => '\\' :: [c.toNat / 64, c.toNat / 8 % 8, c.toNat % 8].map Nat.digitChar

/-- A piece of a name, as it is written between quotes. -/
inductive Piece where
  /-- It stands for itself. -/
  | shown (t : Text)
  /-- It is spelled out. -/
  | hidden (t : Text)

/-- The pieces of a name. -/
def piecesOf (t : Text) : List Piece :=
  (Raw.units t).map fun (bytes, char) =>
    if char.any isPrinted then .shown bytes else .hidden (bytes.flatMap spelled)

/-- The byte is special to a shell wherever it stands. -/
def isSpecial (c : Char) : Bool :=
  " !\"$&()*;<=>[^\x60|\\?'".toList.contains c

/-- The name has to be quoted so that a shell reads it as it is. -/
def needsQuotes (t : Text) : Bool :=
  t.isEmpty || t.any isSpecial || t = ['{'] || t = ['\x7d'] ||
    (t.head?.any fun c => c = '#' || c = '~') ||
    (piecesOf t).any fun
      | .hidden _ => true
      | .shown _ => false

/-- The name may stand between double quotes: all of its special bytes are blanks and single quotes.
-/
def fitsDoubleQuotes (t : Text) : Bool :=
  let isPlain (c : Char) : Bool :=
    c.isAlphanum || "%+,-./:]_@ '".toList.contains c || '\x7f' < c
  let first := (t.head?.all fun c => isPlain c || c = '#' || c = '~')
  t.contains '\'' && first && t.tail.all isPlain && (piecesOf t).all fun
    | .hidden _ => false
    | .shown _ => true

/-- The pieces of a name between single quotes, where `spelling` says that the last one was spelled
out. -/
def joined : (spelling : Bool) → List Piece → Text
  | _, [] => []
  | false, .hidden t :: rest => "'$'".toList ++ t ++ joined true rest
  | true, .hidden t :: rest => t ++ joined true rest
  | _, .shown ['\''] :: rest => "'\\''".toList ++ joined false rest
  | false, .shown t :: rest => t ++ joined false rest
  | true, .shown t :: rest => "''".toList ++ t ++ joined false rest

/-- A name in quotes. -/
def always (t : Text) : Text :=
  if fitsDoubleQuotes t then '"' :: t ++ ['"'] else '\'' :: joined false (piecesOf t) ++ ['\'']

/-- A name, in quotes if it needs them. -/
def ifNeeded (t : Text) : Text :=
  if needsQuotes t then always t else t

/-- A name, in quotes if it needs them or holds a colon, after which something else follows. -/
def beforeColon (t : Text) : Text :=
  if needsQuotes t || t.contains ':' then always t else t

/-- What opens a word between curly quotes. -/
def opening : Text := Raw.ofText ['\u2018']

/-- What closes a word between curly quotes. -/
def closing : Text := Raw.ofText ['\u2019']

/-- A word between curly quotes. -/
def word (t : Text) : Text :=
  opening ++ (piecesOf t).flatMap (fun
    | .shown ['\\'] => ['\\', '\\']
    | .shown t => if t = closing then '\\' :: t else t
    | .hidden t => t) ++ closing

/-- A name between double quotes, in which it can be told from all others. -/
def double (t : Text) : Text :=
  '"' :: (piecesOf t).flatMap (fun
    | .shown ['\\'] => ['\\', '\\']
    | .shown ['"'] => ['\\', '"']
    | .shown t => t
    | .hidden t => t) ++ ['"']

end LineShell.Sh.Quoting
