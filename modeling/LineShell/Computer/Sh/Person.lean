import LineShell.Text.Utf8

/-!
# Persons and groups

The persons that a system knows from the beginning, and the groups to which they belong.  Everything
is done in the name of the first of them.
-/

namespace LineShell.Sh

/-- Somebody whom the system knows. -/
structure Person where
  name : String
  number : Nat
  /-- The number of the group. -/
  group : Nat
  home : String
deriving DecidableEq, Repr

namespace Person

/-- Everybody whom the system knows. -/
def all : List Person :=
  [⟨"root", 0, 0, "/root"⟩, ⟨"daemon", 1, 1, "/usr/sbin"⟩, ⟨"bin", 2, 2, "/bin"⟩,
    ⟨"sys", 3, 3, "/dev"⟩, ⟨"sync", 4, 65534, "/bin"⟩, ⟨"games", 5, 60, "/usr/games"⟩,
    ⟨"man", 6, 12, "/var/cache/man"⟩, ⟨"lp", 7, 7, "/var/spool/lpd"⟩, ⟨"mail", 8, 8, "/var/mail"⟩,
    ⟨"news", 9, 9, "/var/spool/news"⟩, ⟨"uucp", 10, 10, "/var/spool/uucp"⟩,
    ⟨"proxy", 13, 13, "/bin"⟩, ⟨"www-data", 33, 33, "/var/www"⟩,
    ⟨"backup", 34, 34, "/var/backups"⟩, ⟨"list", 38, 38, "/var/list"⟩,
    ⟨"irc", 39, 39, "/run/ircd"⟩, ⟨"_apt", 42, 65534, "/nonexistent"⟩,
    ⟨"nobody", 65534, 65534, "/nonexistent"⟩]

/-- The groups and their numbers. -/
def groups : List (String × Nat) :=
  [("root", 0), ("daemon", 1), ("bin", 2), ("sys", 3), ("adm", 4), ("tty", 5), ("disk", 6),
    ("lp", 7), ("mail", 8), ("news", 9), ("uucp", 10), ("man", 12), ("proxy", 13), ("kmem", 15),
    ("dialout", 20), ("fax", 21), ("voice", 22), ("cdrom", 24), ("floppy", 25), ("tape", 26),
    ("sudo", 27), ("audio", 29), ("dip", 30), ("www-data", 33), ("backup", 34), ("operator", 37),
    ("list", 38), ("irc", 39), ("src", 40), ("shadow", 42), ("utmp", 43), ("video", 44),
    ("sasl", 45), ("plugdev", 46), ("staff", 50), ("games", 60), ("users", 100),
    ("nogroup", 65534)]

/-- The person with a name. -/
def named? (name : Text) : Option Person :=
  all.find? fun p => p.name.toList = name

/-- The person with a number. -/
def numbered? (n : Nat) : Option Person :=
  all.find? (·.number = n)

/-- The number of the group with a name. -/
def groupNamed? (name : Text) : Option Nat :=
  (groups.find? fun g => g.1.toList = name).map Prod.snd

/-- The name of the group with a number. -/
def groupName? (n : Nat) : Option String :=
  (groups.find? (·.2 = n)).map Prod.fst

/-- The person in whose name everything is done. -/
def user : Person := ⟨"root", 0, 0, "/root"⟩

end Person

end LineShell.Sh

/-! ## Home directories

A tilde at the beginning of a word stands for a home directory: for the one of the user, or for the
one of the person whose name follows it.
-/

namespace LineShell.Sh.Home

/-- The home directory of a person; no name stands for the user, whose own one is given. -/
def directory? (own : Option Text) (name : Text) : Option Text :=
  if name.isEmpty then own else (Person.named? name).map (·.home.toList)

/-- The home directory that a text begins with, and what follows it.  The name ends at a slash, in
the value of a variable also at a colon, or with the text if nothing follows it. -/
def leading? (directory? : Text → Option Text) (endsAtColon isLast : Bool) (t : Text) :
    Option (Text × Text) :=
  match t with
  | '~' :: t =>
    let name := t.takeWhile fun c => !(c = '/' || (endsAtColon && c = ':'))
    let rest := t.drop name.length
    if rest.isEmpty && !isLast then none else (directory? name).map (·, rest)
  | _ => none

end LineShell.Sh.Home
