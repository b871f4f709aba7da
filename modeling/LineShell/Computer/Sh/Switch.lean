import LineShell.Text.Pieces

/-!
# Switches of a process

The command `set` turns switches on and off, by a letter or by a name.  Here are their names and
the two ways to list them.
-/

namespace LineShell.Sh.Switch

/-- The names of the switches, with their letters.  Two of them have none. -/
def table : List (Text × Option Char) :=
  [("errexit".toList, some 'e'), ("noglob".toList, some 'f'), ("ignoreeof".toList, some 'I'),
    ("interactive".toList, some 'i'), ("monitor".toList, some 'm'), ("noexec".toList, some 'n'),
    ("stdin".toList, some 's'), ("xtrace".toList, some 'x'), ("verbose".toList, some 'v'),
    ("vi".toList, some 'V'), ("emacs".toList, some 'E'), ("noclobber".toList, some 'C'),
    ("allexport".toList, some 'a'), ("notify".toList, some 'b'), ("nounset".toList, some 'u'),
    ("privileged".toList, some 'p'), ("nolog".toList, none), ("debug".toList, none)]

/-- The letters of the switches. -/
def letters : Text := table.filterMap Prod.snd

/-- The letters that are on after some are turned on or off, in the order of the table. -/
def turned (on : Bool) (changed old : Text) : Text :=
  letters.filter fun c => if changed.contains c then on else old.contains c

/-- Each switch with its state, for a reader. -/
def overview (isOn : Text) : Text :=
  "Current option settings\n".toList ++ table.flatMap fun (name, letter) =>
    name ++ List.replicate (16 - name.length) ' ' ++
      (if letter.any isOn.contains then "on\n" else "off\n").toList

/-- The commands that bring the switches to their state. -/
def commands (isOn : Text) : Text :=
  table.flatMap fun (name, letter) =>
    (if letter.any isOn.contains then "set -o " else "set +o ").toList ++ name ++ ['\n']

/-- The names of the switches of the extended language, with their letters.  Some have none. -/
def extendedTable : List (Text × Option Char) :=
  [("allexport".toList, some 'a'), ("braceexpand".toList, some 'B'), ("emacs".toList, none),
    ("errexit".toList, some 'e'), ("errtrace".toList, some 'E'), ("functrace".toList, some 'T'),
    ("hashall".toList, some 'h'), ("histexpand".toList, some 'H'), ("history".toList, none),
    ("ignoreeof".toList, none), ("interactive-comments".toList, none),
    ("keyword".toList, some 'k'), ("monitor".toList, some 'm'), ("noclobber".toList, some 'C'),
    ("noexec".toList, some 'n'), ("noglob".toList, some 'f'), ("nolog".toList, none),
    ("notify".toList, some 'b'), ("nounset".toList, some 'u'), ("onecmd".toList, some 't'),
    ("physical".toList, some 'P'), ("pipefail".toList, none), ("posix".toList, none),
    ("privileged".toList, some 'p'), ("verbose".toList, some 'v'), ("vi".toList, none),
    ("xtrace".toList, some 'x')]

/-- The letters of the switches of the extended language, in the order in which they are told. -/
def extendedLetters : Text := "abefhkmnptuvxBCEHPT".toList

/-- The settings that a process of the extended language has besides its switches, and whether they
are on at first. -/
def settings : List (Text × Bool) :=
  let usual : List String := ["checkwinsize", "cmdhist", "complete_fullquote", "extquote",
    "force_fignore", "globasciiranges", "globskipdots", "hostcomplete", "interactive_comments",
    "patsub_replacement", "progcomp", "promptvars", "sourcepath"]
  (["autocd", "assoc_expand_once", "cdable_vars", "cdspell", "checkhash", "checkjobs",
    "checkwinsize", "cmdhist", "compat31", "compat32", "compat40", "compat41", "compat42",
    "compat43", "compat44", "complete_fullquote", "direxpand", "dirspell", "dotglob", "execfail",
    "expand_aliases", "extdebug", "extglob", "extquote", "failglob", "force_fignore",
    "globasciiranges", "globskipdots", "globstar", "gnu_errfmt", "histappend", "histreedit",
    "histverify", "hostcomplete", "huponexit", "inherit_errexit", "interactive_comments",
    "lastpipe", "lithist", "localvar_inherit", "localvar_unset", "login_shell", "mailwarn",
    "no_empty_cmd_completion", "nocaseglob", "nocasematch", "noexpand_translation", "nullglob",
    "patsub_replacement", "progcomp", "progcomp_alias", "promptvars", "restricted_shell",
    "shift_verbose", "sourcepath", "varredir_close", "xpg_echo"] : List String).map fun name =>
      (name.toList, usual.contains name)

/-- The names of what is on at first besides switches with letters. -/
def usualSettings : List Text :=
  "interactive-comments".toList :: (settings.filter (·.2)).map Prod.fst

/-- A line about a switch or a setting and its state. -/
def row (name : Text) (isOn : Bool) : Text :=
  name ++ List.replicate (15 - name.length) ' ' ++ (if isOn then "\ton\n" else "\toff\n").toList

end LineShell.Sh.Switch
