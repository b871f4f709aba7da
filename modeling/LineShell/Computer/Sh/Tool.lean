import LineShell.Computer.Sh.Tool.Arguments
import LineShell.Computer.Sh.Tool.Blocks
import LineShell.Computer.Sh.Tool.Checking
import LineShell.Computer.Sh.Tool.Changes
import LineShell.Computer.Sh.Tool.Columns
import LineShell.Computer.Sh.Tool.Comparison
import LineShell.Computer.Sh.Tool.Copying
import LineShell.Computer.Sh.Tool.Count
import LineShell.Computer.Sh.Tool.Dates
import LineShell.Computer.Sh.Tool.Difference
import LineShell.Computer.Sh.Tool.Digests
import LineShell.Computer.Sh.Tool.Dump
import LineShell.Computer.Sh.Tool.Editing
import LineShell.Computer.Sh.Tool.Encoding
import LineShell.Computer.Sh.Tool.Ends
import LineShell.Computer.Sh.Tool.Evaluate
import LineShell.Computer.Sh.Tool.Filling
import LineShell.Computer.Sh.Tool.Finding
import LineShell.Computer.Sh.Tool.Footprint
import LineShell.Computer.Sh.Tool.Identity
import LineShell.Computer.Sh.Tool.Launch
import LineShell.Computer.Sh.Tool.Listing
import LineShell.Computer.Sh.Tool.Making
import LineShell.Computer.Sh.Tool.Numbers
import LineShell.Computer.Sh.Tool.Owning
import LineShell.Computer.Sh.Tool.Precedence
import LineShell.Computer.Sh.Tool.Printing
import LineShell.Computer.Sh.Tool.Records
import LineShell.Computer.Sh.Tool.Removing
import LineShell.Computer.Sh.Tool.Rescaling
import LineShell.Computer.Sh.Tool.Searching
import LineShell.Computer.Sh.Tool.Sections
import LineShell.Computer.Sh.Tool.Selection
import LineShell.Computer.Sh.Tool.Shuffling
import LineShell.Computer.Sh.Tool.Sorting
import LineShell.Computer.Sh.Tool.Splitting
import LineShell.Computer.Sh.Tool.Translate

/-!
# The tools of the system

The programs that scripts may run, by name.
-/

namespace LineShell.Sh.Tool

/-- Tools by their names. -/
abbrev Table := List (String × (List Text → Task Int))

/-- The tools that show texts. -/
def showing : Table :=
  [("cat", catUsage.call cat), ("tee", teeUsage.call tee), ("tac", tacUsage.call tac),
    ("yes", (Usage.free []).call yes), ("rev", (Usage.free []).call rev),
    ("head", head), ("tail", tail), ("nl", nlUsage.call nl), ("wc", wcUsage.call wc)]

/-- The tools that alter texts. -/
def altering : Table :=
  [("cut", cutUsage.call cut), ("paste", pasteUsage.call paste), ("fold", fold), ("fmt", fmt),
    ("expand", expand), ("unexpand", unexpand), ("tr", trUsage.call tr), ("sort", sort),
    ("uniq", uniq), ("comm", commUsage.call comm), ("join", joinUsage.call join),
    ("cmp", cmp), ("diff", diff), ("tsort", (Usage.free []).call tsort),
    ("shuf", Shuffling.usage.call shuf), ("csplit", Sections.usage.call csplit)]

/-- The tools that search texts.  Some are others with an option. -/
def searching : Table :=
  let withOption (option : String) (arguments : List Text) : Task Int := do
    Task.modifyProcess fun p => { p with name := "grep".toList }
    grep (option.toList :: arguments)
  [("grep", grep), ("egrep", withOption "-E"), ("fgrep", withOption "-F"),
    ("rgrep", withOption "-r")]

/-- The tools that write bytes in other ways. -/
def encoding : Table :=
  [("base64", (Usage.free encodingForms).call (encodeIn .base64)),
    ("base32", (Usage.free encodingForms).call (encodeIn .base32)), ("basenc", basenc), ("od", od)]

/-- The tools that print sums and digests. -/
def summing : Table :=
  [("md5sum", digests "md5"), ("sha1sum", digests "sha1"), ("sha224sum", digests "sha224"),
    ("sha256sum", digests "sha256"), ("sha384sum", digests "sha384"),
    ("sha512sum", digests "sha512"), ("b2sum", blakeDigests), ("sum", sum), ("cksum", cksum)]

/-- The tools that deal with numbers. -/
def counting : Table :=
  [("expr", expr), ("seq", seq), ("factor", (Usage.free []).call factor),
    ("numfmt", Rescaling.usage.call numfmt)]

/-- The tools that deal with names. -/
def naming : Table :=
  [("basename", basenameUsage.call basename), ("dirname", (Usage.free []).call dirname),
    ("pwd", (Usage.free []).call pwd), ("readlink", readlinkUsage.call readlink),
    ("realpath", realpathUsage.call realpath), ("printenv", printenvUsage.call printenv),
    ("which", which)]

/-- The tools that deal with files. -/
def filing : Table :=
  [("mkdir", mkdirUsage.call mkdir), ("mkfifo", mkfifoUsage.call mkfifo),
    ("touch", touchUsage.call touch), ("truncate", truncateUsage.call truncate),
    ("chmod", chmod), ("mktemp", mktempUsage.call mktemp), ("rm", rmUsage.call rm),
    ("rmdir", rmdirUsage.call rmdir), ("unlink", (Usage.free []).call unlink),
    ("cp", cpUsage.call cp), ("mv", mvUsage.call mv), ("ln", lnUsage.call ln),
    ("link", (Usage.free []).call link), ("install", installUsage.call install),
    ("chown", Owning.usage.call chown), ("chgrp", Owning.usage.call chgrp),
    ("ls", lsUsage.call ls), ("dir", lsUsage.call fun given => ls (("C", []) :: ("b", []) :: given)),
    ("vdir", lsUsage.call fun given => ls (("l", []) :: ("b", []) :: given)),
    ("stat", statUsage.call stat), ("dd", ddUsage.call dd),
    ("du", Footprint.usage.call du)]

/-- The tools that neither read files nor alter them. -/
def plain : Table :=
  [("true", fun _ => return 0), ("false", fun _ => return 1), ("sleep", (Usage.free []).call sleep),
    ("echo", echo), ("printf", printf), ("test", test), ("[", bracket),
    ("date", Dates.usage.call date)]

/-- The tools that tell who and where one is. -/
def introducing : Table :=
  let plain (action : Given → List Text → Task Int) : List Text → Task Int :=
    (Usage.free []).call action
  [("id", idUsage.call identify), ("whoami", plain whoami), ("logname", plain logname),
    ("groups", plain groups), ("users", plain users), ("who", whoUsage.call who),
    ("tty", ttyUsage.call tty), ("uname", unameUsage.call uname), ("arch", plain arch),
    ("hostid", plain hostid), ("hostname", plain hostname), ("nproc", nprocUsage.call nproc),
    ("sync", syncUsage.call sync)]

/-- The tools that work by themselves. -/
def table : Table :=
  showing ++ altering ++ searching ++ encoding ++ summing ++ counting ++ naming ++ filing ++ plain ++
    introducing

/-- The tools that run other programs. -/
def launching : List (String × (Launcher → List Text → Task Int)) :=
  [("env", env), ("timeout", timeout), ("nice", nice), ("nohup", nohup), ("stdbuf", stdbuf),
    ("sed", sed), ("split", split), ("find", find),
    ("xargs", xargs), ("awk", awk), ("mawk", awk)]

/-- The names of the shell. -/
def shells : List String := ["sh", "dash", "bash"]

/-- The names of all tools. -/
def names : List String :=
  table.map Prod.fst ++ launching.map Prod.fst ++ shells

end LineShell.Sh.Tool
