import LineShell.Text.Numeral
import LineShell.Text.Pieces
import LineShell.Fault

/-!
# Paths

A place in the file tree is the list of names that lead there from the root.  A path as people
write it is a text: names between slashes, where an empty name and `.` stay where they are and `..`
goes up.  A path that begins with a slash starts at the root, any other one at the current
directory.
-/

namespace LineShell

/-- A place in the file tree: the names that lead to it, from the root on. -/
abbrev Place := List Text

/-- Why a file operation is not carried out. -/
inductive FileFault where
  /-- Nothing has this name. -/
  | missing
  /-- Something has this name already. -/
  | taken
  /-- A file stands where a directory has to. -/
  | notDirectory
  /-- A directory stands where a file has to. -/
  | isDirectory
  /-- The directory still has entries. -/
  | notEmpty
  /-- The file may not be run. -/
  | denied
  /-- Too many links lead to each other. -/
  | tooManyLinks
  /-- A name or the whole path is too long. -/
  | nameTooLong
  /-- The path cannot be meant. -/
  | invalid
  /-- The file is in use. -/
  | busy
  /-- What is asked for is never allowed. -/
  | notPermitted
  /-- Nothing stands behind a device. -/
  | noDevice
  /-- There is no room left. -/
  | noRoom
  /-- Nobody reads what is written. -/
  | unread
  /-- The descriptor is not open, or not in that way. -/
  | badDescriptor
deriving DecidableEq, Repr

namespace FileFault

/-- The number that the system gives to a fault. -/
def number : FileFault → Int
  | .notPermitted => 1
  | .missing => 2
  | .noDevice => 6
  | .badDescriptor => 9
  | .denied => 13
  | .busy => 16
  | .taken => 17
  | .notDirectory => 20
  | .isDirectory => 21
  | .invalid => 22
  | .noRoom => 28
  | .unread => 32
  | .nameTooLong => 36
  | .notEmpty => 39
  | .tooManyLinks => 40

/-- The text that the system gives to a fault. -/
def message : FileFault → Text
  | .notPermitted => "Operation not permitted".toList
  | .missing => "No such file or directory".toList
  | .noDevice => "No such device or address".toList
  | .badDescriptor => "Bad file descriptor".toList
  | .busy => "Device or resource busy".toList
  | .invalid => "Invalid argument".toList
  | .noRoom => "No space left on device".toList
  | .unread => "Broken pipe".toList
  | .denied => "Permission denied".toList
  | .taken => "File exists".toList
  | .notDirectory => "Not a directory".toList
  | .isDirectory => "Is a directory".toList
  | .nameTooLong => "File name too long".toList
  | .notEmpty => "Directory not empty".toList
  | .tooManyLinks => "Too many levels of symbolic links".toList

/-- The fault as an answer of the system, whose text ends with the number. -/
def toOsError (f : FileFault) : OsError :=
  { number := some f.number
    message := f.message ++ " (os error ".toList ++ signedNumeral f.number ++ [')'] }

end FileFault

/-- The answer to a path that holds a NUL character.  It has no number, because such a path does
not reach the system. -/
def OsError.nulInPath : OsError :=
  { number := none, message := "file name contained an unexpected NUL byte".toList }

namespace Path

/-- The longest path, in bytes. -/
def longest : Nat := 4095

/-- The longest name in a directory, in bytes. -/
def longestName : Nat := 255

/-- The names between the slashes of a path, empty ones included. -/
def names (path : Text) : List Text :=
  pieces '/' path

/-- The path starts at the root. -/
def isAbsolute (path : Text) : Bool :=
  path.head? = some '/'

/-- The path that a place has from the root. -/
def ofPlace (place : Place) : Text :=
  if place = [] then ['/'] else place.flatMap ('/' :: ·)

/-- A path ends with a slash. -/
def isSlashed (path : Text) : Bool :=
  path.getLast? = some '/'

/-- A path without the slashes at its end; of a path that is nothing but slashes one is left. -/
def bare (path : Text) : Text :=
  match path.reverse.dropWhile (· = '/') with
  | [] => path.take 1
  | reversed => reversed.reverse

/-- The last name of a path; a path that is nothing but slashes is its own. -/
def lastName (path : Text) : Text :=
  let bare := bare path
  if bare = ['/'] then bare else (bare.reverse.takeWhile (· ≠ '/')).reverse

/-- The path of an entry of a directory. -/
def join (directory name : Text) : Text :=
  if isSlashed directory then directory ++ name else directory ++ '/' :: name

end Path

end LineShell
