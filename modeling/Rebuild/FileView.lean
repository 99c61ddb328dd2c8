import Rebuild.Signal
import Rebuild.Text.Quoted
import Rebuild.Text.Utf8

/-!
# What a build sees of the files

A build asks three things of a path: whether something is there, when it was last modified, and what text it holds.
`FileView` is this interface; what holds the files, and how commands change them, is left to its instances.
-/

namespace Rebuild

/-- Why the system refuses an operation on a path. -/
inductive SystemFault where
  | noEntry
  | denied
  | notDirectory
  | isDirectory
  | nameTooLong
  | exists
  | notEmpty
  | notProgram
  | notPermitted
  | badDescriptor
  | noSpace
  | invalid
  | tooManyLinks
  | busy
  /-- Nobody reads what is written. -/
  | brokenPipe
  /-- A file becomes larger than it may be. -/
  | tooLarge
  | nulByte
  | notUtf8
deriving DecidableEq, Repr

namespace SystemFault

/-- The short wording of a system fault. -/
def text : SystemFault → String
  | .noEntry => "No such file or directory"
  | .denied => "Permission denied"
  | .exists => "File exists"
  | .notDirectory => "Not a directory"
  | .isDirectory => "Is a directory"
  | .nameTooLong => "File name too long"
  | .notEmpty => "Directory not empty"
  | .notProgram => "Exec format error"
  | .notPermitted => "Operation not permitted"
  | .badDescriptor => "Bad file descriptor"
  | .noSpace => "No space left on device"
  | .invalid => "Invalid argument"
  | .tooManyLinks => "Too many levels of symbolic links"
  | .busy => "Device or resource busy"
  | .brokenPipe => "Broken pipe"
  | .tooLarge => "File too large"
  | .nulByte => "file name contained an unexpected NUL byte"
  | .notUtf8 => "stream did not contain valid UTF-8"

/-- The number of a system fault, if it has one. -/
def number? : SystemFault → Option Nat
  | .notPermitted => some 1
  | .noEntry => some 2
  | .notProgram => some 8
  | .badDescriptor => some 9
  | .denied => some 13
  | .busy => some 16
  | .exists => some 17
  | .notDirectory => some 20
  | .isDirectory => some 21
  | .invalid => some 22
  | .tooLarge => some 27
  | .noSpace => some 28
  | .brokenPipe => some 32
  | .nameTooLong => some 36
  | .notEmpty => some 39
  | .tooManyLinks => some 40
  | .nulByte | .notUtf8 => none

/-- The signal that a system fault brings to the process, if it does. -/
def signal? : SystemFault → Option Nat
  | .brokenPipe => some Signal.brokenPipe
  | .tooLarge => some Signal.fileSize
  | _ => none

/-- The wording of a system fault, with its number. -/
def message (f : SystemFault) : String :=
  match f.number? with
  | some number => s!"{f.text} (os error {number})"
  | none => f.text

end SystemFault

/-- Why a file cannot be read. -/
inductive FileFault where
  /-- Nothing is at the path. -/
  | absent (path : String)
  /-- The file's bytes are not UTF-8. -/
  | notText (fault : Text.Utf8.Fault)
  /-- The system refuses to read the file. -/
  | unreadable (path : String) (cause : SystemFault)
  /-- The system refuses to tell the time of modification. -/
  | unknownTime (path : String) (cause : SystemFault)
deriving DecidableEq, Repr

/-- The messages of a file fault, from what was attempted to what went wrong. -/
def FileFault.messages : FileFault → List String
  | .absent path => ["File not found: " ++ Text.quote path]
  | .notText fault => ["Invalid UTF-8: " ++ fault.message]
  | .unreadable path cause => ["reading file " ++ Text.quote path, cause.message]
  | .unknownTime path cause => ["reading metadata of " ++ Text.quote path, cause.message]

/-- A moment; a greater one is later. -/
abbrev Time := Nat

/-- Files as a build sees them. -/
class FileView (σ : Type u) where
  /-- Whether something is at a path. -/
  isThere : σ → String → Bool
  /-- When what is at a path was last modified, if anything is there. -/
  modified : σ → String → Except FileFault (Option Time)
  /-- The text of the file at a path. -/
  readText : σ → String → Except FileFault String

end Rebuild
