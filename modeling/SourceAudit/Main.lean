import SourceAudit.Manifest

/-!
# The command line

The program reads a manifest from standard input, prints its answer on one line of standard output,
and reports by its exit status whether there was one. The files that the manifest lists are read
before the manifest is answered; a missing file is no obstacle to the others. Of the descriptors that the
program may have been started with, only those of its output are known here; they cannot be read.
-/

namespace SourceAudit.CommandLine

/-- The number of an error of the system, which may come with its sign changed. Read as an unsigned
number it is then far beyond all numbers of errors. -/
def errorNumber (code : UInt32) : Nat :=
  min code.toNat (0x100000000 - code.toNat)

/-- The error of a failed operation of the system. Several errors share a constructor there, so that
the number has to tell them apart. -/
def fileErrorOf : IO.Error → FileError
  | .noFileOrDirectory .. => .notFound
  | .alreadyExists .. => .exists
  | .permissionDenied .. => .permissionDenied
  | .inappropriateType _ code _ => if errorNumber code = 20 then .notDirectory else .isDirectory
  | .invalidArgument _ code text =>
    if errorNumber code = 36 then .nameTooLong else .other (errorNumber code) text
  | error => .other 5 (toString error)

/-- The files that have been read, by their paths. A path may be listed several times; the first
reading counts. -/
abbrev KnownFiles := List (List UInt8 × Except FileError (List UInt8))

/-- Read the files at some paths. Only a path that is text can be asked for; under any other one
there is taken to be no file. -/
def readFiles (paths : List (List UInt8)) : IO KnownFiles :=
  paths.mapM fun path => do
    match Text.Utf8.decode? path with
    | none => return (path, .error .notFound)
    | some text =>
      try
        return (path, .ok (← IO.FS.readBinFile (String.ofList text)).toList)
      catch error =>
        return (path, .error (fileErrorOf error))

/-- A reader that knows the files that have been read. -/
def readerOf (files : KnownFiles) : Manifest.Reader :=
  fun path => ((files.find? (·.1 == path)).map (·.2)).getD (.error .notFound)

/-- The streams of standard output and of standard error. They are open for writing only, so a
manifest that names one gets an error, but it closes the descriptor. -/
def outputStreams : Manifest.OpenStreams :=
  [⟨[1], .unreadable Manifest.closedDescriptor⟩, ⟨[2], .unreadable Manifest.closedDescriptor⟩]

/-- How deep a manifest may be nested. -/
def nestingLimit : Nat := 993

/-- The exit status of a program whose answer could not be printed. It is noticed only when the
program ends and its output is flushed. -/
def unprintedStatus : UInt32 := 120

/-- A number as hexadecimal digits. -/
def hexText (width number : Nat) : String :=
  String.ofList (Text.hexDigits width number)

/-- A random identifier in the form of a UUID of version 4. -/
def randomId : IO String := do
  let first ← IO.rand 0 0xffffffff
  let second ← IO.rand 0 0xffff
  let third ← IO.rand 0x4000 0x4fff
  let fourth ← IO.rand 0x8000 0xbfff
  let fifth ← IO.rand 0 0xffffffffffff
  return "-".intercalate
    [hexText 8 first, hexText 4 second, hexText 4 third, hexText 4 fourth, hexText 12 fifth]

/-- Random identifiers by number. -/
def randomIds (count : Nat) : IO (Nat → String) := do
  let ids ← (List.range count).mapM fun _ => randomId
  return fun index => ids.getD index ""

end SourceAudit.CommandLine

open SourceAudit SourceAudit.CommandLine

/-- Answer the manifest on standard input. -/
def main : IO UInt32 := do
  let text := (← (← IO.getStdin).readToEnd).toList
  let files ← readFiles (Manifest.listedPaths nestingLimit text)
  let system : Manifest.System := ⟨readerOf files, outputStreams, nestingLimit⟩
  match Manifest.answer system text with
  | .error crash =>
    IO.eprintln crash.message
    return 1
  | .ok (answer, streams) =>
    let scanId ← randomIds answer.scanCount
    match answer.output streams scanId with
    | none => return unprintedStatus
    | some output =>
      IO.println output.line
      return output.status.toUInt32
