import SourceAudit.FileTree.Basic
import SourceAudit.Json.Display
import SourceAudit.Text.Encode
import SourceAudit.Text.Lines

/-!
# The files of a manifest

A manifest says by a path which file is meant: by a text, or by the number of a descriptor that the
program was started with. The files at paths stay as they are while a manifest is answered. Descriptors do
not: reading one takes what its stream has left, also from the other descriptors of the stream, and
closes it. So what a number gives depends on the numbers that were read before it.
-/

namespace SourceAudit.Manifest

/-- What reads the file at a path, which the system sees as bytes. It is a function: the files stay
as they are while a manifest is answered. -/
abbrev Reader := List UInt8 → Except FileError (List UInt8)

/-- What a stream gives to a reader: the bytes that are left in it, or an error. A directory can be
open, but is refused as soon as it is to be read. -/
inductive Stream
  | bytes (left : List UInt8)
  /-- A stream that is open for writing only, or one that fails. -/
  | unreadable (error : FileError)
  | directory
  deriving DecidableEq

/-- A stream that has been read to its end. -/
def Stream.drained : Stream → Stream
  | .bytes _ => .bytes []
  | stream => stream

/-- An open stream, and the descriptors that refer to it. Several can, as after a duplication; then
one reader takes the bytes from all of them. -/
structure OpenStream where
  descriptors : List Nat
  stream : Stream
  deriving DecidableEq

/-- What an open stream is once a descriptor has been read to its end and closed. A stream that the
descriptor does not refer to stays as it is. -/
def OpenStream.readThrough (entry : OpenStream) (descriptor : Nat) : OpenStream :=
  if entry.descriptors.contains descriptor then
    ⟨entry.descriptors.filter (· != descriptor), entry.stream.drained⟩
  else entry

/-- The open streams of the program. A descriptor refers to one stream at most; one that is in none
of them is closed. -/
abbrev OpenStreams := List OpenStream

namespace OpenStreams

/-- The stream of a descriptor. -/
def stream? (streams : OpenStreams) (descriptor : Nat) : Option Stream :=
  (streams.find? (·.descriptors.contains descriptor)).map (·.stream)

/-- Whether a descriptor is open. -/
def isOpen (streams : OpenStreams) (descriptor : Nat) : Bool :=
  (streams.stream? descriptor).isSome

/-- Read the stream of a descriptor to its end, and close the descriptor. Other descriptors of the
stream stay open, but find nothing left. -/
def exhaust (streams : OpenStreams) (descriptor : Nat) : OpenStreams :=
  streams.map (·.readThrough descriptor)

/-- The streams after an attempt to read a descriptor. A directory is refused before it is read, so that
its descriptor stays open. -/
def after (streams : OpenStreams) (descriptor : Nat) : OpenStreams :=
  match streams.stream? descriptor with
  | none | some .directory => streams
  | some _ => streams.exhaust descriptor

end OpenStreams

/-- The number of the error that a closed descriptor gives, with its wording. -/
def closedDescriptor : FileError := .other 9 "Bad file descriptor"

/-- The descriptor that answers are printed to. -/
def standardOutput : Nat := 1

/-- Why a path value cannot name a file, which stops the work. These errors are raised before the
system is asked, so no record is made of them. -/
inductive PathError
  | notText (path : Json)
  | negative
  | hasNull
  | notEncodable (error : Text.EncodeError)

/-- The wording of an error with a path. -/
def PathError.message : PathError → String
  | .notText path => "expected str, bytes or os.PathLike object, not " ++ path.kindName
  | .negative => "negative file descriptor"
  | .hasNull => "embedded null byte"
  | .notEncodable error => error.message

/-- The text of a file: decoded as UTF-8 with replacement characters, with unified line breaks. So
every file has a text, and a carriage return alone ends a line of it. -/
def fileText (bytes : List UInt8) : String :=
  String.ofList (Text.unifyBreaks (Text.Utf8.decodeLossy bytes))

/-- Why a file has no text, as the answer says it: of a path as it shows, and of the name that the error
itself shows, if it has one. -/
def readMessage (path : LooseText) (named : Option String) : FileError → LooseText
  | .notFound => "File not found: " ++ path
  | .permissionDenied => "Permission denied: " ++ path
  | error =>
    let place := match named with
      | some name => ": " ++ name
      | none => ""
    "Failed to read file: " ++ path ++ " (" ++ error.message ++ place ++ ")"

/-- The text of the file at a path, or why there is none. The path must be one that a system can be
asked for; anything that the system then refuses is told by a message. -/
def readText (files : Reader) (path : LooseText) : Except PathError (Except LooseText String) :=
  match Text.pathBytes path with
  | .error error => .error (.notEncodable error)
  | .ok bytes =>
    if bytes.contains 0 then .error .hasNull
    else match files bytes with
      | .ok bytes => .ok (.ok (fileText bytes))
      | .error error =>
        .ok (.error (readMessage path (some (String.ofList (Text.quotePoints path.points))) error))

/-- The text of the stream of a descriptor, or why there is none. The message shows the path value
as it is, and never stops the work. -/
def readDescriptor (streams : OpenStreams) (path : Json) (descriptor : Nat) :
    Except LooseText String :=
  match streams.stream? descriptor with
  | none => .error (readMessage path.display none closedDescriptor)
  | some .directory => .error (readMessage path.display (some path.quoted) .isDirectory)
  | some (.unreadable error) => .error (readMessage path.display none error)
  | some (.bytes left) => .ok (fileText left)

/-- What a path value names: the file at a path, or a descriptor. Which one it is depends on the
kind of the value alone. -/
inductive Place
  | path (name : LooseText)
  | descriptor (number : Nat)

/-- The descriptor that a number stands for. Only numbers of 32 bits do; greater ones are no paths,
and negative ones are refused by an error of their own. -/
def descriptorOf (path : Json) (number : Int) : Except PathError Nat :=
  if number < -0x80000000 ∨ 0x80000000 ≤ number then .error (.notText path)
  else if number < 0 then .error .negative
  else .ok number.toNat

/-- What a path value names. A truth value is a number, so that true is standard output; a
floating-point number is none. -/
def placeOf : Json → Except PathError Place
  | .str name => .ok (.path name)
  | .int number => (descriptorOf (.int number) number).map .descriptor
  | .bool value => .ok (.descriptor (if value then 1 else 0))
  | path => .error (.notText path)

/-- The text of the file that a path value names, or why there is none, and the streams after it. A
file at a path leaves the streams as they are. -/
def readValue (files : Reader) (streams : OpenStreams) (path : Json) :
    Except PathError (Except LooseText String × OpenStreams) :=
  (placeOf path).bind fun
    | .path name => (readText files name).map (·, streams)
    | .descriptor number => .ok (readDescriptor streams path number, streams.after number)

end SourceAudit.Manifest
