/-!
# Files

Reading is a function from paths to contents, so that a program can run on the disk as well as on a
directory in memory.
-/

namespace BlockMarkup

inductive ReadError where
  | notFound
  | isDirectory
  | notDirectory
  | notText
  /-- Any other refusal, in the words of the operating system. -/
  | refused (words : String)
  deriving DecidableEq, Repr

def ReadError.message : ReadError → String
  | notFound => "No such file or directory (os error 2)"
  | isDirectory => "Is a directory (os error 21)"
  | notDirectory => "Not a directory (os error 20)"
  | notText => "stream did not contain valid UTF-8"
  | refused words => words

def decodeText (bytes : ByteArray) : Except ReadError String :=
  match String.fromUTF8? bytes with
  | some text => .ok text
  | none => .error .notText

theorem decodeText_toUTF8 (text : String) : decodeText text.toUTF8 = .ok text := by
  have decoded : String.fromUTF8? text.toUTF8 = some text := by
    rw [String.fromUTF8?, dif_pos (show text.toUTF8.IsValidUTF8 from text.isValidUTF8)]
    rfl
  rw [decodeText, decoded]

structure Files where
  read : String → Except ReadError ByteArray

namespace Files

def readText (files : Files) (path : String) : Except ReadError String :=
  match files.read path with
  | .ok bytes => decodeText bytes
  | .error e => .error e

/-- Files of which it is known what reading each of them gives. There are no others. -/
def ofResults (results : List (String × Except ReadError ByteArray)) : Files :=
  ⟨fun path => (results.lookup path).getD (.error .notFound)⟩

end Files

/-- The parts of a path that name something. -/
def pathParts (path : String) : List String :=
  (path.splitOn "/").filter fun part => part != "" && part != "."

/-- A directory in memory: files by name, as deep as the parts of the name. -/
structure Directory where
  entries : List (String × ByteArray)

namespace Directory

def empty : Directory := ⟨[]⟩

def isDirectory (d : Directory) (parts : List String) : Bool :=
  parts.isEmpty ||
    d.entries.any fun e => parts.isPrefixOf (pathParts e.1) && parts != pathParts e.1

/-- Follows the parts of a path from a place in the directory. Every part but the last has to lead
to a directory, and nothing outside is there. -/
def follow (d : Directory) (place : List String) : List String → Except ReadError (List String)
  | [] => .ok place
  | part :: rest =>
    if !d.isDirectory place then
      if d.entries.any fun e => pathParts e.1 == place then .error .notDirectory
      else .error .notFound
    else if part = ".." then
      if place.isEmpty then .error .notFound else d.follow place.dropLast rest
    else d.follow (place ++ [part]) rest

def namesDirectory (path : String) : Bool := path.endsWith "/" || path.endsWith "/."

def read (d : Directory) (path : String) : Except ReadError ByteArray :=
  if path = "" || path.startsWith "/" then .error .notFound
  else
    match d.follow [] (pathParts path) with
    | .error e => .error e
    | .ok place =>
      if d.isDirectory place then .error .isDirectory
      else
        match d.entries.find? fun e => pathParts e.1 == place with
        | some (_, content) =>
          if namesDirectory path then .error .notDirectory else .ok content
        | none => .error .notFound

def files (d : Directory) : Files := ⟨d.read⟩

end Directory

end BlockMarkup
