import BlockMarkup.CommandLine.Run

/-!
# The program

Reads the files that the arguments name, carries out the request and leaves its outcome.
-/

namespace BlockMarkup.CommandLine

/-- The number of an error, which some calls report negated. -/
def errorNumber (code : UInt32) : UInt32 := if code < 0x80000000 then code else 0 - code

def readErrorOf (e : IO.Error) : ReadError :=
  match e with
  | .noFileOrDirectory _ _ _ => .notFound
  | .inappropriateType _ code _ =>
    if errorNumber code = 21 then .isDirectory
    else if errorNumber code = 20 then .notDirectory
    else .refused (toString e)
  | e => .refused (toString e)

def readResult (path : String) : IO (Except ReadError ByteArray) := do
  try
    return .ok (← IO.FS.readBinFile path)
  catch e =>
    return .error (readErrorOf e)

/-- The files that a job may read, with what reading each of them gives. -/
def readFiles (paths : List String) : IO Files := do
  return .ofResults (← paths.mapM fun path => do return (path, ← readResult path))

partial def readAll (input : IO.FS.Stream) (done : ByteArray) : IO ByteArray := do
  let chunk ← input.read 65536
  if chunk.isEmpty then return done
  readAll input (done ++ chunk)

def perform (request : Request) : IO Outcome := do
  match request with
  | .run job =>
    let files ← readFiles job.paths
    let input ← if job.readsInput then readAll (← IO.getStdin) .empty else pure .empty
    return request.outcome files input
  | _ => return request.outcome (.ofResults []) .empty

end BlockMarkup.CommandLine

def main (args : List String) : IO UInt32 := do
  let outcome ← BlockMarkup.CommandLine.perform (.ofArguments args)
  (← IO.getStdout).putStr outcome.output
  (← IO.getStderr).putStr outcome.errors
  return outcome.exitCode.toUInt32
