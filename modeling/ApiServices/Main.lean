import ApiServices.Command.Run

namespace ApiServices

/-!
# The program

Here the requests of a program are answered by the disk of the machine, and
what a command prints is printed.  Nothing is decided here.
-/

namespace Machine

/-- Opened files by their paths. -/
abbrev OpenFiles := List (Text × IO.FS.Handle)

/-- The cause of a failure that the system reports. -/
def causeOf : IO.Error -> DiskError
  | .noFileOrDirectory .. => .notFound
  | .alreadyExists .. => .alreadyExists
  | .inappropriateType _ 20 _ => .notADirectory
  | .inappropriateType _ 21 _ => .isADirectory
  | error => .other error.toString.toList

/-- An action, with its failure as a reply. -/
def replying {α : Type} (action : IO α) : IO (Except DiskError α) := do
  try
    return .ok (← action)
  catch error =>
    return .error (causeOf error)

/-- Do something with a file that has been opened. -/
def withOpen (files : OpenFiles) (path : Text) (use : IO.FS.Handle -> IO Unit) : IO Unit :=
  match files.lookup path with
  | some handle => use handle
  | none => throw (IO.userError "the file has not been opened")

/-- Open a file for reading and writing, made where there is none. -/
def openFile (path : Text) : IO IO.FS.Handle := do
  let _ ← IO.FS.Handle.mk (String.ofList path) .append
  IO.FS.Handle.mk (String.ofList path) .readWrite

/-- Carry out a change: the files that are open then, and whether it succeeded. -/
def carryOut (files : OpenFiles) : Change -> IO (OpenFiles × Except DiskError Unit)
  | .makeDirs path => do
    return (files, ← replying (IO.FS.createDirAll (String.ofList path)))
  | .write path text => do
    return (files, ← replying (IO.FS.writeFile (String.ofList path) (String.ofList text)))
  | .openFile path => do
    match ← replying (openFile path) with
    | .ok handle => return ((path, handle) :: files, .ok ())
    | .error cause => return (files, .error cause)
  | .lock path => do
    return (files, ← replying (withOpen files path fun handle => handle.lock))
  | .truncate path => do
    return (files, ← replying (withOpen files path fun handle => do
      handle.rewind
      handle.truncate))
  | .fill path text => do
    return (files, ← replying (withOpen files path fun handle => do
      handle.putStr (String.ofList text)
      handle.flush))
  | .unlock path => do
    return (files, ← replying (withOpen files path fun handle => handle.unlock))

def isTaken (path : Text) : IO Bool := do
  match ← replying (IO.FS.realPath (String.ofList path)) with
  | .ok _ => return true
  | .error _ => return false

def readText (path : Text) : IO (Except DiskError Text) := do
  match ← replying (IO.FS.readBinFile (String.ofList path)) with
  | .error cause => return .error cause
  | .ok bytes =>
    match String.fromUTF8? bytes with
    | some text => return .ok text.toList
    | none => return .error .notText

/-- Run a program on the machine.  Its records go nowhere. -/
def run {ε α : Type} (files : OpenFiles) : Program ε α -> IO (Except ε α)
  | .done outcome => return outcome
  | .note _ rest => run files rest
  | .ask (.change change) rest => do
    let (files, reply) ← carryOut files change
    run files (rest reply)
  | .ask (.isTaken path) rest => do run files (rest (← isTaken path))
  | .ask (.read path) rest => do run files (rest (← readText path))

/-- Report a failed command. -/
def report (error : CommandError) : IO Unit := do
  IO.eprintln s!"Error: {String.ofList error.message}"
  match error.cause? with
  | some cause => IO.eprintln s!"\nCaused by:\n    {String.ofList cause}"
  | none => pure ()

end Machine
end ApiServices

open ApiServices in
/-- Carry out the command on the command line.  The exit code tells a command
that failed from one that was not understood. -/
def main (words : List String) : IO UInt32 := do
  let environment ← IO.getEnv "SWAGGER_URL"
  let directory := (← IO.currentDir).toString.toList
  match Command.ofWords? (environment.map String.toList) (words.map String.toList) with
  | none =>
    IO.eprintln "usage: psg (generate | validate | inspect | init | --version) [options]"
    return 2
  | some command =>
    match ← Machine.run [] (Command.run directory command) with
    | .ok printed =>
      IO.print (String.ofList printed.out)
      IO.eprint (String.ofList printed.err)
      return 0
    | .error error =>
      Machine.report error
      return 1
