/- The command line program.
   Files and the clock of the machine behind a run. -/

import AccessorGen.Command.Run
import AccessorGen.Revision

set_option autoImplicit false
set_option relaxedAutoImplicit false

namespace AccessorGen.Main

open Files (FileError MonadFiles)

/-- The number of a system error, which some operations report negated. -/
def errorNumber (code : UInt32) : UInt32 :=
  if code < 4096 then code else 0 - code

def causeOf : IO.Error → FileError
  | .noFileOrDirectory _ _ _ => .notFound
  | .permissionDenied _ _ _ => .permissionDenied
  | .alreadyExists _ _ _ => .alreadyExists
  | .inappropriateType _ code details =>
    if errorNumber code = 20 then .notDirectory
    else if errorNumber code = 21 then .isDirectory
    else .other details
  | .invalidArgument _ code details =>
    if errorNumber code = 36 then .nameTooLong else .other details
  | error => .other (toString error)

/-- Carries out a file operation and turns a system error into its cause. -/
def attempt {α : Type} (action : IO α) : IO (Except FileError α) := do
  try
    return .ok (← action)
  catch error =>
    return .error (causeOf error)

instance machineFiles : MonadFiles IO where
  read path := attempt (IO.FS.readBinFile path)
  makeDirectories path := attempt (IO.FS.createDirAll path)
  write path bytes := attempt (IO.FS.writeBinFile path bytes)

/-- The present instant, which a file that is made now bears, in UTC. -/
def now : IO (Except (List String) LocalTime) := do
  try
    let (_, path) ← IO.FS.createTempFile
    let data ← path.metadata
    IO.FS.removeFile path
    return .ok ⟨data.modified.sec, 0⟩
  catch error =>
    return .error ["read the clock", toString error]

/-- The services of the machine. No other program is started here, so the version control program
counts as missing. -/
def services : IO Services := do
  return {
    revision := fun repository => Revision.ofAnswer repository (.error .notFound)
    clock := ← now }

end AccessorGen.Main

def main (args : List String) : IO UInt32 := do
  let ending ← AccessorGen.Command.runLine (← AccessorGen.Main.services) args
  IO.print ending.stdout
  unless ending.stderr.isEmpty do
    IO.eprintln ending.stderr
  return ending.code.toUInt32
