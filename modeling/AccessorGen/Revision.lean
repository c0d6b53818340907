/- Revisions.
   How a repository is asked for its revision, and what the answer of the version control program
   means. -/

import AccessorGen.Files.FileError
import AccessorGen.Text.Blank
import AccessorGen.Text.Utf8

set_option autoImplicit false
set_option relaxedAutoImplicit false

namespace AccessorGen.Revision

def program : String := "git"

def arguments (repository : String) : List String :=
  ["-C", repository, "describe", "--always", "--tags", "--dirty=-D", "--broken=-B"]

structure Ended where
  success : Bool
  output : List UInt8
  errors : List UInt8

/-- The revision that an answer gives, without white space around it, or the causes of the failure,
outermost first. -/
def ofAnswer (repository : String) (answer : Except Files.FileError Ended) :
    Except (List String) String :=
  match answer with
  | .error cause => .error ["run git describe: " ++ repository, cause.message]
  | .ok ended =>
    if ended.success then
      match Text.Utf8.decode ended.output with
      | .ok text => .ok (String.ofList (Text.trim text))
      | .error fault => .error ["decode git describe output as UTF-8", fault.message]
    else
      .error
        ["git describe failed for " ++ repository ++ ":\n" ++
          String.ofList (Text.trimEnd (Text.Utf8.decodeLossy ended.errors))]

end AccessorGen.Revision
