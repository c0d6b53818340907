/- Command line arguments. -/

import AccessorGen.NamingStyle

set_option autoImplicit false
set_option relaxedAutoImplicit false

namespace AccessorGen.Command

structure Arguments where
  input : String
  output : String
  naming : NamingStyle
  /-- Write nothing, and fail if an output file is out of date. -/
  check : Bool
  /-- Print both files instead of writing them. -/
  stdout : Bool
  /-- Print a report on both files. -/
  reportJson : Bool
  deriving DecidableEq, Repr

/-- What a command line asks for. -/
inductive Request where
  | run (arguments : Arguments)
  | help
  /-- A command line that breaks the rules. -/
  | misuse
  deriving DecidableEq, Repr

structure Draft where
  positionals : List String
  naming : Option NamingStyle
  check : Bool
  stdout : Bool
  reportJson : Bool

def naming? (word : String) : Option NamingStyle :=
  if word = "pascal" then some .pascal
  else if word = "snake" then some .snake
  else none

/-- Takes one more path. A path is not empty, and there are no more than two. -/
def Draft.addPath? (d : Draft) (path : String) : Option Draft :=
  if path = "" ∨ 2 ≤ d.positionals.length then none
  else some { d with positionals := d.positionals ++ [path] }

/-- The request of a command line that ends here: two paths, and no printing of the files together
with a check or a report. -/
def Draft.finish (d : Draft) : Request :=
  match d.positionals with
  | [input, output] =>
    if d.stdout ∧ (d.check ∨ d.reportJson) then .misuse
    else
      .run ⟨input, output, d.naming.getD .standard, d.check, d.stdout, d.reportJson⟩
  | _ => .misuse

def Draft.readPaths (d : Draft) : List String → Request
  | [] => d.finish
  | path :: rest =>
    match d.addPath? path with
    | some more => more.readPaths rest
    | none => .misuse

def inlineValue? (option arg : String) : Option String :=
  let front := option.toList ++ ['=']
  if front.isPrefixOf arg.toList then some (String.ofList (arg.toList.drop front.length)) else none

/-- Whether an argument looks like an option. A single hyphen does not. -/
def looksLikeOption (arg : String) : Bool :=
  arg.toList.head? == some '-' && arg != "-"

/-- Whether an argument asks for help: the word, or the letter, which may have more letters behind
it. -/
def asksForHelp (arg : String) : Bool :=
  arg == "--help" || ['-', 'h'].isPrefixOf arg.toList

/-- Reads arguments in order, up to the first that breaks a rule or asks for help. An option or a
flag may stand anywhere, and only once; behind two hyphens there are only paths. -/
def Draft.read (d : Draft) : List String → Request
  | [] => d.finish
  | arg :: rest =>
    if arg = "--" then d.readPaths rest
    else if asksForHelp arg then .help
    else if arg = "--check" then
      if d.check then .misuse else { d with check := true }.read rest
    else if arg = "--stdout" then
      if d.stdout then .misuse else { d with stdout := true }.read rest
    else if arg = "--report-json" then
      if d.reportJson then .misuse else { d with reportJson := true }.read rest
    else if arg = "--naming" then
      match rest with
      | [] => .misuse
      | word :: rest =>
        match d.naming, naming? word with
        | none, some style => { d with naming := some style }.read rest
        | _, _ => .misuse
    else
      match inlineValue? "--naming" arg with
      | some word =>
        match d.naming, naming? word with
        | none, some style => { d with naming := some style }.read rest
        | _, _ => .misuse
      | none =>
        if looksLikeOption arg then .misuse
        else
          match d.addPath? arg with
          | some more => more.read rest
          | none => .misuse

def Request.ofArguments (args : List String) : Request :=
  Draft.read ⟨[], none, false, false, false⟩ args

def helpText : String :=
  "Generate C accessor code (header + source) from a JSON field schema.\n\n" ++
  "Usage: buildinfo [OPTIONS] <INPUT> <OUTPUT>\n\n" ++
  "Arguments:\n" ++
  "  <INPUT>   JSON input: one object or an array of objects\n" ++
  "  <OUTPUT>  Output path without extension (a trailing .c/.h is stripped); " ++
  "writes <output>.c and <output>.h\n\n" ++
  "Options:\n" ++
  "      --naming <NAMING>  [default: pascal] [possible values: pascal, snake]\n" ++
  "      --check            If set, fail if either output is stale; do not write\n" ++
  "      --stdout           Print both files to stdout instead of writing them\n" ++
  "      --report-json      Print a JSON report of the generated files to stdout\n" ++
  "  -h, --help             Print help\n"

end AccessorGen.Command
