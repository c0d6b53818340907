/- Output paths.
   A path names both output files: its extension, if it is one of a C file, is cut off, and the
   extension of each file is put on. -/

import AccessorGen.Text.Split

set_option autoImplicit false
set_option relaxedAutoImplicit false

namespace AccessorGen.Files.OutputPath

structure Named where
  /-- The parts before the name. -/
  above : List (List Char)
  name : List Char
  deriving DecidableEq, Repr

/-- Whether a part of a path leads nowhere. -/
def isIdle (part : List Char) : Bool :=
  part == [] || part == ['.']

/-- Cuts a path before its last name. Slashes and single dots behind the name do not count, and a
path that ends in two dots has no name. -/
def named? (path : List Char) : Option Named :=
  match (Text.splitOn '/' path).reverse.dropWhile isIdle with
  | [] => none
  | name :: above => if name = ['.', '.'] then none else some ⟨above.reverse, name⟩

/-- Stem and extension of a name. The extension begins behind the last dot, but a dot at the front
begins none. -/
def splitName (name : List Char) : List Char × Option (List Char) :=
  match name.reverse.dropWhile (· != '.') with
  | [] => (name, none)
  | _ :: stem =>
    if stem.isEmpty then (name, none)
    else (stem.reverse, some (name.reverse.takeWhile (· != '.')).reverse)

def extension? (path : List Char) : Option (List Char) := do
  (splitName (← named? path).name).2

/-- A path up to the stem of its name; a path without a name stays. -/
def upToStem (path : List Char) : List Char :=
  match named? path with
  | none => path
  | some named => named.above.flatMap (· ++ ['/']) ++ (splitName named.name).1

def isCExtension (extension : List Char) : Bool :=
  match extension with
  | [c] => c.toLower == 'c' || c.toLower == 'h'
  | _ => false

/-- The path that both output files share: the extension of a C file is cut off, together with what
stands behind the name, and any other extension belongs to the name. As many characters as the
extension has are dropped first, and what is left is cut behind its stem. -/
def base (path : List Char) : List Char :=
  match extension? path with
  | some extension =>
    if isCExtension extension then upToStem (path.take (path.length - extension.length)) else path
  | none => path

def withExtension (base : List Char) (extension : Char) : List Char :=
  base ++ ['.', extension]

/-- The directory in which the file at a path lies; empty for the working directory. -/
def directory (path : List Char) : List Char :=
  match named? path with
  | none => []
  | some ⟨[], _⟩ => []
  | some ⟨first :: rest, _⟩ =>
    let inner := (rest.reverse.dropWhile isIdle).reverse
    if first.isEmpty ∧ inner.isEmpty then ['/'] else Text.joinWith '/' (first :: inner)

end AccessorGen.Files.OutputPath
