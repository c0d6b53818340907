/- A tree of files.
   Directories and files, one of the directories being the working directory, and the path rules of
   the operating system: a path that begins with a slash leads from the topmost directory and any
   other from the working directory, each directory on a path has to exist, one dot is the directory
   itself, and two dots are the one above. The topmost directory lies in itself. -/

import AccessorGen.Files.FileError
import AccessorGen.Text.Split

set_option autoImplicit false
set_option relaxedAutoImplicit false

namespace AccessorGen.Files

inductive Node where
  | file (bytes : ByteArray)
  | directory

/-- A place in the tree: the names from the topmost directory down. -/
abbrev Place := List String

structure FileTree where
  /-- The working directory. It is there, with those above it, without being among the nodes. -/
  home : Place
  nodes : List (Place × Node)

namespace FileTree

/-- The tree that holds nothing but a working directory. -/
def empty (home : Place) : FileTree := ⟨home, []⟩

/-- What a place holds. The working directory and those above it are always there. -/
def node? (tree : FileTree) (place : Place) : Option Node :=
  if place.isPrefixOf tree.home then some .directory else tree.nodes.lookup place

def putNode (place : Place) (node : Node) : List (Place × Node) → List (Place × Node)
  | [] => [(place, node)]
  | (other, old) :: rest =>
    if other = place then (place, node) :: rest else (other, old) :: putNode place node rest

def put (tree : FileTree) (place : Place) (node : Node) : FileTree :=
  { tree with nodes := putNode place node tree.nodes }

/-- Every file below the working directory, by its place from there. -/
def filesBelowHome (tree : FileTree) : List (Place × ByteArray) :=
  tree.nodes.filterMap fun
    | (place, .file bytes) =>
      if tree.home.isPrefixOf place then some (place.drop tree.home.length, bytes) else none
    | (_, .directory) => none

def origin (tree : FileTree) (path : String) : Place :=
  if path.toList.head? = some '/' then [] else tree.home

/-- The steps of a path. A slash at the end is a step into the directory itself. -/
def steps (path : String) : List String :=
  let parts := Text.splitOn '/' path.toList
  let names := (parts.filter fun part => !part.isEmpty).map String.ofList
  if parts.getLast? = some [] then names ++ ["."] else names

def maxNameBytes : Nat := 255

/-- The place that steps lead to. The place itself may be vacant, but not the directories on the
way. -/
def walk (tree : FileTree) : Place → List String → Except FileError Place
  | place, [] => .ok place
  | place, step :: rest =>
    match tree.node? place with
    | none => .error .notFound
    | some (.file _) => .error .notDirectory
    | some .directory =>
      if step = "." then tree.walk place rest
      else if step = ".." then tree.walk place.dropLast rest
      else if maxNameBytes < step.utf8ByteSize then .error .nameTooLong
      else tree.walk (place ++ [step]) rest

def maxPathBytes : Nat := 4095

/-- The place that a path leads to. An empty path leads nowhere, and a path is refused for its
length before any directory on it is looked at. -/
def locate (tree : FileTree) (path : String) : Except FileError Place :=
  if path.isEmpty then .error .notFound
  else if maxPathBytes < path.utf8ByteSize then .error .nameTooLong
  else tree.walk (tree.origin path) (steps path)

def read (tree : FileTree) (path : String) : Except FileError ByteArray := do
  let place ← tree.locate path
  match tree.node? place with
  | none => .error .notFound
  | some .directory => .error .isDirectory
  | some (.file bytes) => .ok bytes

def write (tree : FileTree) (path : String) (bytes : ByteArray) : Except FileError FileTree := do
  let place ← tree.locate path
  match tree.node? place with
  | some .directory => .error .isDirectory
  | _ => .ok (tree.put place (.file bytes))

def isDirectory (tree : FileTree) (start : Place) (names : List String) : Bool :=
  match tree.walk start names with
  | .error _ => false
  | .ok place =>
    match tree.node? place with
    | some .directory => true
    | _ => false

def makeDirectory (tree : FileTree) (start : Place) (names : List String) :
    Except FileError FileTree := do
  let place ← tree.walk start names
  match tree.node? place with
  | none => .ok (tree.put place .directory)
  | some _ => .error .alreadyExists

def ensureDirectory (tree : FileTree) (start : Place) (names : List String) :
    FileTree × Except FileError Unit :=
  match tree.makeDirectory start names with
  | .ok made => (made, .ok ())
  | .error cause => if tree.isDirectory start names then (tree, .ok ()) else (tree, .error cause)

/-- Makes a directory, given by its steps from the last one up, and those above it that are missing.
What has been made stays when a later one cannot be made. -/
def ensureDirectories (tree : FileTree) (start : Place) :
    List String → FileTree × Except FileError Unit
  | [] => (tree, .ok ())
  | last :: above =>
    let names := (last :: above).reverse
    match tree.makeDirectory start names with
    | .error .notFound =>
      match tree.ensureDirectories start above with
      | (made, .ok ()) => made.ensureDirectory start names
      | failed => failed
    | _ => tree.ensureDirectory start names

/-- Makes the directory at a path and those above it that are missing. -/
def makeDirectories (tree : FileTree) (path : String) : FileTree × Except FileError Unit :=
  if maxPathBytes < path.utf8ByteSize then (tree, .error .nameTooLong)
  else tree.ensureDirectories (tree.origin path) ((steps path).filter (· != ".")).reverse

end FileTree

/-- Files in a tree that the program carries along. -/
instance treeFiles : MonadFiles (StateM FileTree) where
  read path := fun tree => (tree.read path, tree)
  makeDirectories path := fun tree =>
    let (made, result) := tree.makeDirectories path
    (result, made)
  write path bytes := fun tree =>
    match tree.write path bytes with
    | .ok written => (.ok (), written)
    | .error cause => (.error cause, tree)

end AccessorGen.Files
