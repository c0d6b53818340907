/- Documents.
   A document is a list of entries, each a key with its value. The input is one document or an array
   of documents. -/

import AccessorGen.Fault
import AccessorGen.Json.Tree

set_option autoImplicit false
set_option relaxedAutoImplicit false

namespace AccessorGen

structure Entry where
  key : String
  value : Json.Value
  /-- What stands for a number in the text that it was read from, if there is one. -/
  literal : Option String

abbrev Document := List Entry

namespace Document

/-- The document of an object, with numbers in normal spelling. -/
def ofMembers (members : List (String × Json.Value)) : Document :=
  members.map fun (key, value) => ⟨key, value, none⟩

/-- What stands for a value in a text, if the value is a number. -/
def literal? (source : List Char) : Json.Value → Option String
  | .number _ => some (String.ofList (source.dropWhile Json.isGap))
  | _ => none

/-- The document of the syntax tree of an object, with numbers as written. Every name is read; of
the values, only those that no later member with the same name replaces. -/
def ofTree? (members : List (Json.Member Json.Tree)) : Option Document := do
  let named ← members.mapM fun member => do
    let name ← member.name.text?
    return (name, member.source, member.value)
  (Json.mergeMembers named).mapM fun (key, source, tree) => do
    let value ← tree.value?
    return ⟨key, value, literal? source value⟩

def ofItem (index : Nat) : Json.Tree → Except Fault Document
  | .object members =>
    match ofTree? members with
    | some document => .ok document
    | none => .error .notJson
  | tree =>
    match tree.value? with
    | some value => .error (.notDocument index value.kind)
    | none => .error .notJson

/-- The documents of the items from place `index` on; the first item that is none decides. -/
def ofItems (index : Nat) : List Json.Tree → Except Fault (List Document)
  | [] => .ok []
  | item :: rest => do
    let document ← ofItem index item
    let documents ← ofItems (index + 1) rest
    return document :: documents

def readAll (text : String) : Except Fault (List Document) :=
  match Json.Tree.ofText? text with
  | none => .error .notJson
  | some (.object members) =>
    match ofTree? members with
    | some document => .ok [document]
    | none => .error .notJson
  | some (.array items) => ofItems 0 items
  | some tree =>
    match tree.value? with
    | some value => .error (.notDocuments value.kind)
    | none => .error .notJson

end Document

end AccessorGen
