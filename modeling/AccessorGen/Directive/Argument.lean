/- Directive arguments.
   The kinds of values that directives ask for. -/

import AccessorGen.Fault

set_option autoImplicit false
set_option relaxedAutoImplicit false

namespace AccessorGen.Directive

def string (d : Directive) (value : Json.Value) : Except Fault String :=
  match value with
  | .string s => .ok s
  | _ => .error (.wrongDirectiveKind d .string value.kind)

def boolean (d : Directive) (value : Json.Value) : Except Fault Bool :=
  match value with
  | .bool b => .ok b
  | _ => .error (.wrongDirectiveKind d .boolean value.kind)

/-- The text of an item that has to be a string among strings. -/
def listItem (d : Directive) (item : Json.Value) : Except Fault String :=
  match item with
  | .string s => .ok s
  | _ => .error (.wrongDirectiveKind d .stringList item.kind)

def stringList (d : Directive) (value : Json.Value) : Except Fault (List String) :=
  match value with
  | .array items => items.mapM d.listItem
  | _ => .error (.wrongDirectiveKind d .stringList value.kind)

end AccessorGen.Directive
