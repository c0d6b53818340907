/- Sizes of string storage. -/

set_option autoImplicit false
set_option relaxedAutoImplicit false

namespace AccessorGen

inductive Size where
  /-- As large as the initial value needs. -/
  | fitted
  /-- A fixed number of bytes. -/
  | fixed (bytes : Nat)
  deriving DecidableEq, Repr

def Size.maxBytes : Nat := Nat.pow 2 64 - 1

end AccessorGen
