/- Semantic versions.
   A version is given as `[major, minor, patch, pre_release, build_metadata]`. -/

import AccessorGen.Fault

set_option autoImplicit false
set_option relaxedAutoImplicit false

namespace AccessorGen

/-- A semantic version with components of one byte. -/
structure Version where
  major : Fin 256
  minor : Fin 256
  patch : Fin 256
  preRelease : String
  buildMetadata : String
  deriving DecidableEq, Repr

namespace Version

def byte? : Int → Option (Fin 256)
  | .ofNat n => if h : n < 256 then some ⟨n, h⟩ else none
  | .negSucc _ => none

/-- Reads one component of the version `whole`. Anything but an integer of at most 128 bits is a
wrong shape, and any other integer has to fit a byte. -/
def component (whole : Json.Value) (label : String) (value : Json.Value) :
    Except Fault (Fin 256) :=
  match value with
  | .number n =>
    match n.int? with
    | none => .error (.versionShape whole)
    | some i =>
      if IntDomain.wide.holds i then
        match byte? i with
        | some byte => .ok byte
        | none => .error (.versionRange label n.normal.spelling)
      else .error (.versionShape whole)
  | _ => .error (.versionShape whole)

def ofValue (value : Json.Value) : Except Fault Version :=
  match value with
  | .array [major, minor, patch, .string preRelease, .string buildMetadata] => do
    let major ← component value "major" major
    let minor ← component value "minor" minor
    let patch ← component value "patch" patch
    return ⟨major, minor, patch, preRelease, buildMetadata⟩
  | _ => .error (.versionShape value)

/-- The three components in one number, a byte each. -/
def packed (v : Version) : Nat :=
  v.major * 65536 + v.minor * 256 + v.patch

/-- The packed number as a C constant of six hexadecimal digits. -/
def packedLiteral (v : Version) : String :=
  "0x" ++ String.ofList ((Text.fixedDigits 16 6 v.packed).map Char.toUpper)

/-- The version as a text: the patch is left out when it is zero, and so is each empty suffix. -/
def display (v : Version) : String :=
  toString v.major.val ++ "." ++ toString v.minor.val ++
    (if v.patch.val = 0 then "" else "." ++ toString v.patch.val) ++
    (if v.preRelease = "" then "" else "-" ++ v.preRelease) ++
    (if v.buildMetadata = "" then "" else "+" ++ v.buildMetadata)

end Version

end AccessorGen
