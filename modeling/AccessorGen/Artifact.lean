/- Artifacts.
   A generated file starts with a banner that holds the digest of its body. A file on disk is up to
   date when the digest occurs in it. -/

import AccessorGen.Digest.Sha256
import AccessorGen.Text.Split

set_option autoImplicit false
set_option relaxedAutoImplicit false

namespace AccessorGen

structure Artifact where
  /-- Banner and body. -/
  text : String
  /-- The digest of the body. -/
  digest : String
  deriving DecidableEq, Repr

namespace Artifact

/-- The stars of the banner's frame. -/
def rule : String :=
  String.ofList (List.replicate 77 '*')

def banner (digest : String) : String :=
  "/*" ++ rule ++ "\n" ++
    " * Generated by buildinfo. Do not edit.\n" ++
    " * The digest below is compared on regeneration to skip unchanged files.\n" ++
    " * SHA-256: " ++ digest ++ "\n" ++
    " " ++ rule ++ "*/\n\n"

def stamp (body : String) : Artifact :=
  let digest := Digest.Sha256.hexDigest body
  ⟨banner digest ++ body, digest⟩

def needsWrite (a : Artifact) (existing : Option String) : Bool :=
  match existing with
  | none => true
  | some text => !Text.occursIn a.digest.toList text.toList

end Artifact

end AccessorGen
