import SsrBuild.Json.Basic

/-!
Compilations: what the hooks of one build share. A compilation has a place for its output, assets
by their names, and values that the plugins leave for each other.
-/

set_option autoImplicit false

namespace SsrBuild

/-- What the hooks of one build share. -/
structure Compilation where
  outputPath : List Char
  assets : Dictionary (List Char)
  metadata : Dictionary Json
  deriving Repr

namespace Compilation

/-- A compilation with nothing in it. -/
def empty : Compilation := ⟨[], [], []⟩

/-- Puts in an asset, in place of the one of that name. -/
def putAsset (compilation : Compilation) (name text : List Char) : Compilation :=
  { compilation with assets := compilation.assets.insert name text }

/-- Adds to the text of an asset, which is empty if it has not been there. -/
def appendAsset (compilation : Compilation) (name text : List Char) : Compilation :=
  compilation.putAsset name ((compilation.assets.get? name).getD [] ++ text)

/-- Takes an asset out. -/
def dropAsset (compilation : Compilation) (name : List Char) : Compilation :=
  { compilation with assets := compilation.assets.erase name }

/-- Leaves a value for other plugins. -/
def putMetadata (compilation : Compilation) (key : List Char) (value : Json) : Compilation :=
  { compilation with metadata := compilation.metadata.insert key value }

end Compilation

end SsrBuild
