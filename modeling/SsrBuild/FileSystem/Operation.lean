import SsrBuild.FileSystem.Basic

/-!
Operations that change files. One that fails leaves the changes that have been made before it
failed.
-/

set_option autoImplicit false

namespace SsrBuild.FileSystem

/-- An operation on files. -/
abbrev Operation := ExceptT FileFault (StateM FileSystem)

namespace Operation

/-- Makes a directory in a directory that exists. -/
def makeDirectory (path : AbsolutePath) : Operation Unit := do
  let files ← get
  let place ← files.locate path
  match files.top.below? place with
  | some _ => throw .alreadyExists
  | none => set (FileSystem.mk (Entry.put .emptyDirectory place files.top))

/-- Fails with the fault unless the path leads to a directory. -/
def failUnlessDirectory (path : AbsolutePath) (fault : FileFault) : Operation Unit := do
  if (← get).isDirectory path then return else throw fault

/-- Makes a directory and the directories above it. The names are given from the last one on. -/
def makeDirectoriesUp : List (List Char) → Operation Unit
  | [] => failUnlessDirectory .top .alreadyExists
  | name :: upwards => do
    let path : AbsolutePath := ⟨(name :: upwards).reverse⟩
    tryCatch (makeDirectory path) fun fault => do
      if fault == .notFound then
        makeDirectoriesUp upwards
        tryCatch (makeDirectory path) (failUnlessDirectory path)
      else failUnlessDirectory path fault

/-- Makes a directory and the directories above it that are missing. -/
def makeDirectories (path : AbsolutePath) : Operation Unit :=
  makeDirectoriesUp path.names.reverse

/-- Writes a file in a directory that exists. -/
def writeFile (path : AbsolutePath) (content : Bytes) : Operation Unit := do
  let files ← get
  let place ← files.locate path
  match files.top.below? place with
  | some (.directory _) => throw .isDirectory
  | _ => set (FileSystem.mk (Entry.put (.file content) place files.top))

/-- Writes a file and makes the directories above it that are missing. -/
def placeFile (path : AbsolutePath) (content : Bytes) : Operation Unit := do
  makeDirectories path.parent
  writeFile path content

/-- Removes a file, or a directory and all that is below it. -/
def remove (path : AbsolutePath) : Operation Unit := do
  let files ← get
  let _ ← files.entry path
  let place ← files.locate path
  set (FileSystem.mk (Entry.remove place files.top))

end Operation

end SsrBuild.FileSystem
