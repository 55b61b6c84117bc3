import EntityMapping.CommandLine.Run

/-! # The program

Runs the generator on the real file system and standard streams.
-/

namespace EntityMapping.CommandLine

open Output (FileFault FileSystem)

def fileFault : IO.Error → FileFault
  | .noFileOrDirectory .. | .noSuchThing .. => .notFound
  | .alreadyExists .. => .alreadyExists
  | .inappropriateType _ 21 _ => .isDirectory
  | .inappropriateType .. => .notDirectory
  | .invalidArgument .. => .zeroInName
  | .resourceExhausted .. => .nameTooLong
  | _ => .notFound

def attempt {α : Type} (action : IO α) : ExceptT FileFault IO α := ExceptT.mk do
  match ← action.toBaseIO with
  | .ok a => return .ok a
  | .error e => return .error (fileFault e)

def fileSystem : FileSystem IO where
  readText path := do
    match String.fromUTF8? (← attempt (IO.FS.readBinFile path)) with
    | some text => return text
    | none => throw .notText
  createDirectories path := attempt (IO.FS.createDirAll path)
  writeText path text := attempt (IO.FS.writeFile path text)

def program (arguments : List String) : IO UInt32 := do
  let env : Environment :=
    { suffix := ← IO.getEnv "EFGEN_SUFFIX"
      relationshipNaming := ← IO.getEnv "EFGEN_RELATIONSHIP_NAMING" }
  let response ← perform fileSystem arguments env
  IO.print response.stdout
  IO.eprint response.stderr
  return UInt32.ofNat response.exitCode

end EntityMapping.CommandLine

def main (arguments : List String) : IO UInt32 := EntityMapping.CommandLine.program arguments
