import Relift.Interchange.Files
import Relift.Tool.Job

/-!
# Rehearsals

Collaborators that follow a given part instead of doing real work: they note
what they see, leave a prepared product, and answer or fail as told.
-/

namespace Relift

/-- What a rehearsed collaborator leaves. -/
inductive Product where
  | nothing
  | content (bytes : Bytes)
  /-- An address file. -/
  | addresses (addresses : List Address)
  | directory

/-- The part of a rehearsed collaborator. -/
structure Part where
  /-- Whether the engine copies its seeds to its result. -/
  echo : Bool
  product : Product
  failure : Option Error
  /-- The path to answer with, if not the requested one. -/
  answer : Option String

namespace Part

variable {σ : Type}

/-- Notes the content of a file. -/
def see (host : Host σ) (label path : String) : Activity σ Note Error Unit := do
  let content ← Activity.inspect fun s => .ok (host.readBytes s path).toOption
  Activity.report (.saw label content)

/-- Writes a file as well as possible. -/
def tryWrite (host : Host σ) (path : String) (content : Bytes) : Activity σ Note Error Unit := do
  let _ ← (Activity.perform (host.writeBytes path content)).settle
  pure ()

/-- Leaves the product at a path. -/
def leave (host : Host σ) (part : Part) (path : String) : Activity σ Note Error Unit :=
  match part.product with
  | .nothing => pure ()
  | .content bytes => tryWrite host path bytes
  | .addresses addresses => AddressFile.write host path addresses
  | .directory => do
    let _ ← (Activity.perform (host.makeDirectories path)).settle
    pure ()

/-- Fails if the part says so, and answers with a path otherwise. -/
def conclude (part : Part) (path : String) : Activity σ Note Error String :=
  match part.failure with
  | some error => Activity.fail error
  | none => pure (part.answer.getD path)

/-- An engine that follows a part. -/
def engine (host : Host σ) (part : Part) : Engine σ where
  name := "scripted-engine"
  recover request := do
    see host "seeds" request.seedsPath
    if part.echo then
      let seeds ← Activity.inspect fun s => .ok (host.readBytes s request.seedsPath).toOption
      tryWrite host request.resultPath (seeds.getD [])
    leave host part request.resultPath
    let _ ← conclude part request.resultPath
    pure ()

/-- A lifter that follows a part. -/
def lifter (host : Host σ) (part : Part) : Lifter σ where
  name := "scripted-lifter"
  lift request := do
    see host "code" request.codePath
    see host "blocks" request.blocksPath
    see host "names" request.namesPath
    leave host part request.irPath
    conclude part request.irPath

/-- A compiler that follows a part. -/
def compiler (host : Host σ) (part : Part) : Compiler σ where
  name := "scripted-recompiler"
  recompile request := do
    see host "ir" request.irPath
    leave host part request.objectPath
    conclude part request.objectPath

end Part

end Relift
