import Relift.Activity
import Relift.Address
import Relift.Error
import Relift.Note

/-!
# Collaborators

A run leaves three things to collaborators: finding the basic blocks, lifting
the code and compiling the lifted program.  Each is asked with a request that
holds absolute paths only, and may do with the state of the host whatever it
likes.
-/

namespace Relift

/-- To find the basic blocks of an executable. -/
structure RecoveryJob where
  imagePath : String
  loadAddress : Address
  /-- The file with the addresses at which to start. -/
  seedsPath : String
  /-- Where to write the addresses of the blocks. -/
  resultPath : String
  workDirectory : String
deriving DecidableEq

/-- To lift code. -/
structure LiftingJob where
  codePath : String
  loadAddress : Address
  blocksPath : String
  namesPath : String
  /-- Where to write the lifted program. -/
  irPath : String
deriving DecidableEq

/-- To compile a lifted program. -/
structure CompilationJob where
  irPath : String
  /-- Where to write the object file. -/
  objectPath : String
deriving DecidableEq

/-- What a collaborator is asked for. -/
inductive Job where
  | recover (request : RecoveryJob)
  | lift (request : LiftingJob)
  | recompile (request : CompilationJob)
deriving DecidableEq

/-- Finds basic blocks. -/
structure Engine (σ : Type) where
  name : String
  recover : RecoveryJob → Activity σ Note Error Unit

/-- Lifts code and tells where the lifted program lies. -/
structure Lifter (σ : Type) where
  name : String
  lift : LiftingJob → Activity σ Note Error String

/-- Compiles lifted programs and tells where the object file lies. -/
structure Compiler (σ : Type) where
  name : String
  recompile : CompilationJob → Activity σ Note Error String

end Relift
