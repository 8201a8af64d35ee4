import Relift.BlockList
import Relift.Interchange.Files
import Relift.Run.Event

/-!
# Recovering blocks

The engine gets the seeds in a file of a scratch directory and leaves the
addresses it finds in another.  The order in which it finds them does not
matter: the result is ascending without repetitions.  The scratch directory is
removed in any case.
-/

namespace Relift

variable {σ : Type}

/-- How many addresses of a list do not lie in a code image. -/
def BlockList.countOutside (blocks : BlockList) (image : CodeImage) : Nat :=
  blocks.addresses.countP fun address => !image.covers address

/-- The records of a recovery. -/
def recoveryNotes (engine : String) (blocks : BlockList) (image : CodeImage)
    (emitted seeds : Nat) : List Note :=
  let outside := blocks.countOutside image
  let warning :=
    if outside = 0 then []
    else [.debug (toString outside ++ " block addresses lie outside the code section")]
  warning ++ [.info (engine ++ " recovered " ++ toString blocks.size ++ " basic blocks (" ++
    toString emitted ++ " lines emitted) from " ++ toString seeds ++ " seeds")]

/-- Recovers the blocks of an executable, with the files in a given
directory. -/
def BlockList.recoverIn (host : Host σ) (engine : Engine σ) (imagePath : String) (image : CodeImage)
    (seeds : SeedSet) (area : RecoveryArea) : Activity σ Event Error BlockList := do
  (AddressFile.write host area.seeds seeds.members).noted
  let request : RecoveryJob := {
    imagePath
    loadAddress := image.loadAddress
    seedsPath := area.seeds
    resultPath := area.result
    workDirectory := area.root }
  Activity.called (.recover request) (engine.recover request)
  let emitted ← (AddressFile.read host area.result).noted
  let blocks := BlockList.ofList emitted
  Activity.reportAll
    ((recoveryNotes engine.name blocks image emitted.length seeds.size).map .note)
  pure blocks

/-- Recovers the blocks of an executable in a scratch directory below a given
one. -/
def BlockList.recover (host : Host σ) (engine : Engine σ) (imagePath : String) (image : CodeImage)
    (seeds : SeedSet) (scratch : String) : Activity σ Event Error BlockList := do
  let root ← (Activity.perform (host.makeScratch scratch "recover-")).mapError
    (Error.io "Failed to create recovery directory")
  (BlockList.recoverIn host engine imagePath image seeds ⟨root⟩).cleanUp (host.removeDirectory root)

end Relift
