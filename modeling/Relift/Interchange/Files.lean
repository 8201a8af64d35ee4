import Relift.Activity
import Relift.Host
import Relift.Image.Code
import Relift.Interchange.AddressFile
import Relift.Interchange.NameMapFile
import Relift.Note

/-!
# Interchange files

What one stage leaves for another lies in files: raw code, address files and
name-map files, at fixed places in a workspace.
-/

namespace Relift

/-- The places of the files in the workspace of a run. -/
structure Workspace where
  root : String

namespace Workspace

/-- The raw code. -/
def code (w : Workspace) : String :=
  Path.join w.root "code.bin"

/-- The addresses of the blocks. -/
def blocks (w : Workspace) : String :=
  Path.join w.root "bbs.txt"

/-- The name map. -/
def names (w : Workspace) : String :=
  Path.join w.root "nm.txt"

/-- The lifted program. -/
def ir (w : Workspace) : String :=
  Path.join w.root "ir_out.ll"

/-- The directory for recovering blocks. -/
def recovery (w : Workspace) : String :=
  Path.join w.root "recovery"

end Workspace

/-- The places of the files of one recovery of blocks. -/
structure RecoveryArea where
  root : String

namespace RecoveryArea

/-- The addresses at which to start. -/
def seeds (area : RecoveryArea) : String :=
  Path.join area.root "extra_code.txt"

/-- The addresses that were found. -/
def result (area : RecoveryArea) : String :=
  Path.join area.root "bbs.txt"

end RecoveryArea

variable {σ : Type}

/-- Writes a file of an exchange. -/
def Host.exchangeOut (host : Host σ) (path : String) (content : Bytes) : Activity σ Note Error Unit :=
  (Activity.perform (host.writeBytes path content)).mapError (Error.io ("Failed to write " ++ path))

/-- Reads a text file of an exchange. -/
def Host.exchangeIn (host : Host σ) (path : String) : Activity σ Note Error String :=
  (Activity.inspect fun s => host.readText s path).mapError (Error.io ("Failed to read " ++ path))

/-- Writes an address file. -/
def AddressFile.write (host : Host σ) (path : String) (addresses : List Address) :
    Activity σ Note Error Unit := do
  host.exchangeOut path (Text.utf8 (AddressFile.render addresses))
  Activity.report (.debug ("wrote address file " ++ path))

/-- Reads an address file. -/
def AddressFile.read (host : Host σ) (path : String) : Activity σ Note Error (List Address) := do
  Activity.ofExcept (AddressFile.parse path (← host.exchangeIn path))

/-- Writes a name-map file. -/
def NameMapFile.write (host : Host σ) (path : String) (names : NameMap) :
    Activity σ Note Error Unit := do
  host.exchangeOut path (Text.utf8 (NameMapFile.render names))
  Activity.report (.debug ("wrote " ++ toString names.size ++ " name-map entries to " ++ path))

/-- Reads a name-map file. -/
def NameMapFile.read (host : Host σ) (path : String) :
    Activity σ Note Error (List (Descriptor × String)) := do
  Activity.ofExcept (NameMapFile.parse path (← host.exchangeIn path))

/-- Writes raw code. -/
def CodeFile.write (host : Host σ) (path : String) (code : Bytes) : Activity σ Note Error Unit := do
  host.exchangeOut path code
  Activity.report (.debug ("wrote " ++ toString code.length ++ " code bytes to " ++ path))

end Relift
