import Relift.Interchange.Files

/-!
# Symbol sources

Where the symbols of an executable come from: its exports, a symbol map beside
it, or several sources of which the earlier win.
-/

namespace Relift

/-- A source of symbols on hosts with states of type `σ`. -/
structure SymbolSource (σ : Type) where
  name : String
  /-- The symbols of an executable that lies at a path. -/
  symbols : Image.Portable → String → Activity σ Note Error SymbolTable

namespace SymbolSource

variable {σ : Type}

/-- The exports of the executable. -/
def exports : SymbolSource σ where
  name := "exports"
  symbols pe _ := pure (Image.exportSymbols pe)

/-- The record of a symbol that a map lists again. -/
def repeatedNote (name : String) (previous descriptor : Descriptor) : Note :=
  .warn ("symbol '" ++ name ++ "' listed twice; " ++ previous.display ++ " replaced by " ++
    descriptor.display)

/-- Enters the lines of a symbol map into a table; a later line replaces an
earlier one of the same name. -/
def enterLines : SymbolTable → List (Descriptor × String) → SymbolTable × List Note
  | table, [] => (table, [])
  | table, (descriptor, name) :: rest =>
    let (entered, notes) := enterLines (table.insert name descriptor) rest
    match table.get? name with
    | some previous => (entered, repeatedNote name previous descriptor :: notes)
    | none => (entered, notes)

/-- The symbols of a map in the format of name-map files. -/
def symbolMap (host : Host σ) (path : String) : SymbolSource σ where
  name := "symbol-map"
  symbols _ _ := do
    let body ← (Activity.inspect fun s => host.readText s path).mapError
      (Error.io ("Failed to read symbol map " ++ path))
    let entries ← Activity.ofExcept (NameMapFile.parse path body)
    let (table, notes) := enterLines .empty entries
    Activity.reportAll notes
    pure table

/-- A table with those symbols of another whose names it lacks. -/
def supplement (table other : SymbolTable) : SymbolTable :=
  other.toList.foldl
    (fun merged (name, descriptor) =>
      if merged.contains name then merged else merged.insert name descriptor)
    table

/-- Asks sources one after the other and adds what they give to a table. -/
def supplementFrom (pe : Image.Portable) (path : String) :
    SymbolTable → List (SymbolSource σ) → Activity σ Note Error SymbolTable
  | table, [] => pure table
  | table, source :: rest => do
    let found ← source.symbols pe path
    Activity.report (.debug (toString found.size ++ " debug symbols from " ++ source.name))
    supplementFrom pe path (supplement table found) rest

/-- Several sources; of two symbols of one name that of the earlier source
counts. -/
def chained (sources : List (SymbolSource σ)) : SymbolSource σ where
  name := "chained"
  symbols pe path := supplementFrom pe path .empty sources

/-- A source with given symbols. -/
def static (table : SymbolTable) : SymbolSource σ where
  name := "static"
  symbols _ _ := pure table

/-- A source that fails. -/
def failing (error : Error) : SymbolSource σ where
  name := "failing"
  symbols _ _ := Activity.fail error

end SymbolSource

namespace Image

variable {σ : Type}

/-- Reads an executable and gives its code and its symbols. -/
def readExecutable (host : Host σ) (source : SymbolSource σ) (path : String) :
    Activity σ Note Error (CodeImage × SymbolTable) := do
  let bytes ← (Activity.inspect fun s => host.readBytes s path).mapError
    (Error.io ("Failed to read executable " ++ path))
  match host.library.readPortable bytes with
  | .error text => Activity.fail (.image text)
  | .ok pe =>
    let image ← Activity.ofExcept (Portable.codeImage pe bytes)
    let symbols ← source.symbols pe path
    Activity.report (.info ("code section at " ++ Address.hexadecimal image.loadAddress ++ " (" ++
      toString image.code.length ++ " bytes), " ++ toString symbols.size ++
      " debug symbols from " ++ source.name))
    pure (image, symbols)

end Image

end Relift
