import Relift.CommandLine.Lift

/-!
# Arguments

The words of the command line.  Options may stand anywhere before a double dash
and may not be repeated; the two other words are the executable and the object
file.  The first word that does not fit decides.
-/

namespace Relift

/-- What the command line asks for. -/
inductive Invocation where
  | lift (options : CommandOptions) (verbose : Bool)
  | version
deriving DecidableEq

/-- The options with a value. -/
inductive ValueOption where
  | extraSeedsFile
  | symbolMap
  | settingsFile
  | policy
deriving DecidableEq

/-- The options without a value. -/
inductive Flag where
  | silent
  | verbose
  | json
deriving DecidableEq

/-- What has been read of the command line. -/
structure Arguments where
  words : List String := []
  values : List (ValueOption × String) := []
  flags : List Flag := []

namespace Arguments

/-- The option with a value that a name stands for. -/
def valueOption? : String → Option ValueOption
  | "extra-seed-addresses-file" => some .extraSeedsFile
  | "symbol-map" => some .symbolMap
  | "config" => some .settingsFile
  | "collision-policy" => some .policy
  | _ => none

/-- The flag that a name stands for. -/
def flag? : String → Option Flag
  | "silent" => some .silent
  | "verbose" => some .verbose
  | "json" => some .json
  | _ => none

/-- Whether a value fits its option: policies have names and paths are not
empty. -/
def fits (option : ValueOption) (value : String) : Bool :=
  match option with
  | .policy => (CollisionPolicy.ofName? value).isSome
  | _ => !value.isEmpty

/-- Whether a word looks like an option. -/
def looksLikeOption (word : String) : Bool :=
  match word.toList with
  | '-' :: _ :: _ => true
  | _ => false

/-- Adds a word that is no option. -/
def addWord (a : Arguments) (word : String) : Option Arguments :=
  if word.isEmpty || 2 ≤ a.words.length then none else some { a with words := a.words ++ [word] }

/-- Adds the value of an option. -/
def addValue (a : Arguments) (option : ValueOption) (value : String) : Option Arguments :=
  if (a.values.lookup option).isSome || !fits option value then none
  else some { a with values := a.values ++ [(option, value)] }

/-- Adds a flag. -/
def addFlag (a : Arguments) (flag : Flag) : Option Arguments :=
  if a.flags.contains flag then none else some { a with flags := a.flags ++ [flag] }

/-- The request that the words make, once all are read. -/
def invocation? (a : Arguments) : Option Invocation :=
  match a.words with
  | [imagePath, outputPath] =>
    let policy := (a.values.lookup .policy).bind CollisionPolicy.ofName?
    some (.lift {
      imagePath
      outputPath
      extraSeedsFile := a.values.lookup .extraSeedsFile
      symbolMap := a.values.lookup .symbolMap
      settingsFile := a.values.lookup .settingsFile
      policy := policy.getD default
      silent := a.flags.contains .silent
      json := a.flags.contains .json } (a.flags.contains .verbose))
  | _ => none

/-- What one letter of a group of short options does. -/
inductive ShortResult where
  | refused
  | version
  | going (arguments : Arguments)

/-- Reads a group of short options. -/
def readShort (a : Arguments) : List Char → ShortResult
  | [] => .going a
  | 'v' :: rest =>
    match a.addFlag .verbose with
    | some a => readShort a rest
    | none => .refused
  | 'V' :: _ => .version
  | _ => .refused

/-- Reads words after the double dash. -/
def readWords (a : Arguments) : List String → Option Invocation
  | [] => a.invocation?
  | word :: rest => do readWords (← a.addWord word) rest

/-- Reads the words of a command line after those read before. -/
def read (a : Arguments) : List String → Option Invocation
  | [] => a.invocation?
  | word :: rest =>
    match word.toList with
    | ['-', '-'] => a.readWords rest
    | '-' :: '-' :: body =>
      let name := String.ofList (body.takeWhile (· != '='))
      let attached := (body.dropWhile (· != '=')).tail?.map String.ofList
      match attached, valueOption? name, rest with
      | some value, some option, rest => do read (← a.addValue option value) rest
      | none, some _, [] => none
      | none, some option, value :: rest =>
        if looksLikeOption value then none else do read (← a.addValue option value) rest
      | some _, none, _ => none
      | none, none, rest =>
        if name = "version" then some .version
        else do read (← a.addFlag (← flag? name)) rest
    | '-' :: letter :: letters =>
      match a.readShort (letter :: letters) with
      | .refused => none
      | .version => some .version
      | .going a => read a rest
    | _ => do read (← a.addWord word) rest

end Arguments

/-- The request of a command line, or nothing if it is not of the right
form. -/
def Invocation.ofArguments? (words : List String) : Option Invocation :=
  Arguments.read {} words

end Relift
