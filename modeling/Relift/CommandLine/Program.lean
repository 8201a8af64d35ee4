import Relift.CommandLine.Arguments

/-!
# The program

From the words of the command line to the exit code and the texts on the two
output streams.
-/

namespace Relift

/-- The name of the program. -/
def programName : String :=
  "uwin-lift-hlp"

/-- The version of the program. -/
def programVersion : String :=
  "0.1.0"

/-- Whether a log record is shown. -/
def Level.isShown (verbose : Bool) : Level → Bool
  | warn | error => true
  | debug | info => verbose

/-- A text whose further lines are moved to the right. -/
def indentLines (width : Nat) (text : String) : String :=
  String.ofList (text.toList.flatMap fun c =>
    if c = '\n' then '\n' :: List.replicate width ' ' else [c])

/-- The name of a level in log lines, all of one width. -/
def Level.column (level : Level) : String :=
  let name := level.name
  name ++ String.ofList (List.replicate (5 - name.length) ' ')

/-- A log record as a line. -/
def logLine (level : Level) (text : String) : String :=
  "[" ++ level.column ++ "] " ++ indentLines 4 text ++ "\n"

/-- What goes to the stream for errors. -/
def Output.errorText (verbose : Bool) : Output → String
  | log level text => if level.isShown verbose then logLine level text else ""
  | console text => text
  | answer _ => ""

/-- What goes to the stream for answers. -/
def Output.answerText : Output → String
  | answer text => text
  | _ => ""

/-- The causes of a failure as lines; several are numbered. -/
def causeLines (causes : List String) : String :=
  match causes with
  | [] => ""
  | [cause] => "\n\nCaused by:\n    " ++ indentLines 4 cause
  | causes =>
    "\n\nCaused by:" ++ String.join (causes.zipIdx.map fun (cause, i) =>
      let number := toString i
      "\n" ++ String.ofList (List.replicate (5 - number.length) ' ') ++ number ++ ": " ++
        indentLines 7 cause)

/-- The text about a failure. -/
def failureText (chain : List String) : String :=
  match chain with
  | [] => "Error: \n"
  | message :: causes => "Error: " ++ message ++ causeLines causes ++ "\n"

/-- What the program leaves. -/
structure ProgramResult where
  code : Nat
  output : String
  errors : String

/-- The text about a command line that is not of the right form. -/
def usageText : String :=
  "Usage: " ++ programName ++ " [OPTIONS] <IMAGE_PATH> <OUTPUT_PATH>\n"

/-- Runs the program. -/
def runProgram {σ : Type} (host : Host σ) (words : List String) (s : σ) : ProgramResult × σ :=
  match Invocation.ofArguments? words with
  | none => (⟨2, "", usageText⟩, s)
  | some .version => (⟨0, programName ++ " " ++ programVersion ++ "\n", ""⟩, s)
  | some (.lift options verbose) =>
    let outcome := liftExecutable host options s
    let output := String.join (outcome.notes.map Output.answerText)
    let errors := String.join (outcome.notes.map (Output.errorText verbose))
    match outcome.value with
    | .ok _ => (⟨0, output, errors⟩, outcome.state)
    | .error e => (⟨1, output, errors ++ failureText e.chain⟩, outcome.state)

end Relift
