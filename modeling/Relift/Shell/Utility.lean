import Relift.Shell.FileCommand
import Relift.Shell.Filter

/-!
# Utilities

The programs of the system that scripts use, by name.
-/

namespace Relift.Shell

/-- The command that gives the last part of a path, without an ending. -/
def runBasename (s : Setting) (arguments : List Octets) : Effect :=
  match arguments with
  | [path] => s.puts (baseName path ++ ['\n'])
  | [path, ending] =>
    let name := baseName path
    let shorter := name.take (name.length - ending.length)
    s.puts ((if shorter ++ ending = name && !shorter.isEmpty then shorter else name) ++ ['\n'])
  | _ => s.complains "basename: missing operand\nTry 'basename --help' for more information."

/-- The utilities, by name. -/
def utilities : List (String × (Setting → List Octets → Effect)) :=
  [("cat", fun s names => overInputs s "cat" ((splitOptions names).2) id),
    ("cp", runCp), ("rm", runRm), ("mv", runMv), ("ln", runLn), ("mkdir", runMkdir), ("rmdir", runRmdir),
    ("touch", runTouch), ("ls", runLs), ("chmod", runChmod), ("head", runHead), ("tail", runTail),
    ("tr", runTr), ("sed", runSed), ("grep", runGrep), ("wc", runWc), ("sort", runSort),
    ("uniq", fun s names => overInputs s "uniq" names fun text =>
      (dropRepeated ((linesWithBreaks text).map bareLine)).flatMap (· ++ ['\n'])),
    ("tac", fun s names => overInputs s "tac" names fun text =>
      (linesWithBreaks text).reverse.flatten),
    ("cut", runCut), ("seq", runSeq), ("basename", runBasename),
    ("dirname", fun s paths => s.puts (paths.flatMap fun path => directoryName path ++ ['\n'])),
    ("tee", fun s names =>
      let names := (splitOptions names).2
      names.foldl (fun effect name => effect.andThen fun tree =>
        match tree.write s.place (Octets.toText name) (Octets.toBytes s.input) with
        | .ok tree => { tree }
        | .error e => { s.complains ("tee: " ++ Octets.toText name ++ ": " ++ complaint e) with tree })
        (s.puts s.input)),
    ("true", fun s _ => s.ends 0), ("false", fun s _ => s.ends 1), ("sleep", fun s _ => s.ends 0),
    ("echo", fun s words => s.puts (echoText words)),
    ("printf", fun s words =>
      match words with
      | format :: rest => s.puts (formatText format rest)
      | [] => s.complains "printf: missing operand"),
    ("pwd", fun s _ => s.puts (Octets.ofText (FileTree.pathOf s.place ++ "\n")))]

/-- The utility of a name. -/
def utility? (name : String) : Option (Setting → List Octets → Effect) :=
  utilities.lookup name

end Relift.Shell
