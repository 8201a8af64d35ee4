import Relift.Shell.Condition
import Relift.Shell.Parser

/-!
# Running scripts

Scripts run on sessions.  How deep commands may hold others, and how often
loops may go round, is bounded; a script that needs more is killed.
-/

namespace Relift.Shell

/-- The circumstances of a command. -/
structure Context where
  streams : Streams := {}
  /-- Whether the status of the command is looked at, so that a failure does
  not end a strict script. -/
  guarded : Bool := false

/-- A bound that is far beyond what scripts need. -/
def ampleFuel : Nat :=
  20000

/-- The signals that scripts name. -/
def signals : List (String × Nat) :=
  [("HUP", 1), ("INT", 2), ("QUIT", 3), ("ABRT", 6), ("KILL", 9), ("SEGV", 11), ("PIPE", 13),
    ("ALRM", 14), ("TERM", 15)]

/-- The number of a signal, by number or name. -/
def signalNumber (text : Octets) : Nat :=
  match Arithmetic.number? text with
  | some n => n.toNat
  | none =>
    let name := String.ofList text
    (signals.lookup name <|> signals.lookup (String.ofList (text.drop 3))).getD 15

/-- The signal and the processes of a command that kills. -/
def killRequest : List Octets → Nat × List Octets
  | ['-', 's'] :: signal :: rest => (signalNumber signal, rest)
  | ('-' :: signal) :: rest => (signalNumber signal, rest)
  | rest => (15, rest)

/-- The commands that belong to the script itself. -/
def isBuiltin (name : String) : Bool :=
  [":", "exit", "shift", "cd", "[", "test", "kill", "set", "unset", "export", "break", "continue",
    "read", "return", "eval", "exec", "trap", "umask", "wait", "command"].contains name

/-- Ends the script with a status. -/
def runExit (c : Context) (line : Nat) (arguments : List Octets) (s : Session) :
    Control × Session :=
  match arguments with
  | [] => (.exit, s)
  | a :: _ =>
    match Arithmetic.number? a with
    | some (.ofNat n) => (.exit, s.withStatus (n % 256))
    | _ => (.exit, s.complain c.streams line (Octets.ofText "exit: Illegal number: " ++ a) 2)

/-- Drops arguments of the script. -/
def runShift (c : Context) (line : Nat) (arguments : List Octets) (s : Session) :
    Control × Session :=
  let count := match arguments with
    | [] => 1
    | a :: _ => ((Arithmetic.number? a).getD 1).toNat
  if count ≤ s.arguments.length then
    (.next, { s with arguments := s.arguments.drop count, status := 0 })
  else (.exit, s.complain c.streams line (Octets.ofText "shift: can't shift that many") 2)

/-- Changes the working directory. -/
def runCd (c : Context) (line : Nat) (arguments : List Octets) (s : Session) : Session :=
  let target := arguments.headD ['/']
  match s.tree.lookup s.place (Octets.toText target) with
  | .ok (place, .directory) => { s with place, status := 0 }
  | _ => s.complain c.streams line (Octets.ofText "cd: can't cd to " ++ target) 2

/-- Sets options and arguments of the script. -/
def runSet (arguments : List Octets) (s : Session) : Session :=
  match arguments with
  | ['-', '-'] :: rest => { s with arguments := rest, status := 0 }
  | ('-' :: options) :: _ => { s with strict := s.strict || options.contains 'e', status := 0 }
  | ('+' :: options) :: _ => { s with strict := s.strict && !options.contains 'e', status := 0 }
  | [] => s.withStatus 0
  | rest => { s with arguments := rest, status := 0 }

/-- Reads a line of the input into variables. -/
def runRead (arguments : List Octets) (s : Session) : Session :=
  let names := (splitOptions arguments).2
  match linesWithBreaks s.input with
  | [] => (names.foldl (fun s name => s.assign name []) s).withStatus 1
  | line :: rest =>
    let words := (Item.fields (Item.splitting (bareLine line))).map (·.map Prod.fst)
    let value (i : Nat) : Octets :=
      if i + 1 = names.length then joinBlanks (words.drop i) else words[i]?.getD []
    let s := { s with input := rest.flatten }
    (names.zipIdx.foldl (fun s (name, i) => s.assign name (value i)) s).withStatus
      (if line.getLast? == some '\n' then 0 else 1)

/-- Gives variables values, as assignments among arguments say. -/
def runExport (arguments : List Octets) (s : Session) : Session :=
  (arguments.foldl (fun s a =>
    let name := a.takeWhile (· != '=')
    if name.length < a.length then s.assign name (a.drop (name.length + 1)) else s) s).withStatus 0

/-- Opens the file of a redirection for writing. -/
def openForWriting (s : Session) (fresh : Bool) (path : Octets) :
    Except SystemError (Target × Session) := do
  let place ← s.tree.writablePlace s.place (Octets.toText path)
  match s.tree.node? place with
  | some (.device .output) => .ok (.output, s)
  | some (.device .errors) => .ok (.errors, s)
  | some (.device _) => .ok (.nowhere, s)
  | some (.file content _) =>
    .ok (.file place, { s with tree := s.tree.setContent place (if fresh then [] else content) })
  | some (.program _) => .error .denied
  | some .directory => .error .isDirectory
  | none => .ok (.file place, { s with tree := s.tree.set place (.file [] false) })

/-- Where a stream leads that follows another. -/
def duplicated (streams : Streams) (target : Octets) : Target :=
  match target with
  | ['1'] => streams.output
  | ['2'] => streams.errors
  | _ => .nowhere

/-- Leads one stream to a target. -/
def Streams.lead (streams : Streams) (stream : Nat) (target : Target) : Streams :=
  if stream = 1 then { streams with output := target }
  else if stream = 2 then { streams with errors := target }
  else streams

/-- Applies one redirection, or gives the complaint that it fails with. -/
def applyRedirection (stream : Nat) (kind : RedirectionKind) (target : Octets)
    (streams : Streams) (s : Session) : Except Octets (Streams × Session) :=
  let cannotCreate (e : SystemError) : Octets :=
    Octets.ofText "cannot create " ++ target ++ Octets.ofText (": " ++
      (if e = .notFound then "Directory nonexistent" else complaint e))
  match kind with
  | .read =>
    match s.tree.read s.place (Octets.toText target) with
    | .ok content => .ok (streams, { s with input := Octets.ofBytes content })
    | .error e => .error (Octets.ofText "cannot open " ++ target ++ Octets.ofText (": " ++
        (if e = .notFound then "No such file" else complaint e)))
  | .text => .ok (streams, { s with input := target })
  | .duplicate => .ok (streams.lead stream (duplicated streams target), s)
  | .write =>
    match openForWriting s true target with
    | .ok (opened, s) => .ok (streams.lead stream opened, s)
    | .error e => .error (cannotCreate e)
  | .append =>
    match openForWriting s false target with
    | .ok (opened, s) => .ok (streams.lead stream opened, s)
    | .error e => .error (cannotCreate e)

/-- Whether one of the streams of redirections is the input. -/
def changesInput (redirections : List Redirection) : Bool :=
  redirections.any fun r => r.kind == .read || r.kind == .text

/-- The value of a parameter after a change. -/
def Modifier.apply (value : Option Octets) (word : Octets) : Modifier → Octets
  | .fallback alsoEmpty =>
    let kept := if alsoEmpty then value.filter (!·.isEmpty) else value
    kept.getD word
  | .replacement alsoEmpty =>
    let kept := if alsoEmpty then value.filter (!·.isEmpty) else value
    if kept.isSome then word else []
  | .withoutStart longest =>
    let text := value.getD []
    let lengths := List.range (text.length + 1)
    let fits (n : Nat) := matchesPattern (word.map (·, false)) (text.take n)
    text.drop (((if longest then lengths.reverse else lengths).find? fits).getD 0)
  | .withoutEnd longest =>
    let text := value.getD []
    let lengths := List.range (text.length + 1)
    let fits (n : Nat) := matchesPattern (word.map (·, false)) (text.drop n)
    text.take (((if longest then lengths else lengths.reverse).find? fits).getD text.length)

/-- What is to be started for the name of a command. -/
inductive Program where
  | utility (work : Setting → List Octets → Effect)
  | interpreter
  | script (text : Octets)
  | refused
  | missing

/-- The names of the program that runs scripts. -/
def isInterpreter (name : String) : Bool :=
  ["sh", "dash", "bash"].contains name

/-- The program of the system with a name. -/
def namedProgram (name : String) : Program :=
  if isInterpreter name then .interpreter
  else
    match utility? name with
    | some work => .utility work
    | none => .missing

/-- The program that a command names: by a path if there is a slash in it. -/
def findProgram (s : Session) (name : Octets) : Program :=
  if name.contains '/' then
    match s.tree.lookup s.place (Octets.toText name) with
    | .ok (_, .program known) => namedProgram known
    | .ok (_, .file content true) => .script (Octets.ofBytes content)
    | .ok _ => .refused
    | .error .notDirectory => .refused
    | .error _ => .missing
  else namedProgram (String.ofList name)

/-- The command that an interpreter is asked to run: a text, the name it runs
under and its arguments. -/
def interpreterRequest (s : Session) (name : Octets) :
    List Octets → Except Octets (Octets × Octets × List Octets)
  | ['-', 'c'] :: text :: rest => .ok (text, rest.headD name, rest.drop 1)
  | ['-', 'e'] :: ['-', 'c'] :: text :: rest =>
    .ok (Octets.ofText "set -e\n" ++ text, rest.headD name, rest.drop 1)
  | [] => .ok (s.input, name, [])
  | file :: rest =>
    match s.tree.read s.place (Octets.toText file) with
    | .ok content => .ok (Octets.ofBytes content, file, rest)
    | .error e =>
      .error (Octets.ofText "cannot open " ++ file ++ Octets.ofText (": " ++
        (if e = .notFound then "No such file" else complaint e)))

/-- Ends a strict script after a command that failed. -/
def settled (c : Context) (result : Control × Session) : Control × Session :=
  match result with
  | (.next, s) => if s.strict && !c.guarded && s.status != 0 then (.exit, s) else (.next, s)
  | stopped => stopped

mutual

/-- What a piece of a word expands to. -/
def expandPiece : Nat → Context → Piece → Session → List Item × Session
  | 0, _, _, s => ([], s)
  | fuel + 1, c, piece, s =>
    match piece with
    | .plain text quoted => (if quoted then Item.quoted text else Item.literal text, s)
    | .parameter ['@'] quoted => (Item.ofValues quoted s.arguments, s)
    | .parameter ['*'] false => (Item.ofValues false s.arguments, s)
    | .parameter name quoted => (Item.ofValue quoted ((s.parameter? name).getD []), s)
    | .size name quoted =>
      (Item.ofValue quoted (toString ((s.parameter? name).getD []).length).toList, s)
    | .modified name modifier word quoted =>
      let (word, s) := expandText fuel c word s
      (Item.ofValue quoted (modifier.apply (s.parameter? name) word), s)
    | .output script quoted =>
      let (text, s) := capture fuel c script s
      (Item.ofValue quoted text, s)
    | .arithmetic expression quoted =>
      let (text, s) := expandText fuel c expression s
      let value := (Arithmetic.evaluate? s.numberOf text).getD 0
      (Item.ofValue quoted (toString value).toList, s)

/-- What a word expands to. -/
def expandItems : Nat → Context → Word → Session → List Item × Session
  | 0, _, _, s => ([], s)
  | _, _, [], s => ([], s)
  | fuel + 1, c, piece :: rest, s =>
    let (items, s) := expandPiece fuel c piece s
    let (others, s) := expandItems fuel c rest s
    (items ++ others, s)

/-- A text expanded as if it were quoted. -/
def expandText : Nat → Context → Octets → Session → Octets × Session
  | 0, _, _, s => ([], s)
  | fuel + 1, c, text, s =>
    match doubleQuoted (text.length + 2) (text ++ ['"']) with
    | some (pieces, _) =>
      let (items, s) := expandItems fuel c pieces s
      ((Item.single items).map Prod.fst, s)
    | none => (text, s)

/-- The words that words expand to. -/
def expandWords : Nat → Context → List Word → Session → List Octets × Session
  | 0, _, _, s => ([], s)
  | _, _, [], s => ([], s)
  | fuel + 1, c, word :: rest, s =>
    let (items, s) := expandItems fuel c word s
    let words := (Item.fields items).flatMap (fileNames s)
    let (others, s) := expandWords fuel c rest s
    (words ++ others, s)

/-- The output of a script, without the line breaks at its end. -/
def capture : Nat → Context → Octets → Session → Octets × Session
  | 0, _, _, s => ([], s)
  | fuel + 1, c, text, s =>
    match parse? text with
    | none => ([], s.complain c.streams 1 (Octets.ofText "Syntax error") 2)
    | some script =>
      let streams := { c.streams with output := .captured }
      let after := (run fuel { c with streams } script { s with captured := [] }).2
      let kept := { after with captured := s.captured }
      (((Session.joined after.captured).reverse.dropWhile (· == '\n')).reverse,
        s.keepOutside kept)

/-- Makes assignments. -/
def assignAll : Nat → Context → List (Octets × Word) → Session → Session
  | 0, _, _, s => s
  | _, _, [], s => s
  | fuel + 1, c, (name, word) :: rest, s =>
    let (items, s) := expandItems fuel c word s
    assignAll fuel c rest (s.assign name ((Item.single items).map Prod.fst))

/-- Applies redirections one after the other. -/
def redirect : Nat → Context → List Redirection → Session →
    Except Octets (Streams × Session)
  | 0, c, _, s => .ok (c.streams, s)
  | _, c, [], s => .ok (c.streams, s)
  | fuel + 1, c, r :: rest, s => do
    let (items, s) := expandItems fuel c r.target s
    let (streams, s) ←
      applyRedirection r.stream r.kind ((Item.single items).map Prod.fst) c.streams s
    redirect fuel { c with streams } rest s

/-- Whether one of several patterns fits a text. -/
def fits : Nat → Context → List Word → Octets → Session → Bool
  | 0, _, _, _, _ => false
  | _, _, [], _, _ => false
  | fuel + 1, c, pattern :: rest, text, s =>
    let (items, _) := expandItems fuel c pattern s
    matchesPattern (Item.single items) text || fits fuel c rest text s

/-- Runs a script. -/
def run : Nat → Context → Script → Session → Control × Session
  | 0, _, _, s => (.killed 9, s)
  | fuel + 1, c, script, s =>
    match script with
    | .nothing => (.next, s)
    | .simple line assignments words redirections =>
      let (expanded, s) := expandWords fuel c words (if words.isEmpty then s.withStatus 0 else s)
      match redirect fuel c redirections s with
      | .error message =>
        settled c (.next, s.complain c.streams line message 2)
      | .ok (streams, opened) =>
        let inner := { c with streams }
        match expanded with
        | [] => settled c (.next, assignAll fuel inner assignments opened)
        | name :: arguments =>
          let prepared := assignAll fuel inner assignments opened
          let (control, after) := runCommand fuel inner line name arguments prepared
          let bindings := if assignments.isEmpty then after.bindings else s.bindings
          let input := if changesInput redirections then s.input else after.input
          settled c (control, { after with bindings, input })
    | .pipe first second =>
      let streams := { c.streams with output := .captured }
      let (control, left) := run fuel { c with streams } first { s with captured := [] }
      let fed := { s.keepOutside left with captured := s.captured, input := Session.joined left.captured }
      match control with
      | .killed signal => (.killed signal, fed)
      | _ =>
        let (control, right) := run fuel c second fed
        let after := s.keepOutside right
        match control with
        | .killed signal => (.killed signal, after)
        | _ => (.next, after)
    | .negate body =>
      let (control, after) := run fuel { c with guarded := true } body s
      (control, if control = .next then after.withStatus (if after.status = 0 then 1 else 0) else after)
    | .both first second =>
      match run fuel { c with guarded := true } first s with
      | (.next, after) => if after.status = 0 then run fuel c second after else (.next, after)
      | stopped => stopped
    | .either first second =>
      match run fuel { c with guarded := true } first s with
      | (.next, after) => if after.status = 0 then (.next, after) else run fuel c second after
      | stopped => stopped
    | .sequence first second =>
      match run fuel c first s with
      | (.next, after) => run fuel c second after
      | stopped => stopped
    | .loop whileTrue condition body => runLoop fuel c whileTrue condition body (s.withStatus 0)
    | .each name words body =>
      let (values, s) := match words with
        | some words => expandWords fuel c words s
        | none => (s.arguments, s)
      runEach fuel c name values body (s.withStatus 0)
    | .choose condition yes no =>
      match run fuel { c with guarded := true } condition s with
      | (.next, tested) =>
        if tested.status = 0 then run fuel c yes (tested.withStatus 0)
        else run fuel c no (tested.withStatus 0)
      | stopped => stopped
    | .matching subject patterns body otherwise =>
      let (items, s) := expandItems fuel c subject s
      let text := (Item.single items).map Prod.fst
      if fits fuel c patterns text s then run fuel c body (s.withStatus 0)
      else run fuel c otherwise (s.withStatus 0)
    | .apart body =>
      match run fuel c body s with
      | (.killed signal, after) => (.killed signal, s.keepOutside after)
      | (_, after) => (.next, s.keepOutside after)
    | .define name body => (.next, { s with functions := (name, body) :: s.functions, status := 0 })
    | .redirected body redirections =>
      match redirect fuel c redirections s with
      | .error message => settled c (.next, s.complain c.streams 1 message 2)
      | .ok (streams, opened) =>
        let (control, after) := run fuel { c with streams } body opened
        (control, { after with input := if changesInput redirections then s.input else after.input })

/-- Runs a body as long as its condition asks for it.  The status is that of the
body's last round. -/
def runLoop : Nat → Context → Bool → Script → Script → Session → Control × Session
  | 0, _, _, _, _, s => (.killed 9, s)
  | fuel + 1, c, whileTrue, condition, body, s =>
    match run fuel { c with guarded := true } condition s with
    | (.next, tested) =>
      if (tested.status == 0) != whileTrue then (.next, tested.withStatus s.status)
      else
        match run fuel c body tested with
        | (.next, after) | (.again 0, after) => runLoop fuel c whileTrue condition body after
        | (.leave 0, after) => (.next, after.withStatus 0)
        | (.leave (n + 1), after) => (.leave n, after)
        | (.again (n + 1), after) => (.again n, after)
        | stopped => stopped
    | stopped => stopped

/-- Runs a body for each of several values. -/
def runEach : Nat → Context → Octets → List Octets → Script → Session → Control × Session
  | 0, _, _, _, _, s => (.killed 9, s)
  | _, _, _, [], _, s => (.next, s)
  | fuel + 1, c, name, value :: rest, body, s =>
    match run fuel c body (s.assign name value) with
    | (.next, after) | (.again 0, after) => runEach fuel c name rest body after
    | (.leave 0, after) => (.next, after.withStatus 0)
    | (.leave (n + 1), after) => (.leave n, after)
    | (.again (n + 1), after) => (.again n, after)
    | stopped => stopped

/-- Runs a command by its name; bodies that were given a name come first. -/
def runCommand : Nat → Context → Nat → Octets → List Octets → Session → Control × Session
  | 0, _, _, _, _, s => (.killed 9, s)
  | fuel + 1, c, line, name, arguments, s =>
    match s.functions.lookup name with
    | some body =>
      match run fuel c body { s with arguments } with
      | (.next, after) | (.back, after) => (.next, { after with arguments := s.arguments })
      | stopped => stopped
    | none => runKnown fuel c line name arguments s

/-- Runs a command of the script itself or a program. -/
def runKnown : Nat → Context → Nat → Octets → List Octets → Session → Control × Session
  | 0, _, _, _, _, s => (.killed 9, s)
  | fuel + 1, c, line, name, arguments, s =>
    let depth := ((Arithmetic.number? (arguments.headD ['1'])).getD 1).toNat - 1
    match if isBuiltin (String.ofList name) then String.ofList name else "" with
    | ":" | "trap" | "umask" | "wait" => (.next, s.withStatus 0)
    | "exit" => runExit c line arguments s
    | "shift" => runShift c line arguments s
    | "cd" => (.next, runCd c line arguments s)
    | "test" => (.next, runTest s c.streams line "test" arguments)
    | "[" =>
      if arguments.getLast? == some [']'] then
        (.next, runTest s c.streams line "[" arguments.dropLast)
      else (.next, s.complain c.streams line (Octets.ofText "[: missing ]") 2)
    | "kill" =>
      let (signal, processes) := killRequest arguments
      if processes.contains Session.processNumber && signal != 0 then (.killed signal, s)
      else (.next, s.withStatus (if processes.contains Session.processNumber then 0 else 1))
    | "return" => (.back, s.withStatus (match arguments with
        | [] => s.status
        | a :: _ => ((Arithmetic.number? a).getD 2).toNat % 256))
    | "set" => (.next, runSet arguments s)
    | "unset" =>
      (.next, { s with bindings := s.bindings.filter fun v => !arguments.contains v.1, status := 0 })
    | "export" => (.next, runExport arguments s)
    | "read" => (.next, runRead arguments s)
    | "break" => (.leave depth, s.withStatus 0)
    | "continue" => (.again depth, s.withStatus 0)
    | "eval" => runText fuel c (joinBlanks arguments) s
    | "exec" =>
      match arguments with
      | [] => (.next, s.withStatus 0)
      | name :: arguments =>
        match runCommand fuel c line name arguments s with
        | (.next, after) => (.exit, after)
        | stopped => stopped
    | "command" =>
      match arguments with
      | [] => (.next, s.withStatus 0)
      | name :: arguments => runCommand fuel c line name arguments s
    | _ =>
      match findProgram s name with
      | .utility work => (.next, s.absorb c.streams (work ⟨s.tree, s.place, s.input⟩ arguments))
      | .interpreter =>
        match interpreterRequest s name arguments with
        | .ok (text, newName, newArguments) => runNested fuel c text newName newArguments s
        | .error message =>
          (.next, (s.put c.streams.errors (name ++ Octets.ofText ": 0: " ++ message ++ ['\n'])).withStatus 2)
      | .script text => runNested fuel c text name arguments s
      | .refused => (.next, s.complain c.streams line (name ++ Octets.ofText ": Permission denied") 126)
      | .missing => (.next, s.complain c.streams line (name ++ Octets.ofText ": not found") 127)

/-- Runs a text as a script of its own. -/
def runNested : Nat → Context → Octets → Octets → List Octets → Session → Control × Session
  | 0, _, _, _, _, s => (.killed 9, s)
  | fuel + 1, c, text, name, arguments, s =>
    let inner := { s with name, arguments, status := 0, strict := false }
    match runText fuel { c with guarded := false } text inner with
    | (.killed signal, after) => (.next, (s.keepOutside after).withStatus (128 + signal))
    | (_, after) => (.next, s.keepOutside after)

/-- Runs a text in the session as it is. -/
def runText : Nat → Context → Octets → Session → Control × Session
  | 0, _, _, s => (.killed 9, s)
  | fuel + 1, c, text, s =>
    match parse? text with
    | some script => run fuel c script s
    | none => (.exit, s.complain c.streams 1 (Octets.ofText "Syntax error") 2)

end

end Relift.Shell
