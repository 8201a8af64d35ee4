import Relift.Shell.Setting

/-!
# Commands on files

The programs that copy, move, remove, make and list files.
-/

namespace Relift.Shell

/-- Enters what is below a place, each entry in its own way, below another. -/
def copyBelow (tree : FileTree) (source target : Place) (copy : Entry → Entry) : FileTree :=
  tree.entries.toList.foldl (fun copied (place, entry) =>
    if source.isPrefixOf place then copied.enter (target ++ place.drop source.length) (copy entry)
    else copied) tree

/-- The path at which a copy is to lie: inside the target if that is a
directory. -/
def copyTarget (s : Setting) (tree : FileTree) (source target : Octets) : String :=
  let path := Octets.toText target
  if tree.isDirectoryAt s.place path then Path.join path (Octets.toText (baseName source)) else path

/-- Copies one file or, if asked for, directory. -/
def copyOne (s : Setting) (deep : Bool) (source target : Octets) (tree : FileTree) : Effect :=
  let path := Octets.toText source
  let goal := copyTarget s tree source target
  match tree.lookup s.place path with
  | .error e =>
    { s.complains ("cp: cannot stat '" ++ path ++ "': " ++ complaint e) with tree }
  | .ok (place, .directory) =>
    if !deep then
      { s.complains ("cp: -r not specified; omitting directory '" ++ path ++ "'") with tree }
    else
      match tree.resolve s.place goal with
      | .ok goal => { tree := copyBelow tree place goal fun entry => .own (tree.nodeOf entry) }
      | .error e => { s.complains ("cp: cannot create directory '" ++ goal ++ "': " ++ complaint e) with tree }
  | .ok (place, node) =>
    match tree.writablePlace s.place goal with
    | .error e =>
      let problem := match e with
        | .isDirectory => "cp: cannot overwrite directory '" ++ goal ++ "' with non-directory"
        | e => "cp: cannot create regular file '" ++ goal ++ "': " ++ complaint e
      { s.complains problem with tree }
    | .ok goalPlace =>
      if tree.sameFile place goalPlace then
        { s.complains ("cp: '" ++ path ++ "' and '" ++ goal ++ "' are the same file") with tree }
      else
        match tree.node? goalPlace, node with
        | none, node => { tree := tree.set goalPlace node }
        | some _, .file content _ => { tree := tree.setContent goalPlace content }
        | some _, _ => { tree := tree.setContent goalPlace [] }

/-- The command that copies files. -/
def runCp (s : Setting) (arguments : List Octets) : Effect :=
  let (options, operands) := splitOptions arguments
  let deep := options.any fun c => c == 'r' || c == 'R' || c == 'a'
  match operands.getLast?, operands.dropLast with
  | none, _ => s.complains "cp: missing file operand\nTry 'cp --help' for more information."
  | some only, [] =>
    s.complains ("cp: missing destination file operand after '" ++ Octets.toText only ++
      "'\nTry 'cp --help' for more information.")
  | some target, sources =>
    if 1 < sources.length && !s.tree.isDirectoryAt s.place (Octets.toText target) then
      s.complains ("cp: target '" ++ Octets.toText target ++ "': " ++
        complaint (match s.tree.lookup s.place (Octets.toText target) with
          | .ok _ => .notDirectory
          | .error e => e))
    else
      sources.foldl (fun effect source => effect.andThen (copyOne s deep source target)) (s.ends 0)

/-- Removes one node. -/
def removeOne (s : Setting) (deep force : Bool) (name : Octets) (tree : FileTree) : Effect :=
  let path := Octets.toText name
  match tree.lookup s.place path with
  | .error e =>
    if force then { tree }
    else { s.complains ("rm: cannot remove '" ++ path ++ "': " ++ complaint e) with tree }
  | .ok (place, .directory) =>
    if deep then { tree := tree.remove place }
    else { s.complains ("rm: cannot remove '" ++ path ++ "': Is a directory") with tree }
  | .ok (place, _) => { tree := tree.remove place }

/-- The command that removes files. -/
def runRm (s : Setting) (arguments : List Octets) : Effect :=
  let (options, names) := splitOptions arguments
  let deep := options.any fun c => c == 'r' || c == 'R'
  let force := options.contains 'f'
  if names.isEmpty && !force then
    s.complains "rm: missing operand\nTry 'rm --help' for more information."
  else names.foldl (fun effect name => effect.andThen (removeOne s deep force name)) (s.ends 0)

/-- The command that moves files. -/
def runMv (s : Setting) (arguments : List Octets) : Effect :=
  match (splitOptions arguments).2 with
  | [source, target] =>
    let path := Octets.toText source
    match s.tree.lookup s.place path with
    | .error e => s.complains ("mv: cannot stat '" ++ path ++ "': " ++ complaint e)
    | .ok (place, _) =>
      match s.tree.resolve s.place (copyTarget s s.tree source target) with
      | .ok goal =>
        if goal = place then s.ends 0
        else { tree := (copyBelow (s.tree.remove goal) place goal id).remove place }
      | .error e =>
        s.complains ("mv: cannot move '" ++ path ++ "' to '" ++ Octets.toText target ++ "': " ++
          complaint e)
  | _ => s.complains "mv: missing file operand\nTry 'mv --help' for more information."

/-- The command that gives a file another name.  There are no names that only
stand for others. -/
def runLn (s : Setting) (arguments : List Octets) : Effect :=
  let (options, operands) := splitOptions arguments
  match operands with
  | [source, target] =>
    let path := Octets.toText source
    let goal := copyTarget s s.tree source target
    if options.contains 's' then
      s.complains ("ln: failed to create symbolic link '" ++ goal ++ "': Operation not permitted")
    else
      match s.tree.lookup s.place path with
      | .error e => s.complains ("ln: failed to access '" ++ path ++ "': " ++ complaint e)
      | .ok (_, .directory) => s.complains ("ln: " ++ path ++ ": hard link not allowed for directory")
      | .ok (place, _) =>
        match s.tree.writablePlace s.place goal with
        | .error e =>
          s.complains ("ln: failed to create hard link '" ++ goal ++ "' => '" ++ path ++ "': " ++
            complaint e)
        | .ok goalPlace =>
          if (s.tree.node? goalPlace).isSome then
            s.complains ("ln: failed to create hard link '" ++ goal ++ "': File exists")
          else { tree := s.tree.link place goalPlace }
  | _ => s.complains "ln: missing file operand\nTry 'ln --help' for more information."

/-- The command that makes directories. -/
def runMkdir (s : Setting) (arguments : List Octets) : Effect :=
  let (options, names) := splitOptions arguments
  if names.isEmpty then s.complains "mkdir: missing operand\nTry 'mkdir --help' for more information."
  else
    names.foldl (fun effect name => effect.andThen fun tree =>
      let path := Octets.toText name
      match if options.contains 'p' then tree.makeDirectories s.place path
        else tree.makeDirectory s.place path with
      | .ok tree => { tree }
      | .error e =>
        { s.complains ("mkdir: cannot create directory '" ++ path ++ "': " ++ complaint e) with tree })
      (s.ends 0)

/-- The command that removes empty directories. -/
def runRmdir (s : Setting) (arguments : List Octets) : Effect :=
  arguments.foldl (fun effect name => effect.andThen fun tree =>
    let path := Octets.toText name
    let failed (e : SystemError) : Effect :=
      { s.complains ("rmdir: failed to remove '" ++ path ++ "': " ++ complaint e) with tree }
    match tree.lookup s.place path with
    | .error e => failed e
    | .ok (place, .directory) =>
      if (tree.children place).isEmpty then { tree := tree.remove place } else failed .notEmpty
    | .ok _ => failed .notDirectory) (s.ends 0)

/-- The command that makes empty files. -/
def runTouch (s : Setting) (arguments : List Octets) : Effect :=
  arguments.foldl (fun effect name => effect.andThen fun tree =>
    let path := Octets.toText name
    match tree.lookup s.place path with
    | .ok _ => { tree }
    | .error _ =>
      match tree.write s.place path [] with
      | .ok tree => { tree }
      | .error e => { s.complains ("touch: cannot touch '" ++ path ++ "': " ++ complaint e) with tree })
    (s.ends 0)

/-- The command that lists directories. -/
def runLs (s : Setting) (arguments : List Octets) : Effect :=
  let (options, names) := splitOptions arguments
  let hidden := options.contains 'a' || options.contains 'A'
  let listing (place : Place) : Octets :=
    ((s.tree.children place).filter fun name => hidden || name.toList.head? != some '.').flatMap
      fun name => Octets.ofText (name ++ "\n")
  let names := if names.isEmpty then [['.']] else names
  names.foldl (fun effect name => effect.andThen fun tree =>
    let path := Octets.toText name
    match tree.lookup s.place path with
    | .error e =>
      { s.complains ("ls: cannot access '" ++ path ++ "': " ++ complaint e) with tree, status := 2 }
    | .ok (place, .directory) =>
      let title := if names.length = 1 then [] else name ++ [':', '\n']
      { tree, output := title ++ listing place }
    | .ok _ => { tree, output := name ++ ['\n'] }) (s.ends 0)

/-- The command that changes the mode of files, as far as it makes them
executable or not. -/
def runChmod (s : Setting) (arguments : List Octets) : Effect :=
  match arguments with
  | mode :: names =>
    let executable := match mode with
      | '-' :: _ => false
      | mode => mode.contains 'x' || mode.head? == some '7'
    names.foldl (fun effect name => effect.andThen fun tree =>
      let path := Octets.toText name
      match tree.lookup s.place path with
      | .ok (place, .file content _) => { tree := tree.replace place (.file content executable) }
      | .ok _ => { tree }
      | .error e => { s.complains ("chmod: cannot access '" ++ path ++ "': " ++ complaint e) with tree })
      (s.ends 0)
  | [] => s.complains "chmod: missing operand\nTry 'chmod --help' for more information."

end Relift.Shell
