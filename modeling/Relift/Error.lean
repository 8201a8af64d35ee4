import Relift.Address

/-!
# Errors

What can go wrong, as causes.  The wording of every message stands here, in
`SystemError.message` and `Error.message`.
-/

namespace Relift

/-- What the host system answers when a request on files or programs fails. -/
inductive SystemError where
  | notFound
  | badExecutable
  | denied
  | alreadyExists
  | notDirectory
  | isDirectory
  | notEmpty
  /-- The content of a file was to be a text and is not UTF-8. -/
  | notText
  /-- A failure that names the path it happened at. -/
  | atPath (cause : SystemError) (path : String)
  | other (text : String)
deriving DecidableEq

namespace SystemError

/-- The system's wording. -/
def message : SystemError → String
  | notFound => "No such file or directory (os error 2)"
  | badExecutable => "Exec format error (os error 8)"
  | denied => "Permission denied (os error 13)"
  | alreadyExists => "File exists (os error 17)"
  | notDirectory => "Not a directory (os error 20)"
  | isDirectory => "Is a directory (os error 21)"
  | notEmpty => "Directory not empty (os error 39)"
  | notText => "stream did not contain valid UTF-8"
  | atPath cause path => cause.message ++ " at path " ++ Text.quote path
  | other text => text

end SystemError

/-- Why a step of a run failed. -/
inductive Error where
  | configuration (text : String)
  /-- The image has none or several code sections. -/
  | sectionResolution (candidates : Nat)
  /-- The executable is of no use; the text says why. -/
  | image (text : String)
  /-- An external tool could not be started, did not succeed or left no
  result. -/
  | externalTool (tool status log : String)
  /-- A line of an interchange file is not of its form; lines count from 1. -/
  | malformedLine (path : String) (line : Nat) (content : String)
  /-- Two symbols claim one descriptor. -/
  | nameCollision (descriptor : Descriptor) (kept rejected : String)
  /-- The host system refused a request. -/
  | io (context : String) (cause : SystemError)
deriving DecidableEq

namespace Error

/-- The message of an error. -/
def message : Error → String
  | configuration text => "Configuration error: " ++ text
  | sectionResolution candidates =>
    "Expected exactly one code section, found " ++ toString candidates
  | image text => "Failed to parse executable image: " ++ text
  | externalTool tool status _ => tool ++ " failed (" ++ status ++ ")"
  | malformedLine path line content =>
    "Malformed line " ++ toString line ++ " in " ++ path ++ ": " ++ Text.quote content
  | nameCollision descriptor kept rejected =>
    "Symbols '" ++ kept ++ "' and '" ++ rejected ++ "' share address descriptor " ++
      descriptor.display
  | io context cause => context ++ ": " ++ cause.message

/-- The name and the captured output of the tool that failed, if one did. -/
def toolOutput? : Error → Option (String × String)
  | externalTool tool _ log => some (tool, log)
  | _ => none

/-- The message of the error and of what caused it, outermost first. -/
def chain (e : Error) : List String :=
  match e with
  | io _ cause => [e.message, cause.message]
  | _ => [e.message]

end Error

end Relift
