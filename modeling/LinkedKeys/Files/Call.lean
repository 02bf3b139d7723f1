import LinkedKeys.Script

namespace LinkedKeys.Files

-- A cause that nothing tells apart from the rest is kept as its text.
inductive Cause where
  | missing
  | present
  | notDirectory
  | isDirectory
  | nameTooLong
  | nulInName
  | other (message : String)
  deriving DecidableEq

def Cause.message : Cause → String
  | .missing => "No such file or directory (os error 2)"
  | .present => "File exists (os error 17)"
  | .notDirectory => "Not a directory (os error 20)"
  | .isDirectory => "Is a directory (os error 21)"
  | .nameTooLong => "File name too long (os error 36)"
  | .nulInName => "file name contained an unexpected NUL byte"
  | .other message => message

-- `replace` writes a whole file at once: a reader finds the old content or the new, and a
-- refusal leaves nothing behind.
inductive Call where
  | read (path : String)
  | replace (path : String) (content : List UInt8)
  | remove (path : String)
  | makeDirectory (path : String)
  | isDirectory (path : String)
  | isPresent (path : String)

abbrev Call.Answer : Call → Type
  | .read _ => Except Cause (List UInt8)
  | .replace _ _ => Except Cause Unit
  | .remove _ => Except Cause Unit
  | .makeDirectory _ => Except Cause Unit
  | .isDirectory _ => Bool
  | .isPresent _ => Bool

abbrev Script (α : Type) := LinkedKeys.Script Call Call.Answer α

def makeDirectory (path : String) : Script (Except Cause Unit) :=
  .ask (.makeDirectory path) .done

-- What is in the way may be the directory that was asked for.
def acceptDirectory (path : String) (cause : Cause) : Script (Except Cause Unit) :=
  .ask (.isDirectory path) fun is => .done (if is then .ok () else .error cause)

-- Makes the first path, and its ancestors from the nearest on where they are missing too.
def makeChain : List String → Script (Except Cause Unit)
  | [] => .done (.ok ())
  | path :: ancestors => do
      match ← makeDirectory path with
      | .ok () => return .ok ()
      | .error .missing =>
          match ← makeChain ancestors with
          | .error cause => return .error cause
          | .ok () =>
              match ← makeDirectory path with
              | .ok () => return .ok ()
              | .error cause => acceptDirectory path cause
      | .error cause => acceptDirectory path cause

end LinkedKeys.Files
