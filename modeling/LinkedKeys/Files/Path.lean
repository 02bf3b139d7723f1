import LinkedKeys.Text.Pieces

namespace LinkedKeys.Files.Path

def isAbsolute (path : String) : Bool :=
  path.toList.head? = some '/'

-- Empty names are dropped: repeated and trailing separators name nothing of their own.
def names (path : String) : List String :=
  ((Text.pieces '/' path.toList).filter (· ≠ [])).map String.ofList

def endsInSeparator (path : String) : Bool :=
  path.toList.getLast? = some '/'

-- An absolute path on the right replaces what it is joined to.
def join (base rest : String) : String :=
  if isAbsolute rest ∨ base = "" then rest
  else if endsInSeparator base then base ++ rest
  else base ++ "/" ++ rest

def ofNames (absolute : Bool) (names : List String) : String :=
  (if absolute then "/" else "") ++ "/".intercalate names

-- The paths obtained by taking the last name away again and again, longest first. A name "."
-- counts only where it starts a relative path.
def ancestorsOfNames (absolute : Bool) : List String → List String
  | [] => []
  | _ :: shorter =>
      if shorter = [] then []
      else ofNames absolute shorter.reverse :: ancestorsOfNames absolute shorter

def ancestors (path : String) : List String :=
  ancestorsOfNames (isAbsolute path) ((names path).filter (· ≠ ".")).reverse

end LinkedKeys.Files.Path
