namespace LinkedKeys

inductive Failure where
  | unreadable (key path : String)
  | unwritable (key path reason : String)
  | badKey (key : String)
  | alreadyLinked (username : String)
  | notLinked
  | badConfig (detail : String)
  | noClient (reason : String)
  | system (reason : String)
  deriving DecidableEq

def Failure.message : Failure → String
  | .unreadable key path =>
      "Could not read parameter '" ++ key ++ "' from " ++ path ++
        "\n\n  Check that the params directory is readable." ++
        "\n  Run 'keylink status --verbose' to see which directory is in use."
  | .unwritable key path reason =>
      "Could not write parameter '" ++ key ++ "' to " ++ path ++ ": " ++ reason ++
        "\n\n  Check that the params directory exists and is writable." ++
        "\n  Use --params-dir to point keylink at another location."
  | .badKey key =>
      "Invalid parameter name '" ++ key ++ "': only letters, digits and '_' are allowed"
  | .alreadyLinked username =>
      "Account '" ++ username ++ "' is already linked\n\n  Unlink it first: keylink unlink"
  | .notLinked =>
      "Account was not linked\n\n  Check the username and try again: keylink link <username>"
  | .badConfig detail => "Invalid configuration: " ++ detail
  | .noClient reason => "HTTP client error: " ++ reason
  | .system reason => reason

end LinkedKeys
