import LinkedKeys.Files.Tree

namespace LinkedKeys.Files

namespace Draft

-- `create` makes an empty file where nothing stands.
inductive Call where
  | create (path : String)
  | fill (path : String) (content : List UInt8)
  | rename (path target : String)
  | discard (path : String)

abbrev Call.Answer (_ : Call) : Type := Except Cause Unit

abbrev Script (α : Type) := LinkedKeys.Script Call Call.Answer α

def nameOf (number : Nat) : String := ".tmp" ++ toString number

-- The path of what stands beside a file, under another name.
def beside (path name : String) : String :=
  String.ofList (path.toList.reverse.dropWhile (· ≠ '/')).reverse ++ name

-- Goes on after a step that was taken, and takes the draft away after one that was not.
def orDiscard (draft : String) (step : Call) (next : Script (Except Cause Unit)) :
    Script (Except Cause Unit) :=
  .ask step fun
    | .ok () => next
    | .error cause => .ask (.discard draft) fun _ => return .error cause

-- The numbers name the drafts that are tried, and one that is there already is left alone.
def replace (path : String) (content : List UInt8) : List Nat → Script (Except Cause Unit)
  | [] => return .error .present
  | number :: others =>
      let draft := beside path (nameOf number)
      .ask (.create draft) fun
        | .error .present => replace path content others
        | .error cause => return .error cause
        | .ok () =>
            orDiscard draft (.fill draft content)
              (orDiscard draft (.rename draft path) (return .ok ()))

end Draft

namespace Tree

-- What a file is named matters only at its place, so renaming takes it from one to the other.
def answerDraft (here : List String) : (c : Draft.Call) → Tree → c.Answer × Tree
  | .create path, t =>
      match t.find here path with
      | .error cause => (.error cause, t)
      | .ok (.vacant place) => (.ok (), t.insert place (.file []))
      | .ok _ => (.error .present, t)
  | .fill path content, t =>
      match t.find here path with
      | .error cause => (.error cause, t)
      | .ok (.directory _) => (.error .isDirectory, t)
      | .ok (.vacant _) => (.error .missing, t)
      | .ok (.file place _) => (.ok (), t.insert place (.file content))
  | .rename path target, t =>
      match t.find here path, t.find here target with
      | .ok (.file place content), .ok (.vacant other) =>
          (.ok (), (t.erase place).insert other (.file content))
      | .ok (.file place content), .ok (.file other _) =>
          (.ok (), (t.erase place).insert other (.file content))
      | .ok (.file _ _), .ok (.directory _) => (.error .isDirectory, t)
      | .ok (.file _ _), .error cause => (.error cause, t)
      | .error cause, _ => (.error cause, t)
      | .ok _, _ => (.error .missing, t)
  | .discard path, t => answer here (.remove path) t

end Tree

end LinkedKeys.Files
