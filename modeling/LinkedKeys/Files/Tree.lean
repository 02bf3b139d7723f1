import LinkedKeys.Files.Call
import LinkedKeys.Files.Path

namespace LinkedKeys.Files

inductive Entry where
  | directory
  | file (content : List UInt8)
  deriving DecidableEq

-- An entry is found by the names that lead to it from the root, which is always a directory.
structure Tree where
  entries : List (List String × Entry) := []
  deriving DecidableEq

namespace Tree

def at? (t : Tree) (place : List String) : Option Entry :=
  if place = [] then some .directory else t.entries.lookup place

def erase (t : Tree) (place : List String) : Tree :=
  ⟨t.entries.filter (·.1 != place)⟩

def insert (t : Tree) (place : List String) (entry : Entry) : Tree :=
  ⟨(place, entry) :: (t.erase place).entries⟩

theorem at?_erase {t : Tree} {place : List String} (below : place ≠ []) :
    (t.erase place).at? place = none := by
  simp only [at?, below, if_false, erase, List.lookup_eq_none_iff, List.mem_filter, bne_iff_ne]
  exact fun _ kept => kept.2.symm

theorem at?_erase_other (t : Tree) {place other : List String} (differ : other ≠ place) :
    (t.erase place).at? other = t.at? other := by
  obtain ⟨entries⟩ := t
  simp only [at?, erase]
  split
  · rfl
  · induction entries with
    | nil => rfl
    | cons row rest ih =>
        obtain ⟨k, v⟩ := row
        by_cases here : k = place
        · subst here
          simpa [List.lookup_cons, beq_false_of_ne differ] using ih
        · simp only [List.filter_cons, bne_iff_ne, ne_eq, here, not_false_eq_true, if_true,
            List.lookup_cons, ih]

theorem at?_insert {t : Tree} {place : List String} (below : place ≠ []) (entry : Entry) :
    (t.insert place entry).at? place = some entry := by
  simp [at?, insert, below]

theorem at?_insert_other (t : Tree) {place other : List String} (entry : Entry)
    (differ : other ≠ place) : (t.insert place entry).at? other = t.at? other := by
  rw [← at?_erase_other t differ]
  simp [at?, insert, List.lookup_cons, beq_false_of_ne differ]

-- What stands at the end of a path whose way there exists.
inductive Target where
  | directory (place : List String)
  | file (place : List String) (content : List UInt8)
  | vacant (place : List String)

def longestName : Nat := 255

def longestPath : Nat := 4095

def follow (t : Tree) (here : List String) : List String → Except Cause Target
  | [] => .ok (.directory here)
  | name :: rest =>
      if name = "." then t.follow here rest
      else if name = ".." then t.follow here.dropLast rest
      else if longestName < name.utf8ByteSize then .error .nameTooLong
      else
        match t.at? (here ++ [name]), rest with
        | some .directory, rest => t.follow (here ++ [name]) rest
        | some (.file content), [] => .ok (.file (here ++ [name]) content)
        | some (.file _), _ :: _ => .error .notDirectory
        | none, [] => .ok (.vacant (here ++ [name]))
        | none, _ :: _ => .error .missing

def locate (t : Tree) (here : List String) (path : String) : Except Cause Target :=
  if path.toList.contains (Char.ofNat 0) then .error .nulInName
  else if path = "" then .error .missing
  else if longestPath < path.utf8ByteSize then .error .nameTooLong
  else t.follow (if Path.isAbsolute path then [] else here) (Path.names path)

-- A trailing separator asks for a directory.
def find (t : Tree) (here : List String) (path : String) : Except Cause Target :=
  match t.locate here path with
  | .ok (.file place content) =>
      if Path.endsInSeparator path then .error .notDirectory else .ok (.file place content)
  | answer => answer

def answer (here : List String) : (c : Call) → Tree → c.Answer × Tree
  | .read path, t =>
      match t.find here path with
      | .error cause => (.error cause, t)
      | .ok (.directory _) => (.error .isDirectory, t)
      | .ok (.vacant _) => (.error .missing, t)
      | .ok (.file _ content) => (.ok content, t)
  | .replace path content, t =>
      match t.find here path with
      | .error cause => (.error cause, t)
      | .ok (.directory _) => (.error .isDirectory, t)
      | .ok (.vacant place) => (.ok (), t.insert place (.file content))
      | .ok (.file place _) => (.ok (), t.insert place (.file content))
  | .remove path, t =>
      match t.find here path with
      | .error cause => (.error cause, t)
      | .ok (.directory _) => (.error .isDirectory, t)
      | .ok (.vacant _) => (.error .missing, t)
      | .ok (.file place _) => (.ok (), t.erase place)
  | .makeDirectory path, t =>
      match t.locate here path with
      | .error cause => (.error cause, t)
      | .ok (.directory _) => (.error .present, t)
      | .ok (.file _ _) => (.error .present, t)
      | .ok (.vacant place) => (.ok (), t.insert place .directory)
  | .isDirectory path, t =>
      match t.find here path with
      | .ok (.directory _) => (true, t)
      | _ => (false, t)
  | .isPresent path, t =>
      match t.find here path with
      | .ok (.directory _) => (true, t)
      | .ok (.file _ _) => (true, t)
      | _ => (false, t)

-- Puts an entry in place from outside, with the directories that lead to it.
def plantFrom (t : Tree) (here : List String) (entry : Entry) : List String → Tree
  | [] => t
  | name :: rest =>
      if name = "." then t.plantFrom here entry rest
      else if name = ".." then t.plantFrom here.dropLast entry rest
      else
        let place := here ++ [name]
        if rest = [] then t.insert place entry
        else if (t.at? place).isSome then t.plantFrom place entry rest
        else (t.insert place .directory).plantFrom place entry rest

def plant (t : Tree) (here : List String) (path : String) (entry : Entry) : Tree :=
  t.plantFrom (if Path.isAbsolute path then [] else here) entry (Path.names path)

-- Everything below a directory, each entry with the names that lead to it from there.
def below (t : Tree) (here : List String) : List (List String × Entry) :=
  t.entries.filterMap fun row =>
    if here.isPrefixOf row.1 ∧ row.1 ≠ here then some (row.1.drop here.length, row.2) else none

theorem mem_below {t : Tree} {here rest : List String} {entry : Entry} (further : rest ≠ [])
    (there : t.at? (here ++ rest) = some entry) : (rest, entry) ∈ t.below here := by
  have low : here ++ rest ≠ [] := fun none => further (List.append_eq_nil_iff.mp none).2
  rw [at?, if_neg low] at there
  obtain ⟨front, back, same, -⟩ := List.lookup_eq_some_iff.mp there
  have among : (here ++ rest, entry) ∈ t.entries := same ▸ List.mem_append_right front List.mem_cons_self
  refine List.mem_filterMap.mpr ⟨_, among, ?_⟩
  simp [further]

end Tree

end LinkedKeys.Files
