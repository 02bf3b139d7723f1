namespace LinkedKeys.Text

def pieces (cut : Char) : List Char → List (List Char)
  | [] => [[]]
  | c :: cs =>
      if c = cut then [] :: pieces cut cs
      else
        match pieces cut cs with
        | [] => [[c]]
        | piece :: rest => (c :: piece) :: rest

theorem pieces_length (cut : Char) (cs : List Char) :
    (pieces cut cs).length = cs.count cut + 1 := by
  induction cs with
  | nil => rfl
  | cons c cs ih =>
      unfold pieces
      split
      · rename_i here; subst here; simp [ih]
      · rename_i other
        rw [List.count_cons_of_ne other, ← ih]
        split <;> simp_all

-- What stands in front of the first mark, and what stands behind it where there is one.
def cut (mark : Char) : List Char → List Char × Option (List Char)
  | [] => ([], none)
  | c :: cs =>
      if c = mark then ([], some cs)
      else
        let (front, behind) := cut mark cs
        (c :: front, behind)

end LinkedKeys.Text
