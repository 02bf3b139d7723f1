import LinkedKeys.Program.World

namespace LinkedKeys.Program

theorem toBytes_ofList (cs : List Char) :
    Text.toBytes (String.ofList cs) = cs.flatMap String.utf8EncodeChar := by
  simp [Text.toBytes, String.toUTF8, List.utf8Encode]

theorem encoded_full (c : Char) : String.utf8EncodeChar c ≠ [] := by
  intro empty
  have size := String.length_utf8EncodeChar c
  rw [empty] at size
  exact absurd size.symm (Nat.ne_of_gt c.utf8Size_pos)

-- Every byte of a longer form is above those of the ASCII characters.
theorem encoded_unended {c : Char} (other : c ≠ '\n') : 10 ∉ String.utf8EncodeChar c := by
  have number : c.val.toNat ≠ 10 := by
    intro same
    exact other (Char.ext (UInt32.toNat_inj.mp same))
  intro among
  obtain ⟨n, encoded, rfl⟩ : ∃ n, n ∈ (String.utf8EncodeChar c).map UInt8.toNat ∧ n = 10 :=
    ⟨_, List.mem_map_of_mem among, rfl⟩
  simp only [String.utf8EncodeChar] at encoded
  generalize c.val.toNat = v at number encoded
  split at encoded
  · simp at encoded
    omega
  · split at encoded
    · simp at encoded
      omega
    · split at encoded
      · simp at encoded
        omega
      · simp at encoded
        omega

-- Bytes that end no line belong to the line that follows them.
theorem inputLines_front {front : List UInt8} (full : front ≠ []) (unended : 10 ∉ front)
    (rest : List UInt8) : inputLines (front ++ rest) =
      (front ++ (inputLines rest).headD []) :: (inputLines rest).drop 1 := by
  induction front with
  | nil => exact absurd rfl full
  | cons b front ih =>
      obtain ⟨other, unended⟩ := not_or.mp (mt List.mem_cons.mpr unended)
      rw [List.cons_append, inputLines, if_neg (Ne.symm other)]
      cases front with
      | nil => cases lines : inputLines rest <;> simp [lines]
      | cons second front => rw [ih (by simp) unended]; rfl

-- A line that is ended is read with its end, whatever follows it.
theorem inputLines_ended {front : List UInt8} (unended : 10 ∉ front) (rest : List UInt8) :
    inputLines (front ++ 10 :: rest) = (front ++ [10]) :: inputLines rest := by
  have ended : inputLines (10 :: rest) = [10] :: inputLines rest := if_pos rfl
  by_cases full : front = []
  · subst full
    exact ended
  · rw [inputLines_front full unended, ended]
    rfl

theorem toBytes_unended {text : String} (unended : '\n' ∉ text.toList) : 10 ∉ Text.toBytes text := by
  rw [← String.ofList_toList (s := text), toBytes_ofList]
  intro among
  obtain ⟨c, inside, encoded⟩ := List.mem_flatMap.mp among
  exact encoded_unended (fun feed => unended (feed ▸ inside)) encoded

theorem inputLines_text {text : String} (unended : '\n' ∉ text.toList) (more : List UInt8) :
    inputLines (Text.toBytes (text ++ "\n") ++ more) =
      Text.toBytes (text ++ "\n") :: inputLines more := by
  have feed : String.utf8EncodeChar '\n' = [10] := rfl
  have bytes : Text.toBytes (text ++ "\n") = Text.toBytes text ++ [10] := by
    rw [← String.ofList_toList (s := text ++ "\n"), ← String.ofList_toList (s := text),
      toBytes_ofList, toBytes_ofList]
    simp [feed]
  rw [bytes, List.append_assoc]
  exact inputLines_ended (toBytes_unended unended) more

theorem inputLines_encoded (cs : List Char) : ∀ line ∈ inputLines (cs.flatMap String.utf8EncodeChar),
    ∃ said : List Char, line = said.flatMap String.utf8EncodeChar := by
  induction cs with
  | nil => simp [inputLines]
  | cons c cs ih =>
      intro line among
      rw [List.flatMap_cons] at among
      by_cases ended : c = '\n'
      · subst ended
        change line ∈ [10] :: inputLines _ at among
        rcases List.mem_cons.mp among with rfl | later
        · exact ⟨['\n'], rfl⟩
        · exact ih line later
      · rw [inputLines_front (encoded_full c) (encoded_unended ended)] at among
        rcases List.mem_cons.mp among with rfl | later
        · cases lines : inputLines (cs.flatMap String.utf8EncodeChar) with
          | nil => exact ⟨[c], by simp⟩
          | cons first more =>
              obtain ⟨said, rfl⟩ := ih first (by simp [lines])
              exact ⟨c :: said, by simp⟩
        · exact ih line (List.mem_of_mem_drop later)

-- A line that is a text.
def Readable (line : List UInt8) : Prop := ∃ said, Text.ofBytes? line = some said

theorem inputLines_readable (text : String) : ∀ line ∈ inputLines (Text.toBytes text), Readable line := by
  intro line among
  rw [← String.ofList_toList (s := text), toBytes_ofList] at among
  obtain ⟨said, rfl⟩ := inputLines_encoded _ line among
  exact ⟨String.ofList said, by rw [← toBytes_ofList, Text.ofBytes?_toBytes]⟩

-- A line as a command: the text between its blanks.
def commandOf (line : List UInt8) : Option (List Char) :=
  (Text.ofBytes? line).map fun said => Text.trim said.toList

def Quits (line : List UInt8) : Prop :=
  commandOf line = some ['q'] ∨ commandOf line = some ['q', 'u', 'i', 't']

def Blank (line : List UInt8) : Prop := commandOf line = some []

instance : DecidablePred Quits := fun _ => inferInstanceAs (Decidable (_ ∨ _))

instance : DecidablePred Blank := fun _ => inferInstanceAs (Decidable (_ = _))

theorem blank_goes_on {line : List UInt8} (blank : Blank line) : ¬Quits line := by
  unfold Blank at blank
  simp [Quits, blank]

end LinkedKeys.Program
