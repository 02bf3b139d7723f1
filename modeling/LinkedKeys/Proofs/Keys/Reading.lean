import LinkedKeys.KeyLine
import LinkedKeys.Proofs.Text.Fields
import LinkedKeys.Proofs.Digest.Base64

namespace LinkedKeys.KeyLine

-- A key line is made of fields: the algorithm, the body, and words of a comment. A mark in front of
-- the first field makes all of it a remark.
def fieldwise : List (List Char) → Option KeyLine
  | [] => none
  | algorithm :: rest =>
      if algorithm.head? = some '#' then none
      else some {
        algorithm := String.ofList algorithm
        comment := match rest.drop 1 with
          | [] => none
          | words => some (String.ofList ([' '].intercalate words))
        fingerprint := rest.head?.bind fingerprint? }

theorem joined_words (words : List (List Char)) :
    " ".intercalate (words.map String.ofList) = String.ofList ([' '].intercalate words) := by
  apply String.toList_inj.mp
  rw [String.toList_intercalate, String.toList_ofList, List.map_map]
  simp [Function.comp_def]

theorem ofFields_unmarked {algorithm : List Char} (unmarked : algorithm.head? ≠ some '#')
    (rest : List (List Char)) : ofFields (algorithm :: rest) = fieldwise (algorithm :: rest) := by
  rw [fieldwise, if_neg unmarked, ofFields]
  cases rest.drop 1 with
  | nil => rfl
  | cons word words =>
      rw [joined_words]
      rfl

-- Trimming takes no field away, and leaves the mark of a remark in front.
theorem ofLine_fieldwise (line : List Char) : ofLine line = fieldwise (Text.fields line) := by
  rw [ofLine, ← Text.fields_trim line]
  cases trimmed : Text.trim line with
  | nil => rfl
  | cons c rest =>
      obtain ⟨word, more, split⟩ := Text.fields_first (Text.trim_first trimmed) rest
      rw [split]
      by_cases mark : c = '#'
      · subst mark
        rfl
      · have unmarked : (c :: word).head? ≠ some '#' := by simpa using mark
        rw [← ofFields_unmarked unmarked, ← split]
        split
        · contradiction
        · rename_i remark
          exact absurd (List.cons.inj remark).1 mark
        · rfl

theorem ofLine_return (line : List Char) : ofLine (line ++ ['\r']) = ofLine line := by
  rw [ofLine, Text.trim_blank (by decide), ofLine]

-- Line feeds alone decide where a key line ends.
theorem ofBlob_pieces (blob : String) :
    ofBlob blob = (Text.pieces '\n' blob.toList).filterMap ofLine := by
  unfold ofBlob
  have lined := Text.lines_lined blob.toList
  generalize Text.pieces '\n' blob.toList = pieces at lined
  generalize Text.lines blob.toList = lines at lined
  induction lined with
  | nothing => rfl
  | last full => rfl
  | plain line rest ih => simp only [List.filterMap_cons, ih]
  | returned line rest ih => simp only [List.filterMap_cons, ofLine_return, ih]

theorem ofBlob_append (blob other : String) :
    ofBlob (blob ++ "\n" ++ other) = ofBlob blob ++ ofBlob other := by
  have joined : (blob ++ "\n" ++ other).toList = blob.toList ++ '\n' :: other.toList := by simp
  rw [ofBlob_pieces, joined, Text.pieces_append, List.filterMap_append, ← ofBlob_pieces, ← ofBlob_pieces]

-- A line feed at the end adds no key line.
theorem ofBlob_closed (blob : String) : ofBlob (blob ++ "\n") = ofBlob blob := by
  have closed := ofBlob_append blob ""
  rw [String.append_empty] at closed
  rw [closed]
  exact List.append_nil (ofBlob blob)

-- The same text with a carriage return in front of every line feed.
def withReturns (cs : List Char) : List Char :=
  cs.flatMap fun c => if c = '\n' then ['\r', '\n'] else [c]

def returned (blob : String) : String := String.ofList (withReturns blob.toList)

theorem pieces_withReturns (cs : List Char) :
    List.Forall₂ (fun changed piece => changed = piece ∨ changed = piece ++ ['\r'])
      (Text.pieces '\n' (withReturns cs)) (Text.pieces '\n' cs) := by
  induction cs with
  | nil => exact .cons (.inl rfl) .nil
  | cons c cs ih =>
      by_cases feed : c = '\n'
      · subst feed
        exact .cons (.inr rfl) ih
      · have front : withReturns (c :: cs) = c :: withReturns cs := by
          rw [withReturns, List.flatMap_cons, if_neg feed]
          rfl
        obtain ⟨piece, rest, cut⟩ := Text.pieces_some '\n' cs
        obtain ⟨changed, more, recut⟩ := Text.pieces_some '\n' (withReturns cs)
        rw [cut, recut] at ih
        obtain ⟨same, later⟩ := List.forall₂_cons.mp ih
        rw [front, Text.pieces, Text.pieces, if_neg feed, if_neg feed, cut, recut]
        refine .cons ?_ later
        rcases same with rfl | rfl
        · exact .inl rfl
        · exact .inr rfl

theorem ofBlob_returned (blob : String) : ofBlob (returned blob) = ofBlob blob := by
  rw [ofBlob_pieces, ofBlob_pieces, returned, String.toList_ofList]
  have both := pieces_withReturns blob.toList
  generalize Text.pieces '\n' (withReturns blob.toList) = changed at both
  generalize Text.pieces '\n' blob.toList = pieces at both
  induction both with
  | nil => rfl
  | cons same rest ih =>
      rw [List.filterMap_cons, List.filterMap_cons, ih]
      rcases same with rfl | rfl
      · rfl
      · rw [ofLine_return]

theorem ofBlob_fields {blob other : String}
    (same : (Text.lines blob.toList).map Text.fields = (Text.lines other.toList).map Text.fields) :
    ofBlob blob = ofBlob other := by
  have read : ∀ text : String,
      ofBlob text = ((Text.lines text.toList).map Text.fields).filterMap fieldwise := by
    intro text
    rw [List.filterMap_map, ofBlob, funext ofLine_fieldwise]
    rfl
  rw [read, read, same]

-- A text that stays on its line: its blanks are spaces.
def Level (text : String) : Prop :=
  ∀ c ∈ text.toList, Text.isBlank c = true → c = ' '

instance (text : String) : Decidable (Level text) :=
  List.decidableBAll (fun c => Text.isBlank c = true → c = ' ') text.toList

theorem level_append {text more : String} (one : Level text) (two : Level more) : Level (text ++ more) := by
  intro c among
  rw [String.toList_append] at among
  rcases List.mem_append.mp among with front | behind
  · exact one c front
  · exact two c behind

theorem level_plain {cs : List Char} (plain : ∀ c ∈ cs, Text.isBlank c = false) :
    Level (String.ofList cs) := by
  intro c among blank
  rw [String.toList_ofList] at among
  rw [plain c among] at blank
  cases blank

theorem level_optional {text : Option String} {shown : String → String}
    (level : ∀ part, text = some part → Level (shown part)) : Level ((text.map shown).getD "") := by
  cases text with
  | none =>
      intro c among
      cases among
  | some part => exact level part rfl

theorem level_joined {words : List (List Char)}
    (plain : ∀ word ∈ words, ∀ c ∈ word, Text.isBlank c = false) :
    Level (String.ofList ([' '].intercalate words)) := by
  rw [← joined_words]
  induction words with
  | nil =>
      intro c among
      cases among
  | cons word words ih =>
      have first : Level (String.ofList word) := level_plain (plain word List.mem_cons_self)
      have later := ih fun next among => plain next (List.mem_cons_of_mem word among)
      cases words with
      | nil => simpa using first
      | cons next words =>
          rw [List.map_cons, List.map_cons, String.intercalate_cons_cons, ← List.map_cons]
          exact level_append (level_append first (by decide)) later

theorem alphabet_plain : ∀ c ∈ Digest.Base64.alphabet, Text.isBlank c = false := by
  have checked : Digest.Base64.alphabet.all (fun c => !Text.isBlank c) = true := by decide
  simpa using checked

theorem fingerprintOf_level (raw : List UInt8) : Level (fingerprintOf raw) := by
  apply level_append (by decide)
  apply level_plain
  intro c among
  obtain ⟨padding, encodes⟩ := Digest.Base64.encodeUnpadded_encodes (Digest.Sha256.digest raw)
  exact alphabet_plain c (encodes.symbols c among)

theorem fieldwise_level {fields : List (List Char)} {key : KeyLine}
    (plain : ∀ field ∈ fields, ∀ c ∈ field, Text.isBlank c = false) (reads : fieldwise fields = some key) :
    Level key.render := by
  cases fields with
  | nil => cases reads
  | cons algorithm rest =>
      rw [fieldwise, Option.ite_none_left_eq_some] at reads
      obtain ⟨-, shown⟩ := reads
      cases shown
      refine level_append (level_append (level_plain (plain algorithm List.mem_cons_self)) ?_) ?_
      · apply level_optional
        intro fingerprint found
        cases rest with
        | nil => cases found
        | cons body words =>
            obtain ⟨raw, decoded, rfl⟩ := Option.map_eq_some_iff.mp found
            exact level_append (by decide) (fingerprintOf_level raw)
      · apply level_optional
        intro comment found
        have words : Level (String.ofList ([' '].intercalate (rest.drop 1))) :=
          level_joined fun word among =>
            plain word (List.mem_cons_of_mem algorithm (List.mem_of_mem_drop among))
        cases drop : rest.drop 1 with
        | nil =>
            simp only [drop] at found
            cases found
        | cons word more =>
            simp only [drop] at found words
            cases found
            exact level_append (level_append (by decide) words) (by decide)

theorem render_level {blob : String} {key : KeyLine} (among : key ∈ ofBlob blob) : Level key.render := by
  obtain ⟨line, -, reads⟩ := List.mem_filterMap.mp among
  rw [ofLine_fieldwise] at reads
  exact fieldwise_level (fun field inside => (Text.fields_plain inside).2) reads

end LinkedKeys.KeyLine
