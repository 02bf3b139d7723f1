import LinkedKeys.Files.Draft
import LinkedKeys.Proofs.Course
import LinkedKeys.Proofs.Files.Making

namespace LinkedKeys.Files

open Script Files.Path

namespace Tree

variable {t u w : Tree} {here place above : List String} {path base last draft : String}
  {content part : List UInt8}

theorem erase_vacant (none : t.at? place = none) (below : place ≠ []) : t.erase place = t := by
  obtain ⟨entries⟩ := t
  simp only [at?, below, if_false, List.lookup_eq_none_iff] at none
  have all : entries.filter (·.1 != place) = entries :=
    List.filter_eq_self.mpr fun row among => by
      have other := none row among
      simp only [bne_iff_ne] at other ⊢
      exact other.symm
  rw [erase, all]

theorem insert_again (t : Tree) (place : List String) (entry other : Entry) :
    (t.insert place entry).insert place other = t.insert place other := by
  simp [insert, erase, List.filter_filter]

theorem erase_inserted (none : t.at? place = none) (below : place ≠ []) (entry : Entry) :
    (t.insert place entry).erase place = t := by
  have kept := erase_vacant none below
  obtain ⟨entries⟩ := t
  simp only [erase, Tree.mk.injEq] at kept
  simp [insert, erase, kept]

theorem vacant_there (vacant : t.find here path = .ok (.vacant place)) :
    t.at? place = none ∧ place ≠ [] :=
  ⟨(locate_put (locate_of_find vacant)).1, vacant_below (locate_of_find vacant)⟩

theorem find_put (closed : endsInSeparator path = false)
    (vacant : t.find here path = .ok (.vacant place)) (content : List UInt8) :
    (t.insert place (.file content)).find here path = .ok (.file place content) := by
  unfold find
  rw [(locate_put (locate_of_find vacant)).2 (.file content)]
  simp [Target.ofEntry, closed]

-- What a name leads to stands under that name in a directory.
theorem find_named {target : Target} (plain : IsPlain last)
    (found : t.find here (join base last) = .ok target) : ∃ above,
      t.way here base = .ok (.directory above) ∧
        target = .ofEntry (above ++ [last]) (t.at? (above ++ [last])) := by
  have sayable := (locate_some (locate_of_find found)).1
  rw [find_join plain sayable] at found
  cases leads : t.way here base with
  | error cause => rw [leads] at found; cases found
  | ok way =>
      rw [leads] at found
      cases way with
      | file place content => cases found
      | vacant place => cases found
      | directory above =>
          obtain ⟨stays, _⟩ | ⟨up, _⟩ | ⟨_, _, same⟩ := enter_cases found
          · exact absurd stays plain.here
          · exact absurd up plain.up
          · exact ⟨above, rfl, same⟩

-- What is put under one name of a directory does not change what another name leads to.
theorem find_beside (plain : IsPlain last) (other : IsPlain draft) (differ : last ≠ draft)
    (vacant : t.find here (join base draft) = .ok (.vacant place))
    (sayable : Sayable (join base last)) (entry : Entry) :
    (t.insert place entry).find here (join base last) = t.find here (join base last) := by
  obtain ⟨above, leads, same⟩ := find_named other vacant
  obtain ⟨none, rfl⟩ := ofEntry_vacant same
  have keeps : Keeps t (t.insert (above ++ [draft]) entry) := keeps_insert (by simp [none]) entry
  have apart : above ++ [last] ≠ above ++ [draft] := by simpa using differ
  have still : (t.insert (above ++ [draft]) entry).way here base = .ok (.directory above) :=
    follow_keeps keeps leads
  rw [find_join plain sayable, find_join plain sayable, leads, still]
  simp only [advance, enter, at?_insert_other t entry apart]

end Tree

namespace Draft

variable {t u w : Tree} {here place : List String} {path base last draft : String}
  {content part : List UInt8}

theorem nameOf_plain (number : Nat) : IsPlain (nameOf number) := by
  have spelt : (nameOf number).toList = ".tmp".toList ++ Nat.toDigits 10 number := by
    simp [nameOf]
  refine ⟨?_, ?_, ?_, ?_⟩
  · intro empty
    simp [empty] at spelt
  · rw [spelt]
    intro slash
    rcases List.mem_append.mp slash with front | digit
    · exact absurd front (by decide)
    · exact absurd (Nat.isDigit_of_mem_toDigits (by decide) (by decide) digit) (by decide)
  · intro same
    simp [same] at spelt
  · intro same
    simp [same] at spelt

theorem beside_join (plain : IsPlain last) (other : IsPlain draft) :
    beside (join base last) draft = join base draft := by
  have skipped : ∀ front : List Char, (front ++ last.toList).reverse.dropWhile (· ≠ '/') =
      front.reverse.dropWhile (· ≠ '/') := by
    intro front
    rw [List.reverse_append, List.dropWhile_append_of_pos]
    intro c there
    have differ : c ≠ '/' := by
      rintro rfl
      exact plain.whole (List.mem_reverse.mp there)
    simpa using differ
  by_cases bare : base = ""
  · have none := skipped []
    rw [List.nil_append] at none
    rw [bare, join_empty, join_empty, beside, none]
    simp
  · have relative : ∀ name, IsPlain name → ¬(isAbsolute name = true ∨ base = "") := by
      intro name named
      simp [plain_relative named, bare]
    unfold join
    rw [if_neg (relative last plain), if_neg (relative draft other)]
    split
    · rename_i closed
      simp only [endsInSeparator, decide_eq_true_eq] at closed
      obtain ⟨front, cut⟩ := List.getLast?_eq_some_iff.mp closed
      have spelt : base = String.ofList (front ++ ['/']) := by rw [← cut, String.ofList_toList]
      rw [beside, String.toList_append, skipped, spelt]
      simp
    · rw [beside, String.toList_append, skipped]
      simp

-- A step is taken, or it is refused and leaves the tree as it is; what cannot be written whole may
-- leave a part of it in the draft. Only to discard a draft is never refused.
inductive Meets (here : List String) : (c : Call) → Tree → c.Answer → Tree → Prop where
  | taken (c : Call) (t : Tree) :
      Meets here c t (Tree.answerDraft here c t).1 (Tree.answerDraft here c t).2
  | refused {c : Call} (other : ∀ path, c ≠ .discard path) (cause : Cause) (t : Tree) :
      Meets here c t (.error cause) t
  | torn {path place old} {t : Tree} (there : t.find here path = .ok (.file place old))
      (content part : List UInt8) (cause : Cause) :
      Meets here (.fill path content) t (.error cause) (t.insert place (.file part))

theorem create_cases {answer : Except Cause Unit} (met : Meets here (.create draft) t answer u) :
    (∃ cause, answer = .error cause ∧ u = t) ∨
      ∃ place, t.find here draft = .ok (.vacant place) ∧ answer = .ok () ∧ u = t.insert place (.file []) := by
  cases met with
  | refused other cause => exact .inl ⟨cause, rfl, rfl⟩
  | taken =>
      simp only [Tree.answerDraft]
      split
      · exact .inl ⟨_, rfl, rfl⟩
      · rename_i place vacant
        exact .inr ⟨place, vacant, rfl, rfl⟩
      · exact .inl ⟨_, rfl, rfl⟩

theorem fill_cases {answer : Except Cause Unit} {old : List UInt8}
    (there : w.find here draft = .ok (.file place old)) (met : Meets here (.fill draft content) w answer u) :
    (∃ cause, answer = .error cause ∧ (u = w ∨ ∃ part, u = w.insert place (.file part))) ∨
      answer = .ok () ∧ u = w.insert place (.file content) := by
  cases met with
  | refused other cause => exact .inl ⟨cause, rfl, .inl rfl⟩
  | torn found _ part cause =>
      rw [there] at found
      cases found
      exact .inl ⟨cause, rfl, .inr ⟨part, rfl⟩⟩
  | taken => exact .inr (by simp [Tree.answerDraft, there])

theorem rename_cases {answer : Except Cause Unit} (there : w.find here draft = .ok (.file place content))
    (met : Meets here (.rename draft path) w answer u) :
    (∃ cause, answer = .error cause ∧ u = w) ∨
      ∃ other, (w.find here path = .ok (.vacant other) ∨ ∃ old, w.find here path = .ok (.file other old)) ∧
        answer = .ok () ∧ u = (w.erase place).insert other (.file content) := by
  cases met with
  | refused other cause => exact .inl ⟨cause, rfl, rfl⟩
  | taken =>
      cases found : w.find here path with
      | error cause => exact .inl ⟨cause, by simp [Tree.answerDraft, there, found]⟩
      | ok target =>
          cases target with
          | directory other => exact .inl ⟨.isDirectory, by simp [Tree.answerDraft, there, found]⟩
          | vacant other => exact .inr ⟨other, .inl rfl, by simp [Tree.answerDraft, there, found]⟩
          | file other old => exact .inr ⟨other, .inr ⟨old, rfl⟩, by simp [Tree.answerDraft, there, found]⟩

theorem discard_restores {answer : Except Cause Unit} (closed : endsInSeparator draft = false)
    (vacant : t.find here draft = .ok (.vacant place))
    (met : Meets here (.discard draft) (t.insert place (.file part)) answer u) : u = t := by
  obtain ⟨none, below⟩ := Tree.vacant_there vacant
  cases met with
  | refused other => exact absurd rfl (other draft)
  | taken =>
      simp only [Tree.answerDraft, Tree.answer, Tree.find_put closed vacant]
      exact Tree.erase_inserted none below _

-- A file is replaced as a whole, or the tree is as it was.
def Replaced (here : List String) (path : String) (content : List UInt8) (t : Tree)
    (answer : Except Cause Unit) (u : Tree) : Prop :=
  (answer, u) = Tree.answer here (.replace path content) t ∨ (∃ cause, answer = .error cause) ∧ u = t

theorem orDiscard_replaced {step : Call} {next : Script (Except Cause Unit)} {past : List (Exchange Call Call.Answer)}
    (closed : endsInSeparator draft = false) (vacant : t.find here draft = .ok (.vacant place))
    (onward : ∀ answer u, Meets here step w answer u →
      (∃ cause, answer = .error cause ∧ ∃ part, u = t.insert place (.file part)) ∨
        answer = .ok () ∧ ∀ past, next.Throughout (Meets here) (fun _ _ => True)
          (fun answer _ u => Replaced here path content t answer u) past u) :
    (orDiscard draft step next).Throughout (Meets here) (fun _ _ => True)
      (fun answer _ u => Replaced here path content t answer u) past w := by
  refine ⟨trivial, ?_⟩
  intro answer u met
  rcases onward answer u met with ⟨cause, rfl, part, rfl⟩ | ⟨rfl, later⟩
  · refine ⟨trivial, ?_⟩
    intro discarded v met
    exact .inr ⟨⟨cause, rfl⟩, discard_restores closed vacant met⟩
  · exact later _

-- A file has taken the place that it was to take from the start on.
theorem renamed_replaced {other : List String} (vacant : t.find here draft = .ok (.vacant place))
    (target : t.find here path = .ok (.vacant other) ∨ ∃ old, t.find here path = .ok (.file other old)) :
    Replaced here path content t (.ok ())
      (((t.insert place (.file content)).erase place).insert other (.file content)) := by
  obtain ⟨none, below⟩ := Tree.vacant_there vacant
  rw [Tree.erase_inserted none below]
  left
  rcases target with found | ⟨old, found⟩ <;> simp only [Tree.answer, found]

theorem replace_replaced (plain : IsPlain last) (differ : ∀ number, last ≠ nameOf number)
    (numbers : List Nat) (past : List (Exchange Call Call.Answer)) :
    (replace (join base last) content numbers).Throughout (Meets here) (fun _ _ => True)
      (fun answer _ u => Replaced here (join base last) content t answer u) past t := by
  induction numbers generalizing past with
  | nil => exact .inr ⟨⟨_, rfl⟩, rfl⟩
  | cons number others ih =>
      have draftPlain := nameOf_plain number
      have closed : endsInSeparator (join base (nameOf number)) = false := endsInSeparator_join draftPlain
      simp only [replace]
      rw [beside_join plain draftPlain]
      refine ⟨trivial, ?_⟩
      intro answer u met
      rcases create_cases met with ⟨cause, rfl, rfl⟩ | ⟨place, vacant, rfl, rfl⟩
      · cases cause with
        | present => exact ih _
        | _ => exact .inr ⟨⟨_, rfl⟩, rfl⟩
      · apply orDiscard_replaced closed vacant
        intro answer u met
        rcases fill_cases (Tree.find_put closed vacant []) met with ⟨cause, rfl, left⟩ | ⟨rfl, rfl⟩
        · refine .inl ⟨cause, rfl, ?_⟩
          rcases left with rfl | ⟨part, rfl⟩
          · exact ⟨[], rfl⟩
          · exact ⟨part, Tree.insert_again _ _ _ _⟩
        · refine .inr ⟨rfl, fun past => ?_⟩
          rw [Tree.insert_again]
          apply orDiscard_replaced closed vacant
          intro answer u met
          rcases rename_cases (Tree.find_put closed vacant content) met with
            ⟨cause, rfl, rfl⟩ | ⟨other, target, rfl, rfl⟩
          · exact .inl ⟨cause, rfl, content, rfl⟩
          · refine .inr ⟨rfl, fun past => ?_⟩
            apply renamed_replaced vacant
            have sayable : Tree.Sayable (join base last) := by
              rcases target with found | ⟨old, found⟩ <;>
                exact (Tree.locate_some (Tree.locate_of_find found)).1
            rwa [Tree.find_beside plain draftPlain (differ number) vacant sayable] at target

-- What the steps behind the making of a draft come to where nothing is refused.
theorem filled_run (vacant : t.find here draft = .ok (.vacant place)) (closed : endsInSeparator draft = false)
    (beside : (t.insert place (.file content)).find here path = t.find here path) :
    (orDiscard draft (.fill draft content) (orDiscard draft (.rename draft path) (return .ok ()))).run
      (Tree.answerDraft here) (t.insert place (.file [])) = Tree.answer here (.replace path content) t := by
  obtain ⟨none, below⟩ := Tree.vacant_there vacant
  have written := Tree.find_put closed vacant content
  have discarded : (Tree.answerDraft here (.discard draft) (t.insert place (.file content))).2 = t := by
    simp only [Tree.answerDraft, Tree.answer, written]
    exact Tree.erase_inserted none below _
  have renamed : ∀ other, ((t.insert place (.file content)).erase place).insert other (.file content) =
      t.insert other (.file content) := fun other => by rw [Tree.erase_inserted none below]
  simp only [run, orDiscard, Tree.answerDraft, Tree.find_put closed vacant, Tree.insert_again, beside,
    Tree.answer]
  cases t.find here path with
  | error cause => exact Prod.ext rfl discarded
  | ok target =>
      cases target with
      | directory other => exact Prod.ext rfl discarded
      | vacant other => exact Prod.ext rfl (renamed other)
      | file other old => exact Prod.ext rfl (renamed other)

theorem replace_run (plain : IsPlain last) {number : Nat} (differ : last ≠ nameOf number)
    (others : List Nat) (sayable : Tree.Sayable (join base last))
    (vacant : t.find here (join base (nameOf number)) = .ok (.vacant place)) :
    (replace (join base last) content (number :: others)).run (Tree.answerDraft here) t =
      Tree.answer here (.replace (join base last) content) t := by
  have draftPlain := nameOf_plain number
  rw [← filled_run vacant (endsInSeparator_join draftPlain)
    (Tree.find_beside plain draftPlain differ vacant sayable (.file content))]
  simp only [replace]
  rw [beside_join plain draftPlain]
  simp only [run, Tree.answerDraft, vacant]

end Draft

end LinkedKeys.Files
