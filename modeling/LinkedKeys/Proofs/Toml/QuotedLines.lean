import LinkedKeys.Proofs.Toml.Quotations

namespace LinkedKeys.Toml

open Quoted (quote apostrophe backslash isPlain Mode Reading push)
open Statement (isSpace)

def isWhite (c : Char) : Bool := c = ' ' ∨ c = '\t' ∨ c = '\n'

-- No two marks stand in front.
def Apart (mark : Char) (body : List Char) : Prop := ∃ c ∈ body.take 2, c ≠ mark

-- In a text of several lines a backslash can hide a line end, with all the blanks around it.
inductive BasicLines : List Char → List Char → Prop where
  | nil : BasicLines [] []
  | plain {c : Char} {text body : List Char} (visible : c = '\n' ∨ isPlain c = true)
      (unquoted : c ≠ quote) (unescaped : c ≠ backslash) (rest : BasicLines text body) :
      BasicLines (c :: text) (c :: body)
  | mark {text body : List Char} (apart : Apart quote body) (rest : BasicLines text body) :
      BasicLines (quote :: text) (quote :: body)
  | escape {c : Char} {written text body : List Char} (first : Escape c written)
      (rest : BasicLines text body) : BasicLines (c :: text) (backslash :: (written ++ body))
  | folded {gap white text body : List Char} (blanks : Blanks gap)
      (hidden : ∀ c ∈ white, isWhite c = true) (ended : ∀ c, body.head? = some c → isWhite c = false)
      (rest : BasicLines text body) : BasicLines text (backslash :: (gap ++ '\n' :: (white ++ body)))

inductive LiteralLines : List Char → Prop where
  | nil : LiteralLines []
  | plain {c : Char} {text : List Char} (visible : c = '\n' ∨ isPlain c = true)
      (unquoted : c ≠ apostrophe) (rest : LiteralLines text) : LiteralLines (c :: text)
  | mark {text : List Char} (apart : Apart apostrophe text) (rest : LiteralLines text) :
      LiteralLines (apostrophe :: text)

-- A line end right behind the opening marks does not count.
inductive Opens (body : List Char) : List Char → Prop where
  | below : Opens body ('\n' :: body)
  | behind (inside : body.head? ≠ some '\n') : Opens body body

-- Up to two marks may stand in front of the closing ones.
inductive Quotation : List Char → List Char → Prop where
  | oneLine {text written : List Char} (spelled : OneLine text written) : Quotation text written
  | basicLines {text body opened : List Char} {few : Nat} (opens : Opens body opened)
      (spelled : BasicLines text body) (most : few ≤ 2) :
      Quotation (text ++ List.replicate few quote)
        (List.replicate 3 quote ++ (opened ++ List.replicate (few + 3) quote))
  | literalLines {text opened : List Char} {few : Nat} (opens : Opens text opened)
      (spelled : LiteralLines text) (most : few ≤ 2) :
      Quotation (text ++ List.replicate few apostrophe)
        (List.replicate 3 apostrophe ++ (opened ++ List.replicate (few + 3) apostrophe))

variable {text rest cs body written : List Char} {c : Char}

theorem closing_pair (mark : Char) (rest : List Char) : Quoted.closing mark (mark :: mark :: rest) =
    match rest with
    | e :: f :: more =>
        if e = mark ∧ f = mark then some ([e, f], more)
        else if e = mark then some ([e], f :: more)
        else some ([], rest)
    | [e] => if e = mark then some ([e], []) else some ([], rest)
    | [] => some ([], []) := by
  rw [Quoted.closing.eq_def]
  exact if_pos ⟨rfl, rfl⟩

theorem closing_other {mark c d : Char} (other : ¬(c = mark ∧ d = mark)) (rest : List Char) :
    Quoted.closing mark (c :: d :: rest) = none := by
  rw [Quoted.closing.eq_def]
  exact if_neg other

theorem closing_two {mark : Char} (other : rest.head? ≠ some mark) :
    Quoted.closing mark (mark :: mark :: rest) = some ([], rest) := by
  rw [closing_pair]
  rcases rest with _ | ⟨c, _ | ⟨d, rest⟩⟩
  · rfl
  all_goals
    have unmarked : c ≠ mark := fun same => other (by rw [same]; rfl)
    simp [unmarked]

theorem closing_three {mark : Char} (other : rest.head? ≠ some mark) :
    Quoted.closing mark (mark :: mark :: mark :: rest) = some ([mark], rest) := by
  rw [closing_pair]
  cases rest with
  | nil => simp
  | cons c rest =>
      have unmarked : c ≠ mark := fun same => other (by rw [same]; rfl)
      simp [unmarked]

theorem closing_four (mark : Char) (rest : List Char) :
    Quoted.closing mark (mark :: mark :: mark :: mark :: rest) = some ([mark, mark], rest) := by
  rw [closing_pair]
  simp

theorem closing_marks {mark : Char} {few : Nat} (most : few ≤ 2) (other : rest.head? ≠ some mark) :
    Quoted.closing mark (List.replicate (few + 2) mark ++ rest) =
      some (List.replicate few mark, rest) := by
  match few, most with
  | 0, _ => exact closing_two other
  | 1, _ => exact closing_three other
  | 2, _ => exact closing_four mark rest

theorem closing_inverse {mark : Char} (closes : Quoted.closing mark cs = some (text, rest)) :
    ∃ few ≤ 2, text = List.replicate few mark ∧ cs = List.replicate (few + 2) mark ++ rest := by
  rcases cs with _ | ⟨c, _ | ⟨d, cs⟩⟩
  · cases closes
  · cases closes
  by_cases marked : c = mark ∧ d = mark
  · rw [marked.1, marked.2] at closes ⊢
    by_cases third : cs.head? = some mark
    · obtain ⟨cs, rfl⟩ := List.head?_eq_some_iff.mp third
      by_cases fourth : cs.head? = some mark
      · obtain ⟨cs, rfl⟩ := List.head?_eq_some_iff.mp fourth
        rw [closing_four] at closes
        cases closes
        exact ⟨2, by decide, rfl, rfl⟩
      · rw [closing_three fourth] at closes
        cases closes
        exact ⟨1, by decide, rfl, rfl⟩
    · rw [closing_two third] at closes
      cases closes
      exact ⟨0, by decide, rfl, rfl⟩
  · rw [closing_other marked] at closes
    cases closes

theorem closing_apart {mark : Char} (apart : Apart mark body) (behind : List Char) :
    Quoted.closing mark (body ++ behind) = none := by
  cases closes : Quoted.closing mark (body ++ behind) with
  | none => rfl
  | some r =>
      obtain ⟨few, -, -, same⟩ := closing_inverse closes
      obtain ⟨c, among, other⟩ := apart
      have front : c ∈ (body ++ behind).take 2 := by
        rw [List.take_append]
        exact List.mem_append_left _ among
      rw [same] at front
      have marks : (List.replicate (few + 2) mark ++ r.2).take 2 = [mark, mark] := rfl
      rw [marks] at front
      simp [other] at front

-- In front of closing marks, marks that close nothing stand apart.
theorem apart_unclosed {mark : Char} {behind : List Char}
    (unclosed : Quoted.closing mark (body ++ mark :: mark :: mark :: behind) = none) :
    Apart mark body := by
  have closes : ∀ cs, Quoted.closing mark (mark :: mark :: cs) ≠ none := by
    intro cs
    rw [closing_pair]
    rcases cs with _ | ⟨e, _ | ⟨f, cs⟩⟩
    · exact nofun
    · dsimp only
      split <;> exact nofun
    · dsimp only
      split
      · exact nofun
      · split <;> exact nofun
  rcases body with _ | ⟨c, _ | ⟨d, body⟩⟩
  · exact absurd unclosed (closes _)
  · refine ⟨c, List.mem_cons_self, ?_⟩
    rintro rfl
    exact closes _ unclosed
  · by_cases same : c = mark
    · refine ⟨d, List.mem_cons_of_mem _ List.mem_cons_self, ?_⟩
      rintro rfl
      rw [same] at unclosed
      exact closes _ unclosed
    · exact ⟨c, List.mem_cons_self, same⟩

theorem basicLines_escapes : Escapes Quoted.basicLines where
  ends _ := by rw [Quoted.basicLines]
  digit left size c cs := (Quoted.basicLines.eq_def (.hex left size) (c :: cs)).trans rfl
  short _ := by rw [Quoted.basicLines, if_pos rfl]
  long _ := by rw [Quoted.basicLines, if_neg (by decide), if_pos rfl]
  letter := by
    intro mark e cs named
    have unblank : ¬(mark = ' ' ∨ mark = '\t') :=
      not_or.mpr ⟨letter_other named rfl, letter_other named rfl⟩
    rw [Quoted.basicLines, if_neg (letter_other named rfl), if_neg (letter_other named rfl),
      if_neg (letter_other named rfl), if_neg unblank, named]

theorem basicLines_plain (c : Char) (cs : List Char) : Quoted.basicLines .plain (c :: cs) =
    if c = quote then
      match Quoted.closing quote cs with
      | some end_ => some end_
      | none => push c (Quoted.basicLines .plain cs)
    else if c = backslash then Quoted.basicLines .escape cs
    else if c = '\n' ∨ isPlain c then push c (Quoted.basicLines .plain cs)
    else none := by
  rw [Quoted.basicLines.eq_def]
  rfl

theorem isWhite_iff : isWhite c = true ↔ c = ' ' ∨ c = '\t' ∨ c = '\n' := decide_eq_true_iff

theorem basicLines_folded (cs : List Char) :
    Quoted.basicLines .folded cs = Quoted.basicLines .plain (cs.dropWhile isWhite) := by
  induction cs with
  | nil => rw [basicLines_escapes.ends, List.dropWhile_nil, basicLines_escapes.ends]
  | cons c cs ih =>
      rw [List.dropWhile_cons, Quoted.basicLines.eq_def]
      dsimp only
      by_cases white : isWhite c = true
      · rw [if_pos ⟨rfl, isWhite_iff.mp white⟩, if_pos white, ih]
      · rw [if_neg fun hidden => white (isWhite_iff.mpr hidden.2), if_neg white]
        exact (basicLines_plain c cs).symm

theorem basicLines_gap (c : Char) (cs : List Char) : Quoted.basicLines .gap (c :: cs) =
    if c = '\n' then Quoted.basicLines .folded cs
    else if isSpace c then Quoted.basicLines .gap cs
    else none := by
  rw [Quoted.basicLines.eq_def]
  simp only [isSpace_iff]

theorem basicLines_hidden (white : isWhite c = true) (cs : List Char) :
    Quoted.basicLines .escape (c :: cs) = Quoted.basicLines .gap (c :: cs) := by
  rcases isWhite_iff.mp white with rfl | rfl | rfl <;> rw [Quoted.basicLines, Quoted.basicLines] <;> rfl

theorem gap_reads {gap : List Char} (blanks : Blanks gap) (behind : List Char) :
    Quoted.basicLines .gap (gap ++ '\n' :: behind) = Quoted.basicLines .folded behind := by
  induction gap with
  | nil => rw [List.nil_append, basicLines_gap, if_pos rfl]
  | cons c gap ih =>
      obtain ⟨blank, more⟩ := List.forall_mem_cons.mp blanks
      have other : c ≠ '\n' := by
        rintro rfl
        cases blank
      rw [List.cons_append, basicLines_gap, if_neg other, if_pos blank]
      exact ih more

theorem gap_inverse {r : List Char × List Char} (reads : Quoted.basicLines .gap cs = some r) :
    ∃ gap behind, (Blanks gap) ∧ cs = gap ++ '\n' :: behind ∧
      Quoted.basicLines .folded behind = some r := by
  induction cs with
  | nil =>
      rw [basicLines_escapes.ends] at reads
      cases reads
  | cons c cs ih =>
      rw [basicLines_gap] at reads
      split at reads
      · rename_i here
        exact ⟨[], cs, nofun, by rw [here]; rfl, reads⟩
      split at reads
      · rename_i blank
        obtain ⟨gap, behind, blanks, rfl, read⟩ := ih reads
        exact ⟨c :: gap, behind, List.forall_mem_cons.mpr ⟨blank, blanks⟩, rfl, read⟩
      · cases reads

theorem basicLines_known {r : List Char × List Char} (shown : ¬isWhite c = true)
    (reads : Quoted.basicLines .escape (c :: cs) = some r) :
    c = 'u' ∨ c = 'U' ∨ ∃ e, Quoted.escaped c = some e := by
  rw [Quoted.basicLines] at reads
  split at reads
  · exact .inl ‹_›
  split at reads
  · exact .inr (.inl ‹_›)
  split at reads
  · rename_i line
    exact absurd (isWhite_iff.mpr (.inr (.inr line))) shown
  split at reads
  · rename_i blank
    exact absurd (isWhite_iff.mpr (blank.imp_right .inl)) shown
  split at reads
  · exact .inr (.inr ⟨_, ‹_›⟩)
  · cases reads

theorem fold_read {gap white : List Char} (blanks : Blanks gap)
    (hidden : ∀ c ∈ white, isWhite c = true) (behind : List Char) :
    Quoted.basicLines .escape (gap ++ '\n' :: (white ++ behind)) =
      Quoted.basicLines .folded behind := by
  have enters : ∃ c cs, isWhite c = true ∧ gap ++ '\n' :: (white ++ behind) = c :: cs := by
    cases gap with
    | nil => exact ⟨'\n', _, rfl, rfl⟩
    | cons c gap =>
        have blank := isSpace_iff.mp (blanks c List.mem_cons_self)
        exact ⟨c, _, isWhite_iff.mpr (blank.imp_right .inl), rfl⟩
  obtain ⟨c, cs, shown, same⟩ := enters
  rw [same, basicLines_hidden shown, ← same, gap_reads blanks, basicLines_folded, basicLines_folded,
    List.dropWhile_append_of_pos hidden]

theorem fold_inverse (hides : isWhite c = true)
    (reads : Quoted.basicLines .escape (c :: cs) = some (text, rest)) : ∃ gap white behind,
      Blanks gap ∧ (∀ d ∈ white, isWhite d = true) ∧
        (∀ d, behind.head? = some d → isWhite d = false) ∧
          c :: cs = gap ++ '\n' :: (white ++ behind) ∧
            Quoted.basicLines .plain behind = some (text, rest) ∧ behind.length ≤ (c :: cs).length := by
  rw [basicLines_hidden hides] at reads
  obtain ⟨gap, behind, blanks, same, read⟩ := gap_inverse reads
  rw [basicLines_folded] at read
  refine ⟨gap, behind.takeWhile isWhite, behind.dropWhile isWhite, blanks,
    fun d among => List.mem_takeWhile_imp among, fun d first => ?_, ?_, read, ?_⟩
  · have stops := List.head?_dropWhile_not isWhite behind
    rw [first] at stops
    exact stops
  · rw [List.takeWhile_append_dropWhile, same]
  · have fewer := List.length_dropWhile_le isWhite behind
    rw [same, List.length_append, List.length_cons]
    omega

-- The marks that close a text of several lines, with those in front that belong to it.
theorem replicate_more (few : Nat) (mark : Char) (rest : List Char) :
    List.replicate (few + 3) mark ++ rest = mark :: (List.replicate (few + 2) mark ++ rest) := rfl

theorem basicLines_read (spelled : BasicLines text body) {few : Nat} (most : few ≤ 2)
    (other : rest.head? ≠ some quote) :
    Quoted.basicLines .plain (body ++ (List.replicate (few + 3) quote ++ rest)) =
      some (text ++ List.replicate few quote, rest) := by
  induction spelled with
  | nil => rw [List.nil_append, replicate_more, basicLines_plain, if_pos rfl, closing_marks most other]; rfl
  | plain visible unquoted unescaped later ih =>
      rw [List.cons_append, basicLines_plain, if_neg unquoted, if_neg unescaped, if_pos visible, ih]
      rfl
  | mark apart later ih =>
      rw [List.cons_append, basicLines_plain, if_pos rfl, closing_apart apart, ih]
      rfl
  | escape first later ih =>
      rw [List.cons_append, List.append_assoc, basicLines_plain, if_neg (by decide), if_pos rfl,
        basicLines_escapes.reads first, ih]
      rfl
  | @folded gap white text body blanks hidden ended later ih =>
      rw [List.cons_append, List.append_assoc, List.cons_append, List.append_assoc, basicLines_plain,
        if_neg (by decide), if_pos rfl, fold_read blanks hidden, ← ih, basicLines_folded]
      congr 1
      cases body with
      | nil => exact List.dropWhile_cons_of_neg (by decide)
      | cons c body => exact List.dropWhile_cons_of_neg (by rw [ended c rfl]; decide)

-- A text of several lines, with the marks that close it and the few in front that belong to it.
def Closed (text cs rest : List Char) : Prop :=
  ∃ before body few, few ≤ 2 ∧ BasicLines before body ∧ text = before ++ List.replicate few quote ∧
    cs = body ++ (List.replicate (few + 3) quote ++ rest)

theorem closed_front {front spelling : List Char} (closed : Closed text cs rest)
    (spells : ∀ before body marks, cs = body ++ quote :: quote :: quote :: marks →
      BasicLines before body → BasicLines (front ++ before) (spelling ++ body)) :
    Closed (front ++ text) (spelling ++ cs) rest := by
  obtain ⟨before, body, few, most, spelled, rfl, rfl⟩ := closed
  refine ⟨front ++ before, spelling ++ body, few, most, spells before body _ rfl spelled, ?_, ?_⟩
  · rw [List.append_assoc]
  · rw [List.append_assoc]

theorem mark_closed (reads : Quoted.basicLines .plain (quote :: cs) = some (text, rest))
    (later : ∀ more, Quoted.basicLines .plain cs = some (more, rest) → Closed more cs rest) :
    Closed text (quote :: cs) rest := by
  rw [basicLines_plain, if_pos rfl] at reads
  cases closes : Quoted.closing quote cs with
  | some r =>
      rw [closes] at reads
      cases reads
      obtain ⟨few, most, marks, rfl⟩ := closing_inverse closes
      exact ⟨[], [], few, most, .nil, marks, rfl⟩
  | none =>
      rw [closes] at reads
      obtain ⟨more, rfl, read⟩ := push_iff.mp reads
      have spells : ∀ before body marks, cs = body ++ quote :: quote :: quote :: marks →
          BasicLines before body → BasicLines ([quote] ++ before) ([quote] ++ body) := by
        intro before body marks same spelled
        rw [same] at closes
        exact .mark (apart_unclosed closes) spelled
      exact closed_front (later more read) spells

-- Behind a backslash stands a line end that it hides, among blanks, or a character that is spelt out.
theorem escape_closed (reads : Quoted.basicLines .escape cs = some (text, rest))
    (later : ∀ behind more, behind.length ≤ cs.length →
      Quoted.basicLines .plain behind = some (more, rest) → Closed more behind rest) :
    Closed text (backslash :: cs) rest := by
  cases cs with
  | nil =>
      rw [basicLines_escapes.ends] at reads
      cases reads
  | cons d cs =>
      by_cases hides : isWhite d = true
      · obtain ⟨gap, white, behind, blanks, hidden, ends, same, read, fewer⟩ := fold_inverse hides reads
        have spells : ∀ before body marks, behind = body ++ quote :: quote :: quote :: marks →
            BasicLines before body →
              BasicLines ([] ++ before) ((backslash :: (gap ++ '\n' :: white)) ++ body) := by
          intro before body marks parts spelled
          have ended : ∀ c, body.head? = some c → isWhite c = false := by
            intro c first
            apply ends
            rw [parts, List.head?_append, first]
            rfl
          rw [List.cons_append, List.append_assoc]
          exact .folded blanks hidden ended spelled
        have closed := closed_front (later behind text fewer read) spells
        rw [List.cons_append, List.append_assoc] at closed
        rw [same]
        exact closed
      · obtain ⟨written, behind, e, more, first, same, rfl, read, fewer⟩ :=
          basicLines_escapes.step (basicLines_known hides reads) reads
        have spells : ∀ before body marks, behind = body ++ quote :: quote :: quote :: marks →
            BasicLines before body → BasicLines ([e] ++ before) ((backslash :: written) ++ body) :=
          fun _ _ _ _ spelled => .escape first spelled
        rw [same]
        exact closed_front (later behind more fewer read) spells

theorem basicLines_inverse (reads : Quoted.basicLines .plain cs = some (text, rest)) :
    Closed text cs rest := by
  generalize size : cs.length = n
  induction n using Nat.strongRecOn generalizing cs text with
  | _ n ih =>
    cases cs with
    | nil =>
        rw [basicLines_escapes.ends] at reads
        cases reads
    | cons c cs =>
        subst size
        have later : ∀ behind more, behind.length ≤ cs.length →
            Quoted.basicLines .plain behind = some (more, rest) → Closed more behind rest :=
          fun _ _ fewer read => ih _ (Nat.lt_succ_of_le fewer) read rfl
        by_cases marked : c = quote
        · subst marked
          exact mark_closed reads fun more => later cs more (Nat.le_refl _)
        rw [basicLines_plain, if_neg marked] at reads
        split at reads
        · rename_i escapes
          rw [escapes]
          exact escape_closed reads later
        split at reads
        · rename_i unescaped visible
          obtain ⟨more, rfl, read⟩ := push_iff.mp reads
          have spells : ∀ before body marks, cs = body ++ quote :: quote :: quote :: marks →
              BasicLines before body → BasicLines ([c] ++ before) ([c] ++ body) :=
            fun _ _ _ _ spelled => .plain visible marked unescaped spelled
          exact closed_front (later cs more (Nat.le_refl _) read) spells
        · cases reads

theorem literalLines_read (spelled : LiteralLines text) {few : Nat} (most : few ≤ 2)
    (other : rest.head? ≠ some apostrophe) :
    Quoted.literalLines (text ++ (List.replicate (few + 3) apostrophe ++ rest)) =
      some (text ++ List.replicate few apostrophe, rest) := by
  induction spelled with
  | nil =>
      rw [List.nil_append, replicate_more, Quoted.literalLines, if_pos rfl, closing_marks most other]
      rfl
  | plain visible unquoted later ih =>
      rw [List.cons_append, Quoted.literalLines, if_neg unquoted, if_pos visible, ih]
      rfl
  | mark apart later ih =>
      rw [List.cons_append, Quoted.literalLines, if_pos rfl, closing_apart apart, ih]
      rfl

theorem literalLines_inverse (reads : Quoted.literalLines cs = some (text, rest)) :
    ∃ before few, few ≤ 2 ∧ LiteralLines before ∧ text = before ++ List.replicate few apostrophe ∧
      cs = before ++ (List.replicate (few + 3) apostrophe ++ rest) := by
  induction cs generalizing text with
  | nil =>
      rw [Quoted.literalLines] at reads
      cases reads
  | cons c cs ih =>
      rw [Quoted.literalLines] at reads
      split at reads
      · rename_i here
        cases closes : Quoted.closing apostrophe cs with
        | some r =>
            rw [closes] at reads
            cases reads
            obtain ⟨few, most, marks, rfl⟩ := closing_inverse closes
            exact ⟨[], few, most, .nil, marks, by rw [here]; rfl⟩
        | none =>
            rw [closes] at reads
            obtain ⟨later, rfl, read⟩ := push_iff.mp reads
            obtain ⟨before, few, most, spelled, rfl, rfl⟩ := ih read
            exact ⟨c :: before, few, most, here ▸ .mark (apart_unclosed closes) spelled, rfl, rfl⟩
      split at reads
      · rename_i unquoted visible
        obtain ⟨later, rfl, read⟩ := push_iff.mp reads
        obtain ⟨before, few, most, spelled, rfl, rfl⟩ := ih read
        exact ⟨c :: before, few, most, .plain visible unquoted spelled, rfl, rfl⟩
      · cases reads

theorem behindOpening_other (other : cs.head? ≠ some '\n') : Quoted.behindOpening cs = cs := by
  rw [Quoted.behindOpening.eq_def]
  split
  · exact absurd rfl other
  · rfl

theorem opens_read {opened behind : List Char} (opens : Opens body opened)
    (other : behind.head? ≠ some '\n') : Quoted.behindOpening (opened ++ behind) = body ++ behind := by
  cases opens with
  | below => rfl
  | behind inside =>
      apply behindOpening_other
      cases body with
      | nil => exact other
      | cons c body => exact inside

theorem opens_inverse {behind : List Char} (same : Quoted.behindOpening cs = body ++ behind) :
    ∃ opened, Opens body opened ∧ cs = opened ++ behind := by
  by_cases below : cs.head? = some '\n'
  · obtain ⟨later, rfl⟩ := List.head?_eq_some_iff.mp below
    have kept : later = body ++ behind := same
    exact ⟨_, .below, by rw [kept]; rfl⟩
  · rw [behindOpening_other below] at same
    refine ⟨body, .behind fun inside => below ?_, same⟩
    rw [same, List.head?_append, inside]
    rfl

theorem basic_head (spelled : Basic text body) : body.head? ≠ some quote := by
  cases spelled with
  | nil => exact nofun
  | plain visible unquoted => exact fun same => unquoted (Option.some.inj same)
  | escape => exact nofun

theorem literal_head (plain : Literal text) : text.head? ≠ some apostrophe := by
  intro same
  exact (plain _ (List.mem_of_head? same)).2 rfl

theorem take_marks {mark : Char} (inside : body.head? ≠ some mark) (behind : rest.head? ≠ some mark) :
    (mark :: (body ++ mark :: rest)).take 3 ≠ [mark, mark, mark] := by
  intro same
  rcases body with _ | ⟨c, body⟩
  · rcases rest with _ | ⟨d, rest⟩
    · cases same
    · cases same
      exact behind rfl
  · have first : c = mark := (List.cons.inj (List.cons.inj same).2).1
    exact inside (congrArg some first)

-- Any two of the four notations are told apart by what they begin with.
theorem read_quotation (spelled : Quotation text written)
    (apart : ∀ mark ∈ [quote, apostrophe], rest.head? ≠ some mark) :
    Quoted.read (written ++ rest) = some (text, rest) := by
  have unquoted := apart quote (by simp)
  have unmarked := apart apostrophe (by simp)
  cases spelled with
  | oneLine spelled =>
      have reads : Quoted.onOneLine (written ++ rest) = some (text, rest) :=
        oneLine_iff.mpr ⟨written, spelled, rfl⟩
      rw [Quoted.read, if_neg, if_neg]
      · exact reads
      · cases spelled with
        | basic => exact fun same => absurd (List.cons.inj same).1 (by decide)
        | literal plain =>
            rw [List.cons_append, List.append_assoc]
            exact take_marks (literal_head plain) unmarked
      · cases spelled with
        | basic spelled =>
            rw [List.cons_append, List.append_assoc]
            exact take_marks (basic_head spelled) unquoted
        | literal => exact fun same => absurd (List.cons.inj same).1 (by decide)
  | @basicLines text body opened few opens spelled most =>
      have marks : (List.replicate 3 quote ++ (opened ++ List.replicate (few + 3) quote) ++ rest).take 3 =
          [quote, quote, quote] := rfl
      have behind : (List.replicate 3 quote ++ (opened ++ List.replicate (few + 3) quote) ++ rest).drop 3 =
          opened ++ (List.replicate (few + 3) quote ++ rest) := List.append_assoc opened _ rest
      have other : (List.replicate (few + 3) quote ++ rest).head? ≠ some '\n' :=
        fun same => absurd (Option.some.inj same) (by decide)
      rw [Quoted.read, if_pos marks, behind, opens_read opens other, basicLines_read spelled most unquoted]
  | @literalLines text opened few opens spelled most =>
      have other : (List.replicate (few + 3) apostrophe ++ rest).head? ≠ some '\n' :=
        fun same => absurd (Option.some.inj same) (by decide)
      have behind : (List.replicate 3 apostrophe ++
          (opened ++ List.replicate (few + 3) apostrophe) ++ rest).drop 3 =
            opened ++ (List.replicate (few + 3) apostrophe ++ rest) := List.append_assoc opened _ rest
      rw [Quoted.read, if_neg, if_pos, behind, opens_read opens other,
        literalLines_read spelled most unmarked]
      · rfl
      · exact fun same => absurd (List.cons.inj same).1 (by decide)

theorem quotation_read (reads : Quoted.read cs = some (text, rest)) :
    ∃ written, Quotation text written ∧ cs = written ++ rest := by
  rw [Quoted.read] at reads
  split at reads
  · rename_i marks
    obtain ⟨before, body, few, most, spelled, rfl, same⟩ := basicLines_inverse reads
    obtain ⟨opened, opens, behind⟩ := opens_inverse same
    refine ⟨_, .basicLines opens spelled most, ?_⟩
    rw [List.append_assoc, List.append_assoc, ← behind]
    exact (List.take_append_drop 3 cs).symm.trans (congrArg (· ++ cs.drop 3) marks)
  split at reads
  · rename_i marks
    obtain ⟨before, few, most, spelled, rfl, same⟩ := literalLines_inverse reads
    obtain ⟨opened, opens, behind⟩ := opens_inverse same
    refine ⟨_, .literalLines opens spelled most, ?_⟩
    rw [List.append_assoc, List.append_assoc, ← behind]
    exact (List.take_append_drop 3 cs).symm.trans (congrArg (· ++ cs.drop 3) marks)
  · obtain ⟨written, spelled, rfl⟩ := oneLine_iff.mp reads
    exact ⟨written, .oneLine spelled, rfl⟩

end LinkedKeys.Toml
