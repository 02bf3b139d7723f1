import LinkedKeys.Proofs.Web.KeysUrl
import LinkedKeys.Settings.Config

namespace LinkedKeys.Web

open Control (IsName)

variable {cs tail : List Char} {scheme rest name : String} {c : Char} {url : Url}

-- A slash, or the backslash that is taken for one.
def isSeparator (c : Char) : Bool := c = '/' || c = '\x5c'

def endsAuthority (c : Char) : Bool := isSeparator c || c = '?' || c = '#'

-- `cs` stands behind the colon of a scheme. However many separators there are, they are skipped.
def authorityText (cs : List Char) : List Char :=
  (cs.dropWhile isSeparator).takeWhile fun c => !endsAuthority c

-- What is looked at when an authority and a path are read.
def placeText (cs : List Char) : List Char :=
  (Text.cut '?' (Text.cut '#' cs).1).1.map fun c => if c = '\x5c' then '/' else c

theorem separator_cases (separator : isSeparator c = true) : c = '/' ∨ c = '\x5c' := by
  simpa [isSeparator] using separator

theorem placeText_separator (separator : isSeparator c = true) :
    placeText (c :: cs) = '/' :: placeText cs := by
  rcases separator_cases separator with rfl | rfl <;> rfl

theorem placeText_end (ends : endsAuthority c = true) (other : isSeparator c = false) :
    placeText (c :: cs) = [] := by
  have marks : c = '?' ∨ c = '#' := by simpa [endsAuthority, other] using ends
  rcases marks with rfl | rfl <;> rfl

theorem placeText_inside (inside : endsAuthority c = false) : placeText (c :: cs) = c :: placeText cs := by
  have other : isSeparator c = false ∧ c ≠ '?' ∧ c ≠ '#' := by
    simpa [endsAuthority, and_assoc] using inside
  have backslash : c ≠ '\x5c' := by
    rintro rfl
    exact absurd other.1 (by decide)
  simp [placeText, Text.cut, other.2.1, other.2.2, backslash]

-- A text is in front of another that ends with it or goes on behind a slash.
def Fronts (front cs : List Char) : Prop := cs = front ∨ ∃ more, cs = front ++ '/' :: more

theorem placeText_front (cs : List Char) :
    Fronts (cs.takeWhile fun c => !endsAuthority c) (placeText cs) := by
  induction cs with
  | nil => exact .inl rfl
  | cons c cs ih =>
      cases ends : endsAuthority c with
      | false =>
          rw [List.takeWhile_cons_of_pos (by simp [ends]), placeText_inside ends]
          rcases ih with same | ⟨more, same⟩
          · exact .inl (by rw [same])
          · exact .inr ⟨more, by rw [same, List.cons_append]⟩
      | true =>
          rw [List.takeWhile_cons_of_neg (by simp [ends])]
          cases separator : isSeparator c with
          | true => exact .inr ⟨_, placeText_separator separator⟩
          | false => exact .inl (placeText_end ends separator)

theorem placeText_authority (cs : List Char) :
    Fronts (authorityText cs) ((placeText cs).dropWhile (· = '/')) := by
  induction cs with
  | nil => exact .inl rfl
  | cons c cs ih =>
      cases separator : isSeparator c with
      | true =>
          rw [authorityText, List.dropWhile_cons_of_pos separator, placeText_separator separator]
          exact ih
      | false =>
          have first : ((placeText (c :: cs)).dropWhile (· = '/')) = placeText (c :: cs) := by
            cases ends : endsAuthority c with
            | true => rw [placeText_end ends separator]; rfl
            | false =>
                have other : c ≠ '/' := by
                  rintro rfl
                  cases separator
                rw [placeText_inside ends, List.dropWhile_cons_of_neg (by simpa using other)]
          rw [first, authorityText, List.dropWhile_cons_of_neg (by simp [separator])]
          exact placeText_front (c :: cs)

theorem authorityText_unparted (cs : List Char) : Url.Unparted (authorityText cs) := by
  constructor <;> exact fun there => absurd (List.mem_takeWhile_imp there) (by decide)

-- What is read of an authority is the same with a path behind it and without.
theorem authorityOf_fronts {front : List Char} (unparted : Url.Unparted front) (fronts : Fronts front cs) :
    (Url.authorityOf scheme cs).map (·.1) = (Url.authorityOf scheme front).map (·.1) := by
  rcases fronts with rfl | ⟨more, rfl⟩
  · rfl
  · rw [Url.authorityOf_slash unparted, Option.map_map]
    rfl

theorem schemeOf_known (known : scheme = "http" ∨ scheme = "https") (cs : List Char) :
    Url.schemeOf (scheme.toList ++ ':' :: cs) = some (scheme, cs) := by
  rcases known with rfl | rfl <;> rfl

theorem placeOf_known (known : scheme = "http" ∨ scheme = "https") (cs : List Char) :
    Url.placeOf scheme (Text.cut '?' (Text.cut '#' cs).1).1 = Url.placeOfKnown scheme (placeText cs) := by
  rcases known with rfl | rfl <;> rfl

theorem placeOfKnown_authority (cs : List Char) :
    (Url.placeOfKnown scheme (placeText cs)).map (·.1) =
      (Url.authorityOf scheme (authorityText cs)).map fun found => some found.1 := by
  have read : (Url.authorityOf scheme ((placeText cs).dropWhile (· = '/'))).map (·.1) = _ :=
    authorityOf_fronts (authorityText_unparted cs) (placeText_authority cs)
  have same := congrArg (Option.map some) read
  simp only [Option.map_map] at same
  refine Eq.trans ?_ same
  rw [Url.placeOfKnown]
  cases Url.authorityOf scheme ((placeText cs).dropWhile (· = '/')) <;> rfl

-- The scheme and the authority of an address, from its text.
theorem ofText_authority (known : scheme = "http" ∨ scheme = "https")
    (back : ∃ front c, cs = front ++ [c] ∧ 0x20 < c.toNat) :
    (Url.ofText (String.ofList (scheme.toList ++ ':' :: cs))).map (fun url => (url.scheme, url.authority)) =
      (Url.authorityOf scheme (authorityText (kept cs))).map fun found => (scheme, some found.1) := by
  have clean : Url.trimmed (scheme.toList ++ ':' :: cs) = scheme.toList ++ ':' :: kept cs := by
    obtain ⟨front, last, rfl, code⟩ := back
    rw [trimmed_closed]
    · rcases known with rfl | rfl <;> rfl
    · rcases known with rfl | rfl <;> exact ⟨'h', _, rfl, by decide⟩
    · exact ⟨scheme.toList ++ ':' :: front, last, by simp, code⟩
  have placed : Option.map (Prod.mk scheme) ((Url.placeOfKnown scheme _).map (·.1)) = _ :=
    congrArg (Option.map (Prod.mk scheme)) (placeOfKnown_authority (kept cs))
  simp only [Option.map_map] at placed
  refine Eq.trans ?_ placed
  simp only [Url.ofText, String.toList_ofList, clean, schemeOf_known known, Option.bind_eq_bind,
    Option.bind_some, placeOf_known known]
  cases Url.placeOfKnown scheme (placeText (kept cs)) <;> rfl

theorem trimSlashes_split (cs : List Char) : ∃ n, cs = trimSlashes cs ++ List.replicate n '/' := by
  have slashes : ∀ c ∈ cs.reverse.takeWhile (· = '/'), c = '/' := fun c there => by
    simpa using List.mem_takeWhile_imp there
  refine ⟨(cs.reverse.takeWhile (· = '/')).length, ?_⟩
  have parts := congrArg List.reverse (List.takeWhile_append_dropWhile (p := (· = '/')) (l := cs.reverse))
  rw [List.reverse_append, List.reverse_reverse, List.eq_replicate_of_mem slashes,
    List.reverse_replicate] at parts
  exact parts.symm

theorem trimSlashes_front {front : List Char} (some : ∃ c ∈ cs, c ≠ '/') :
    trimSlashes (front ++ cs) = front ++ trimSlashes cs := by
  have left : cs.reverse.dropWhile (· = '/') ≠ [] := by
    intro none
    obtain ⟨c, there, other⟩ := some
    have same := List.dropWhile_eq_nil_iff.mp none c (List.mem_reverse.mpr there)
    exact other (by simpa using same)
  rw [trimSlashes, List.reverse_append, List.dropWhile_append, if_neg (by simpa using left)]
  simp [trimSlashes]

theorem trimSlashes_after {front : List Char} (closed : front.getLast? ≠ some '/') :
    trimSlashes (front ++ cs) = front ++ trimSlashes cs := by
  by_cases some : ∃ c ∈ cs, c ≠ '/'
  · exact trimSlashes_front some
  · have all : ∀ c ∈ cs, c = '/' := by simpa using some
    rw [List.eq_replicate_of_mem all, trimSlashes_replicate closed]
    have bare : trimSlashes ([] ++ List.replicate cs.length '/') = [] :=
      trimSlashes_replicate (by simp) cs.length
    rw [List.nil_append] at bare
    rw [bare, List.append_nil]

theorem authorityText_more (some : ∃ c ∈ cs, isSeparator c = false) :
    authorityText (cs ++ '/' :: tail) = authorityText cs := by
  have left : cs.dropWhile isSeparator ≠ [] := by
    intro none
    obtain ⟨c, there, other⟩ := some
    rw [List.dropWhile_eq_nil_iff.mp none c there] at other
    cases other
  rw [authorityText, List.dropWhile_append, if_neg (by simpa using left), Url.takeWhile_slash (by decide),
    authorityText]

theorem authorityText_skipped (all : ∀ c ∈ cs, isSeparator c = true) :
    authorityText (cs ++ tail) = authorityText tail := by
  rw [authorityText, List.dropWhile_append_of_pos all, authorityText]

theorem authorityText_leaf (named : IsName name) : authorityText ('/' :: leaf name) = leaf name := by
  have inside : ∀ c ∈ leaf name, endsAuthority c = false := by
    intro c there
    have is := leaf_chars named c there
    have slash : c ≠ '/' := nameChar_other is (by decide)
    have backslash : c ≠ '\x5c' := nameChar_other is (by decide)
    have question : c ≠ '?' := nameChar_other is (by decide)
    have number : c ≠ '#' := nameChar_other is (by decide)
    simp [endsAuthority, isSeparator, slash, backslash, question, number]
  have whole : (leaf name).dropWhile isSeparator = leaf name := by
    cases cut : leaf name with
    | nil => rfl
    | cons c cs =>
        have first := inside c (cut ▸ List.mem_cons_self)
        simp only [endsAuthority, Bool.or_eq_false_iff] at first
        exact List.dropWhile_cons_of_neg (by simp [first.1.1])
  have skipped : authorityText (['/'] ++ leaf name) = authorityText (leaf name) :=
    authorityText_skipped (by simp [isSeparator])
  rw [← List.singleton_append, skipped, authorityText, whole, List.takeWhile_eq_self_iff]
  intro c there
  simp [inside c there]

-- Every slash at the end is gone, and not only the ones of a path.
def keptHost (host : String) : String := String.ofList (trimSlashes host.toList)

theorem keysUrl_keptHost (host name : String) : keysUrl host name = keptHost host ++ "/" ++ name ++ ".keys" :=
  rfl

-- The part of an address that is read as its authority.
def authorityIn (address : String) : List Char :=
  authorityText (kept ((address.toList.dropWhile (· ≠ ':')).drop 1))

-- A host of the form that is accepted.
def hostWith (scheme rest : String) : String := scheme ++ "://" ++ rest

theorem authorityIn_known (known : scheme = "http" ∨ scheme = "https") (cs : List Char) :
    authorityIn (String.ofList (scheme.toList ++ ':' :: cs)) = authorityText (kept cs) := by
  rw [authorityIn, String.toList_ofList]
  rcases known with rfl | rfl <;> rfl

theorem startsWith_iff (start cs : List Char) :
    Config.startsWith start cs = true ↔ ∃ rest, cs = start ++ rest := by
  rw [Config.startsWith, decide_eq_true_eq, eq_comm, ← List.prefix_iff_eq_take]
  exact exists_congr fun rest => eq_comm

theorem accepted_iff (host : String) : Config.checkHost host = .ok () ↔
    ∃ scheme rest, (scheme = "http" ∨ scheme = "https") ∧ host = hostWith scheme rest := by
  have parts : ∀ scheme : String, (∃ cs, host.toList = (scheme ++ "://").toList ++ cs) ↔
      ∃ rest, host = hostWith scheme rest := by
    intro scheme
    constructor
    · rintro ⟨cs, same⟩
      exact ⟨String.ofList cs, String.toList_injective (by simp [same, hostWith])⟩
    · rintro ⟨rest, rfl⟩
      exact ⟨rest.toList, by simp [hostWith]⟩
  have looked : Config.checkHost host = .ok () ↔ Config.isHost host = true := by
    rw [Config.checkHost]
    split <;> simp_all
  rw [looked, Config.isHost, Bool.or_eq_true, startsWith_iff, startsWith_iff]
  constructor
  · rintro (secure | plain)
    · obtain ⟨rest, same⟩ := (parts "https").mp secure
      exact ⟨"https", rest, .inr rfl, same⟩
    · obtain ⟨rest, same⟩ := (parts "http").mp plain
      exact ⟨"http", rest, .inl rfl, same⟩
  · rintro ⟨scheme, rest, rfl | rfl, same⟩
    · exact .inr ((parts "http").mpr ⟨rest, same⟩)
    · exact .inl ((parts "https").mpr ⟨rest, same⟩)

theorem keptHost_text (scheme rest : String) : keptHost (hostWith scheme rest) =
    String.ofList (scheme.toList ++ ':' :: trimSlashes ('/' :: '/' :: rest.toList)) := by
  have apart : (hostWith scheme rest).toList = scheme.toList ++ [':'] ++ '/' :: '/' :: rest.toList := by
    simp [hostWith]
  have closed : (scheme.toList ++ [':']).getLast? ≠ some '/' := by simp
  rw [keptHost, apart, trimSlashes_after closed]
  simp

theorem keptHost_some (some : ∃ c ∈ rest.toList, c ≠ '/') :
    keptHost (hostWith scheme rest) = hostWith scheme (keptHost rest) := by
  have front : trimSlashes (['/', '/'] ++ rest.toList) = ['/', '/'] ++ trimSlashes rest.toList :=
    trimSlashes_front some
  rw [List.cons_append, List.singleton_append] at front
  rw [keptHost_text, front]
  exact String.toList_injective (by simp [hostWith, keptHost])

theorem keptHost_slashes (all : ∀ c ∈ rest.toList, c = '/') :
    keptHost (hostWith scheme rest) = scheme ++ ":" := by
  have bare : trimSlashes ([] ++ List.replicate (rest.toList.length + 2) '/') = [] :=
    trimSlashes_replicate (by simp) _
  rw [List.nil_append, List.replicate_succ, List.replicate_succ, ← List.eq_replicate_of_mem all] at bare
  rw [keptHost_text, bare]
  exact String.toList_injective (by simp)

theorem keptHost_accepted (known : scheme = "http" ∨ scheme = "https") :
    Config.checkHost (keptHost (hostWith scheme rest)) = .ok () ↔ ∃ c ∈ rest.toList, c ≠ '/' := by
  constructor
  · intro accepted
    by_contra none
    rw [keptHost_slashes (by simpa using none)] at accepted
    rcases known with rfl | rfl <;> exact absurd accepted (by decide)
  · intro some
    rw [keptHost_some some]
    exact (accepted_iff _).mpr ⟨scheme, keptHost rest, known, rfl⟩

theorem authorityIn_hostWith (known : scheme = "http" ∨ scheme = "https") (rest : String) :
    authorityIn (hostWith scheme rest) = authorityText (kept rest.toList) := by
  have text : hostWith scheme rest = String.ofList (scheme.toList ++ ':' :: ('/' :: '/' :: rest.toList)) :=
    String.toList_injective (by simp [hostWith])
  rw [text, authorityIn_known known]
  rfl

-- What stands behind the colon in the address of a name.
def behindColon (rest name : String) : List Char :=
  trimSlashes ('/' :: '/' :: rest.toList) ++ '/' :: leaf name

theorem keysUrl_hostWith (scheme rest name : String) : keysUrl (hostWith scheme rest) name =
    String.ofList (scheme.toList ++ ':' :: behindColon rest name) := by
  refine String.toList_injective ?_
  rw [keysUrl_keptHost, keptHost_text]
  simp [leaf, behindColon]

theorem kept_append (cs tail : List Char) : kept (cs ++ tail) = kept cs ++ kept tail :=
  List.filter_append _ _

-- What is read of the address of a name, apart from the slashes that were taken away.
theorem kept_behindColon (rest : String) (named : IsName name) : ∃ front n,
    kept (behindColon rest name) = front ++ '/' :: leaf name ∧
      '/' :: '/' :: kept rest.toList = front ++ List.replicate n '/' := by
  obtain ⟨n, split⟩ := trimSlashes_split ('/' :: '/' :: rest.toList)
  refine ⟨kept (trimSlashes ('/' :: '/' :: rest.toList)), n, ?_, ?_⟩
  · rw [behindColon, kept_append, kept_leaf named]
  · have slashes : kept (List.replicate n '/') = List.replicate n '/' :=
      List.filter_eq_self.mpr fun c there => by
        rw [List.eq_of_mem_replicate there]
        decide
    rw [← slashes, ← kept_append, ← split]
    rfl

theorem authority_kept (known : scheme = "http" ∨ scheme = "https") (named : IsName name)
    (some : ∃ c ∈ kept rest.toList, isSeparator c = false) :
    authorityIn (keysUrl (hostWith scheme rest) name) = authorityIn (hostWith scheme rest) := by
  obtain ⟨front, n, whole, before⟩ := kept_behindColon rest named
  have inFront : ∃ c ∈ front, isSeparator c = false := by
    obtain ⟨c, there, other⟩ := some
    have among : c ∈ front ++ List.replicate n '/' :=
      before ▸ List.mem_cons_of_mem _ (List.mem_cons_of_mem _ there)
    refine ⟨c, (List.mem_append.mp among).resolve_right fun slash => ?_, other⟩
    rw [List.eq_of_mem_replicate slash] at other
    cases other
  have configured : authorityText (front ++ List.replicate n '/') = authorityText front := by
    cases n with
    | zero => rw [List.replicate_zero, List.append_nil]
    | succ n => exact authorityText_more inFront
  have skipped : authorityText (['/', '/'] ++ kept rest.toList) = authorityText (kept rest.toList) :=
    authorityText_skipped (by simp [isSeparator])
  rw [keysUrl_hostWith, authorityIn_known known, whole, authorityText_more inFront,
    authorityIn_hostWith known, ← skipped, ← configured, ← before]
  rfl

theorem authority_name (known : scheme = "http" ∨ scheme = "https") (named : IsName name)
    (all : ∀ c ∈ kept rest.toList, isSeparator c = true) :
    authorityIn (keysUrl (hostWith scheme rest) name) = leaf name := by
  obtain ⟨front, n, whole, before⟩ := kept_behindColon rest named
  have inFront : ∀ c ∈ front, isSeparator c = true := by
    intro c there
    have among : c ∈ '/' :: '/' :: kept rest.toList := before ▸ List.mem_append_left _ there
    rcases List.mem_cons.mp among with rfl | among
    · rfl
    · rcases List.mem_cons.mp among with rfl | inside
      · rfl
      · exact all c inside
  rw [keysUrl_hostWith, authorityIn_known known, whole, authorityText_skipped inFront,
    authorityText_leaf named]

theorem ofText_keysUrl_authority (known : scheme = "http" ∨ scheme = "https") (rest name : String) :
    (Url.ofText (keysUrl (hostWith scheme rest) name)).map (fun url => (url.scheme, url.authority)) =
      (Url.authorityOf scheme (authorityIn (keysUrl (hostWith scheme rest) name))).map
        fun found => (scheme, some found.1) := by
  have back : ∃ front c, behindColon rest name = front ++ [c] ∧ 0x20 < c.toNat :=
    ⟨trimSlashes ('/' :: '/' :: rest.toList) ++ '/' :: (name.toList ++ ".key".toList), 's',
      by simp [behindColon, leaf], by decide⟩
  rw [keysUrl_hostWith, authorityIn_known known, ofText_authority known back]

-- The keys of a name are asked for on the host that was configured.
structure OnHost (scheme rest name : String) : Prop where
  still : Config.checkHost (keptHost (hostWith scheme rest)) = .ok ()
  begins : ∃ path, keysUrl (hostWith scheme rest) name = hostWith scheme path
  same : authorityIn (keysUrl (hostWith scheme rest) name) = authorityIn (hostWith scheme rest)
  some : authorityIn (hostWith scheme rest) ≠ []

-- Where the keys of a name are asked for, whatever stands behind the scheme of a host.
structure Directed (scheme rest name : String) : Prop where
  still : Config.checkHost (keptHost (hostWith scheme rest)) = .ok () ↔ ∃ c ∈ rest.toList, c ≠ '/'
  onHost : OnHost scheme rest name ↔ authorityIn (hostWith scheme rest) ≠ []
  read : ∀ url, destination (keysUrl (hostWith scheme rest) name) = .ok url → url.scheme = scheme ∧
    ∃ found, Url.authorityOf scheme (authorityIn (keysUrl (hostWith scheme rest) name)) = some found ∧
      url.host = found.1.host ∧ url.portNumber = found.1.portNumber
  nameless : authorityIn (hostWith scheme rest) = [] → (∃ c ∈ kept rest.toList, isSeparator c = false) →
    destination (keysUrl (hostWith scheme rest) name) = .error (.failed "builder error")
  name : (∀ c ∈ kept rest.toList, isSeparator c = true) →
    authorityIn (keysUrl (hostWith scheme rest) name) = leaf name

theorem authorityOf_empty (known : scheme = "http" ∨ scheme = "https") :
    Url.authorityOf scheme [] = none := by
  rcases known with rfl | rfl <;> decide

theorem authorityText_kept (some : authorityText cs ≠ []) : ∃ c ∈ cs, isSeparator c = false := by
  by_contra none
  have all : ∀ c ∈ cs, isSeparator c = true := by simpa using none
  rw [authorityText, List.dropWhile_eq_nil_iff.mpr all] at some
  exact some rfl

theorem onHost_iff (known : scheme = "http" ∨ scheme = "https") (named : IsName name) :
    OnHost scheme rest name ↔ authorityIn (hostWith scheme rest) ≠ [] := by
  refine ⟨fun on => on.some, fun some => ?_⟩
  have inside : ∃ c ∈ kept rest.toList, isSeparator c = false := by
    rw [authorityIn_hostWith known] at some
    exact authorityText_kept some
  have left : ∃ c ∈ rest.toList, c ≠ '/' := by
    obtain ⟨c, there, other⟩ := inside
    refine ⟨c, List.mem_of_mem_filter there, ?_⟩
    rintro rfl
    cases other
  exact {
    still := (keptHost_accepted known).mpr left
    begins := by
      refine ⟨keptHost rest ++ "/" ++ name ++ ".keys", ?_⟩
      rw [keysUrl_keptHost, keptHost_some left]
      simp [hostWith, String.append_assoc]
    same := authority_kept known named inside
    some := some }

theorem destination_ofText (text : String) (url : Url) (said : destination text = .ok url) :
    ∃ whole, Url.ofText text = some whole ∧ url = whole.withoutUser := by
  unfold destination at said
  split at said
  · cases said
  · rename_i whole read
    dsimp only at said
    split at said
    · cases said
      exact ⟨whole, read, rfl⟩
    · cases said

theorem directed (known : scheme = "http" ∨ scheme = "https") (named : IsName name) :
    Directed scheme rest name where
  still := keptHost_accepted known
  onHost := onHost_iff known named
  read := by
    intro url said
    obtain ⟨whole, read, rfl⟩ := destination_ofText _ _ said
    have parts := ofText_keysUrl_authority known rest name
    rw [read, Option.map_some] at parts
    obtain ⟨found, foundAt, same⟩ := Option.map_eq_some_iff.mp parts.symm
    simp only [Prod.mk.injEq] at same
    refine ⟨same.1.symm, found, foundAt, ?_, ?_⟩
    · simp [Url.host, Url.withoutUser, ← same.2]
    · simp [Url.portNumber, Url.withoutUser, ← same.2]
  nameless := by
    intro none inside
    have parts := ofText_keysUrl_authority known rest name
    rw [authority_kept known named inside, none, authorityOf_empty known, Option.map_none,
      Option.map_eq_none_iff] at parts
    rw [destination, parts]
  name := authority_name known named

theorem accepted_host_directed {host : String} (accepted : Config.checkHost host = .ok ())
    (valid : Username.isValid name = true) :
    (∃ scheme rest, (scheme = "http" ∨ scheme = "https") ∧ host = hostWith scheme rest) ∧
      ∀ scheme rest, scheme = "http" ∨ scheme = "https" → host = hostWith scheme rest →
        Directed scheme rest name :=
  ⟨(accepted_iff host).mp accepted, fun _ _ known _ => directed known ((Control.valid_iff name).mp valid)⟩

-- Behind the scheme of one host stand only slashes, and alice takes the place of that host.
theorem slashed_host_names_alice : Config.checkHost "http:///" = .ok () ∧
    Config.checkHost (keptHost "http:///") ≠ .ok () ∧ keysUrl "http:///" "alice" = "http:/alice.keys" ∧
      authorityIn (keysUrl "http:///" "alice") = "alice.keys".toList ∧
        OnHost "https" "github.com//" "alice" := by
  have valid : Username.isValid "alice" = true := by decide
  have accepted : Config.checkHost "http:///" = .ok () := by decide
  have secure : Config.checkHost "https://github.com//" = .ok () := by decide
  have slashed := (accepted_host_directed accepted valid).2 "http" "/" (.inl rfl) (by decide)
  have bare : kept ['/'] = ['/'] := by decide
  have whole := (accepted_host_directed secure valid).2 "https" "github.com//" (.inr rfl) (by decide)
  refine ⟨accepted, fun still => ?_, by decide, slashed.name (by simp [bare, isSeparator]), whole.onHost.mpr (by decide)⟩
  obtain ⟨c, there, other⟩ := slashed.still.mp still
  exact other (by simpa using there)

end LinkedKeys.Web
