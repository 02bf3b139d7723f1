import LinkedKeys.Proofs.Control.Naming
import LinkedKeys.Proofs.Web.Authorities
import LinkedKeys.Web.Fetch

namespace LinkedKeys.Web

open Control (IsName IsNameChar)

variable {cs tail : List Char} {scheme name authority : String} {c d : Char}

theorem trimSlashes_replicate (closed : cs.getLast? ≠ some '/') (n : Nat) :
    trimSlashes (cs ++ List.replicate n '/') = cs := by
  have bare : cs.reverse.dropWhile (fun c => decide (c = '/')) = cs.reverse := by
    cases reversed : cs.reverse with
    | nil => rfl
    | cons c rest =>
        rw [← List.head?_reverse, reversed] at closed
        exact List.dropWhile_cons_of_neg (by simpa using closed)
  rw [trimSlashes, List.reverse_append, List.reverse_replicate, List.dropWhile_append_of_pos (by simp),
    bare, List.reverse_reverse]

theorem cut_absent {mark : Char} (absent : mark ∉ cs) : Text.cut mark cs = (cs, none) := by
  induction cs with
  | nil => rfl
  | cons c cs ih =>
      obtain ⟨other, later⟩ := not_or.mp (mt List.mem_cons.mpr absent)
      rw [Text.cut, if_neg (Ne.symm other), ih later]

theorem escape_plain {reserved : Char → Bool}
    (plain : ∀ c ∈ cs, isPrintable c = true ∧ reserved c = false) : escape reserved cs = cs := by
  induction cs with
  | nil => rfl
  | cons c cs ih =>
      obtain ⟨first, later⟩ := List.forall_mem_cons.mp plain
      have kept : escape reserved (c :: cs) = [c] ++ escape reserved cs := by
        simp only [escape, List.flatMap_cons, first.1, first.2, Bool.not_false, Bool.and_true, if_true]
      rw [kept, ih later]
      rfl

theorem segments_single (whole : '/' ∉ cs) (up : isDotDot cs = false) (here : isDot cs = false) :
    segments cs = [cs] := by
  rw [segments, Text.pieces_whole whole]
  simp [resolve, up, here]

-- What an address is read without: the first tabs and line ends, wherever they stand.
def kept (cs : List Char) : List Char :=
  cs.filter fun c => c ≠ '\t' ∧ c ≠ '\n' ∧ c ≠ '\r'

theorem trimmed_closed (front : ∃ c rest, cs = c :: rest ∧ 0x20 < c.toNat)
    (back : ∃ rest c, cs = rest ++ [c] ∧ 0x20 < c.toNat) : Url.trimmed cs = kept cs := by
  have forward : List.dropWhile (fun c : Char => decide (c.toNat ≤ 0x20)) cs = cs := by
    obtain ⟨c, rest, rfl, code⟩ := front
    exact List.dropWhile_cons_of_neg (by simpa using code)
  have backward : List.dropWhile (fun c : Char => decide (c.toNat ≤ 0x20)) cs.reverse = cs.reverse := by
    obtain ⟨rest, c, rfl, code⟩ := back
    rw [List.reverse_append, List.reverse_singleton, List.singleton_append]
    exact List.dropWhile_cons_of_neg (by simpa using code)
  simp only [Url.trimmed, forward, backward, List.reverse_reverse]
  rfl

theorem nameChar_other (is : IsNameChar c) (other : Username.isLater d = false) : c ≠ d := by
  rintro rfl
  rw [(Control.later_iff c).mpr is] at other
  cases other

theorem nameChar_inPath (is : IsNameChar c) : isPrintable c = true ∧ inPath c = false := by
  have code := Control.nameChar_code is
  refine ⟨by simp only [isPrintable, Bool.and_eq_true, decide_eq_true_eq]; omega, ?_⟩
  have none : ∀ d, inPath d = true → Username.isLater d = false := by
    intro d reserved
    simp only [inPath, inFragment, Bool.or_eq_true, List.contains_iff_mem] at reserved
    simp only [List.mem_cons, List.not_mem_nil, or_false] at reserved
    rcases reserved with (rfl | rfl | rfl | rfl | rfl) | rfl | rfl | rfl | rfl <;> decide
  exact Bool.eq_false_iff.mpr fun reserved => nameChar_other is (none c reserved) rfl

theorem nameChars_absent (is : ∀ c ∈ cs, IsNameChar c) (other : Username.isLater d = false) : d ∉ cs :=
  fun there => nameChar_other (is d there) other rfl

-- The last segment of the address.
def leaf (name : String) : List Char := name.toList ++ ".keys".toList

theorem leaf_chars (is : IsName name) : ∀ c ∈ leaf name, IsNameChar c := by
  intro c there
  rcases List.mem_append.mp there with named | closed
  · exact is.chars c named
  · have every : ∀ c ∈ ".keys".toList, Username.isLater c = true := List.all_eq_true.mp (by decide)
    exact (Control.later_iff c).mp (every c closed)

-- No step through a path ends in the letter that a leaf ends in.
theorem leaf_step (name : String) : isDotDot (leaf name) = false ∧ isDot (leaf name) = false := by
  have last : ((leaf name).map Char.toLower).getLast? = some 's' := by
    simp [leaf]
  constructor
  · refine Bool.eq_false_iff.mpr fun up => ?_
    simp only [isDotDot, List.contains_iff_mem, List.mem_cons, List.not_mem_nil, or_false] at up
    rcases up with same | same | same | same <;> rw [same] at last <;> exact absurd last (by decide)
  · refine Bool.eq_false_iff.mpr fun here => ?_
    simp only [isDot, Bool.or_eq_true, decide_eq_true_eq] at here
    rcases here with same | same <;> rw [same] at last <;> exact absurd last (by decide)

-- An authority that ends where the path begins, and that something is left of when it is read.
structure IsAuthority (authority : String) : Prop where
  some : kept authority.toList ≠ []
  slash : '/' ∉ authority.toList
  backslash : '\x5c' ∉ authority.toList
  question : '?' ∉ authority.toList
  number : '#' ∉ authority.toList

-- What is read of an authority on its own.
def authority? (scheme authority : String) : Option Authority :=
  (Url.authorityOf scheme (kept authority.toList)).map (·.1)

def hostOf (scheme authority : String) (slashes : Nat) : String :=
  scheme ++ "://" ++ authority ++ String.ofList (List.replicate slashes '/')

theorem kept_some (is : IsAuthority authority) : authority.toList ≠ [] := by
  intro none
  have some := is.some
  rw [none] at some
  exact some rfl

theorem kept_absent (absent : c ∉ cs) : c ∉ kept cs := mt List.mem_of_mem_filter absent

theorem keysUrl_toList (is : IsAuthority authority) (slashes : Nat) :
    (keysUrl (hostOf scheme authority slashes) name).toList =
      scheme.toList ++ "://".toList ++ authority.toList ++ '/' :: leaf name := by
  have closed : (scheme.toList ++ "://".toList ++ authority.toList).getLast? ≠ some '/' := by
    rw [List.getLast?_append_of_ne_nil _ (kept_some is)]
    exact fun last => is.slash (List.mem_of_getLast? last)
  have host : (hostOf scheme authority slashes).toList =
      scheme.toList ++ "://".toList ++ authority.toList ++ List.replicate slashes '/' := by
    simp [hostOf]
  rw [keysUrl, host, trimSlashes_replicate closed]
  simp [leaf]

theorem kept_leaf (named : IsName name) : kept ('/' :: leaf name) = '/' :: leaf name := by
  refine List.filter_eq_self.mpr fun c there => ?_
  rcases List.mem_cons.mp there with rfl | inLeaf
  · decide
  · have is := leaf_chars named c inLeaf
    have tab : c ≠ '\t' := nameChar_other is (by decide)
    have feed : c ≠ '\n' := nameChar_other is (by decide)
    have back : c ≠ '\r' := nameChar_other is (by decide)
    simp [tab, feed, back]

-- What stands behind the colon of the scheme.
def behindScheme (authority name : String) : List Char :=
  '/' :: '/' :: kept authority.toList ++ '/' :: leaf name

theorem trimmed_keysUrl (known : scheme = "http" ∨ scheme = "https") (is : IsAuthority authority)
    (named : IsName name) (slashes : Nat) :
    Url.trimmed (keysUrl (hostOf scheme authority slashes) name).toList =
      scheme.toList ++ ':' :: behindScheme authority name := by
  have schemeKept : kept scheme.toList = scheme.toList := by
    rcases known with rfl | rfl <;> decide
  rw [keysUrl_toList is, trimmed_closed]
  · have marks : kept "://".toList = "://".toList := by decide
    have apart : kept (scheme.toList ++ "://".toList ++ authority.toList ++ '/' :: leaf name) =
        kept scheme.toList ++ kept "://".toList ++ kept authority.toList ++ kept ('/' :: leaf name) := by
      simp only [kept, List.filter_append]
    rw [apart, schemeKept, marks, kept_leaf named]
    simp [behindScheme]
  · rcases known with rfl | rfl <;> exact ⟨'h', _, rfl, by decide⟩
  · refine ⟨scheme.toList ++ "://".toList ++ authority.toList ++ '/' :: (name.toList ++ ".key".toList),
      's', by simp [leaf], by decide⟩

theorem behindScheme_absent (named : IsName name) (absent : c ∉ authority.toList) (slash : c ≠ '/')
    (other : Username.isLater c = false) : c ∉ behindScheme authority name := by
  intro there
  simp only [behindScheme, List.cons_append, List.mem_cons, List.mem_append] at there
  rcases there with same | same | inside | same | inLeaf
  · exact slash same
  · exact slash same
  · exact kept_absent absent inside
  · exact slash same
  · exact nameChars_absent (leaf_chars named) other inLeaf

theorem placeOfKnown_leaf (is : IsAuthority authority) (named : IsName name) :
    Url.placeOfKnown scheme (behindScheme authority name) =
      (authority? scheme authority).map fun a => (some a, .segments [name ++ ".keys"]) := by
  have start : List.dropWhile (fun c => decide (c = '/')) (behindScheme authority name) =
      kept authority.toList ++ '/' :: leaf name := by
    obtain ⟨c, cs, cut⟩ := List.exists_cons_of_ne_nil is.some
    have other : c ≠ '/' := by
      rintro rfl
      exact kept_absent is.slash (cut ▸ List.mem_cons_self)
    simp [behindScheme, cut, other]
  have unparted : Url.Unparted (kept authority.toList) :=
    ⟨kept_absent is.slash, kept_absent is.backslash⟩
  have chars := leaf_chars named
  have single : segments (leaf name) = [leaf name] :=
    segments_single (nameChars_absent chars (by decide)) (leaf_step name).1 (leaf_step name).2
  have path : Url.pathOf [leaf name] = .segments [name ++ ".keys"] := by
    rw [Url.pathOf, List.map_singleton, escape_plain fun c there => nameChar_inPath (chars c there)]
    simp [leaf]
  rw [Url.placeOfKnown, start, Url.authorityOf_slash unparted, authority?]
  cases Url.authorityOf scheme (kept authority.toList) with
  | none => rfl
  | some found =>
      simp only [Option.map_some, Option.bind_eq_bind, Option.bind_some, Url.behindSlash, single, path]

theorem ofText_keysUrl (known : scheme = "http" ∨ scheme = "https") (is : IsAuthority authority)
    (named : IsName name) (slashes : Nat) :
    Url.ofText (keysUrl (hostOf scheme authority slashes) name) =
      (authority? scheme authority).map fun a =>
        ⟨scheme, some a, .segments [name ++ ".keys"], none, none⟩ := by
  have read : ∀ rest, Url.schemeOf (scheme.toList ++ ':' :: rest) = some (scheme, rest) := by
    rcases known with rfl | rfl <;> exact fun _ => rfl
  have slashed : (behindScheme authority name).map (fun c => if c = '\x5c' then '/' else c) =
      behindScheme authority name := by
    have none := behindScheme_absent named is.backslash (by decide) (by decide)
    refine (List.map_congr_left fun c there => ?_).trans (List.map_id _)
    have other : c ≠ '\x5c' := by
      rintro rfl
      exact none there
    exact if_neg other
  have place : Url.placeOf scheme (behindScheme authority name) =
      (authority? scheme authority).map fun a => (some a, .segments [name ++ ".keys"]) := by
    rw [← placeOfKnown_leaf is named]
    unfold Url.placeOf
    rw [slashed]
    rcases known with rfl | rfl <;> rfl
  have number := behindScheme_absent named is.number (by decide) (by decide)
  have question := behindScheme_absent named is.question (by decide) (by decide)
  rw [Url.ofText, trimmed_keysUrl known is named, read]
  simp only [Option.bind_eq_bind, Option.bind_some, cut_absent number, cut_absent question, place]
  cases authority? scheme authority <;> rfl

end LinkedKeys.Web
