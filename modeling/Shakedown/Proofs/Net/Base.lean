/-
  Shakedown.Proofs.Net.Base

  URLs below the base of a listening address.  Unless the host of the address
  holds a character that ends the authority of a URL, a path of small letters,
  digits, hyphens and slashes that is put after the base is read as it is
  written, and user, host and port are those of the base.
-/
import Mathlib.Data.Bool.AllAny
import Mathlib.Data.List.TakeWhile
import Mathlib.Tactic.SplitIfs
import Shakedown.Bind
import Shakedown.Net.Url

namespace Shakedown

/-- The base of an address names a user and a host at most: no path, query or fragment is
written into the host. -/
def Bind.Bare (b : Bind) : Prop :=
  ∀ c ∈ b.host.toList, Net.SchemeKind.special.endsAuthority c = false

namespace Net

open Text

/-! ## Plain paths -/

/-- A character that stands for itself in a path. -/
def IsPathChar (c : Char) : Prop :=
  c = '/' ∨ c = '-' ∨ 48 ≤ c.toNat ∧ c.toNat ≤ 57 ∨ 97 ≤ c.toNat ∧ c.toNat ≤ 122

instance (c : Char) : Decidable (IsPathChar c) :=
  inferInstanceAs (Decidable (_ ∨ _))

/-- A plain character is not one of the others. -/
theorem IsPathChar.ne {c d : Char} (h : IsPathChar c) (hd : ¬IsPathChar d) : c ≠ d := by
  rintro rfl
  exact hd h

theorem IsPathChar.visible {c : Char} (h : IsPathChar c) : 33 ≤ c.toNat ∧ c.toNat < 127 := by
  rcases h with rfl | rfl | h | h
  · decide
  · decide
  · omega
  · omega

namespace Url

variable {path : List Char}

theorem inPath_of_plain {c : Char} (h : IsPathChar c) : Percent.inPath c = false := by
  have hcontrol : Percent.isControl c = false := by
    have hvisible := h.visible
    simp only [Percent.isControl, Bool.or_eq_false_iff, decide_eq_false_iff_not]
    omega
  have hnone : ∀ d ∈ " \"#<>".toList ++ "?^`\x7b\x7d".toList, ¬IsPathChar d :=
    List.all_iff_forall_prop.mp (by decide)
  have hother : ∀ d ∈ " \"#<>".toList ++ "?^`\x7b\x7d".toList, c ≠ d := fun d hd =>
    h.ne (hnone d hd)
  simp only [Percent.inPath, Percent.inQuery, hcontrol, Bool.false_or, Bool.or_eq_false_iff,
    List.contains_eq_mem, decide_eq_false_iff_not]
  exact ⟨fun hc => hother c (List.mem_append_left _ hc) rfl,
    fun hc => hother c (List.mem_append_right _ hc) rfl⟩

/-- Nothing in a plain path is encoded. -/
theorem encode_of_plain (h : ∀ c ∈ path, IsPathChar c) :
    Percent.encode Percent.inPath path = path := by
  induction path with
  | nil => rfl
  | cons c cs ih =>
    obtain ⟨hc, hcs⟩ := List.forall_mem_cons.mp h
    rw [← List.singleton_append, Percent.encode_append, ih hcs]
    show (if Percent.inPath c = true then Percent.char c else [c]) ++ [] ++ cs = _
    rw [inPath_of_plain hc, if_neg Bool.false_ne_true, List.append_nil]

theorem isSlash_of_plain {c : Char} (h : IsPathChar c) :
    SchemeKind.special.isSlash c = decide (c = '/') := by
  have hback : c ≠ '\\' := h.ne (by decide)
  simp only [SchemeKind.isSlash, hback, decide_false, Bool.false_and, Bool.or_false]

/-- The segments of a plain path. -/
def segmentsOf (path : List Char) : List (List Char) :=
  path.splitOnP SchemeKind.special.isSlash

/-- With a slash before each, the segments of a plain path make it up again. -/
theorem flatMap_segmentsOf (h : ∀ c ∈ path, IsPathChar c) :
    (segmentsOf path).flatMap ('/' :: ·) = '/' :: path := by
  induction path with
  | nil => rfl
  | cons c cs ih =>
    obtain ⟨hc, hcs⟩ := List.forall_mem_cons.mp h
    have ih := ih hcs
    rw [segmentsOf] at ih
    rw [segmentsOf, List.splitOnP_cons_eq_if_modifyHead, isSlash_of_plain hc]
    by_cases hslash : c = '/'
    · rw [if_pos (decide_eq_true hslash), List.flatMap_cons, ih, hslash, List.singleton_append]
    · rw [if_neg (by simpa using hslash)]
      -- A character other than a slash goes in front of the first segment of the rest.
      obtain ⟨p, ps, hsplit⟩ :=
        List.exists_cons_of_ne_nil (List.splitOnP_ne_nil SchemeKind.special.isSlash cs)
      rw [hsplit, List.flatMap_cons, List.cons_append] at ih
      rw [hsplit, List.modifyHead_cons, List.flatMap_cons, List.cons_append, List.cons_append,
        (List.cons.inj ih).2]

theorem mem_of_mem_splitOnP {α : Type} {f : α → Bool} {xs p : List α} (h : p ∈ xs.splitOnP f) :
    p ⊆ xs := by
  induction xs generalizing p with
  | nil =>
    rw [List.splitOnP_nil, List.mem_singleton] at h
    exact h ▸ List.Subset.refl _
  | cons x xs ih =>
    rw [List.splitOnP_cons_eq_if_modifyHead] at h
    split at h
    · rcases List.mem_cons.mp h with rfl | h
      · exact List.nil_subset _
      · exact List.subset_cons_of_subset x (ih h)
    · obtain ⟨q, qs, hsplit⟩ := List.exists_cons_of_ne_nil (List.splitOnP_ne_nil f xs)
      rw [hsplit] at ih
      rw [hsplit, List.modifyHead_cons] at h
      rcases List.mem_cons.mp h with rfl | h
      · exact List.cons_subset_cons x (ih List.mem_cons_self)
      · exact List.subset_cons_of_subset x (ih (List.mem_cons_of_mem q h))

theorem toLower_of_plain {c : Char} (h : IsPathChar c) : c.toLower = c := by
  refine dif_neg fun hupper => ?_
  obtain ⟨hlow, hhigh⟩ := hupper
  have hcode : 65 ≤ c.toNat ∧ c.toNat ≤ 90 :=
    ⟨UInt32.le_iff_toNat_le.mp hlow, UInt32.le_iff_toNat_le.mp hhigh⟩
  rcases h with rfl | rfl | h | h
  · exact absurd hcode (by decide)
  · exact absurd hcode (by decide)
  · omega
  · omega

/-- A plain text is none of those that hold something else. -/
theorem not_contains_of_plain {texts : List String} {p : List Char}
    (htexts : (texts.all fun t => t.toList.any fun c => !decide (IsPathChar c)) = true)
    (h : ∀ c ∈ p, IsPathChar c) :
    texts.contains (String.ofList (p.map Char.toLower)) = false := by
  have hlower : p.map Char.toLower = p :=
    (List.map_congr_left fun c hc => toLower_of_plain (h c hc)).trans (List.map_id p)
  rw [hlower, List.contains_eq_mem, decide_eq_false_iff_not]
  intro hmem
  obtain ⟨c, hc, hother⟩ := List.any_eq_true.mp (List.all_eq_true.mp htexts _ hmem)
  rw [String.toList_ofList] at hc
  rw [decide_eq_true (h c hc)] at hother
  exact Bool.false_ne_true hother

/-- A plain piece is an ordinary segment. -/
theorem not_dots_of_plain {p : List Char} (h : ∀ c ∈ p, IsPathChar c) :
    isDot p = false ∧ isDotDot p = false :=
  ⟨not_contains_of_plain (by decide) h, not_contains_of_plain (by decide) h⟩

/-- Ordinary segments are kept as they are. -/
theorem resolve_of_plain {ps : List (List Char)}
    (h : ∀ p ∈ ps, isDot p = false ∧ isDotDot p = false) (done : List (List Char)) :
    resolve done ps = done ++ ps := by
  induction ps generalizing done with
  | nil => exact (List.append_nil done).symm
  | cons p ps ih =>
    obtain ⟨⟨hdot, hdots⟩, hps⟩ := List.forall_mem_cons.mp h
    -- The last segment is resolved by a rule of its own.
    cases ps with
    | nil => simp only [resolve, hdot, hdots, Bool.false_eq_true, if_false]
    | cons q qs =>
      rw [resolve, hdot, hdots, if_neg Bool.false_ne_true, if_neg Bool.false_ne_true, ih hps,
        List.append_assoc, List.singleton_append]
      exact List.cons_ne_nil q qs

/-- A plain path is read as its segments. -/
theorem readPath_of_plain (h : ∀ c ∈ path, IsPathChar c) :
    readPath .special ('/' :: path) = .segments (segmentsOf path) := by
  have hsegments : resolve [] (segmentsOf path) = segmentsOf path :=
    resolve_of_plain (fun p hp => not_dots_of_plain fun c hc => h c (mem_of_mem_splitOnP hp hc)) []
  show UrlPath.segments (resolve [] (segmentsOf (Percent.encode Percent.inPath path))) = _
  rw [encode_of_plain h, hsegments]

/-! ## What stands before the path -/

/-- Whether a character is kept where tabs and line ends are dropped. -/
def isKept (c : Char) : Bool :=
  !(c = '\t' || c = '\n' || c = '\r')

/-- The user, host and port of a base as they are read. -/
def authorityOf (b : Bind) : List Char :=
  b.chars.filter isKept

/-- A text whose ends are visible only loses its tabs and line ends. -/
theorem tidy_of_ends {c d : Char} {cs : List Char} (hc : 32 < c.toNat) (hd : 32 < d.toNat) :
    tidy (c :: (cs ++ [d])) = (c :: (cs ++ [d])).filter isKept := by
  have hfirst : (c :: (cs ++ [d])).dropWhile (fun e => decide (e.toNat ≤ 32)) =
      c :: (cs ++ [d]) :=
    List.dropWhile_cons_of_neg (by simpa using hc)
  have hlast : ((c :: (cs ++ [d])).reverse.dropWhile fun e => decide (e.toNat ≤ 32)) =
      (c :: (cs ++ [d])).reverse := by
    rw [← List.cons_append, List.reverse_append, List.reverse_singleton, List.singleton_append]
    exact List.dropWhile_cons_of_neg (by simpa using hd)
  unfold tidy
  dsimp only
  rw [hfirst, hlast, List.reverse_reverse]
  rfl

theorem digits_eq_snoc (n : Nat) : ∃ cs d, d < 10 ∧ Decimal.digits n = cs ++ [Decimal.digit d] := by
  rw [Decimal.digits]
  split
  · rename_i h
    exact ⟨[], n, h, rfl⟩
  · exact ⟨Decimal.digits (n / 10), n % 10, Nat.mod_lt n (by decide), rfl⟩

/-- The base of an address ends in a digit. -/
theorem baseUrl_eq_snoc (b : Bind) :
    ∃ cs d, d < 10 ∧ b.baseUrl.toList = 'h' :: (cs ++ [Decimal.digit d]) := by
  obtain ⟨cs, d, hd, hdigits⟩ := digits_eq_snoc b.port.toNat
  refine ⟨"ttp://".toList ++ (b.host.toList ++ ':' :: cs), d, hd, ?_⟩
  rw [Bind.baseUrl, String.toList_append, Bind.text, String.toList_ofList (l := b.chars),
    Bind.chars, hdigits, List.append_assoc, List.append_assoc, List.cons_append]
  rfl

/-- What is read of a base and a plain path after it, or of the base alone. -/
theorem tidy_below (b : Bind) (h : ∀ c ∈ path, IsPathChar c) :
    tidy (b.baseUrl.toList) = "http://".toList ++ authorityOf b ∧
      tidy (b.baseUrl.toList ++ '/' :: path) =
        "http://".toList ++ (authorityOf b ++ '/' :: path) := by
  have hchars : b.baseUrl.toList = "http://".toList ++ b.chars := by
    rw [Bind.baseUrl, String.toList_append, Bind.text, String.toList_ofList (l := b.chars)]
  have hkept : (b.baseUrl.toList).filter isKept = "http://".toList ++ authorityOf b := by
    rw [hchars, List.filter_append]
    rfl
  obtain ⟨cs, d, hd, hsnoc⟩ := baseUrl_eq_snoc b
  have hdigit : 32 < (Decimal.digit d).toNat :=
    (by decide : ∀ e : Fin 10, 32 < (Decimal.digit e).toNat) ⟨d, hd⟩
  constructor
  · rw [← hkept, hsnoc, tidy_of_ends (by decide) hdigit]
  · have hpath : ('/' :: path).filter isKept = '/' :: path := by
      refine List.filter_eq_self.mpr fun c hc => ?_
      have hplain : IsPathChar c := by
        rcases List.mem_cons.mp hc with rfl | hc
        · exact Or.inl rfl
        · exact h c hc
      simp only [isKept, hplain.ne (by decide : ¬IsPathChar '\t'),
        hplain.ne (by decide : ¬IsPathChar '\n'), hplain.ne (by decide : ¬IsPathChar '\r'),
        decide_false, Bool.or_self, Bool.not_false]
    -- The last character is that of the path, or the slash before it.
    obtain ⟨front, e, he, hend⟩ : ∃ front e, 32 < e.toNat ∧ '/' :: path = front ++ [e] := by
      refine ⟨_, _, ?_, (List.dropLast_concat_getLast (List.cons_ne_nil '/' path)).symm⟩
      rcases List.mem_cons.mp (List.getLast_mem (List.cons_ne_nil '/' path)) with heq | hmem
      · rw [heq]
        decide
      · exact Nat.lt_of_succ_le (h _ hmem).visible.1
    have hwhole : b.baseUrl.toList ++ '/' :: path =
        'h' :: ((cs ++ [Decimal.digit d] ++ front) ++ [e]) := by
      rw [hsnoc, hend, List.cons_append, List.append_assoc _ front]
    rw [hwhole, tidy_of_ends (by decide) he, ← hwhole, List.filter_append, hkept, hpath,
      List.append_assoc]

/-! ## Reading below a base -/

variable {b : Bind}

/-- Nothing in the authority of a bare address ends it. -/
theorem not_endsAuthority_of_bare (h : b.Bare) :
    ∀ c ∈ authorityOf b, SchemeKind.special.endsAuthority c = false := by
  intro c hc
  have hmem : c ∈ b.chars := (List.mem_filter.mp hc).1
  rcases List.mem_append.mp hmem with hhost | hport
  · exact h c hhost
  · rcases List.mem_cons.mp hport with rfl | hdigit
    · decide
    · have hdigit := List.all_eq_true.mp (Decimal.all_isDigit_digits _) c hdigit
      have hne : ∀ d ∈ "/\\?#".toList, c ≠ d := by
        rintro d hd rfl
        have hall : ∀ d ∈ "/\\?#".toList, Decimal.isDigit d = false :=
          List.all_iff_forall_prop.mp (by decide)
        exact absurd ((hall c hd).symm.trans hdigit) Bool.false_ne_true
      simp only [SchemeKind.endsAuthority, SchemeKind.isSlash, hne '/' (by decide),
        hne '\\' (by decide), hne '?' (by decide), hne '#' (by decide), decide_false,
        Bool.false_and, Bool.or_self]

/-- The URL of a path below what an authority says. -/
def below (u : Url) (path : List Char) : Url :=
  { u with path := .segments (segmentsOf path), query := none, fragment := none }

/-- An authority that nothing ends is read up to the slash after it, or to the end. -/
theorem readFromHost?_of_bare {authority : List Char}
    (hbare : ∀ c ∈ authority, SchemeKind.special.endsAuthority c = false) (u : Url)
    (h : ∀ c ∈ path, IsPathChar c) :
    readFromHost? u .special authority =
        (readAuthority? u .special authority).map (below · []) ∧
      readFromHost? u .special (authority ++ '/' :: path) =
        (readAuthority? u .special authority).map (below · path) := by
  have hall : ∀ c ∈ authority, (!SchemeKind.special.endsAuthority c) = true := fun c hc => by
    rw [hbare c hc]
    rfl
  constructor
  · have htake : authority.takeWhile (fun c => !SchemeKind.special.endsAuthority c) = authority :=
      List.takeWhile_eq_self_iff.mpr hall
    have hdrop : authority.drop authority.length = [] := List.drop_length
    unfold readFromHost?
    dsimp only
    rw [htake, hdrop, if_neg (by decide)]
    cases readAuthority? u .special authority <;> rfl
  · have htake : (authority ++ '/' :: path).takeWhile
        (fun c => !SchemeKind.special.endsAuthority c) = authority := by
      rw [List.takeWhile_append_of_pos hall]
      exact List.append_nil _
    have hdrop : (authority ++ '/' :: path).drop authority.length = '/' :: path := List.drop_left
    -- Neither a query nor a fragment follows the path.
    have hpath : ('/' :: path).takeWhile (fun c => decide (c ≠ '?') && decide (c ≠ '#')) =
        '/' :: path := by
      refine List.takeWhile_eq_self_iff.mpr fun c hc => ?_
      have hplain : IsPathChar c := by
        rcases List.mem_cons.mp hc with rfl | hc
        · exact Or.inl rfl
        · exact h c hc
      simp only [hplain.ne (by decide : ¬IsPathChar '?'), hplain.ne (by decide : ¬IsPathChar '#'),
        ne_eq, not_false_eq_true, decide_true, Bool.and_self]
    have hrest : ('/' :: path).drop ('/' :: path).length = [] := List.drop_length
    unfold readFromHost?
    dsimp only
    rw [htake, hdrop, hpath, hrest, if_neg (by decide), readPath_of_plain h]
    cases readAuthority? u .special authority <;> rfl

theorem authorityOf_ne_nil (b : Bind) : authorityOf b ≠ [] := by
  have hcolon : ':' ∈ authorityOf b :=
    List.mem_filter.mpr ⟨List.mem_append_right _ List.mem_cons_self, by decide⟩
  exact List.ne_nil_of_mem hcolon

/-- After the scheme and two slashes comes the authority. -/
theorem read?_of_tidy {s : String} {cs : List Char} (htidy : tidy s.toList = "http://".toList ++ cs)
    (hcs : ∀ c, cs.head? = some c → SchemeKind.special.isSlash c = false) :
    Url.read? s = readFromHost? { scheme := "http".toList } .special cs := by
  have hscheme : ∀ rest, scheme? ("http:".toList ++ rest) = some ("http".toList, rest) :=
    fun rest => rfl
  have hkind : SchemeKind.ofScheme "http".toList = .special := by decide +kernel
  have hslashes : ("//".toList ++ cs).dropWhile SchemeKind.special.isSlash = cs := by
    cases cs with
    | nil => rfl
    | cons c cs =>
      have hc := hcs c rfl
      have hrest : (c :: cs).dropWhile SchemeKind.special.isSlash = c :: cs :=
        List.dropWhile_cons_of_neg (by rw [hc]; exact Bool.false_ne_true)
      exact hrest
  have hsplit : "http://".toList ++ cs = "http:".toList ++ ("//".toList ++ cs) := rfl
  unfold Url.read?
  rw [htidy, hsplit, hscheme]
  show readRest? "http".toList _ = _
  unfold readRest?
  rw [hkind]
  dsimp only
  rw [hslashes]

theorem head_not_slash_of_bare (h : b.Bare) (rest : List Char) :
    ∀ c, (authorityOf b ++ rest).head? = some c → SchemeKind.special.isSlash c = false := by
  intro c hc
  obtain ⟨d, ds, hd⟩ := List.exists_cons_of_ne_nil (authorityOf_ne_nil b)
  rw [hd, List.cons_append, List.head?_cons] at hc
  obtain rfl := Option.some.inj hc
  have hends := not_endsAuthority_of_bare h d (hd ▸ List.mem_cons_self)
  simp only [SchemeKind.endsAuthority, Bool.or_eq_false_iff] at hends
  exact hends.1.1

theorem read?_baseUrl (h : b.Bare) :
    Url.read? b.baseUrl =
      (readAuthority? { scheme := "http".toList } .special (authorityOf b)).map (below · []) := by
  have hnil : ∀ c ∈ ([] : List Char), IsPathChar c := nofun
  have htidy := (tidy_below b hnil).1
  have hslash := head_not_slash_of_bare h []
  rw [List.append_nil] at hslash
  rw [read?_of_tidy htidy hslash]
  exact (readFromHost?_of_bare (not_endsAuthority_of_bare h) _ hnil).1

/-- A plain path below a bare base is read as it is written, and the rest as that of the
base. -/
theorem read?_below (h : b.Bare) {u : Url} (hbase : Url.read? b.baseUrl = some u)
    (hpath : ∀ c ∈ path, IsPathChar c) :
    Url.read? (b.baseUrl ++ String.ofList ('/' :: path)) = some (below u path) := by
  have htidy : tidy (b.baseUrl ++ String.ofList ('/' :: path)).toList =
      "http://".toList ++ (authorityOf b ++ '/' :: path) := by
    rw [String.toList_append, String.toList_ofList]
    exact (tidy_below b hpath).2
  rw [read?_of_tidy htidy (head_not_slash_of_bare h _),
    (readFromHost?_of_bare (not_endsAuthority_of_bare h) _ hpath).2]
  rw [read?_baseUrl h] at hbase
  obtain ⟨v, hv, rfl⟩ := Option.map_eq_some_iff.mp hbase
  rw [hv]
  rfl

theorem scheme_of_readAuthority? {u v : Url} {kind : SchemeKind} {cs : List Char}
    (h : readAuthority? u kind cs = some v) : v.scheme = u.scheme := by
  unfold readAuthority? at h
  simp only [Option.bind_eq_bind, Option.pure_def, Option.bind_none] at h
  split_ifs at h
  all_goals
    obtain ⟨host, -, h⟩ := Option.bind_eq_some_iff.mp h
    obtain ⟨port, -, h⟩ := Option.bind_eq_some_iff.mp h
    obtain rfl := Option.some.inj h
    rfl

/-- The base of an address is one of the web's. -/
theorem scheme_of_baseUrl (h : b.Bare) {u : Url} (hbase : Url.read? b.baseUrl = some u) :
    u.scheme = "http".toList ∧ u.query = none := by
  rw [read?_baseUrl h] at hbase
  obtain ⟨v, hv, rfl⟩ := Option.map_eq_some_iff.mp hbase
  exact ⟨scheme_of_readAuthority? hv, rfl⟩

theorem pathChars_below (u : Url) (h : ∀ c ∈ path, IsPathChar c) :
    (below u path).pathChars = '/' :: path :=
  flatMap_segmentsOf h

end Url

end Net

end Shakedown
