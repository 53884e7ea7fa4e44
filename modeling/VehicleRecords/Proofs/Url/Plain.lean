import VehicleRecords.Proofs.Text.Decimal
import VehicleRecords.Proofs.Url.Parts

/-!
URLs of schemes that web browsers do not know, with parts of plain characters. Each part is read as it
is written (`parse_plain`), except that segments of dots vanish. Escaped texts are plain, and one looks
like dots only when it escapes dots (`undot_escape_eq_replicate_iff`).
-/
namespace VehicleRecords.Url

open Text (percentEscape upperHexDigit)

def IsPlain (s : List Char) : Prop := ∀ c ∈ s, keepsUserInfo c = true

/-! ## Plain characters -/

/-- The printable characters that are escaped in a name or a password. -/
def reserved : List Char :=
  [' ', '"', '#', '/', ':', ';', '<', '=', '>', '?', '@', '[', '\\', ']', '^', '`', '\x7b', '|', '\x7d']

theorem keepsUserInfo_iff {c : Char} :
    keepsUserInfo c = true ↔ isPrintable c = true ∧ c ∉ reserved := by
  simp only [keepsUserInfo, keepsPath, keepsFragment, reserved, String.contains_char_eq]
  simp
  tauto

theorem keepsUserInfo_eq (c : Char) : keepsUserInfo c = (isPrintable c && !reserved.contains c) := by
  rw [Bool.eq_iff_iff, keepsUserInfo_iff]
  simp

theorem keepsPath_of_keepsUserInfo {c : Char} (h : keepsUserInfo c = true) : keepsPath c = true := by
  rw [keepsUserInfo, Bool.and_eq_true] at h
  exact h.1

theorem space_lt_of_keepsUserInfo {c : Char} (h : keepsUserInfo c = true) : ' ' < c := by
  obtain ⟨hprintable, hreserved⟩ := keepsUserInfo_iff.1 h
  have hne : c ≠ ' ' := by
    rintro rfl
    exact hreserved (by decide)
  rw [isPrintable, Bool.and_eq_true, decide_eq_true_eq] at hprintable
  exact Char.not_le.1 fun hle => hne (Char.le_antisymm hle hprintable.1)

theorem toNat_lt_of_isAlphanum {c : Char} (h : c.isAlphanum = true) : c.toNat < 128 := by
  simp only [Char.isAlphanum, Char.isAlpha, Char.isUpper, Char.isLower, Char.isDigit, Bool.or_eq_true,
    Bool.and_eq_true, decide_eq_true_eq, UInt32.le_iff_toNat_le, ge_iff_le] at h
  change ((65 ≤ c.toNat ∧ c.toNat ≤ 90) ∨ (97 ≤ c.toNat ∧ c.toNat ≤ 122)) ∨
    (48 ≤ c.toNat ∧ c.toNat ≤ 57) at h
  omega

/-- Letters, digits and the marks of names and escapes are plain. -/
theorem keepsUserInfo_of_mark {c : Char} (h : c.isAlphanum = true ∨ c ∈ ['-', '.', '_', '%']) :
    keepsUserInfo c = true := by
  have hascii : c.toNat < 128 := by
    rcases h with h | h
    · exact toNat_lt_of_isAlphanum h
    · have hall : ['-', '.', '_', '%'].all (·.toNat < 128) = true := by decide
      exact of_decide_eq_true (List.all_eq_true.1 hall c h)
  exact keepsUserInfo_iff.2 <| ascii_forall
    (p := fun c => c.isAlphanum = true ∨ c ∈ ['-', '.', '_', '%'] →
      isPrintable c = true ∧ c ∉ reserved) (by decide +kernel) hascii h

theorem keepsUserInfo_of_isEscapeChar {c : Char} (h : isEscapeChar c = true) :
    keepsUserInfo c = true := by
  apply keepsUserInfo_of_mark
  simp only [isEscapeChar, Bool.or_eq_true, Bool.and_eq_true, beq_iff_eq, decide_eq_true_eq] at h
  rcases h with (rfl | hdigit) | ⟨hlow, hhigh⟩
  · exact .inr (by decide)
  · exact .inl (by simp [Char.isAlphanum, hdigit])
  · have hupper : c.isUpper = true := by
      have hlast : c ≤ 'Z' := Char.le_trans hhigh (by decide)
      simp only [Char.isUpper, decide_eq_true_eq]
      exact ⟨hlow, hlast⟩
    exact .inl (by simp [Char.isAlphanum, Char.isAlpha, hupper])

theorem isPlain_escape {keeps : Char → Bool} (h : ∀ c, keeps c = true → keepsUserInfo c = true)
    (s : List Char) : IsPlain (escape keeps s) :=
  fun _ hc => keeps_of_mem_escape keeps h (fun _ => keepsUserInfo_of_isEscapeChar) hc

variable {s : List Char}

theorem escape_plain {keeps : Char → Bool} (h : ∀ c, keepsUserInfo c = true → keeps c = true)
    (hs : IsPlain s) : escape keeps s = s := by
  refine (escape_eq_self_iff keeps s).2 fun c hc => ⟨?_, h c (hs c hc)⟩
  have hrange := toNat_lt_of_isPrintable (keepsUserInfo_iff.1 (hs c hc)).1
  omega

theorem not_mem_of_isPlain (hs : IsPlain s) {c : Char} (hc : c ∈ reserved) : c ∉ s :=
  fun hmem => (keepsUserInfo_iff.1 (hs c hmem)).2 hc

/-! ## Cutting at marks -/

theorem strip_eq_self (h : ∀ c ∈ s, ' ' < c) : strip s = s := by
  have hdrop (t : List Char) (ht : ∀ c ∈ t, c ∈ s) : t.dropWhile (· ≤ ' ') = t := by
    cases t with
    | nil => rfl
    | cons c t =>
      have hc := h c (ht c List.mem_cons_self)
      exact List.dropWhile_cons_of_neg (by simpa using hc)
  have hbreak : ∀ c ∈ s, (!"\t\n\r".contains c) = true := by
    intro c hc
    have hall : "\t\n\r".toList.all (· ≤ ' ') = true := by decide
    rw [String.contains_char_eq, Bool.not_eq_true', decide_eq_false_iff_not]
    exact fun hmem => Char.not_le.2 (h c hc) (of_decide_eq_true (List.all_eq_true.1 hall c hmem))
  rw [strip, hdrop s fun _ => id, hdrop s.reverse fun _ => List.mem_reverse.1,
    List.reverse_reverse, List.filter_eq_self.2 hbreak]

theorem cutUserInfo_append (userInfo : List Char) {rest : List Char} (h : '@' ∉ rest) :
    cutUserInfo (userInfo ++ '@' :: rest) = (some userInfo, rest) := by
  have hspan : (userInfo ++ '@' :: rest).reverse.span (· ≠ '@') =
      (rest.reverse, '@' :: userInfo.reverse) := by
    -- Read from its end the text begins with what has no `@`.
    rw [List.reverse_append, List.reverse_cons, List.append_assoc, List.singleton_append]
    refine Text.span_append (fun c hc => ?_) (by simp)
    rw [List.mem_reverse] at hc
    exact decide_eq_true fun heq => h (heq ▸ hc)
  rw [cutUserInfo, hspan]
  simp only [List.reverse_reverse]

theorem cutHost_append (hs : IsPlain s) (rest : List Char) :
    cutHost .other false (s ++ ':' :: rest) = (s, ':' :: rest) := by
  induction s with
  | nil => rfl
  | cons c s ih =>
    have hc (mark : Char) (hmark : mark ∈ reserved) : c ≠ mark := by
      rintro rfl
      exact not_mem_of_isPlain hs hmark List.mem_cons_self
    have ih := ih fun c hc => hs c (List.mem_cons_of_mem _ hc)
    have hslash := hc '/' (by decide)
    have hcolon := hc ':' (by decide)
    have hbracket := hc '[' (by decide)
    rw [List.cons_append, cutHost, if_neg (by simp [SchemeKind.isSlash, hslash, hcolon]),
      beq_eq_false_iff_ne.2 hbracket]
    simp [ih]

/-! ## Authorities -/

theorem parseUserInfo_plain {user password : List Char} (huser : IsPlain user)
    (hpassword : IsPlain password) (hne : password ≠ []) :
    parseUserInfo (user ++ ':' :: password) = (String.ofList user, some (String.ofList password)) := by
  have hcolon := not_mem_of_isPlain huser (c := ':') (by decide)
  rw [parseUserInfo, Text.cutOnce_append ':' user password hcolon]
  simp [hne, escape_plain, huser, hpassword]

theorem parseOpaque_plain (hs : IsPlain s) :
    Host.parseOpaque s = .ok (.name (String.ofList s)) := by
  have hforbidden : s.any Host.isForbidden = false := by
    rw [List.any_eq_false]
    intro c hc
    have hall : "\x00\t\n\r #/:<>?@[\\]^|".toList.all (!keepsUserInfo ·) = true := by
      simp only [keepsUserInfo_eq]
      decide
    rw [Host.isForbidden, String.contains_char_eq, decide_eq_true_eq]
    intro hmem
    have hnot := List.all_eq_true.1 hall c hmem
    rw [hs c hc] at hnot
    cases hnot
  have hescape : escape keepsOpaque s = s :=
    escape_plain (fun c hc => (keepsUserInfo_iff.1 hc).1) hs
  rw [Host.parseOpaque, if_neg (by simp [hforbidden]), hescape]
  rintro rest rfl
  exact not_mem_of_isPlain hs (c := '[') (by decide) List.mem_cons_self

theorem defaultPort?_of_other {scheme : String} (h : SchemeKind.ofScheme scheme = .other) :
    defaultPort? scheme = none := by
  unfold defaultPort?
  split
  · cases h
  · cases h
  · cases h
  · cases h
  · cases h
  · rfl

theorem parsePort_toString (port : UInt16) (rest : List Char) :
    parsePort none ((toString port.toNat).toList ++ '/' :: rest) = .ok (some port, '/' :: rest) := by
  have hdigits : (toString port.toNat).toList = Nat.toDigits 10 port.toNat := Nat.toList_repr
  have hspan : (Nat.toDigits 10 port.toNat ++ '/' :: rest).span (fun c => c != '/' && c != '\\') =
      (Nat.toDigits 10 port.toNat, '/' :: rest) := by
    refine Text.span_append (fun c hc => ?_) (by simp)
    have hdigit := Text.isDigit_of_mem_toDigits _ c hc
    rw [Bool.and_eq_true, bne_iff_ne, bne_iff_ne]
    constructor <;> rintro rfl <;> cases hdigit
  have hlt := port.toNat_lt
  rw [parsePort, hdigits, hspan]
  dsimp only
  rw [if_neg (by simp [Nat.toDigits_ne_nil]), Text.natural?_toDigits]
  simp
  omega

theorem isPlain_toString (n : Nat) : IsPlain (toString n).toList := by
  rw [Nat.toString_eq_ofList_toDigits, String.toList_ofList]
  exact fun c hc => keepsUserInfo_of_mark <| .inl <|
    Text.isAlphanum_of_mem_toDigits (by decide) (by decide) hc

section

variable {user password host : List Char} (huser : IsPlain user) (hpassword : IsPlain password)
  (hhost : IsPlain host)

def authorityText (user password host : List Char) (port : UInt16) : List Char :=
  user ++ ':' :: password ++ '@' :: (host ++ ':' :: (toString port.toNat).toList)

include huser hpassword hhost

theorem mem_authorityText {port : UInt16} {c : Char} (h : c ∈ authorityText user password host port) :
    keepsUserInfo c = true ∨ c ∈ [':', '@'] := by
  simp only [authorityText, List.mem_append, List.mem_cons] at h
  rcases h with (h | rfl | h) | rfl | h | rfl | h
  · exact .inl (huser c h)
  · exact .inr (by decide)
  · exact .inl (hpassword c h)
  · exact .inr (by decide)
  · exact .inl (hhost c h)
  · exact .inr (by decide)
  · exact .inl (isPlain_toString _ c h)

/-- A login, a host and a port stand in front of the first slash. -/
theorem parseAuthority_plain {scheme : String} (hkind : SchemeKind.ofScheme scheme = .other)
    (hpasswordNe : password ≠ []) (hhostNe : host ≠ []) (port : UInt16) (isWhole : Bool)
    (path : List Char) :
    parseAuthority scheme .other isWhole (authorityText user password host port ++ '/' :: path) =
      .ok (⟨String.ofList user, some (String.ofList password), some (.name (String.ofList host)),
        some port⟩, '/' :: path) := by
  have hspan : (authorityText user password host port ++ '/' :: path).span
      (fun c => !SchemeKind.other.isSlash c) = (authorityText user password host port, '/' :: path) := by
    refine Text.span_append (fun c hc => ?_) (by simp [SchemeKind.isSlash])
    have hne : c ≠ '/' := by
      rintro rfl
      rcases mem_authorityText huser hpassword hhost hc with h | h
      · exact (keepsUserInfo_iff.1 h).2 (by decide)
      · exact absurd h (by decide)
    simp [SchemeKind.isSlash, hne]
  have hat : '@' ∉ host ++ ':' :: (toString port.toNat).toList := by
    have hmark : '@' ∈ reserved := by decide
    rw [List.mem_append, List.mem_cons, not_or, not_or]
    exact ⟨not_mem_of_isPlain hhost hmark, by decide,
      not_mem_of_isPlain (isPlain_toString port.toNat) hmark⟩
  unfold parseAuthority
  simp only [hspan]
  -- The `@` behind the password is the last one, so all in front of it is user information.
  rw [authorityText, cutUserInfo_append _ hat]
  simp only [Option.getD_some, parseUserInfo_plain huser hpassword hpasswordNe, List.append_assoc,
    List.cons_append, cutHost_append hhost, parseOpaque_plain hhost,
    defaultPort?_of_other hkind, parsePort_toString]
  rw [if_neg (by simp), if_neg (by simp [hhostNe]), if_pos trivial]
  rfl

theorem parsePlace_plain {scheme : String} (hkind : SchemeKind.ofScheme scheme = .other)
    (hpasswordNe : password ≠ []) (hhostNe : host ≠ []) (port : UInt16) (isWhole : Bool)
    (path : List Char) :
    parsePlace scheme isWhole ('/' :: '/' :: authorityText user password host port ++ '/' :: path) =
      .ok (some ⟨String.ofList user, some (String.ofList password), some (.name (String.ofList host)),
        some port⟩, Path.text (Path.segments .other path)) := by
  have hauthority := parseAuthority_plain huser hpassword hhost hkind hpasswordNe hhostNe port isWhole
    path
  unfold parsePlace
  simp only [hkind, List.cons_append, hauthority]
  rfl

end

/-! ## Paths of one segment -/

namespace Path

theorem pieces_of_not_mem (h : '/' ∉ s) : pieces .other s = [s] := by
  induction s with
  | nil => rfl
  | cons c s ih =>
    rw [List.mem_cons, not_or] at h
    rw [pieces, if_neg (by simp [SchemeKind.isSlash, Ne.symm h.1]), ih h.2]

/-- One segment stays as it is, unless it is one or two dots. -/
theorem segments_plain (hs : IsPlain s) :
    segments .other s = if isDot s || isDoubleDot s then [[]] else [s] := by
  have hpieces := pieces_of_not_mem (not_mem_of_isPlain hs (c := '/') (by decide))
  have hescape := escape_plain (fun _ => keepsPath_of_keepsUserInfo) hs
  rw [segments, hpieces, List.map_singleton, hescape, resolve, if_neg (by decide)]
  by_cases hdots : isDoubleDot s = true
  · simp [hdots, shorten]
  · by_cases hdot : isDot s = true
    · simp [hdots, hdot]
    · simp [hdots, hdot, add]

/-! ### Escaped dots -/

theorem undot_escape_dot (keeps : Char → Bool) (s : List Char) :
    undot (escape keeps ('.' :: s)) = '.' :: undot (escape keeps s) := by
  rw [escape_cons]
  rcases escape_char_cases keeps '.' with ⟨-, -, hself⟩ | ⟨-, hescaped⟩
  · rw [hself]
    rfl
  · rw [hescaped]
    rfl

/-- The escape of a byte other than a dot's does not show a dot. -/
theorem undot_percentEscape (b : UInt8) (hb : b ≠ 0x2E) (rest : List Char) :
    undot (percentEscape b ++ rest) =
      '%' :: undot (upperHexDigit (b.toNat / 16) :: upperHexDigit (b.toNat % 16) :: rest) := by
  have hdigits : upperHexDigit (b.toNat / 16) = '2' → upperHexDigit (b.toNat % 16) ∉ ['e', 'E'] := by
    revert b
    exact Text.byte_forall (by decide +kernel)
  rw [percentEscape, List.cons_append, List.cons_append, List.cons_append, List.nil_append, undot]
  · intro after _ heq
    have hlow := hdigits (List.cons.inj heq).1
    rw [(List.cons.inj (List.cons.inj heq).2).1] at hlow
    exact hlow (by decide)
  · intro after _ heq
    have hlow := hdigits (List.cons.inj heq).1
    rw [(List.cons.inj (List.cons.inj heq).2).1] at hlow
    exact hlow (by decide)

/-- No other escape looks like a dot. -/
theorem undot_escape_other {keeps : Char → Bool} (hpercent : keeps '%' = false) {c : Char}
    (hc : c ≠ '.') (s : List Char) :
    ∃ d rest, d ≠ '.' ∧ undot (escape keeps (c :: s)) = d :: rest := by
  rw [escape_cons]
  rcases escape_char_cases keeps c with ⟨-, hkept, hself⟩ | ⟨-, hescaped⟩
  · have hne : c ≠ '%' := by
      rintro rfl
      rw [hpercent] at hkept
      cases hkept
    refine ⟨c, undot (escape keeps s), hc, ?_⟩
    rw [hself, List.singleton_append, undot]
    · exact fun _ h => absurd h hne
    · exact fun _ h => absurd h hne
  · obtain ⟨b, bytes, hbytes⟩ := List.exists_cons_of_length_pos (length_utf8EncodeChar_pos c)
    have hb : b ≠ 0x2E := by
      rintro rfl
      have hcode := toNat_eq_of_mem_utf8EncodeChar (hbytes ▸ List.mem_cons_self) (by decide)
      exact hc (Char.toNat_inj.1 hcode.symm)
    rw [hescaped, hbytes, List.flatMap_cons, List.append_assoc, undot_percentEscape b hb]
    exact ⟨'%', _, by decide, rfl⟩

/-- An escaped text is a run of dots, escaped or not, exactly if the text is. -/
theorem undot_escape_eq_replicate_iff {keeps : Char → Bool} (hpercent : keeps '%' = false)
    (s : List Char) (n : Nat) :
    undot (escape keeps s) = List.replicate n '.' ↔ s = List.replicate n '.' := by
  induction s generalizing n with
  | nil => cases n <;> simp [escape_nil, undot]
  | cons c s ih =>
    by_cases hc : c = '.'
    · subst hc
      rw [undot_escape_dot]
      cases n with
      | zero => simp
      | succ n => simp [List.replicate_succ, ih]
    · obtain ⟨d, rest, hd, hundot⟩ := undot_escape_other hpercent hc s
      rw [hundot]
      cases n with
      | zero => simp
      | succ n => simp [List.replicate_succ, hc, hd]

end Path

/-! ## Whole URLs -/

/-- Plain characters and the marks between parts belong to no query and no fragment. -/
theorem plain_or_mark {c : Char} (h : keepsUserInfo c = true ∨ c ∈ [':', '@', '/']) :
    ' ' < c ∧ c ∉ ['?', '#'] := by
  rcases h with h | h
  · refine ⟨space_lt_of_keepsUserInfo h, fun hmark => (keepsUserInfo_iff.1 h).2 ?_⟩
    have hall : ['?', '#'].all (reserved.contains ·) = true := by decide
    exact List.contains_iff_mem.1 (List.all_eq_true.1 hall c hmark)
  · have hall : [':', '@', '/'].all (fun c => ' ' < c && !(['?', '#'].contains c)) = true := by decide
    simpa using List.all_eq_true.1 hall c h

/-- Each part of a URL is read as it is written, and the path is resolved. -/
theorem parse_plain {scheme : String} (hscheme : scheme ≠ "")
    (hlower : scheme.toList.all Char.isLower = true) (hkind : SchemeKind.ofScheme scheme = .other)
    {user password host path : List Char} (huser : IsPlain user) (hpassword : IsPlain password)
    (hhost : IsPlain host) (hpath : IsPlain path) (hpasswordNe : password ≠ []) (hhostNe : host ≠ [])
    (port : UInt16) {s : String}
    (hs : s.toList = scheme.toList ++ ':' ::
      ('/' :: '/' :: authorityText user password host port ++ '/' :: path)) :
    parse s = .ok { scheme,
                    authority := some ⟨String.ofList user, some (String.ofList password),
                      some (.name (String.ofList host)), some port⟩,
                    path := String.ofList (Path.text (Path.segments .other path)) } := by
  -- Nothing is stripped and nothing is cut off, because every character is plain or such a mark.
  have hmem : ∀ c ∈ s.toList, keepsUserInfo c = true ∨ c ∈ [':', '@', '/'] := by
    intro c hc
    simp only [hs, List.cons_append, List.mem_append, List.mem_cons] at hc
    rcases hc with h | rfl | rfl | rfl | h | rfl | h
    · exact .inl (keepsUserInfo_of_mark (.inl (by
        rw [Char.isAlphanum, Char.isAlpha, List.all_eq_true.1 hlower c h, Bool.or_true, Bool.true_or])))
    · exact .inr (by decide)
    · exact .inr (by decide)
    · exact .inr (by decide)
    · exact (mem_authorityText huser hpassword hhost h).imp_right (List.mem_append_left ['/'])
    · exact .inr (by decide)
    · exact .inl (hpath c h)
  have hstrip : strip s.toList = s.toList :=
    strip_eq_self fun c hc => (plain_or_mark (hmem c hc)).1
  have hparts : cutQuery s.toList = (s.toList, none, none) := by
    have hmarks : ['?', '#'].Disjoint s.toList :=
      fun c hc hcs => (plain_or_mark (hmem c hcs)).2 hc
    have hquery : ∀ q, (none : Option String) = some q → '#' ∉ q.toList := by simp
    simpa [marked] using cutQuery_marked hmarks hquery none
  unfold parse
  rw [hstrip, hparts]
  simp only
  rw [hs, cutScheme?_append hscheme hlower]
  simp only
  rw [parsePlace_plain huser hpassword hhost hkind hpasswordNe hhostNe]
  rfl

end VehicleRecords.Url
