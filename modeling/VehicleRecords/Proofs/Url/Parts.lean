import Mathlib
import VehicleRecords.Proofs.FirstFailure
import VehicleRecords.Proofs.Url.Escape
import VehicleRecords.Proofs.Url.Host
import VehicleRecords.Url.Parser

/-!
The parts of URLs of the schemes that web browsers know. No part has a character that would end it, so
that the text of a URL falls into the same parts again (`separable_of_parse`).
-/
namespace VehicleRecords.Url

/-! ## Authorities -/

theorem disjoint_escape_userInfo (s : List Char) :
    delimiters.Disjoint (escape keepsUserInfo s) := by
  refine disjoint_escape ?_ s
  simp [delimiters, keepsUserInfo, keepsPath, isEscapeChar]

theorem disjoint_marked {part : Option String} (h : ∀ p, part = some p → delimiters.Disjoint p.toList) :
    delimiters.Disjoint (marked ":" part).toList := by
  cases part with
  | none => exact List.disjoint_nil_right _
  | some part =>
    rw [marked, String.toList_append, List.disjoint_append_right]
    exact ⟨Text.disjoint_of_all (by decide), h part rfl⟩

theorem disjoint_parseUserInfo (s : List Char) :
    delimiters.Disjoint (parseUserInfo s).1.toList ∧
      delimiters.Disjoint (marked ":" (parseUserInfo s).2).toList := by
  constructor
  · rw [parseUserInfo, String.toList_ofList]
    exact disjoint_escape_userInfo _
  · refine disjoint_marked fun password hpassword => ?_
    obtain ⟨written, -, rfl⟩ := Option.map_eq_some_iff.1 hpassword
    rw [String.toList_ofList]
    exact disjoint_escape_userInfo written

/-- What a special authority is made of. -/
theorem parseAuthority_special_cases {scheme : String} {isWhole : Bool} {s rest : List Char}
    {a : Authority} (h : parseAuthority scheme .special isWhole s = .ok (a, rest)) :
    ∃ userInfo name host port, Host.parseSpecial name = .ok host ∧
      a = ⟨(parseUserInfo userInfo).1, (parseUserInfo userInfo).2, some host, port⟩ := by
  unfold parseAuthority at h
  simp only [reduceCtorEq, if_false, if_true, Bool.true_or, decide_true] at h
  split at h
  · cases h
  · split at h
    · cases h
    · obtain ⟨host, hhost, h⟩ := bind_eq_ok_iff.1 h
      split at h
      · obtain ⟨⟨port, rest'⟩, -, h⟩ := bind_eq_ok_iff.1 h
        cases h
        exact ⟨_, _, host, port, hhost, rfl⟩
      · cases h
        exact ⟨_, _, host, none, hhost, rfl⟩

/-- An authority is written without what would end it. -/
theorem disjoint_authority {scheme : String} {isWhole : Bool} {s rest : List Char} {a : Authority}
    (h : parseAuthority scheme .special isWhole s = .ok (a, rest)) :
    delimiters.Disjoint a.text.toList := by
  obtain ⟨userInfo, name, host, port, hhost, rfl⟩ := parseAuthority_special_cases h
  obtain ⟨huser, hpassword⟩ := disjoint_parseUserInfo userInfo
  have hport : delimiters.Disjoint (marked ":" (port.map fun p => toString p.toNat)).toList := by
    refine disjoint_marked fun text htext => ?_
    obtain ⟨p, -, rfl⟩ := Option.map_eq_some_iff.1 htext
    exact disjoint_toString p.toNat
  rw [Authority.text]
  dsimp only
  rw [String.toList_append, String.toList_append, List.disjoint_append_right,
    List.disjoint_append_right]
  refine ⟨⟨?_, disjoint_parseSpecial hhost⟩, hport⟩
  split
  · exact List.disjoint_nil_right _
  · rw [String.toList_append, String.toList_append, List.disjoint_append_right,
      List.disjoint_append_right]
    exact ⟨⟨huser, hpassword⟩, Text.disjoint_of_all (by decide)⟩

/-! ## Paths -/

namespace Path

theorem add_special (before : List (List Char)) (segment : List Char) :
    add .special before segment = segment :: before := by
  rw [add]
  exact nofun

theorem mem_of_mem_shorten {before : List (List Char)} {segment : List Char}
    (h : segment ∈ shorten before) : segment ∈ before := by
  cases before with
  | nil => exact h
  | cons latest before =>
    rw [shorten] at h
    split at h
    · exact h
    · exact List.mem_cons_of_mem latest h

/-- Resolving dots makes no segment but the empty one. -/
theorem mem_resolve {before pieces : List (List Char)} {segment : List Char}
    (h : segment ∈ resolve .special before pieces) :
    segment ∈ before ∨ segment ∈ pieces ∨ segment = [] := by
  -- Dots only take segments of `before` away, or leave an empty one at the end.
  induction before, pieces using resolve.induct .special with
  | case1 before => exact .inl h
  | case2 before last hdots =>
    rw [resolve, if_pos hdots, List.mem_cons] at h
    exact h.elim (fun h => .inr (.inr h)) fun h => .inl (mem_of_mem_shorten h)
  | case3 before last hdots hdot =>
    rw [resolve, if_neg hdots, if_pos hdot, List.mem_cons] at h
    exact h.elim (fun h => .inr (.inr h)) .inl
  | case4 before last hdots hdot =>
    rw [resolve, if_neg hdots, if_neg hdot, add_special, List.mem_cons] at h
    exact h.elim (fun h => .inr (.inl (List.mem_singleton.2 h))) .inl
  | case5 before piece rest hrest hdots ih =>
    rw [resolve.eq_3 _ _ _ _ hrest, if_pos hdots] at h
    rcases ih h with h | h | h
    · exact .inl (mem_of_mem_shorten h)
    · exact .inr (.inl (List.mem_cons_of_mem piece h))
    · exact .inr (.inr h)
  | case6 before piece rest hrest hdots hdot ih =>
    rw [resolve.eq_3 _ _ _ _ hrest, if_neg hdots, if_pos hdot] at h
    rcases ih h with h | h | h
    · exact .inl h
    · exact .inr (.inl (List.mem_cons_of_mem piece h))
    · exact .inr (.inr h)
  | case7 before piece rest hrest hdots hdot ih =>
    rw [resolve.eq_3 _ _ _ _ hrest, if_neg hdots, if_neg hdot] at h
    rcases ih h with h | h | h
    · rw [add_special, List.mem_cons] at h
      exact h.elim (fun h => .inr (.inl (h ▸ List.mem_cons_self))) .inl
    · exact .inr (.inl (List.mem_cons_of_mem piece h))
    · exact .inr (.inr h)

theorem disjoint_text (s : List Char) : ['?', '#'].Disjoint (text (segments .special s)) := by
  have hkeeps : ∀ c ∈ ['?', '#'], keepsPath c = false ∧ isEscapeChar c = false := by
    simp [keepsPath, isEscapeChar]
  have hsegments (segment : List Char) (h : segment ∈ segments .special s) :
      ['?', '#'].Disjoint segment := by
    rw [segments, if_neg (by decide), List.mem_reverse] at h
    rcases mem_resolve h with h | h | rfl
    · exact absurd h List.not_mem_nil
    · obtain ⟨piece, -, rfl⟩ := List.mem_map.1 h
      exact disjoint_escape hkeeps piece
    · exact List.disjoint_nil_right _
  rw [text, List.disjoint_cons_right]
  exact ⟨by decide, Text.disjoint_intercalate (by decide) hsegments⟩

end Path

/-! ## Whole URLs -/

/-- A URL with an authority and a path, all parts of which can be told apart in its text. The first
slash of the path ends the authority. -/
structure Separable (u : Url) (a : Authority) (segments : List Char) : Prop where
  authority_eq : u.authority = some a
  path_eq : u.path = String.ofList ('/' :: segments)
  authority_disjoint : delimiters.Disjoint a.text.toList
  path_disjoint : ['?', '#'].Disjoint segments
  query_not_mem : ∀ q, u.query = some q → '#' ∉ q.toList

theorem parsePath_cases (kind : SchemeKind) (s : List Char) :
    ∃ rest, parsePath kind s = Path.segments kind rest := by
  unfold parsePath
  split <;> exact ⟨_, rfl⟩

theorem numberSign_not_mem_escape {keeps : Char → Bool}
    (h : keeps = keepsQuery ∨ keeps = keepsSpecialQuery) (s : List Char) :
    '#' ∉ escape keeps s := by
  have hkeeps : keeps '#' = false := by
    rcases h with rfl | rfl <;> simp [keepsSpecialQuery, keepsQuery]
  have hmarks : ∀ c ∈ ['#'], keeps c = false ∧ isEscapeChar c = false := by
    simp [hkeeps, isEscapeChar]
  exact disjoint_escape hmarks s List.mem_cons_self

/-- Whatever is read of a URL is written so that its parts can be told apart again. -/
theorem separable_of_parse {s : String} {u : Url} (h : parse s = .ok u)
    (hspecial : SchemeKind.ofScheme u.scheme = .special) : ∃ a segments, u.Separable a segments := by
  unfold parse at h
  simp only at h
  split at h
  · obtain ⟨⟨authority, path⟩, hplace, h⟩ := bind_eq_ok_iff.1 h
    cases h
    unfold parsePlace at hplace
    simp only [hspecial] at hplace
    obtain ⟨⟨a, rest⟩, hauthority, hplace⟩ := bind_eq_ok_iff.1 hplace
    cases hplace
    -- Whatever is left for the path, its segments are escaped before they are resolved.
    obtain ⟨pieces, hpieces⟩ := parsePath_cases .special rest
    have hpath := Path.disjoint_text pieces
    rw [Path.text, List.disjoint_cons_right] at hpath
    refine ⟨a, ['/'].intercalate (Path.segments .special pieces), rfl, ?_,
      disjoint_authority hauthority, hpath.2, ?_⟩
    · rw [hpieces, Path.text]
    · intro q hq
      obtain ⟨query, -, rfl⟩ := Option.map_eq_some_iff.1 hq
      rw [String.toList_ofList]
      refine numberSign_not_mem_escape ?_ query
      split
      · exact .inl rfl
      · exact .inr rfl
  · cases h

/-! ## Texts of URLs -/

/-- A scheme of lower-case letters is read up to its colon. -/
theorem cutScheme?_append {scheme : String} (hne : scheme ≠ "")
    (hall : scheme.toList.all Char.isLower = true) (rest : List Char) :
    cutScheme? (scheme.toList ++ ':' :: rest) = some (scheme, rest) := by
  have hlower := List.all_eq_true.1 hall
  have hcolon : ':' ∉ scheme.toList := fun hmem => absurd (hlower ':' hmem) (by decide)
  have halpha : ∀ c ∈ scheme.toList, c.isAlpha = true := by
    intro c hc
    rw [Char.isAlpha, hlower c hc, Bool.or_true]
  have hsame : scheme.toList.map Char.toLower = scheme.toList := by
    conv => rhs; rw [← List.map_id' scheme.toList]
    exact List.map_congr_left fun c hc =>
      Char.toLower_eq_of_not_isUpper (Char.not_isUpper_of_isLower (hlower c hc))
  rw [cutScheme?, Text.cutOnce_append ':' _ _ hcolon]
  cases hscheme : scheme.toList with
  | nil => exact absurd (String.toList_eq_nil_iff.1 hscheme) hne
  | cons c others =>
    have hothers : others.all (fun c => c.isAlphanum || "+-.".contains c) = true := by
      rw [List.all_eq_true]
      intro d hd
      rw [Char.isAlphanum, halpha d (by simp [hscheme, hd]), Bool.true_or, Bool.true_or]
    dsimp only
    rw [halpha c (by simp [hscheme]), hothers, ← hscheme, hsame, String.ofList_toList]
    rfl

theorem cutOnce_marked {sep : Char} {mark : String} (hmark : mark.toList = [sep]) {s : List Char}
    (hs : sep ∉ s) (part : Option String) :
    Text.cutOnce sep (s ++ (marked mark part).toList) = (s, part.map String.toList) := by
  cases part with
  | none =>
    rw [marked, String.toList_empty, List.append_nil]
    exact Text.cutOnce_of_not_mem sep s hs
  | some part =>
    rw [marked, String.toList_append, hmark, List.singleton_append]
    exact Text.cutOnce_append sep s _ hs

/-- A path, a query and a fragment in a row are told apart. -/
theorem cutQuery_marked {path : List Char} {query : Option String} (hpath : ['?', '#'].Disjoint path)
    (hquery : ∀ q, query = some q → '#' ∉ q.toList) (fragment : Option String) :
    cutQuery (path ++ (marked "?" query).toList ++ (marked "#" fragment).toList) =
      (path, query.map String.toList, fragment.map String.toList) := by
  obtain ⟨hquestion, hnumber, -⟩ := (List.disjoint_cons_left.1 hpath).imp_right
    List.disjoint_cons_left.1
  have hsharp : '#' ∉ path ++ (marked "?" query).toList := by
    rw [List.mem_append, not_or]
    refine ⟨hnumber, ?_⟩
    cases query with
    | none => exact List.not_mem_nil
    | some q =>
      rw [marked, String.toList_append, List.mem_append, not_or]
      exact ⟨by decide, hquery q rfl⟩
  rw [cutQuery, cutOnce_marked (by decide) hsharp]
  dsimp only
  rw [cutOnce_marked (by decide) hquestion]

theorem Separable.text_toList {u : Url} {a : Authority} {segments : List Char}
    (h : u.Separable a segments) :
    u.text.toList = u.scheme.toList ++ ':' :: '/' :: '/' :: (a.text.toList ++
      '/' :: (segments ++ (marked "?" u.query).toList ++ (marked "#" u.fragment).toList)) := by
  rw [text, h.authority_eq, h.path_eq]
  simp

end VehicleRecords.Url
