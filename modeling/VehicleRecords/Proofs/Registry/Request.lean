import VehicleRecords.Proofs.Url.Parts
import VehicleRecords.Registry

namespace VehicleRecords

namespace Uri

theorem cutAuthority_append {authority : List Char} (h : Url.delimiters.Disjoint authority)
    (rest : List Char) :
    cutAuthority (authority ++ '/' :: rest) = (authority, '/' :: rest) := by
  refine Text.span_append (fun c hc => ?_) ?_
  · have hmem : c ∉ Url.delimiters := fun hmem => h hmem hc
    simpa [Url.delimiters] using hmem
  · rintro c ⟨⟩
    simp

/-- A URL whose parts can be told apart is sent with these parts, if it is sent. -/
theorem eq_of_separable {u : Url} {a : Url.Authority} {segments : List Char}
    (h : u.Separable a segments) (hscheme : u.scheme = "http") {sent : Uri}
    (hsent : ofText u.text = .ok sent) : sent = ⟨u.scheme, a.text, u.path, u.query⟩ := by
  have hpath : ['?', '#'].Disjoint ('/' :: segments) := by
    rw [List.disjoint_cons_right]
    exact ⟨by decide, h.path_disjoint⟩
  have hparts := Url.cutQuery_marked hpath h.query_not_mem u.fragment
  rw [List.cons_append, List.cons_append] at hparts
  have hquery : (u.query.map String.toList).map String.ofList = u.query := by
    cases u.query with
    | none => rfl
    | some q => rw [Option.map_some, Option.map_some, String.ofList_toList]
  unfold ofText at hsent
  rw [h.text_toList, hscheme, Url.cutScheme?_append (by decide) (by decide)] at hsent
  simp only [cutAuthority_append h.authority_disjoint, hparts, hquery] at hsent
  -- The checks that are left either fail or change nothing.
  split at hsent
  · cases hsent
  · obtain ⟨-, -, hsent⟩ := bind_eq_ok_iff.1 hsent
    split at hsent
    · cases hsent
    · cases hsent
      rw [hscheme, h.path_eq, String.ofList_toList]
      rfl

end Uri

namespace Registry

open Text (Form.parse Form.print)

theorem parameter_eq (regNum : String) : parameter regNum = Form.print [("regNum", regNum)] := by
  rw [parameter, Form.print, List.map_singleton, List.intercalate_singleton]

/-- The parameter comes behind those of the query, if there is one. -/
theorem parse_appendParameter (query : Option String) (regNum : String) :
    Form.parse (appendParameter query (parameter regNum)) =
      Form.parse (query.getD "") ++ [("regNum", regNum)] := by
  have hparameter : Form.parse (parameter regNum) = [("regNum", regNum)] := by
    rw [parameter_eq, Text.Form.parse_print]
  have hnothing : Form.parse "" = [] := Text.Form.parse_print []
  unfold appendParameter
  split
  · rw [hparameter, Option.getD_none, hnothing, List.nil_append]
  · rw [hparameter, Option.getD_some, hnothing, List.nil_append]
  · rw [Text.Form.parse_append, hparameter, Option.getD_some]

/-- A number changes nothing but the query. -/
theorem separable_question {r : Registry} {a : Url.Authority} {segments : List Char}
    (h : r.base.Separable a segments) (regNum : String) :
    (r.question regNum).Separable a segments where
  authority_eq := h.authority_eq
  path_eq := h.path_eq
  authority_disjoint := h.authority_disjoint
  path_disjoint := h.path_disjoint
  query_not_mem := by
    rintro q ⟨⟩
    have hparameter : '#' ∉ (parameter regNum).toList := by
      rw [parameter_eq]
      exact Text.Form.numberSign_not_mem_print _
    unfold appendParameter
    split
    · exact hparameter
    · exact hparameter
    · next query _ hquery =>
      rw [String.toList_append, String.toList_append, List.mem_append, List.mem_append, not_or, not_or]
      exact ⟨⟨h.query_not_mem query hquery, by decide⟩, hparameter⟩

theorem base_of_ofText {text : String} {r : Registry} (h : ofText text = .ok r) :
    Url.parse text = .ok r.base ∧ r.base.scheme = "http" := by
  unfold ofText at h
  obtain ⟨base, hbase, h⟩ := bind_eq_ok_iff.1 h
  simp only [bne_iff_ne] at h
  split at h
  · cases h
  · next hscheme =>
    cases h
    exact ⟨mapError_eq_ok_iff.1 hbase, of_not_not hscheme⟩

/-- A request has the parts of the registry's URL, and one more parameter that holds the number. -/
theorem request_appends_number {text : String} {r : Registry} (hr : ofText text = .ok r)
    {regNum : String} {sent : Uri} (hsent : r.url regNum = .ok sent) :
    Url.parse text = .ok r.base ∧
    (∃ query, sent.query = some query ∧
      Form.parse query = Form.parse (r.base.query.getD "") ++ [("regNum", regNum)]) ∧
    sent.scheme = r.base.scheme ∧ some sent.authority = r.base.authority.map Url.Authority.text ∧
    sent.path = r.base.path := by
  obtain ⟨hbase, hscheme⟩ := base_of_ofText hr
  have hkind : Url.SchemeKind.ofScheme r.base.scheme = .special := by rw [hscheme]; rfl
  obtain ⟨a, segments, hseparable⟩ := Url.separable_of_parse hbase hkind
  have hparts := Uri.eq_of_separable (separable_question hseparable regNum) hscheme
    (mapError_eq_ok_iff.1 hsent)
  subst hparts
  exact ⟨hbase, ⟨_, rfl, parse_appendParameter r.base.query regNum⟩, rfl,
    by rw [hseparable.authority_eq, Option.map_some], rfl⟩

/-- A registry whose URL has a login, parameters and a fragment. -/
def crowded : Registry :=
  ⟨{ scheme := "http",
     authority := some ⟨"u", some "p", some (.ipv6 [0, 0, 0, 0, 0, 0, 0, 1]), some 8080⟩,
     path := "/info", query := some "a=b+c&&d", fragment := some "top" }⟩

/-- A number that looks like one more parameter and a fragment. -/
theorem request_appends_crowded_number :
    ofText "http://u:p@[::1]:8080/info?a=b+c&&d#top" = .ok crowded ∧
    crowded.url "1&a=2#" =
      .ok ⟨"http", "u:p@[::1]:8080", "/info", some "a=b+c&&d&regNum=1%26a%3D2%23"⟩ ∧
    Form.parse "a=b+c&&d&regNum=1%26a%3D2%23" = [("a", "b c"), ("d", ""), ("regNum", "1&a=2#")] := by
  have hbase : ofText "http://u:p@[::1]:8080/info?a=b+c&&d#top" = .ok crowded := by cbv
  have hsent : crowded.url "1&a=2#" =
      .ok ⟨"http", "u:p@[::1]:8080", "/info", some "a=b+c&&d&regNum=1%26a%3D2%23"⟩ := by cbv
  have hpairs : Form.parse (crowded.base.query.getD "") = [("a", "b c"), ("d", "")] := by
    decide +kernel
  obtain ⟨-, ⟨_, ⟨⟩, hquery⟩, -⟩ := request_appends_number hbase hsent
  rw [hpairs] at hquery
  exact ⟨hbase, hsent, hquery⟩

end Registry

end VehicleRecords
