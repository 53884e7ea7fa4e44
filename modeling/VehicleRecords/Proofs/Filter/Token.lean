import VehicleRecords.Filter.Predicate
import VehicleRecords.Proofs.Text.Split

/-!
The texts that write a condition: a bare value, or `[and|or:]operator:value`. The reader accepts
these, each with the condition it writes, and besides them only a connective and an operator that no
value follows (`parse_reads_tokens`).
-/
namespace VehicleRecords

open Text (sameWord sameWord_iff)

namespace Connective

theorem ofKeyword?_eq_some_iff (word : String) (c : Connective) :
    ofKeyword? word = some c ↔ sameWord c.keyword word = true := by
  have hmem : c ∈ [and, or] := by cases c <;> decide
  rw [ofKeyword?, Text.find?_sameWord keyword [and, or] (by decide)]
  exact ⟨fun h => h.2, fun h => ⟨hmem, h⟩⟩

theorem colon_not_mem {c : Connective} {word : String} (h : sameWord c.keyword word = true) :
    ':' ∉ word.toList :=
  Text.not_mem_of_sameWord h (by cases c <;> decide)

end Connective

namespace Operator

theorem mem_all (o : Operator) : o ∈ all := by cases o <;> decide

theorem ofKeyword?_eq_some_iff (word : String) (o : Operator) :
    ofKeyword? word = some o ↔ sameWord o.keyword word = true := by
  rw [ofKeyword?, Text.find?_sameWord keyword all (by decide)]
  exact ⟨fun h => h.2, fun h => ⟨mem_all o, h⟩⟩

theorem colon_not_mem {o : Operator} {word : String} (h : sameWord o.keyword word = true) :
    ':' ∉ word.toList :=
  Text.not_mem_of_sameWord h (by cases o <;> decide)

theorem ne_empty_of_sameWord {o : Operator} {word : String} (h : sameWord o.keyword word = true) :
    word ≠ "" := by
  rintro rfl
  cases o <;> exact absurd h (by decide)

/-- No word is both an operator and a connective. -/
theorem connective_eq_none {o : Operator} {word : String} (h : sameWord o.keyword word = true) :
    Connective.ofKeyword? word = none := by
  cases hc : Connective.ofKeyword? word with
  | none => rfl
  | some c =>
    have hboth := Text.sameWord_of_common h ((Connective.ofKeyword?_eq_some_iff word c).1 hc)
    cases o <;> cases c <;> exact absurd hboth (by decide)

end Operator

namespace Predicate

/-- The texts that write a condition on a column: a bare value, compared for equality, or
`[and|or:]operator:value`. Keywords may have any case, and a value may hold colons. Only behind a
connective may the value be empty. -/
inductive Written (column : Column) : String → Predicate → Prop
  | bare (value : String) (h : ':' ∉ value.toList) : Written column value { column, value }
  | plain (o : Operator) (keyword value : String) (ho : sameWord o.keyword keyword = true)
      (hvalue : value ≠ "") :
      Written column (keyword ++ ":" ++ value) { column, operator := o, value }
  | joined (c : Connective) (o : Operator) (word keyword value : String)
      (hc : sameWord c.keyword word = true) (ho : sameWord o.keyword keyword = true) :
      Written column (word ++ ":" ++ keyword ++ ":" ++ value) ⟨c, column, o, value⟩

/-- A connective and an operator that no colon follows, let alone a value. -/
def Unfinished (column : Column) (raw : String) (p : Predicate) : Prop :=
  ∃ (c : Connective) (o : Operator) (word keyword : String), sameWord c.keyword word = true ∧
    sameWord o.keyword keyword = true ∧ raw = word ++ ":" ++ keyword ∧ p = ⟨c, column, o, ""⟩

variable (column : Column)

theorem toList_colon (word rest : String) :
    (word ++ ":" ++ rest).toList = word.toList ++ ':' :: rest.toList := by simp

theorem parse_of_not_mem {raw : String} (h : ':' ∉ raw.toList) :
    parse column raw = .ok { column, value := raw } := by
  rw [parse, Text.cut_of_not_mem ':' raw.toList h]

/-- What the first colon separates: a connective or an operator, and what it stands in front of. -/
theorem parse_of_colon {raw : String} {word rest : List Char} (hword : ':' ∉ word)
    (h : raw.toList = word ++ ':' :: rest) :
    parse column raw =
      if rest = [] then .error (.emptyValue raw)
      else
        match Connective.ofKeyword? (String.ofList word) with
        | some c => ofSegments column c (Text.cut ':' rest)
        | none => ofSegments column .and (word :: Text.cut ':' rest) := by
  have hcut : Text.cut ':' raw.toList = word :: Text.cut ':' rest := by
    rw [h, Text.cut_append ':' word rest hword]
  rw [parse, hcut]
  by_cases hrest : rest = []
  · subst hrest
    rfl
  · rw [if_neg hrest]
    -- The reader tells the cases apart by how many segments there are behind the first one.
    rcases Text.cut_cases ':' rest with ⟨_, heq⟩ | ⟨before, behind, _, _, heq⟩
    · rw [heq]
      cases rest with
      | nil => exact absurd rfl hrest
      | cons => rfl
    · rw [heq]
      cases hbehind : Text.cut ':' behind with
      | nil => exact absurd hbehind (Text.cut_ne_nil ':' behind)
      | cons => cases before <;> rfl

/-- The value after an operator is the text behind the colon, its own colons included. -/
theorem ofSegments_cut (c : Connective) (o : Operator) {keyword : List Char} (value : List Char)
    (ho : sameWord o.keyword (String.ofList keyword) = true) :
    ofSegments column c (keyword :: Text.cut ':' value) =
      .ok ⟨c, column, o, String.ofList value⟩ := by
  rw [ofSegments, Operator.ofKeyword, (Operator.ofKeyword?_eq_some_iff _ o).2 ho]
  simp only [Text.intercalate_cut]

/-- A text that writes a condition is read as that condition. -/
theorem parse_of_written {raw : String} {p : Predicate} (h : Written column raw p) :
    parse column raw = .ok p := by
  cases h with
  | bare value hcolon => exact parse_of_not_mem column hcolon
  | plain o keyword value ho hvalue =>
    rw [parse_of_colon column (Operator.colon_not_mem ho) (toList_colon keyword value), if_neg (by simpa using hvalue),
      String.ofList_toList, Operator.connective_eq_none ho]
    simp only
    rw [ofSegments_cut column .and o value.toList (by rwa [String.ofList_toList]),
      String.ofList_toList]
  | joined c o word keyword value hc ho =>
    have hraw : (word ++ ":" ++ keyword ++ ":" ++ value).toList =
        word.toList ++ ':' :: (keyword.toList ++ ':' :: value.toList) := by
      rw [toList_colon, toList_colon, List.append_assoc, List.cons_append]
    rw [parse_of_colon column (Connective.colon_not_mem hc) hraw, if_neg (by simp),
      String.ofList_toList, (Connective.ofKeyword?_eq_some_iff word c).2 hc]
    simp only
    rw [Text.cut_append ':' _ _ (Operator.colon_not_mem ho),
      ofSegments_cut column c o value.toList (by rwa [String.ofList_toList]), String.ofList_toList]

theorem parse_of_unfinished {raw : String} {p : Predicate} (h : Unfinished column raw p) :
    parse column raw = .ok p := by
  obtain ⟨c, o, word, keyword, hc, ho, rfl, rfl⟩ := h
  have hkeyword : keyword.toList ≠ [] := by simpa using Operator.ne_empty_of_sameWord ho
  rw [parse_of_colon column (Connective.colon_not_mem hc) (toList_colon word keyword),
    if_neg hkeyword,
    String.ofList_toList, (Connective.ofKeyword?_eq_some_iff word c).2 hc]
  simp only
  rw [Text.cut_of_not_mem ':' _ (Operator.colon_not_mem ho), ofSegments, Operator.ofKeyword,
    String.ofList_toList, (Operator.ofKeyword?_eq_some_iff keyword o).2 ho]
  rfl

/-- The segments begin with an operator, or the reading fails on what stands in its place. -/
theorem ofSegments_cases (c : Connective) (keyword : List Char) (rest : List (List Char)) :
    ofSegments column c (keyword :: rest) = .error (.invalidOperator (String.ofList keyword)) ∨
    ∃ o, sameWord o.keyword (String.ofList keyword) = true ∧
      ofSegments column c (keyword :: rest) =
        .ok ⟨c, column, o, String.ofList ([':'].intercalate rest)⟩ := by
  rw [ofSegments, Operator.ofKeyword]
  cases ho : Operator.ofKeyword? (String.ofList keyword) with
  | none => exact .inl rfl
  | some o => exact .inr ⟨o, (Operator.ofKeyword?_eq_some_iff _ o).1 ho, rfl⟩

theorem eq_append_colon {raw : String} {before behind : List Char}
    (h : raw.toList = before ++ ':' :: behind) :
    raw = String.ofList before ++ ":" ++ String.ofList behind := by
  rw [← String.toList_inj, h, toList_colon, String.toList_ofList, String.toList_ofList]

/-- The reader finds a written condition, or an unfinished one, or what is wrong with the token. -/
theorem parse_cases (raw : String) :
    (∃ p, parse column raw = .ok p ∧ (Written column raw p ∨ Unfinished column raw p)) ∨
    parse column raw = .error (.emptyValue raw) ∨
    ∃ keyword, parse column raw = .error (.invalidOperator keyword) := by
  rcases Text.cut_cases ':' raw.toList with ⟨hcolon, _⟩ | ⟨word, rest, hword, hraw, _⟩
  · exact .inl ⟨_, parse_of_not_mem column hcolon, .inl (.bare raw hcolon)⟩
  rw [parse_of_colon column hword hraw]
  by_cases hrest : rest = []
  · exact .inr (.inl (if_pos hrest))
  rw [if_neg hrest]
  cases hc : Connective.ofKeyword? (String.ofList word) with
  | none =>
    -- The first word is the operator, and `rest`, which is not empty, the value.
    rcases ofSegments_cases column .and word (Text.cut ':' rest) with herror | ⟨o, ho, hok⟩
    · exact .inr (.inr ⟨_, herror⟩)
    · rw [Text.intercalate_cut] at hok
      have hvalue : String.ofList rest ≠ "" := by simpa using hrest
      refine .inl ⟨_, hok, .inl ?_⟩
      rw [eq_append_colon hraw]
      exact .plain o _ _ ho hvalue
  | some c =>
    have hword' := (Connective.ofKeyword?_eq_some_iff _ c).1 hc
    -- The connective stands in front of an operator, and a value only behind one more colon.
    rcases Text.cut_cases ':' rest with ⟨_, hcut⟩ | ⟨keyword, value, _, hkeyword, hcut⟩
    · rw [hcut]
      rcases ofSegments_cases column c rest [] with herror | ⟨o, ho, hok⟩
      · exact .inr (.inr ⟨_, herror⟩)
      · exact .inl ⟨_, hok, .inr ⟨c, o, _, _, hword', ho, eq_append_colon hraw, rfl⟩⟩
    · rw [hcut]
      rcases ofSegments_cases column c keyword (Text.cut ':' value) with herror | ⟨o, ho, hok⟩
      · exact .inr (.inr ⟨_, herror⟩)
      · rw [Text.intercalate_cut] at hok
        have hjoined : raw = String.ofList word ++ ":" ++ String.ofList keyword ++ ":" ++
            String.ofList value := by
          rw [eq_append_colon hraw, hkeyword, ← String.toList_inj]
          simp
        refine .inl ⟨_, hok, .inl ?_⟩
        rw [hjoined]
        exact .joined c o _ _ _ hword' ho

theorem parse_error_cases {raw : String} {e : Error} (h : parse column raw = .error e) :
    e = .emptyValue raw ∨ ∃ keyword, e = .invalidOperator keyword := by
  rcases parse_cases column raw with ⟨p, hp, _⟩ | hempty | ⟨keyword, hinvalid⟩
  · rw [hp] at h
    cases h
  · rw [hempty] at h
    cases h
    exact .inl rfl
  · rw [hinvalid] at h
    cases h
    exact .inr ⟨keyword, rfl⟩

/-- What the reader refuses is a fault of the filter. -/
theorem isFilterError_of_parse {raw : String} {e : Error} (h : parse column raw = .error e) :
    e.isFilterError = true := by
  rcases parse_error_cases column h with rfl | ⟨keyword, rfl⟩
  · rfl
  · rfl

/-- An unfinished token is none of the texts that write a condition. -/
theorem not_written_of_unfinished {raw : String} {p q : Predicate}
    (h : Unfinished column raw p) : ¬ Written column raw q := by
  obtain ⟨c, o, word, keyword, hc, ho, rfl, rfl⟩ := h
  have hword := Connective.colon_not_mem hc
  have hkeyword := Operator.colon_not_mem ho
  have hfirst : Text.cut ':' (word ++ ":" ++ keyword).toList = [word.toList, keyword.toList] := by
    rw [toList_colon, Text.cut_append ':' _ _ hword, Text.cut_of_not_mem ':' _ hkeyword]
  -- Its two pieces are a connective and an operator: no bare value has two, no operator is a
  -- connective, and a connective with an operator and a value has three.
  intro hwritten
  generalize hraw : word ++ ":" ++ keyword = raw at hwritten hfirst
  cases hwritten with
  | bare value hcolon =>
    rw [Text.cut_of_not_mem ':' _ hcolon] at hfirst
    simp at hfirst
  | plain o' keyword' value ho' hvalue =>
    rw [toList_colon, Text.cut_append ':' _ _ (Operator.colon_not_mem ho')] at hfirst
    have hsame : keyword' = word := String.toList_inj.1 (List.cons.inj hfirst).1
    have hnone := Operator.connective_eq_none ho'
    rw [hsame, (Connective.ofKeyword?_eq_some_iff word c).2 hc] at hnone
    cases hnone
  | joined c' o' word' keyword' value hc' ho' =>
    rw [toList_colon, toList_colon, List.append_assoc, List.cons_append,
      Text.cut_append ':' _ _ (Connective.colon_not_mem hc'),
      Text.cut_append ':' _ _ (Operator.colon_not_mem ho')] at hfirst
    have hrest := (List.cons.inj (List.cons.inj hfirst).2).2
    exact Text.cut_ne_nil ':' value.toList hrest

/-- The reader accepts the texts that write a condition, each as what it writes, and the unfinished
ones. What it refuses is a fault of the filter; that of a text whose only colon stands at its end is
the missing value. -/
theorem parse_reads_tokens (raw : String) :
    (∀ p, parse column raw = .ok p ↔ Written column raw p ∨ Unfinished column raw p) ∧
    (∀ e, parse column raw = .error e → e.isFilterError = true) ∧
    (∀ s : String, ':' ∉ s.toList → raw = s ++ ":" →
      parse column raw = .error (.emptyValue raw)) := by
  refine ⟨fun p => ⟨fun h => ?_, ?_⟩, fun e h => ?_, ?_⟩
  · rcases parse_cases column raw with ⟨q, hq, hread⟩ | hempty | ⟨keyword, hinvalid⟩
    · rw [hq] at h
      cases h
      exact hread
    · rw [hempty] at h
      cases h
    · rw [hinvalid] at h
      cases h
  · rintro (hwritten | hunfinished)
    · exact parse_of_written column hwritten
    · exact parse_of_unfinished column hunfinished
  · exact isFilterError_of_parse column h
  · rintro s hs rfl
    have hraw : (s ++ ":").toList = s.toList ++ [':'] := by rw [String.toList_append]; rfl
    rw [parse_of_colon column hs hraw, if_pos rfl]

theorem parse_value_with_colon :
    Written .mark "oR:LIKE:or:%" ⟨.or, .mark, .like, "or:%"⟩ ∧
    parse .mark "oR:LIKE:or:%" = .ok ⟨.or, .mark, .like, "or:%"⟩ := by
  have h : Written .mark "oR:LIKE:or:%" ⟨.or, .mark, .like, "or:%"⟩ :=
    .joined .or .like "oR" "LIKE" "or:%" (by decide) (by decide)
  exact ⟨h, ((parse_reads_tokens .mark "oR:LIKE:or:%").1 _).2 (.inl h)⟩

/-- An unfinished token is read as a comparison with the empty text, which nothing in it writes. -/
theorem parse_unfinished_token :
    parse .mark "or:eq" = .ok ⟨.or, .mark, .eq, ""⟩ ∧ ∀ p, ¬ Written .mark "or:eq" p := by
  have h : Unfinished .mark "or:eq" ⟨.or, .mark, .eq, ""⟩ :=
    ⟨.or, .eq, "or", "eq", by decide, by decide, rfl, rfl⟩
  exact ⟨parse_of_unfinished .mark h, fun p => not_written_of_unfinished .mark h⟩

end Predicate

end VehicleRecords
