import VehicleRecords.Proofs.Text.Decimal
import VehicleRecords.Toml.Quoted

/-!
Strings in double quotes read back. A character is written as it is, or escaped by a letter or by its
code; however the characters of a text are written, the text is what is read (`readString?_quote`).
-/
namespace VehicleRecords.Toml

/-- The ways to write a character between double quotes. -/
inductive Spells (c : Char) : List Char → Prop
  | plain (hplain : isPlain c = true) (hquote : c ≠ '"') (hslash : c ≠ '\\') : Spells c [c]
  | letter {l : Char} (h : escapes.lookup l = some c) : Spells c ['\\', l]
  | code {l : Char} {digits : List Char} (hlength : codeLength? l = some digits.length)
      (hcode : Text.natural? 16 digits = some c.toNat) : Spells c ('\\' :: l :: digits)

def codeDigits (n : Nat) : List Char :=
  [0x10000000, 0x1000000, 0x100000, 0x10000, 0x1000, 0x100, 0x10, 0x1].map fun unit =>
    Text.hexDigit (n / unit % 16)

/-- A character escaped by a letter where there is one for it, and by its code where it cannot stand
for itself. -/
def escapeChar (c : Char) : List Char :=
  match escapes.find? (·.2 == c) with
  | some (l, _) => ['\\', l]
  | none => if isPlain c then [c] else '\\' :: 'U' :: codeDigits c.toNat

theorem natural?_codeDigits {n : Nat} (h : n < 0x100000000) :
    Text.natural? 16 (codeDigits n) = some n := by
  have hdigit (unit : Nat) : Text.digitValue? 16 (Text.hexDigit (n / unit % 16)) =
      some (n / unit % 16) := Text.digitValue?_hexDigit _ (Nat.mod_lt _ (by decide))
  simp only [codeDigits, List.map_cons, List.map_nil, Text.natural?, List.foldlM_cons, hdigit,
    List.foldlM_nil, Option.map_some, Option.bind_eq_bind, Option.bind_some, Option.pure_def]
  refine congrArg some ?_
  omega

/-- Of the ways to write a character, the printer takes one that is allowed. -/
theorem spells_escapeChar (c : Char) : Spells c (escapeChar c) := by
  have hlookup : ∀ e ∈ escapes, escapes.lookup e.1 = some e.2 := by decide
  have hmarks : (escapes.find? (·.2 == '"')).isSome ∧ (escapes.find? (·.2 == '\\')).isSome := by
    decide
  rw [escapeChar]
  split
  · next l d hfind =>
    have hcharacter := List.find?_some hfind
    have hd : d = c := beq_iff_eq.1 hcharacter
    rw [hd] at hfind
    exact .letter (hlookup _ (List.mem_of_find?_eq_some hfind))
  · next hfind =>
    split
    · next hplain =>
      refine .plain hplain ?_ ?_
      · rintro rfl
        cases hfind ▸ hmarks.1
      · rintro rfl
        cases hfind ▸ hmarks.2
    · have hcode : c.toNat < 0x100000000 := c.val.toNat_lt
      exact .code rfl (natural?_codeDigits hcode)

def quote (spell : Char → List Char) (s : List Char) : List Char := '"' :: s.flatMap spell ++ ['"']

theorem Spells.first {c : Char} {t : List Char} (h : Spells c t) : ∃ d u, t = d :: u ∧ d ≠ '"' := by
  cases h with
  | plain hplain hquote hslash => exact ⟨c, [], rfl, hquote⟩
  | letter h => exact ⟨'\\', _, rfl, by decide⟩
  | code hlength hcode => exact ⟨'\\', _, rfl, by decide⟩

theorem charOfHex?_of_code {c : Char} {digits : List Char}
    (h : Text.natural? 16 digits = some c.toNat) : charOfHex? digits = some c := by
  have hvalid : c.toNat < 0xD800 ∨ (0xE000 ≤ c.toNat ∧ c.toNat < 0x110000) :=
    c.valid.imp_right fun h => ⟨h.1, h.2⟩
  rw [charOfHex?, h]
  dsimp only [bind, Option.bind]
  rw [if_pos hvalid, Char.ofNat_toNat]

/-- The reading goes on behind a character, whatever follows. -/
theorem readBasic?_of_spells {c : Char} {t : List Char} (h : Spells c t) (rest : List Char) :
    readBasic? (t ++ rest) = (readBasic? rest).map fun (cs, rest) => (c :: cs, rest) := by
  cases h with
  | plain hplain hquote hslash =>
    rw [List.singleton_append, readBasic?, if_pos hplain]
    · exact hquote
    · exact hslash
  | @letter l h =>
    have hl : codeLength? l = none := by
      unfold codeLength?
      split
      · cases h
      · cases h
      · rfl
    have hescape : escape? (l :: rest) = some (c, 1) := by
      simp only [escape?, hl, h, Option.map_some]
    rw [List.cons_append, readBasic?, List.singleton_append, hescape]
    rfl
  | @code l digits hlength hcode =>
    -- The letter tells how many digits follow, and these are as many.
    have hescape : escape? (l :: (digits ++ rest)) = some (c, digits.length + 1) := by
      have hlong : digits.length ≤ (digits ++ rest).length := by
        rw [List.length_append]
        exact Nat.le_add_right _ _
      simp only [escape?, hlength, if_pos hlong, List.take_left, charOfHex?_of_code hcode,
        Option.map_some]
    rw [List.cons_append, readBasic?, List.cons_append, hescape]
    dsimp only
    rw [List.drop_succ_cons, List.drop_left]

/-- A text comes back however its characters are spelled. -/
theorem readBasic?_spelled {spell : Char → List Char} (hspell : ∀ c, Spells c (spell c))
    (s rest : List Char) : readBasic? (s.flatMap spell ++ '"' :: rest) = some (s, rest) := by
  induction s with
  | nil => rw [List.flatMap_nil, List.nil_append, readBasic?]
  | cons c s ih =>
    rw [List.flatMap_cons, List.append_assoc, readBasic?_of_spells (hspell c), ih, Option.map_some]

/-- The quotes around the empty text do not begin a string over several lines, unless a third one
follows them. -/
theorem readString?_quote {spell : Char → List Char} (hspell : ∀ c, Spells c (spell c))
    (s : List Char) {rest : List Char} (hrest : ∀ c ∈ rest.head?, c ≠ '"') :
    readString? (quote spell s ++ rest) = some (s, rest) := by
  -- Only the empty text has another quote behind the first one, and then no third one follows.
  have hshort : ∀ t, s.flatMap spell ++ '"' :: rest ≠ '"' :: '"' :: t := by
    intro t heq
    cases s with
    | nil =>
      rw [List.flatMap_nil, List.nil_append, List.cons.injEq] at heq
      rw [heq.2] at hrest
      exact hrest '"' rfl rfl
    | cons c s =>
      obtain ⟨d, u, hd, hquote⟩ := (hspell c).first
      rw [List.flatMap_cons, hd] at heq
      exact hquote (List.cons.inj heq).1
  rw [quote, List.append_assoc, List.singleton_append, List.cons_append, readString?, readShort?]
  · exact readBasic?_spelled hspell s rest
  · intro t heq
    exact hshort t (List.cons.inj heq).2
  · intro t heq
    cases heq

end VehicleRecords.Toml
