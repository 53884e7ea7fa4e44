import VehicleRecords.Json.Reading
import VehicleRecords.Proofs.Json.Token

/-!
Trees read back. The text of a tree that stands within the limits is a document, and it is that
tree's (`decode_bytes`). The scan turns the text of a value into its tokens in front of whatever
follows, and the automaton turns those tokens into the value inside whatever frames are open.
-/
namespace VehicleRecords.Json

namespace Tree

mutual

/-- The tree can stand inside `depth` arrays and objects: nothing in it is too deep, its numbers are
finite decimals, and its strings and keys have a value. -/
def Fits (depth : Nat) : Tree → Prop
  | .null | .bool _ => True
  | .number n => (∀ d ∈ n.fraction, d < 10) ∧ n.isFinite = true
  | .string s => s.isSome = true
  | .array items => depth < maxNesting ∧ ItemsFit (depth + 1) items
  | .object members => depth < maxNesting ∧ MembersFit (depth + 1) members

def ItemsFit (depth : Nat) : List Tree → Prop
  | [] => True
  | item :: items => Fits depth item ∧ ItemsFit depth items

def MembersFit (depth : Nat) : List (Option String × Tree) → Prop
  | [] => True
  | (key, value) :: members => key.isSome = true ∧ Fits depth value ∧ MembersFit depth members

end

mutual

def tokens : Tree → List Token
  | .null => [.null]
  | .bool b => [.bool b]
  | .number n => [.number n]
  | .string s => [.string s]
  | .array [] => [.openArray, .closeArray]
  | .array (item :: items) => .openArray :: (tokens item ++ (tokensOfItems items ++ [.closeArray]))
  | .object [] => [.openObject, .closeObject]
  | .object ((key, value) :: members) =>
    .openObject :: .string key :: .colon ::
      (tokens value ++ (tokensOfMembers members ++ [.closeObject]))

def tokensOfItems : List Tree → List Token
  | [] => []
  | item :: items => .comma :: (tokens item ++ tokensOfItems items)

def tokensOfMembers : List (Option String × Tree) → List Token
  | [] => []
  | (key, value) :: members =>
    .comma :: .string key :: .colon :: (tokens value ++ tokensOfMembers members)

end

theorem itemsFit_iff {depth : Nat} {items : List Tree} :
    ItemsFit depth items ↔ ∀ item ∈ items, Fits depth item := by
  induction items with
  | nil => simp [ItemsFit]
  | cons item items ih => rw [ItemsFit, ih, List.forall_mem_cons]

theorem membersFit_iff {depth : Nat} {members : List (Option String × Tree)} :
    MembersFit depth members ↔ ∀ m ∈ members, m.1.isSome = true ∧ Fits depth m.2 := by
  induction members with
  | nil => simp [MembersFit]
  | cons m members ih =>
    obtain ⟨key, value⟩ := m
    rw [MembersFit, ih, List.forall_mem_cons, and_assoc]

end Tree

/-! ## From the text to the tokens -/

namespace Scanner

/-- A mark is one token. -/
theorem tokensBehind_mark {c : Char} {t : Token} (h : Token.ofMark? c = some t) (found : List Token)
    (rest : List Char) : tokensBehind found (c :: rest) = tokensBehind (t :: found) rest := by
  have hspace : isSpace c = false ∧ c ≠ '"' := by
    unfold Token.ofMark? at h
    split at h <;> first | decide | cases h
  have hstart : start found c = ⟨.between, t :: found⟩ := by
    rw [start, hspace.1, if_neg Bool.false_ne_true, if_neg hspace.2, h]
  have hstep : step ⟨.between, found⟩ (some c) = some (start found c) := rfl
  rw [tokensBehind, run?_cons, hstep, hstart, Option.bind_some]
  rfl

theorem ends_mark {c : Char} {t : Token} (h : Token.ofMark? c = some t) (rest : List Char) :
    Ends (c :: rest) := by
  rintro _ ⟨rfl⟩
  rw [isDelimiter, h, Option.isSome_some, Bool.or_true]

theorem ends_printItems (items : List Tree) {rest : List Char} (hrest : Ends rest) :
    Ends (Tree.printItems items ++ rest) := by
  cases items with
  | nil => exact hrest
  | cons item items => exact ends_mark (c := ',') rfl _

theorem ends_printMembers (members : List (Option String × Tree)) {rest : List Char}
    (hrest : Ends rest) : Ends (Tree.printMembers members ++ rest) := by
  cases members with
  | nil => exact hrest
  | cons m members => exact ends_mark (c := ',') rfl _

mutual

/-- The text of a tree is scanned to its tokens, in front of whatever ends a word. -/
theorem tokensBehind_print {depth : Nat} (t : Tree) (ht : t.Fits depth) (found : List Token)
    {rest : List Char} (hrest : Ends rest) :
    tokensBehind found (t.print ++ rest) = tokensBehind (t.tokens.reverse ++ found) rest := by
  match t with
  | .null => exact tokensBehind_word (by decide) (by decide) rfl found hrest
  | .bool true => exact tokensBehind_word (by decide) (by decide) rfl found hrest
  | .bool false => exact tokensBehind_word (by decide) (by decide) rfl found hrest
  | .number n => exact tokensBehind_number n ht.1 found hrest
  | .string (some s) => exact tokensBehind_printString found s rest
  | .array [] =>
    rw [Tree.print, List.cons_append, tokensBehind_mark rfl, List.cons_append,
      tokensBehind_mark rfl]
    rfl
  | .array (item :: items) =>
    -- Behind an item stands a comma or the closing bracket, which ends a number or a word.
    obtain ⟨-, hitem, hitems⟩ := ht
    have hclose := ends_mark (c := ']') rfl rest
    simp only [Tree.print, List.append_assoc, List.cons_append, List.nil_append]
    rw [tokensBehind_mark rfl, tokensBehind_print item hitem _ (ends_printItems items hclose),
      tokensBehind_printItems items hitems _ hclose, tokensBehind_mark rfl]
    simp [Tree.tokens]
  | .object [] =>
    rw [Tree.print, List.cons_append, tokensBehind_mark rfl, List.cons_append,
      tokensBehind_mark rfl]
    rfl
  | .object ((some key, value) :: members) =>
    obtain ⟨-, -, hvalue, hmembers⟩ := ht
    have hclose := ends_mark (c := '}') rfl rest
    simp only [Tree.print, Option.getD_some, List.append_assoc, List.cons_append, List.nil_append]
    rw [tokensBehind_mark rfl, tokensBehind_printString, tokensBehind_mark rfl,
      tokensBehind_print value hvalue _ (ends_printMembers members hclose),
      tokensBehind_printMembers members hmembers _ hclose, tokensBehind_mark rfl]
    simp [Tree.tokens]
  termination_by structural t

theorem tokensBehind_printItems {depth : Nat} (items : List Tree) (h : Tree.ItemsFit depth items)
    (found : List Token) {rest : List Char} (hrest : Ends rest) :
    tokensBehind found (Tree.printItems items ++ rest) =
      tokensBehind ((Tree.tokensOfItems items).reverse ++ found) rest := by
  match items with
  | [] => rfl
  | item :: items =>
    rw [Tree.printItems, List.append_assoc, List.cons_append, tokensBehind_mark rfl,
      tokensBehind_print item h.1 _ (ends_printItems items hrest),
      tokensBehind_printItems items h.2 _ hrest]
    simp [Tree.tokensOfItems]
  termination_by structural items

theorem tokensBehind_printMembers {depth : Nat} (members : List (Option String × Tree))
    (h : Tree.MembersFit depth members) (found : List Token) {rest : List Char}
    (hrest : Ends rest) :
    tokensBehind found (Tree.printMembers members ++ rest) =
      tokensBehind ((Tree.tokensOfMembers members).reverse ++ found) rest := by
  match members with
  | [] => rfl
  | (some key, value) :: members =>
    simp only [Tree.printMembers, Option.getD_some, List.append_assoc, List.cons_append]
    rw [tokensBehind_mark rfl, tokensBehind_printString, tokensBehind_mark rfl,
      tokensBehind_print value h.2.1 _ (ends_printMembers members hrest),
      tokensBehind_printMembers members h.2.2 _ hrest]
    simp [Tree.tokensOfMembers]
  termination_by structural members

end

end Scanner

/-! ## From the tokens to the tree -/

namespace Position

theorem foldlM_cons_of_step {position next : Position} {t : Token}
    (h : step? position t = some next) (ts : List Token) : (t :: ts).foldlM step? position = ts.foldlM step? next := by
  rw [List.foldlM_cons, h]
  rfl

/-- Where an array has just been opened, a value may come as where one is due. -/
theorem foldlM_firstItem (t : Tree) (ts : List Token) (frames : List Frame) :
    (t.tokens ++ ts).foldlM step? (.firstItem frames) =
      (t.tokens ++ ts).foldlM step? (.value (.array [] :: frames)) := by
  cases t with
  | null | bool | number | string => rfl
  | array items => cases items <;> rfl
  | object members => cases members <;> rfl

mutual

/-- Where a value is due, the tokens of a tree are that value. -/
theorem foldlM_tokens (t : Tree) (ts : List Token) (frames : List Frame) :
    (t.tokens ++ ts).foldlM step? (.value frames) = ts.foldlM step? (.behind frames t) := by
  match t with
  | .null | .bool _ | .number _ | .string _ => rfl
  | .array [] | .object [] => rfl
  | .array (item :: items) =>
    -- The first item is read in the frame that further ones are added to.
    simp only [Tree.tokens, List.cons_append, List.append_assoc, List.nil_append]
    rw [foldlM_cons_of_step rfl, foldlM_firstItem, foldlM_tokens item, foldlM_tokensOfItems items]
    rfl
  | .object ((k, v) :: members) =>
    simp only [Tree.tokens, List.cons_append, List.append_assoc, List.nil_append]
    rw [foldlM_cons_of_step rfl, foldlM_cons_of_step rfl, foldlM_cons_of_step rfl,
      foldlM_tokens v, foldlM_tokensOfMembers members]
    rfl
  termination_by structural t

/-- Behind an item, the tokens of further items and the end of the array complete it. -/
theorem foldlM_tokensOfItems (items : List Tree) (ts : List Token) (frames : List Frame)
    (done : List Tree) (last : Tree) :
    (Tree.tokensOfItems items ++ .closeArray :: ts).foldlM step?
        (.behind (.array done :: frames) last) =
      ts.foldlM step? (.behind frames (.array (done.reverse ++ last :: items))) := by
  match items with
  | [] =>
    rw [Tree.tokensOfItems, List.nil_append, foldlM_cons_of_step rfl, List.reverse_cons]
  | item :: items =>
    rw [Tree.tokensOfItems, List.cons_append, List.append_assoc, foldlM_cons_of_step rfl,
      foldlM_tokens item, foldlM_tokensOfItems items, List.reverse_cons, List.append_assoc,
      List.singleton_append]
  termination_by structural items

theorem foldlM_tokensOfMembers (members : List (Option String × Tree)) (ts : List Token)
    (frames : List Frame) (done : List (Option String × Tree)) (key : Option String) (last : Tree) :
    (Tree.tokensOfMembers members ++ .closeObject :: ts).foldlM step?
        (.behind (.object done key :: frames) last) =
      ts.foldlM step? (.behind frames (.object (done.reverse ++ (key, last) :: members))) := by
  match members with
  | [] =>
    rw [Tree.tokensOfMembers, List.nil_append, foldlM_cons_of_step rfl, List.reverse_cons]
  | (k, v) :: members =>
    simp only [Tree.tokensOfMembers, List.cons_append, List.append_assoc]
    rw [foldlM_cons_of_step rfl, foldlM_cons_of_step rfl, foldlM_cons_of_step rfl,
      foldlM_tokens v, foldlM_tokensOfMembers members, List.reverse_cons, List.append_assoc,
      List.singleton_append]
  termination_by structural members

end

end Position

namespace Tree

theorem ofTokens?_tokens (t : Tree) : ofTokens? t.tokens = some t := by
  have hrun := Position.foldlM_tokens t [] []
  rw [List.append_nil] at hrun
  rw [ofTokens?, hrun]
  rfl

/-! ## The limits -/

mutual

/-- The tokens of a tree that fits keep the limits and lead back to the depth they start at. -/
theorem keepsLimits_tokens {depth : Nat} (t : Tree) (h : t.Fits depth) (ts : List Token) :
    keepsLimits depth (t.tokens ++ ts) = keepsLimits depth ts := by
  match t with
  | .null | .bool _ => rfl
  | .number n => simp only [tokens, List.singleton_append, keepsLimits, h.2, Bool.true_and]
  | .string (some s) => rfl
  | .array [] | .object [] =>
    simp [tokens, keepsLimits, show depth < maxNesting from h.1]
  | .array (item :: items) =>
    obtain ⟨hdepth, hitem, hitems⟩ := h
    simp [tokens, keepsLimits, hdepth, keepsLimits_tokens item hitem,
      keepsLimits_tokensOfItems items hitems]
  | .object ((some key, value) :: members) =>
    obtain ⟨hdepth, -, hvalue, hmembers⟩ := h
    simp [tokens, keepsLimits, hdepth, keepsLimits_tokens value hvalue,
      keepsLimits_tokensOfMembers members hmembers]
  termination_by structural t

theorem keepsLimits_tokensOfItems {depth : Nat} (items : List Tree) (h : ItemsFit depth items)
    (ts : List Token) : keepsLimits depth (tokensOfItems items ++ ts) = keepsLimits depth ts := by
  match items with
  | [] => rfl
  | item :: items =>
    rw [tokensOfItems, List.cons_append, List.append_assoc, keepsLimits,
      keepsLimits_tokens item h.1, keepsLimits_tokensOfItems items h.2]
    all_goals nofun
  termination_by structural items

theorem keepsLimits_tokensOfMembers {depth : Nat} (members : List (Option String × Tree))
    (h : MembersFit depth members) (ts : List Token) :
    keepsLimits depth (tokensOfMembers members ++ ts) = keepsLimits depth ts := by
  match members with
  | [] => rfl
  | (some key, value) :: members =>
    simp [tokensOfMembers, keepsLimits, keepsLimits_tokens value h.2.1,
      keepsLimits_tokensOfMembers members h.2.2]
  termination_by structural members

end

/-! ## Documents -/

/-- The bytes are the text of a document with this value, which keeps all limits. -/
def IsTextOf (t : Tree) (bytes : Bytes) : Prop :=
  ∃ ts, tokens? bytes = some ts ∧ ofTokens? ts = some t ∧ keepsLimits 0 ts = true

theorem tokens?_bytes {depth : Nat} {t : Tree} (h : t.Fits depth) :
    tokens? t.bytes = some t.tokens := by
  have hscan : tokensBehind [] (t.print ++ []) = tokensBehind (t.tokens.reverse ++ []) [] :=
    Scanner.tokensBehind_print t h [] nofun
  rw [List.append_nil, List.append_nil] at hscan
  rw [bytes, tokens?_encode, hscan]
  exact congrArg some (List.reverse_reverse t.tokens)

theorem isTextOf_bytes {t : Tree} (h : t.Fits 0) : t.IsTextOf t.bytes := by
  refine ⟨t.tokens, tokens?_bytes h, ofTokens?_tokens t, ?_⟩
  have hlimits := keepsLimits_tokens t h []
  rwa [List.append_nil] at hlimits

/-- Reading a document is reading its value. -/
theorem IsTextOf.decode {t : Tree} {bytes : Bytes} (h : t.IsTextOf bytes) (read : Reader α) :
    decode read bytes = read t := by
  obtain ⟨ts, hts, htree, hlimits⟩ := h
  simp only [Json.decode, hts, htree, hlimits, if_pos]
  cases read t <;> rfl

end Tree

end VehicleRecords.Json
