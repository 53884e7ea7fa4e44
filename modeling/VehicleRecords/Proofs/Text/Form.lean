import VehicleRecords.Proofs.Text.Split
import VehicleRecords.Proofs.Text.Utf8
import VehicleRecords.Text.Form

namespace VehicleRecords.Text

/-- A property of bytes that was checked for every number below 256. -/
theorem byte_forall {p : UInt8 → Prop} (h : ∀ n : Fin 256, p (UInt8.ofNat n)) (b : UInt8) : p b := by
  have hb := h ⟨b.toNat, b.toNat_lt⟩
  rwa [UInt8.ofNat_toNat] at hb

namespace Utf8

theorem encode_append (s t : List Char) : encode (s ++ t) = encode s ++ encode t :=
  List.flatMap_append

theorem encode_cons (c : Char) (s : List Char) : encode (c :: s) = encode [c] ++ encode s :=
  encode_append [c] s

theorem encode_flatMap {α : Type} (f : α → List Char) (xs : List α) :
    encode (xs.flatMap f) = xs.flatMap fun x => encode (f x) :=
  List.flatMap_assoc

theorem encode_intercalate (sep : Char) (pieces : List (List Char)) :
    encode ([sep].intercalate pieces) = (encode [sep]).intercalate (pieces.map encode) := by
  induction pieces with
  | nil => rfl
  | cons piece pieces ih =>
    cases pieces with
    | nil => simp
    | cons next pieces =>
      rw [List.map_cons] at ih
      rw [List.intercalate_cons_cons, encode_append, encode_append, ih, List.map_cons, List.map_cons,
        List.intercalate_cons_cons]

theorem encode_ascii (b : UInt8) (h : b < 0x80) : encode [Char.ofNat b.toNat] = [b] := by
  revert b
  exact byte_forall (by decide +kernel)

end Utf8

open Utf8 (encode encode_append encode_cons)

/-! ## Escapes -/

def hexByte (n : Nat) : UInt8 := UInt8.ofNat (upperHexDigit n).toNat

theorem encode_percentEscape (b : UInt8) :
    encode (percentEscape b) = [0x25, hexByte (b.toNat / 16), hexByte (b.toNat % 16)] := by
  revert b
  exact byte_forall (by decide +kernel)

theorem hexByteValue?_hexByte {n : Nat} (h : n < 16) :
    hexByteValue? (hexByte n) = some (UInt8.ofNat n) := by
  have hall : ∀ n : Fin 16, hexByteValue? (hexByte n) = some (UInt8.ofNat n) := by decide
  exact hall ⟨n, h⟩

/-- A digit is none of the bytes that mean something in encoded pairs. -/
theorem hexByte_not_mem {n : Nat} (h : n < 16) : hexByte n ∉ [0x25, 0x26, 0x2B, 0x3D] := by
  have hall : ∀ n : Fin 16, hexByte n ∉ [0x25, 0x26, 0x2B, 0x3D] := by decide
  exact hall ⟨n, h⟩

theorem nibbles (b : UInt8) : UInt8.ofNat (b.toNat / 16) * 16 + UInt8.ofNat (b.toNat % 16) = b := by
  revert b
  exact byte_forall (by decide +kernel)

theorem nibble_lt (b : UInt8) : b.toNat / 16 < 16 ∧ b.toNat % 16 < 16 := by
  have hb := b.toNat_lt
  omega

theorem not_mem_percentEscape {c : UInt8} (hc : c ∈ [0x26, 0x2B, 0x3D]) (b : UInt8) :
    c ∉ encode (percentEscape b) := by
  have hall : c ∈ [0x25, 0x26, 0x2B, 0x3D] := List.mem_cons_of_mem _ hc
  have hne : c ≠ 0x25 := by
    rintro rfl
    exact absurd hc (by decide)
  obtain ⟨hhigh, hlow⟩ := nibble_lt b
  rw [encode_percentEscape, List.mem_cons, List.mem_cons, List.mem_singleton]
  rintro (hmem | hmem | hmem)
  · exact hne hmem
  · exact hexByte_not_mem hhigh (hmem ▸ hall)
  · exact hexByte_not_mem hlow (hmem ▸ hall)

theorem percentDecode_cons_ne {b : UInt8} (h : b ≠ 0x25) (rest : Bytes) :
    percentDecode (b :: rest) = b :: percentDecode rest := by
  rw [percentDecode]
  intro high low rest' hb
  exact absurd hb h

theorem percentDecode_percentEscape (b : UInt8) (rest : Bytes) :
    percentDecode (encode (percentEscape b) ++ rest) = b :: percentDecode rest := by
  obtain ⟨hhigh, hlow⟩ := nibble_lt b
  rw [encode_percentEscape, List.cons_append, List.cons_append, List.cons_append, List.nil_append,
    percentDecode]
  simp only [hexByteValue?_hexByte hhigh, hexByteValue?_hexByte hlow, nibbles]

namespace Form

/-! ## Keys and values -/

def encodeByte (b : UInt8) : List Char := if b = 0x20 then ['+'] else percentEncode isPlain [b]

theorem encode_encodePart (s : String) :
    encode (encodePart s) = (bytesOf s).flatMap fun b => encode (encodeByte b) :=
  Utf8.encode_flatMap encodeByte (bytesOf s)

theorem plain_not_mem (b : UInt8) (h : isPlain (Char.ofNat b.toNat) = true) :
    b ∉ [0x25, 0x26, 0x2B, 0x3D] := by
  revert b
  exact byte_forall (by decide +kernel)

theorem encodeByte_cases (b : UInt8) :
    (b = 0x20 ∧ encode (encodeByte b) = [0x2B]) ∨
    (b ∉ [0x25, 0x26, 0x2B, 0x3D] ∧ encode (encodeByte b) = [b]) ∨
    encodeByte b = percentEscape b := by
  by_cases hspace : b = 0x20
  · subst hspace
    exact .inl ⟨rfl, by decide⟩
  · right
    rw [encodeByte, if_neg hspace, percentEncode, List.flatMap_singleton]
    dsimp only
    -- A plain character is ASCII, so it is encoded as the byte it came from.
    by_cases hplain : (b < 0x80 && isPlain (Char.ofNat b.toNat)) = true
    · have hboth := Bool.and_eq_true_iff.1 hplain
      rw [if_pos hplain]
      exact .inl ⟨plain_not_mem b hboth.2, Utf8.encode_ascii b (of_decide_eq_true hboth.1)⟩
    · exact .inr (if_neg hplain)

/-- No byte is written with a separator of pairs or of keys and values. -/
theorem separator_not_mem {sep : UInt8} (hsep : sep = 0x26 ∨ sep = 0x3D) (s : String) :
    sep ∉ encode (encodePart s) := by
  have hplain : sep ≠ 0x2B ∧ sep ∈ [0x25, 0x26, 0x2B, 0x3D] ∧ sep ∈ [0x26, 0x2B, 0x3D] := by
    rcases hsep with rfl | rfl <;> decide
  obtain ⟨hne, hmem, hescaped⟩ := hplain
  rw [encode_encodePart, List.mem_flatMap]
  rintro ⟨b, _, hb⟩
  rcases encodeByte_cases b with ⟨rfl, hplus⟩ | ⟨hplain, hself⟩ | hescape
  · rw [hplus, List.mem_singleton] at hb
    exact hne hb
  · rw [hself, List.mem_singleton] at hb
    exact hplain (hb ▸ hmem)
  · rw [hescape] at hb
    exact not_mem_percentEscape hescaped b hb

/-- Where a form shows a space it has a plus sign. -/
def spaced (bytes : Bytes) : Bytes := bytes.map fun b => if b = 0x2B then 0x20 else b

theorem spaced_append (xs ys : Bytes) : spaced (xs ++ ys) = spaced xs ++ spaced ys :=
  List.map_append

theorem spaced_of_not_mem {bytes : Bytes} (h : 0x2B ∉ bytes) : spaced bytes = bytes := by
  rw [spaced]
  conv => rhs; rw [← List.map_id' bytes]
  refine List.map_congr_left fun b hb => ?_
  rw [if_neg]
  rintro rfl
  exact h hb

/-- An encoded byte is read back, in front of whatever follows. -/
theorem percentDecode_encodeByte (b : UInt8) (rest : Bytes) :
    percentDecode (spaced (encode (encodeByte b)) ++ rest) = b :: percentDecode rest := by
  -- A plus sign becomes a space before escapes are read; nothing else is touched by that.
  rcases encodeByte_cases b with ⟨rfl, hplus⟩ | ⟨hplain, hself⟩ | hescape
  · rw [hplus]
    exact percentDecode_cons_ne (by decide) rest
  · rw [hself, spaced_of_not_mem]
    · refine percentDecode_cons_ne ?_ rest
      rintro rfl
      exact hplain (by decide)
    · rw [List.mem_singleton]
      rintro rfl
      exact hplain (by decide)
  · have hplus := not_mem_percentEscape (c := 0x2B) (by decide) b
    rw [hescape, spaced_of_not_mem hplus, percentDecode_percentEscape]

theorem percentDecode_encodeBytes (bytes : Bytes) :
    percentDecode (spaced (bytes.flatMap fun b => encode (encodeByte b))) = bytes := by
  induction bytes with
  | nil => rfl
  | cons b bytes ih => rw [List.flatMap_cons, spaced_append, percentDecode_encodeByte, ih]

theorem decodePart_encodePart (s : String) : decodePart (encode (encodePart s)) = s := by
  have hbytes := percentDecode_encodeBytes (bytesOf s)
  rw [← encode_encodePart, spaced] at hbytes
  rw [decodePart, hbytes, bytesOf, Utf8.decodeLenient_encode, String.ofList_toList]

/-! ## Pairs -/

theorem encode_encodePair (pair : String × String) :
    encode (encodePair pair) = encode (encodePart pair.1) ++ 0x3D :: encode (encodePart pair.2) := by
  have hequals : encode ['='] = [0x3D] := by decide
  rw [encodePair, encode_append, encode_cons, hequals, List.singleton_append]

theorem ampersand_not_mem (pair : String × String) : 0x26 ∉ encode (encodePair pair) := by
  rw [encode_encodePair, List.mem_append, List.mem_cons]
  rintro (hmem | heq | hmem)
  · exact separator_not_mem (.inl rfl) pair.1 hmem
  · exact absurd heq (by decide)
  · exact separator_not_mem (.inl rfl) pair.2 hmem

theorem bytesOf_print (pairs : List (String × String)) :
    bytesOf (print pairs) = [0x26].intercalate (pairs.map fun pair => encode (encodePair pair)) := by
  have hand : encode ['&'] = [0x26] := by decide
  rw [bytesOf, print, String.toList_ofList, Utf8.encode_intercalate, hand, List.map_map]
  rfl

/-- Form-encoded pairs are read as the pairs they encode, whatever characters are in them. -/
theorem parse_print (pairs : List (String × String)) : parse (print pairs) = pairs := by
  -- No pairs are no text, and no text has no pair in it.
  cases pairs with
  | nil => rfl
  | cons pair pairs =>
    have hpieces : cut 0x26 (bytesOf (print (pair :: pairs))) =
        (pair :: pairs).map fun p => encode (encodePair p) := by
      rw [bytesOf_print, cut_intercalate 0x26 _ (by simp)]
      intro piece hpiece
      obtain ⟨p, _, rfl⟩ := List.mem_map.1 hpiece
      exact ampersand_not_mem p
    have hfull : ∀ piece ∈ (pair :: pairs).map fun p => encode (encodePair p),
        (!piece.isEmpty) = true := by
      intro piece hpiece
      obtain ⟨p, _, rfl⟩ := List.mem_map.1 hpiece
      simp [encode_encodePair]
    rw [parse, hpieces, List.filter_eq_self.2 hfull, List.map_map]
    conv => rhs; rw [← List.map_id' (pair :: pairs)]
    refine List.map_congr_left fun p _ => ?_
    rw [Function.comp_apply, encode_encodePair,
      cutOnce_append 0x3D _ _ (separator_not_mem (.inr rfl) p.1)]
    simp only [Option.getD_some, decodePart_encodePart]

/-- Two encoded texts joined are read as the pairs of the one and the pairs of the other. -/
theorem parse_append (s t : String) : parse (s ++ "&" ++ t) = parse s ++ parse t := by
  have hand : bytesOf "&" = [0x26] := by decide
  have hbytes : bytesOf (s ++ "&" ++ t) = bytesOf s ++ 0x26 :: bytesOf t := by
    rw [bytesOf, String.toList_append, String.toList_append, encode_append, encode_append,
      List.append_assoc, ← bytesOf, ← bytesOf, ← bytesOf, hand, List.singleton_append]
  rw [parse, hbytes, cut_append_cons, List.filter_append, List.map_append, ← parse, ← parse]

/-- Encoded pairs have no number sign, so all of them belong to the query they stand in. -/
theorem numberSign_not_mem_print (pairs : List (String × String)) :
    '#' ∉ (print pairs).toList := by
  have hbyte (b : UInt8) : '#' ∉ encodeByte b := by
    revert b
    exact byte_forall (by decide +kernel)
  have hpart (s : String) : '#' ∉ encodePart s := by
    intro hmem
    obtain ⟨b, _, hb⟩ := List.mem_flatMap.1 hmem
    exact hbyte b hb
  have hpair (pair : String × String) : '#' ∉ encodePair pair := by
    rw [encodePair, List.mem_append, List.mem_cons]
    rintro (hmem | heq | hmem)
    · exact hpart pair.1 hmem
    · cases heq
    · exact hpart pair.2 hmem
  rw [print, String.toList_ofList]
  refine not_mem_intercalate (by decide) _ fun piece hpiece => ?_
  obtain ⟨pair, _, rfl⟩ := List.mem_map.1 hpiece
  exact hpair pair

end Form

end VehicleRecords.Text
