import Mathlib.Data.List.Basic
import VehicleRecords.Proofs.Text.Split
import VehicleRecords.Url.Host

namespace VehicleRecords

namespace Text

theorem mem_toDigits {base n : Nat} (hbase : 1 < base) {c : Char} (h : c ∈ Nat.toDigits base n) :
    ∃ digit < base, c = digit.digitChar := by
  induction n using Nat.strongRecOn with
  | ind n ih =>
    rw [Nat.toDigits_eq_if hbase] at h
    split at h
    · next hn => exact ⟨n, hn, List.mem_singleton.1 h⟩
    · next hn =>
      rw [List.mem_append, List.mem_singleton] at h
      rcases h with h | h
      · exact ih (n / base) (Nat.div_lt_self (by omega) hbase) h
      · exact ⟨n % base, Nat.mod_lt n (by omega), h⟩

theorem isAlphanum_of_mem_toDigits {base n : Nat} (hbase : 1 < base) (hlast : base ≤ 16) {c : Char}
    (h : c ∈ Nat.toDigits base n) : c.isAlphanum = true := by
  have hall : ∀ digit : Fin 16, (digit : Nat).digitChar.isAlphanum = true := by decide
  obtain ⟨digit, hdigit, rfl⟩ := mem_toDigits hbase h
  exact hall ⟨digit, by omega⟩

end Text

namespace Url

def delimiters : List Char := ['/', '?', '#']

theorem disjoint_of_isAlphanum {s : List Char} (h : ∀ c ∈ s, c.isAlphanum = true) :
    delimiters.Disjoint s := by
  have hall : delimiters.all (fun c => !c.isAlphanum) = true := by decide
  intro c hc hs
  have hnot := List.all_eq_true.1 hall c hc
  rw [h c hs] at hnot
  cases hnot

theorem disjoint_toString (n : Nat) : delimiters.Disjoint (toString n).toList := by
  rw [Nat.toString_eq_ofList_toDigits, String.toList_ofList]
  exact disjoint_of_isAlphanum fun c =>
    Text.isAlphanum_of_mem_toDigits (by decide) (by decide)

/-! ## Addresses -/

theorem disjoint_ipv4Text (address : UInt32) : delimiters.Disjoint (ipv4Text address).toList := by
  rw [ipv4Text, String.toList_intercalate]
  refine Text.disjoint_intercalate (by decide) fun piece hpiece => ?_
  rw [List.map_map, List.mem_map] at hpiece
  obtain ⟨i, -, rfl⟩ := hpiece
  exact disjoint_toString _

/-- An address is written with hexadecimal digits and colons. -/
theorem disjoint_ipv6Text (groups : List Nat) : delimiters.Disjoint (ipv6Text groups).toList := by
  have hjoin (groups : List Nat) : delimiters.Disjoint
      (":".intercalate (groups.map fun n => String.ofList (Nat.toDigits 16 n))).toList := by
    rw [String.toList_intercalate]
    refine Text.disjoint_intercalate (by decide) fun piece hpiece => ?_
    rw [List.map_map, List.mem_map] at hpiece
    obtain ⟨n, -, rfl⟩ := hpiece
    rw [Function.comp_apply, String.toList_ofList]
    exact disjoint_of_isAlphanum fun c =>
      Text.isAlphanum_of_mem_toDigits (by decide) (by decide)
  rw [ipv6Text]
  dsimp only
  split
  · rw [String.toList_append, String.toList_append, List.disjoint_append_right,
      List.disjoint_append_right]
    exact ⟨⟨hjoin _, Text.disjoint_of_all (by decide)⟩, hjoin _⟩
  · exact hjoin groups

/-! ## Names -/

namespace Punycode

theorem isAlphanum_digitChar {n : Nat} (h : n < 36) : (digitChar n).isAlphanum = true := by
  have hall : ∀ n : Fin 36, (digitChar n).isAlphanum = true := by decide
  exact hall ⟨n, h⟩

theorem isAlphanum_of_mem_deltaDigits (bias place delta : Nat) :
    ∀ c ∈ deltaDigits bias place delta, c.isAlphanum = true := by
  induction place, delta using deltaDigits.induct bias with
  | case1 place delta t hdelta =>
    have ht := threshold_bounds bias place
    rw [deltaDigits, if_pos hdelta, List.forall_mem_singleton]
    exact isAlphanum_digitChar (by omega)
  | case2 place delta t hdelta ih =>
    have ht := threshold_bounds bias place
    have hmod : (delta - t) % (36 - t) < 36 - t := Nat.mod_lt (delta - t) (show 0 < 36 - t by omega)
    have hdigit : t + (delta - t) % (36 - t) < 36 := by omega
    rw [deltaDigits, if_neg hdelta, List.forall_mem_cons]
    exact ⟨isAlphanum_digitChar hdigit, ih⟩

theorem isAlphanum_of_mem_encodeInsertions (k : Cursor) (length : Nat)
    (insertions : List (Char × Nat)) :
    ∀ c ∈ encodeInsertions k length insertions, c.isAlphanum = true := by
  induction insertions generalizing k length with
  | nil => exact nofun
  | cons insertion insertions ih =>
    rw [encodeInsertions, List.forall_mem_append]
    exact ⟨isAlphanum_of_mem_deltaDigits _ _ _, ih _ _⟩

theorem disjoint_encode {s : List Char} (h : delimiters.Disjoint s) :
    delimiters.Disjoint (encode s) := by
  rw [encode, List.disjoint_append_right]
  refine ⟨?_, disjoint_of_isAlphanum (isAlphanum_of_mem_encodeInsertions _ _ _)⟩
  split
  · exact List.disjoint_nil_right _
  · rw [List.disjoint_append_right]
    exact ⟨List.disjoint_of_subset_right (List.filter_subset_self s) h,
      Text.disjoint_of_all (by decide)⟩

end Punycode

/-- A label of other letters is written with letters, digits and hyphens. -/
theorem disjoint_encodeLabel {label : List Char} (h : isValidLabel label = true) :
    delimiters.Disjoint (encodeLabel label) := by
  have hlabel : delimiters.Disjoint label := by
    intro c hc hmem
    have hall : ∀ c ∈ delimiters, isBarred c = true := by simp [delimiters, isBarred]
    rw [isValidLabel, Bool.and_eq_true, Bool.and_eq_true, Bool.not_eq_true', List.any_eq_false] at h
    exact h.1.1 c hmem (hall c hc)
  rw [encodeLabel]
  split
  · exact hlabel
  · rw [List.disjoint_append_right]
    exact ⟨Text.disjoint_of_all (by decide), Punycode.disjoint_encode hlabel⟩

theorem disjoint_domainToAscii? {name domain : List Char} (h : domainToAscii? name = some domain) :
    delimiters.Disjoint domain := by
  rw [domainToAscii?] at h
  obtain ⟨folded, -, h⟩ := Option.bind_eq_some_iff.1 h
  obtain ⟨labels, -, h⟩ := Option.bind_eq_some_iff.1 h
  obtain ⟨hvalid, hdomain⟩ := Option.ite_none_right_eq_some.1 h
  obtain rfl := Option.some.inj hdomain
  rw [Bool.and_eq_true, List.all_eq_true] at hvalid
  refine Text.disjoint_intercalate (by decide) fun piece hpiece => ?_
  obtain ⟨label, hlabel, rfl⟩ := List.mem_map.1 hpiece
  exact disjoint_encodeLabel (hvalid.1 label hlabel)

/-! ## Hosts -/

theorem disjoint_parseBracketed {s : List Char} {host : Host} (h : Host.parseBracketed s = .ok host) :
    delimiters.Disjoint host.text.toList := by
  rw [Host.parseBracketed] at h
  split at h
  · cases h
    rw [Host.text, String.toList_append, String.toList_append, List.disjoint_append_right,
      List.disjoint_append_right]
    exact ⟨⟨Text.disjoint_of_all (by decide), disjoint_ipv6Text _⟩,
      Text.disjoint_of_all (by decide)⟩
  · cases h

/-- No host is written with a character that would end the authority it stands in. -/
theorem disjoint_parseSpecial {s : List Char} {host : Host} (h : Host.parseSpecial s = .ok host) :
    delimiters.Disjoint host.text.toList := by
  unfold Host.parseSpecial at h
  split at h
  · exact disjoint_parseBracketed h
  · dsimp only at h
    split at h
    · cases h
    · cases h
    · next domain hdomain =>
      split at h
      · split at h
        · cases h
          exact disjoint_ipv4Text _
        · cases h
      · cases h
        rw [Host.text, String.toList_ofList]
        exact disjoint_domainToAscii? hdomain

end Url

end VehicleRecords
