import Mathlib.Data.List.SplitBy
import Discography.Http.Message
import Discography.Page
import Discography.Proofs.Spelling

/-!
# Writing queries and numbers

A query that is written from plain names and values is read back as these, and a number that is
written in base ten is read back as itself if it has 64 bits.

* `parameters_queryOf` — the parameters of a written query are what it was written from.
* `parseNumber_decimal` — what is read of a written number.
-/

set_option autoImplicit false

namespace Discography.Text

/-! ## Plain characters -/

/-- The bytes of a text of ASCII characters are its characters. -/
theorem toUTF8_ascii {s : String} (h : ∀ c ∈ s.toList, isAscii c = true) :
    s.toUTF8.data.toList.map (fun b => Char.ofNat b.toNat) = s.toList := by
  have hone (c : Char) (hc : isAscii c = true) :
      (String.utf8EncodeChar c).map (fun b => Char.ofNat b.toNat) = [c] := by
    have hc : c.val.toNat < 128 := by simpa [isAscii] using hc
    have hv : c.val ≤ 127 := by
      rw [UInt32.le_iff_toNat_le]
      exact Nat.le_of_lt_succ hc
    rw [String.utf8EncodeChar_eq_singleton (Char.utf8Size_eq_one_iff.2 hv)]
    have hn : c.val.toUInt8.toNat = c.toNat := Nat.mod_eq_of_lt (Nat.lt_trans hc (by decide))
    rw [List.map_singleton, hn, Char.ofNat_toNat]
  rw [String.toUTF8_eq_toByteArray, ← String.utf8Encode_toList, List.utf8Encode,
    List.toList_data_toByteArray, List.map_flatMap]
  generalize s.toList = l at h ⊢
  induction l with
  | nil => rfl
  | cons c r ih =>
    rw [List.flatMap_cons, hone c (h c List.mem_cons_self),
      ih fun d hd => h d (List.mem_cons_of_mem c hd), List.singleton_append]

theorem percentBytes_of_not_mem {s : List Char} (h : '%' ∉ s) :
    percentBytes s = s.map fun c => UInt8.ofNat c.toNat := by
  induction s with
  | nil => rfl
  | cons c r ih =>
    obtain ⟨hc, hr⟩ := List.ne_and_not_mem_of_not_mem_cons h
    unfold percentBytes
    split
    · rename_i heq
      exact absurd (List.cons.inj heq).1.symm hc
    · rename_i heq
      obtain ⟨rfl, rfl⟩ := List.cons.inj heq
      rw [ih hr, List.map_cons]
    · rename_i heq
      cases heq

/-- ASCII characters without percent signs are decoded as themselves. -/
theorem percentDecode_ascii {s : List Char} (ha : ∀ c ∈ s, isAscii c = true) (hp : '%' ∉ s) :
    percentDecode s = s := by
  by_cases hne : s = []
  · subst hne
    rfl
  · have hchain : s.IsChain fun a b => (isAscii a == isAscii b) = true := by
      refine List.Pairwise.isChain (List.pairwise_of_forall_mem_list ?_)
      intro a ha' b hb
      rw [ha a ha', ha b hb]
      exact beq_self_eq_true true
    have hbyte (c : Char) (hc : c ∈ s) : (UInt8.ofNat c.toNat).toNat = c.toNat := by
      have hlt : c.toNat < 128 := by simpa [isAscii] using ha c hc
      rw [UInt8.toNat_ofNat']
      exact Nat.mod_eq_of_lt (by omega)
    unfold percentDecode
    rw [List.splitBy_of_isChain hne hchain, List.flatMap_singleton, if_pos (List.all_eq_true.2 ha),
      percentBytes_of_not_mem hp, lenient_ascii, List.map_map]
    · refine (List.map_congr_left fun c hc => ?_).trans s.map_id
      show Char.ofNat (UInt8.ofNat c.toNat).toNat = c
      rw [hbyte c hc, Char.ofNat_toNat]
    · intro b hb
      obtain ⟨c, hc, rfl⟩ := List.mem_map.1 hb
      rw [hbyte c hc]
      simpa [isAscii] using ha c hc

end Discography.Text

namespace Discography.Http

open Discography.Text

/-! ## Plain queries -/

theorem mem_intercalate {α : Type} {x c : α} {ls : List (List α)} (h : c ∈ [x].intercalate ls) :
    c = x ∨ ∃ l ∈ ls, c ∈ l := by
  induction ls with
  | nil => simp at h
  | cons l ls ih =>
    cases ls with
    | nil => exact .inr ⟨l, List.mem_cons_self, by simpa using h⟩
    | cons l' ls =>
      rw [List.intercalate_cons_cons, List.mem_append, List.mem_append, List.mem_singleton] at h
      rcases h with (h | rfl) | h
      · exact .inr ⟨l, List.mem_cons_self, h⟩
      · exact .inl rfl
      · rcases ih h with h | ⟨k, hk, h⟩
        · exact .inl h
        · exact .inr ⟨k, List.mem_cons_of_mem l hk, h⟩

/-- Whether a character stands for itself in a query. -/
def isPlain (c : Char) : Bool := isAscii c && c != '&' && c != '=' && c != '%' && c != '+'

/-- A name and a value as a part of a query. -/
def writtenParameter (p : String × String) : List Char := p.1.toList ++ '=' :: p.2.toList

/-- The query of names and values. -/
def queryOf (ps : List (String × String)) : String :=
  String.ofList (['&'].intercalate (ps.map writtenParameter))

theorem formDecode_plain {s : List Char} (h : ∀ c ∈ s, isPlain c = true) : formDecode s = s := by
  have hplain (c : Char) (hc : c ∈ s) : isAscii c = true ∧ c ≠ '%' ∧ c ≠ '+' := by
    have := h c hc
    simp only [isPlain, Bool.and_eq_true, bne_iff_ne] at this
    exact ⟨this.1.1.1.1, this.1.2, this.2⟩
  have hmap : s.map (fun c => if c = '+' then ' ' else c) = s := by
    refine (List.map_congr_left fun c hc => ?_).trans s.map_id
    rw [if_neg (hplain c hc).2.2]
    rfl
  unfold formDecode
  rw [hmap]
  exact percentDecode_ascii (fun c hc => (hplain c hc).1) fun hc => (hplain _ hc).2.1 rfl

theorem parameter_writtenParameter {p : String × String}
    (hn : ∀ c ∈ p.1.toList, isPlain c = true) (hv : ∀ c ∈ p.2.toList, isPlain c = true) :
    parameter (writtenParameter p) = p := by
  have hne (c : Char) (hc : c ∈ p.1.toList) : (c != '=') = true := by
    have := hn c hc
    simp only [isPlain, Bool.and_eq_true] at this
    exact this.1.1.2
  unfold parameter writtenParameter
  rw [List.takeWhile_append_of_pos hne, List.dropWhile_append_of_pos hne]
  simp only [List.takeWhile_cons, List.dropWhile_cons, bne_self_eq_false, Bool.false_eq_true,
    if_false, List.append_nil, List.drop_succ_cons, List.drop_zero]
  rw [formDecode_plain hn, formDecode_plain hv, String.ofList_toList, String.ofList_toList]

/-- A part of a query is ASCII, and no separator stands in it. -/
theorem of_mem_writtenParameter {p : String × String} (hn : ∀ c ∈ p.1.toList, isPlain c = true)
    (hv : ∀ c ∈ p.2.toList, isPlain c = true) {c : Char} (hc : c ∈ writtenParameter p) :
    isAscii c = true ∧ c ≠ '&' := by
  have hplain (hc : isPlain c = true) : isAscii c = true ∧ c ≠ '&' := by
    simp only [isPlain, Bool.and_eq_true, bne_iff_ne] at hc
    exact ⟨hc.1.1.1.1, hc.1.1.1.2⟩
  rcases List.mem_append.1 hc with hc | hc
  · exact hplain (hn c hc)
  · rcases List.mem_cons.1 hc with rfl | hc
    · decide
    · exact hplain (hv c hc)

/-- **A query of plain names and values is read back as these.** -/
theorem parameters_queryOf {ps : List (String × String)}
    (h : ∀ p ∈ ps, (∀ c ∈ p.1.toList, isPlain c = true) ∧ ∀ c ∈ p.2.toList, isPlain c = true) :
    parameters (queryOf ps) = ps := by
  by_cases hne : ps = []
  · subst hne
    rfl
  · have hpart (l : List Char) (hl : l ∈ ps.map writtenParameter) :
        (∀ c ∈ l, isAscii c = true ∧ c ≠ '&') ∧ l ≠ [] := by
      obtain ⟨p, hp, rfl⟩ := List.mem_map.1 hl
      refine ⟨fun c hc => ?_, by simp [writtenParameter]⟩
      exact of_mem_writtenParameter (h p hp).1 (h p hp).2 hc
    have hascii : ∀ c ∈ (queryOf ps).toList, isAscii c = true := by
      intro c hc
      rw [queryOf, String.toList_ofList] at hc
      rcases mem_intercalate hc with rfl | ⟨l, hl, hc⟩
      · decide
      · exact ((hpart l hl).1 c hc).1
    unfold parameters
    simp only [toUTF8_ascii hascii]
    rw [queryOf, String.toList_ofList, List.splitOn_intercalate]
    · rw [List.filter_eq_self.2 fun l hl => by simp [(hpart l hl).2], List.map_map]
      refine (List.map_congr_left fun p hp => ?_).trans ps.map_id
      exact parameter_writtenParameter (h p hp).1 (h p hp).2
    · intro l hl hc
      exact ((hpart l hl).1 '&' hc).2 rfl
    · simpa using hne

end Discography.Http

namespace Discography

open Discography.Text Discography.Http

/-! ## Written numbers -/

theorem isDigit_of_mem_decimal {n : Nat} {c : Char} (h : c ∈ (decimal n).toList) :
    c.isDigit = true := by
  rw [decimal, String.toList_ofList] at h
  exact Nat.isDigit_of_mem_toDigits (by decide) (by decide) h

/-- The digits of a number are plain in a query. -/
theorem isPlain_of_mem_decimal {n : Nat} {c : Char} (h : c ∈ (decimal n).toList) :
    isPlain c = true := by
  have hd : 48 ≤ c.toNat ∧ c.toNat ≤ 57 := Char.isDigit_iff_toNat.1 (isDigit_of_mem_decimal h)
  have hne (d : Char) (hn : d.toNat < 48 ∨ 57 < d.toNat) : c ≠ d := by
    rintro rfl
    omega
  have hascii : isAscii c = true := by simp [isAscii]; omega
  simp only [isPlain, hascii, Bool.true_and, Bool.and_eq_true, bne_iff_ne]
  exact ⟨⟨⟨hne _ (by decide), hne _ (by decide)⟩, hne _ (by decide)⟩, hne _ (by decide)⟩

theorem ofDigits_decimal (n : Nat) :
    ofDigits 10 ((decimal n).toList.map fun c => c.toNat - '0'.toNat) = n := by
  rw [ofDigits_ascii, decimal, String.toList_ofList]
  exact Nat.ofDigitChars_ten_toDigits

namespace Page

/-- **A written number is read back** if it has 64 bits, and is no number otherwise. -/
theorem parseNumber_decimal {n : Nat} (h : n < 10 ^ digitLimit) :
    parseNumber (decimal n) = .ok (if fitsInt64 n then some (n : Int) else none) := by
  have hsign : splitSign (decimal n).toList = (false, (decimal n).toList) :=
    splitSign_eq_self (fun hc => absurd (isDigit_of_mem_decimal hc) (by decide))
      fun hc => absurd (isDigit_of_mem_decimal hc) (by decide)
  have hne : (decimal n).toList ≠ [] := by
    rw [decimal, String.toList_ofList]
    exact Nat.toDigits_ne_nil
  have hlen : (decimal n).toList.length ≤ digitLimit := by
    rw [decimal, String.toList_ofList]
    exact (Nat.length_toDigits_le_iff (by decide) (by decide)).2 h
  have hall : (decimal n).toList.all Char.isDigit = true :=
    List.all_eq_true.2 fun c hc => isDigit_of_mem_decimal hc
  unfold parseNumber
  simp only [hsign, List.isEmpty_eq_false_iff.2 hne, hall, Bool.not_true, Bool.or_self,
    Bool.false_eq_true, if_false, ofDigits_decimal]
  rw [if_neg (Nat.not_lt.2 hlen)]

/-- No number of 64 bits has too many digits. -/
theorem int64_lt_digitLimit {n : Nat} (h : n ≤ 2 ^ 63) : n < 10 ^ digitLimit :=
  Nat.lt_of_le_of_lt h (Nat.lt_of_lt_of_le (by decide : 2 ^ 63 < 10 ^ 20)
    (Nat.pow_le_pow_right (by decide) (by decide)))

end Page

end Discography
