import Mathlib.Algebra.Group.Nat.Defs
import Discography.Album.Id

/-!
# Spellings of ids

An id is written as 32 digits in base sixteen with four hyphens.

* `nibbles` — the values of the digits; `ofDigits_nibbles` puts them together again.
* `splitSign_eq_self` — a text without signs has none in front.
* `filter_text` — the canonical text of an id is its digits with hyphens between them;
  `not_mem_text`: no other mark is in it.
-/

set_option autoImplicit false

namespace Discography.Text

/-! ## Digits in base sixteen -/

/-- The values of the last `width` digits of a number in base sixteen. -/
def nibbles : Nat → Nat → List Nat
  | 0, _ => []
  | width + 1, n => nibbles width (n / 16) ++ [n % 16]

theorem hexPadded_eq (width n : Nat) : hexPadded width n = (nibbles width n).map hexDigit := by
  induction width generalizing n with
  | zero => rfl
  | succ width ih => simp [hexPadded, nibbles, ih]

theorem length_nibbles (width n : Nat) : (nibbles width n).length = width := by
  induction width generalizing n with
  | zero => rfl
  | succ width ih => simp [nibbles, ih]

theorem lt_of_mem_nibbles {width n d : Nat} (h : d ∈ nibbles width n) : d < 16 := by
  induction width generalizing n with
  | zero => simp [nibbles] at h
  | succ width ih =>
    rcases List.mem_append.1 h with h | h
    · exact ih h
    · rw [List.mem_singleton.1 h]
      exact Nat.mod_lt n (by decide)

theorem ofDigits_nibbles (width n : Nat) : ofDigits 16 (nibbles width n) = n % 16 ^ width := by
  induction width generalizing n with
  | zero => simp [nibbles, ofDigits, Nat.mod_one]
  | succ width ih =>
    have hstep : ofDigits 16 (nibbles (width + 1) n) =
        ofDigits 16 (nibbles width (n / 16)) * 16 + n % 16 := by
      simp [ofDigits, nibbles, List.foldl_append]
    rw [hstep, ih, Nat.pow_succ, Nat.mul_comm (16 ^ width) 16, Nat.mod_mul]
    omega

/-! ## Signs -/

theorem splitSign_cons {c : Char} {s : List Char} (hm : c ≠ '-') (hp : c ≠ '+') :
    splitSign (c :: s) = (false, c :: s) := by
  unfold splitSign
  split
  · rename_i h
    exact absurd (List.cons.inj h).1 hm
  · rename_i h
    exact absurd (List.cons.inj h).1 hp
  · rfl

theorem splitSign_eq_self {s : List Char} (hm : '-' ∉ s) (hp : '+' ∉ s) :
    splitSign s = (false, s) := by
  cases s with
  | nil => rfl
  | cons c r =>
    exact splitSign_cons (List.ne_of_not_mem_cons hm).symm (List.ne_of_not_mem_cons hp).symm

end Discography.Text

namespace Discography.AlbumId

open Discography.Text

/-- Signs, marks and decorations, none of which is a digit. -/
def marks : List Char := ['_', '-', '+', 'x', 'X', 'u', '\x7b', '\x7d', '/']

theorem hexDigit_not_mem_marks : ∀ d < 16, hexDigit d ∉ marks := by decide

/-! ## The canonical text -/

section Text

variable (id : AlbumId)

theorem digits_eq : id.digits = (nibbles 32 id.value).map hexDigit := hexPadded_eq 32 id.value

theorem length_digits : id.digits.length = 32 := by
  rw [digits_eq, List.length_map, length_nibbles]

theorem not_mem_digits {c : Char} (hc : c ∈ marks) : c ∉ id.digits := by
  intro hm
  rw [digits_eq] at hm
  obtain ⟨d, hd, rfl⟩ := List.mem_map.1 hm
  exact hexDigit_not_mem_marks d (lt_of_mem_nibbles hd) hc

/-- The characters of a canonical text, hyphens apart, are the digits. -/
theorem filter_text : id.text.toList.filter (· != '-') = id.digits := by
  have hpiece {s : List Char} (hs : ∀ c ∈ s, c ∈ id.digits) : s.filter (· != '-') = s := by
    refine List.filter_eq_self.2 fun c hc => bne_iff_ne.2 ?_
    rintro rfl
    exact not_mem_digits id (by decide) (hs _ hc)
  have hdrop {n : Nat} {c : Char} (hc : c ∈ id.digits.drop n) : c ∈ id.digits :=
    List.mem_of_mem_drop hc
  simp only [text, String.toList_ofList, List.filter_append, List.filter_cons, bne_self_eq_false,
    Bool.false_eq_true, if_false]
  rw [hpiece fun c hc => List.mem_of_mem_take hc, hpiece fun c hc => hdrop (List.mem_of_mem_take hc),
    hpiece fun c hc => hdrop (List.mem_of_mem_take hc),
    hpiece fun c hc => hdrop (List.mem_of_mem_take hc), hpiece fun c hc => hdrop hc]
  have hjoin (m n : Nat) : (id.digits.drop m).take n ++ id.digits.drop (m + n) =
      id.digits.drop m := by
    rw [← List.drop_drop]
    exact List.take_append_drop n _
  rw [List.append_assoc, List.append_assoc, List.append_assoc, hjoin 16 4, hjoin 12 4, hjoin 8 4]
  exact List.take_append_drop 8 _

/-- No mark but the hyphen stands in a canonical text. -/
theorem not_mem_text {c : Char} (hc : c ∈ marks) (hne : c ≠ '-') : c ∉ id.text.toList := by
  intro hm
  refine not_mem_digits id hc ?_
  rw [← filter_text]
  exact List.mem_filter.2 ⟨hm, bne_iff_ne.2 hne⟩

theorem text_ne_empty : id.text ≠ "" := by
  intro h
  have hlen := congrArg List.length (filter_text id)
  rw [h, length_digits] at hlen
  exact absurd hlen (by decide)

end Text

end Discography.AlbumId
