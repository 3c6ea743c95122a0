import Discography.Page
import Discography.Proofs.Spelling

/-!
# Reading a page

The two parameters of a listing are texts of any length, or missing. They are read as a page, or are
malformed, but for a numeral with more digits than are converted: wherever its value is looked at, it
is refused with a fault that is not the client's.

* `Overlong` — numerals with too many digits; `parseNumber_eq_error_iff`: reading them is what fails.
* `parse_cases` — the three things that reading two parameters comes to.
* `bounds_of_parse` — the offset and the limit of a page that has been read.
-/

set_option autoImplicit false

namespace Discography

namespace Page

open Discography.Text

/-! ## Numerals -/

/-- The signs that may stand in front of the digits of a number. -/
def signs : List (List Char) := [[], ['+'], ['-']]

/-- A numeral of an optional sign and `count` ASCII digits, more than are converted. -/
def Overlong (raw : String) (count : Nat) : Prop :=
  ∃ sign digits, raw.toList = sign ++ digits ∧ sign ∈ signs ∧
    (∀ c ∈ digits, c.isDigit = true) ∧ digits.length = count ∧ digitLimit < count

/-- What a text is split into makes up the text. -/
theorem exists_sign (s : List Char) : ∃ sign ∈ signs, s = sign ++ (splitSign s).2 := by
  unfold splitSign
  split
  · exact ⟨['-'], by simp [signs], rfl⟩
  · exact ⟨['+'], by simp [signs], rfl⟩
  · exact ⟨[], by simp [signs], rfl⟩

/-- Digits are what follows the sign in front of them. -/
theorem splitSign_append {sign digits : List Char} (hs : sign ∈ signs)
    (hd : ∀ c ∈ digits, c.isDigit = true) : (splitSign (sign ++ digits)).2 = digits := by
  simp only [signs, List.mem_cons, List.not_mem_nil, or_false] at hs
  rcases hs with rfl | rfl | rfl
  · have hminus : '-' ∉ digits := fun h => absurd (hd _ h) (by decide)
    have hplus : '+' ∉ digits := fun h => absurd (hd _ h) (by decide)
    exact congrArg Prod.snd (splitSign_eq_self hminus hplus)
  · rfl
  · rfl

/-- What makes a numeral overlong is what follows its sign. -/
theorem overlong_iff {raw : String} {count : Nat} :
    Overlong raw count ↔ (∀ c ∈ (splitSign raw.toList).2, c.isDigit = true) ∧
      (splitSign raw.toList).2.length = count ∧ digitLimit < count := by
  constructor
  · rintro ⟨sign, digits, hraw, hs, hdigits, hlen, hcount⟩
    rw [hraw, splitSign_append hs hdigits]
    exact ⟨hdigits, hlen, hcount⟩
  · rintro ⟨hdigits, hlen, hcount⟩
    obtain ⟨sign, hs, hraw⟩ := exists_sign raw.toList
    exact ⟨sign, _, hraw, hs, hdigits, hlen, hcount⟩

/-- **Reading a number fails exactly for numerals with too many digits**; any other text is read as a
number or as none. -/
theorem parseNumber_eq_error_iff {raw : String} {f : Failure} :
    parseNumber raw = .error f ↔ ∃ count, Overlong raw count ∧ f = .tooManyDigits count := by
  simp only [overlong_iff]
  unfold parseNumber
  generalize splitSign raw.toList = signed
  obtain ⟨negative, digits⟩ := signed
  dsimp only
  by_cases hdigits : ∀ c ∈ digits, c.isDigit = true
  · have hall : digits.all Char.isDigit = true := List.all_eq_true.2 hdigits
    by_cases hlen : digitLimit < digits.length
    · have hne : digits.isEmpty = false := by
        rw [List.isEmpty_eq_false_iff, ← List.length_pos_iff]
        omega
      rw [hne, hall, Bool.not_true, Bool.or_false, if_neg Bool.false_ne_true, if_pos hlen]
      constructor
      · intro h
        exact ⟨_, ⟨hdigits, rfl, hlen⟩, (Except.error.inj h).symm⟩
      · rintro ⟨count, ⟨-, rfl, -⟩, rfl⟩
        rfl
    · rw [if_neg hlen]
      constructor
      · intro h
        split at h <;> cases h
      · rintro ⟨count, ⟨-, rfl, hcount⟩, -⟩
        exact absurd hcount hlen
  · have hall : digits.all Char.isDigit = false := by
      rw [Bool.eq_false_iff]
      exact fun h => hdigits (List.all_eq_true.1 h)
    rw [hall, Bool.not_false, Bool.or_true, if_pos rfl]
    constructor
    · intro h
      cases h
    · rintro ⟨count, ⟨h, -, -⟩, -⟩
      exact absurd h hdigits

/-! ## Pages -/

section Required

variable {missing invalid text : String}

/-- A parameter that is overlong is not read. -/
theorem required_of_overlong {count : Nat} (h : Overlong text count) :
    required missing invalid (some text) = .error (.tooManyDigits count) := by
  have hread : parseNumber text = .error (.tooManyDigits count) :=
    parseNumber_eq_error_iff.2 ⟨count, h, rfl⟩
  simp only [required, hread]

/-- A parameter is read as a number exactly if it is there and is a number of 64 bits. -/
theorem required_eq_ok_iff {raw : Option String} {n : Int} :
    required missing invalid raw = .ok n ↔
      ∃ text, raw = some text ∧ parseNumber text = .ok (some n) := by
  constructor
  · intro h
    unfold required at h
    split at h
    · cases h
    · rename_i text
      split at h
      · cases h
      · cases h
      · rename_i m hread
        cases h
        exact ⟨text, rfl, hread⟩
  · rintro ⟨text, rfl, hread⟩
    simp only [required, hread]

/-- A parameter that is required is a number, or malformed, or overlong. -/
theorem required_cases (missing invalid : String) (raw : Option String) :
    (∃ n, required missing invalid raw = .ok n) ∨
      (∃ message, required missing invalid raw = .error (.malformed message)) ∨
      ∃ text count, raw = some text ∧ Overlong text count := by
  cases raw with
  | none => exact .inr (.inl ⟨missing, rfl⟩)
  | some text =>
    cases hread : parseNumber text with
    | error f =>
      obtain ⟨count, hover, -⟩ := parseNumber_eq_error_iff.1 hread
      exact .inr (.inr ⟨text, count, rfl, hover⟩)
    | ok found =>
      cases found with
      | none =>
        right
        left
        refine ⟨invalid, ?_⟩
        simp only [required, hread]
      | some n => exact .inl ⟨n, required_eq_ok_iff.2 ⟨text, rfl, hread⟩⟩

end Required

/-- A size and a number stand for a page or are malformed. -/
theorem checked_cases (size number : Int) :
    (∃ p, checked size number = .ok p) ∨
      ∃ message, checked size number = .error (.malformed message) := by
  unfold checked
  split
  · exact .inr ⟨_, rfl⟩
  · split
    · exact .inr ⟨_, rfl⟩
    · split
      · exact .inr ⟨_, rfl⟩
      · split
        · exact .inr ⟨_, rfl⟩
        · exact .inl ⟨_, rfl⟩

/-- The parameters of a page of which one is looked at that has too many digits: the size, or the
number behind a size that is a number of 64 bits. -/
def Unconverted (size number : Option String) (count : Nat) : Prop :=
  (∃ text, size = some text ∧ Overlong text count) ∨
    ∃ text n text', size = some text ∧ parseNumber text = .ok (some n) ∧ number = some text' ∧
      Overlong text' count

theorem parse_of_unconverted {size number : Option String} {count : Nat}
    (h : Unconverted size number count) : parse size number = .error (.tooManyDigits count) := by
  unfold parse
  rcases h with ⟨text, rfl, hover⟩ | ⟨text, n, text', rfl, hread, rfl, hover⟩
  · rw [required_of_overlong hover]
  · rw [required_eq_ok_iff.2 ⟨text, rfl, hread⟩, required_of_overlong hover]

/-- **Reading the parameters of a page** comes to a page, or they are malformed, or one of them has
too many digits. -/
theorem parse_cases (size number : Option String) :
    (∃ p, parse size number = .ok p) ∨
      (∃ message, parse size number = .error (.malformed message)) ∨
      ∃ count, Unconverted size number count := by
  unfold parse
  rcases required_cases "query parameter page_size is missing" "page size is not a valid number" size
    with ⟨n, hsize⟩ | ⟨message, hsize⟩ | ⟨text, count, rfl, hover⟩
  · rw [hsize]
    rcases required_cases "query parameter page_number is missing"
        "page number is not a valid number" number
      with ⟨m, hnumber⟩ | ⟨message, hnumber⟩ | ⟨text', count, rfl, hover⟩
    · rw [hnumber]
      rcases checked_cases n m with ⟨p, hp⟩ | ⟨message, hp⟩
      · exact .inl ⟨p, hp⟩
      · exact .inr (.inl ⟨message, hp⟩)
    · rw [hnumber]
      exact .inr (.inl ⟨message, rfl⟩)
    · obtain ⟨text, rfl, hread⟩ := required_eq_ok_iff.1 hsize
      exact .inr (.inr ⟨count, .inr ⟨text, n, text', rfl, hread, rfl, hover⟩⟩)
  · rw [hsize]
    exact .inr (.inl ⟨message, rfl⟩)
  · exact .inr (.inr ⟨count, .inl ⟨text, rfl, hover⟩⟩)

/-- The offset of a page that has been read is not negative and has 64 bits, and its limit is within
the bounds of a page. -/
theorem bounds_of_parse {size number : Option String} {p : Page} (h : parse size number = .ok p) :
    0 ≤ p.offset ∧ p.offset ≤ int64Max ∧ 1 ≤ p.limit ∧ p.limit ≤ maxPageSize := by
  unfold parse at h
  split at h
  · cases h
  · rename_i n hsize
    split at h
    · cases h
    · rename_i m hnumber
      obtain ⟨rfl, hpos, hmax, hfirst, hoffset⟩ := checked_eq_ok h
      have hstart : 0 ≤ n * (m - 1) := Int.mul_nonneg (by omega) (by omega)
      exact ⟨hstart, hoffset, hpos, hmax⟩

end Page

end Discography
