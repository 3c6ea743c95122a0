import Mathlib.Data.Nat.Digits.Defs
import Discography.Proofs.Decorations
import Discography.Proofs.Spelling

/-!
# Literals in base sixteen

Which texts are literals in base sixteen, and of which number, told without a reader: digits behind
an optional plus sign and an optional mark, with blanks around all of it. Decimal digits of every
script count as their value, and one underscore may stand between two digits or behind the mark.

* `Nibble` — the digits; `Underscored` — runs of them; `HexMark` — the mark; `HexLiteral` — all of
  a literal.
* `asciiHexValue?_foldDigit`, `digitRun?_fold` — digits and runs of digits are read as such.
* `exists_hexMark`, `withoutHexMark_fold`, `exists_plus`, `splitSign_fold` — what is taken off the
  front of a text is a mark and a sign, and these are taken off.
* `hexLiteral?_eq_some_iff` — a text without a minus sign is read as a number exactly if it is a
  literal of that number.
* `HexLiteral.lt` — a number is below the power of sixteen that its literal has room for.
-/

set_option autoImplicit false

namespace Discography.Text

/-! ## Literals -/

/-- A digit in base sixteen and its value: a decimal digit of any script, or a letter from `a` to
`f` in either case. -/
inductive Nibble : Char → Nat → Prop
  | decimal {c : Char} {z : Nat} (mem : z ∈ decimalZeros)
      (range : z ≤ c.toNat ∧ c.toNat < z + 10) : Nibble c (c.toNat - z)
  | lower {c : Char} (range : 'a' ≤ c ∧ c ≤ 'f') : Nibble c (c.toNat - 'a'.toNat + 10)
  | upper {c : Char} (range : 'A' ≤ c ∧ c ≤ 'F') : Nibble c (c.toNat - 'A'.toNat + 10)

/-- Digits and their values. One underscore may stand between two digits. -/
inductive Underscored (Digit : Char → Nat → Prop) : List Char → List Nat → Prop
  | last {c : Char} {d : Nat} (digit : Digit c d) : Underscored Digit [c] [d]
  | next {c : Char} {d : Nat} {s : List Char} {ds : List Nat} (digit : Digit c d)
      (rest : Underscored Digit s ds) : Underscored Digit (c :: s) (d :: ds)
  | gap {c : Char} {d : Nat} {s : List Char} {ds : List Nat} (digit : Digit c d)
      (rest : Underscored Digit s ds) : Underscored Digit (c :: '_' :: s) (d :: ds)

/-- The mark that may stand in front of the digits: a zero and an `x` in either case, with or
without an underscore behind it. -/
inductive HexMark : List Char → Prop
  | absent : HexMark []
  | present {z x : Char} (isZero : Nibble z 0) (isX : x = 'x' ∨ x = 'X') : HexMark [z, x]
  | underscored {z x : Char} (isZero : Nibble z 0) (isX : x = 'x' ∨ x = 'X') : HexMark [z, x, '_']

/-- A literal in base sixteen and its value: digits behind an optional plus sign and an optional
mark, with blanks around it. -/
inductive HexLiteral : List Char → Nat → Prop
  | intro {before plus mark s after : List Char} {ds : List Nat}
      (front : ∀ c ∈ before, isBlank c = true) (sign : plus = [] ∨ plus = ['+'])
      (isMark : HexMark mark) (digits : Underscored Nibble s ds)
      (back : ∀ c ∈ after, isBlank c = true) :
      HexLiteral (before ++ (plus ++ (mark ++ s)) ++ after) (Nat.ofDigits 16 ds.reverse)

/-! ## Digits -/

/-- The runs of decimal digits do not overlap. -/
theorem decimalZeros_apart :
    ∀ y ∈ decimalZeros, ∀ z ∈ decimalZeros, y < z + 10 → z < y + 10 → y = z := by decide +kernel

/-- No decimal digit is a blank. -/
theorem isBlank_decimal : ∀ z ∈ decimalZeros, ∀ k < 10, isBlank (Char.ofNat (z + k)) = false := by
  decide +kernel

theorem decimalValue?_eq_some {c : Char} {z : Nat} (mem : z ∈ decimalZeros)
    (range : z ≤ c.toNat ∧ c.toNat < z + 10) : decimalValue? c = some (c.toNat - z) := by
  unfold decimalValue?
  cases hfind : decimalZeros.find? fun z => z ≤ c.toNat && c.toNat < z + 10 with
  | none =>
    have hz := List.find?_eq_none.1 hfind z mem
    simp [range] at hz
  | some y =>
    have hy := List.find?_some hfind
    simp only [Bool.and_eq_true, decide_eq_true_eq] at hy
    obtain rfl := decimalZeros_apart y (List.mem_of_find?_eq_some hfind) z mem (by omega) (by omega)
    rfl

theorem exists_decimalZero {c : Char} {d : Nat} (h : decimalValue? c = some d) :
    ∃ z ∈ decimalZeros, (z ≤ c.toNat ∧ c.toNat < z + 10) ∧ d = c.toNat - z := by
  obtain ⟨z, hz, rfl⟩ := Option.map_eq_some_iff.1 h
  exact ⟨z, List.mem_of_find?_eq_some hz, by simpa using List.find?_some hz, rfl⟩

/-- Letters are no decimal digits. -/
theorem decimalValue?_letter {c : Char} (h : 65 ≤ c.toNat ∧ c.toNat < 128) :
    decimalValue? c = none := by
  have hapart : ∀ z ∈ decimalZeros, z + 10 ≤ 65 ∨ 128 ≤ z := by decide
  unfold decimalValue?
  rw [Option.map_eq_none_iff, List.find?_eq_none]
  intro z hz
  have := hapart z hz
  simp only [Bool.and_eq_true, decide_eq_true_eq]
  omega

theorem isBlank_letter {c : Char} (h : 65 ≤ c.toNat ∧ c.toNat < 128) : isBlank c = false := by
  simp only [isBlank]
  grind

theorem foldDigit_of_some {c : Char} {d : Nat} (h : decimalValue? c = some d) :
    foldDigit c = hexDigit d := by
  unfold foldDigit
  rw [h]

theorem foldDigit_of_none {c : Char} (h : decimalValue? c = none) : foldDigit c = c := by
  unfold foldDigit
  rw [h]

theorem decimalValue?_hexDigit : ∀ d < 10, decimalValue? (hexDigit d) = some d := by decide

theorem asciiHexValue?_hexDigit : ∀ d < 10, asciiHexValue? (hexDigit d) = some d := by decide

/-- A character that is no decimal digit is what it was before digits were folded. -/
theorem foldDigit_eq_iff {c m : Char} (hm : decimalValue? m = none) : foldDigit c = m ↔ c = m := by
  constructor
  · intro h
    cases hc : decimalValue? c with
    | none => rwa [foldDigit_of_none hc] at h
    | some d =>
      rw [foldDigit_of_some hc] at h
      rw [← h, decimalValue?_hexDigit d (decimalValue?_lt hc)] at hm
      cases hm
  · rintro rfl
    exact foldDigit_of_none hm

/-- What is read as a digit and is no decimal digit is a letter. -/
theorem nibble_of_letter {c : Char} {d : Nat} (hc : decimalValue? c = none)
    (h : asciiHexValue? c = some d) : Nibble c d := by
  unfold asciiHexValue? hexValue? at h
  rw [hc] at h
  split at h
  · dsimp only at h
    split at h
    · rename_i range
      cases h
      exact .lower range
    · split at h
      · rename_i range
        cases h
        exact .upper range
      · cases h
  · cases h

/-- A digit is read as its value, once decimal digits are folded. -/
theorem Nibble.read {c : Char} {d : Nat} (h : Nibble c d) :
    asciiHexValue? (foldDigit c) = some d := by
  cases h with
  | decimal mem range =>
    have hc := decimalValue?_eq_some mem range
    rw [foldDigit_of_some hc]
    exact asciiHexValue?_hexDigit _ (decimalValue?_lt hc)
  | lower range =>
    have hrange : 97 ≤ c.toNat ∧ c.toNat ≤ 102 := range
    have hc : decimalValue? c = none := decimalValue?_letter (by omega)
    rw [foldDigit_of_none hc]
    unfold asciiHexValue? hexValue?
    rw [if_pos (by omega), hc]
    dsimp only
    rw [if_pos range]
  | upper range =>
    have hrange : 65 ≤ c.toNat ∧ c.toNat ≤ 70 := range
    have hc : decimalValue? c = none := decimalValue?_letter (by omega)
    have hlower : ¬ ('a' ≤ c ∧ c ≤ 'f') := by
      rintro ⟨ha, -⟩
      have : 97 ≤ c.toNat := ha
      omega
    rw [foldDigit_of_none hc]
    unfold asciiHexValue? hexValue?
    rw [if_pos (by omega), hc]
    dsimp only
    rw [if_neg hlower, if_pos range]

/-- The digits that are read are those in base sixteen, once decimal digits are folded. -/
theorem asciiHexValue?_foldDigit {c : Char} {d : Nat} :
    asciiHexValue? (foldDigit c) = some d ↔ Nibble c d := by
  refine ⟨fun h => ?_, Nibble.read⟩
  cases hc : decimalValue? c with
  | some e =>
    rw [foldDigit_of_some hc, asciiHexValue?_hexDigit e (decimalValue?_lt hc)] at h
    cases h
    obtain ⟨z, mem, range, rfl⟩ := exists_decimalZero hc
    exact .decimal mem range
  | none =>
    rw [foldDigit_of_none hc] at h
    exact nibble_of_letter hc h

namespace Nibble

variable {c : Char} {d : Nat}

theorem lt (h : Nibble c d) : d < 16 := by
  have hread := h.read
  unfold asciiHexValue? at hread
  split at hread
  · exact hexValue?_lt hread
  · cases hread

theorem not_blank (h : Nibble c d) : isBlank c = false := by
  cases h with
  | @decimal z mem range =>
    have hc : Char.ofNat (z + (c.toNat - z)) = c := by
      rw [Nat.add_sub_of_le range.1, Char.ofNat_toNat]
    rw [← hc]
    exact isBlank_decimal z mem _ (by omega)
  | lower range =>
    have hrange : 97 ≤ c.toNat ∧ c.toNat ≤ 102 := range
    exact isBlank_letter (by omega)
  | upper range =>
    have hrange : 65 ≤ c.toNat ∧ c.toNat ≤ 70 := range
    exact isBlank_letter (by omega)

/-- A character that has no value as a digit is none. -/
theorem ne {m : Char} (h : Nibble c d) (hm : asciiHexValue? (foldDigit m) = none) : c ≠ m := by
  rintro rfl
  rw [h.read] at hm
  cases hm

end Nibble

/-- The zeros are what is folded to the zero that the mark begins with. -/
theorem foldDigit_eq_zero_iff {c : Char} : foldDigit c = '0' ↔ Nibble c 0 := by
  rw [← asciiHexValue?_foldDigit]
  constructor
  · intro h
    rw [h]
    decide
  · intro h
    cases hc : decimalValue? c with
    | some d =>
      rw [foldDigit_of_some hc, asciiHexValue?_hexDigit d (decimalValue?_lt hc)] at h
      cases h
      exact foldDigit_of_some hc
    | none =>
      rw [asciiHexValue?_foldDigit] at h
      generalize he : 0 = e at h
      cases h with
      | decimal mem range =>
        rw [decimalValue?_eq_some mem range] at hc
        cases hc
      | lower range => omega
      | upper range => omega

/-! ## Runs of digits -/

section Run

variable {value : Char → Option Nat} {s : List Char} {ds : List Nat}

theorem digitRun?_gap {c : Char} {d : Nat} (hc : value c = some d) :
    digitRun? value (c :: '_' :: s) = (digitRun? value s).map (d :: ·) := by
  simp only [digitRun?, hc]

theorem digitRun?_next {c x : Char} {d : Nat} (hc : value c = some d) (hx : x ≠ '_') :
    digitRun? value (c :: x :: s) = (digitRun? value (x :: s)).map (d :: ·) := by
  rw [digitRun?, hc]
  dsimp only
  split
  · rename_i h
    cases h
  · rename_i h
    exact absurd (List.cons.inj h).1 hx
  · rename_i h
    rw [h]

theorem Underscored.exists_cons {Digit : Char → Nat → Prop} (h : Underscored Digit s ds) :
    ∃ c d r, s = c :: r ∧ Digit c d := by
  cases h with
  | last digit => exact ⟨_, _, _, rfl, digit⟩
  | next digit rest => exact ⟨_, _, _, rfl, digit⟩
  | gap digit rest => exact ⟨_, _, _, rfl, digit⟩

/-- A run of digits is read exactly if underscores stand between two digits only. -/
theorem digitRun?_eq_some_iff (hv : value '_' = none) :
    digitRun? value s = some ds ↔ Underscored (fun c d => value c = some d) s ds := by
  constructor
  · intro h
    fun_induction digitRun? value s generalizing ds with
    | case1 => cases h
    | case2 => cases h
    | case3 c d hc =>
      cases h
      exact .last hc
    | case4 c d hc t ih =>
      obtain ⟨es, hes, rfl⟩ := Option.map_eq_some_iff.1 h
      exact .gap hc (ih hes)
    | case5 c d hc x t hx ih =>
      obtain ⟨es, hes, rfl⟩ := Option.map_eq_some_iff.1 h
      exact .next hc (ih hes)
  · intro h
    induction h with
    | last digit => rw [digitRun?, digit]
    | next digit rest ih =>
      obtain ⟨x, d, r, rfl, hx⟩ := rest.exists_cons
      have hne : x ≠ '_' := by
        rintro rfl
        rw [hx] at hv
        cases hv
      rw [digitRun?_next digit hne, ih, Option.map_some]
    | gap digit rest ih => rw [digitRun?_gap digit, ih, Option.map_some]

end Run

section Fold

variable {s : List Char} {ds : List Nat}

/-- Digits stay digits when they are folded, and underscores stay underscores. -/
theorem underscored_fold :
    Underscored (fun c d => asciiHexValue? c = some d) (s.map foldDigit) ds ↔
      Underscored Nibble s ds := by
  have hu {c : Char} : foldDigit c = '_' ↔ c = '_' := foldDigit_eq_iff (by decide)
  constructor
  · intro h
    generalize ht : s.map foldDigit = t at h
    induction h generalizing s with
    | last digit =>
      obtain ⟨c, rfl, rfl⟩ := List.map_eq_singleton_iff.1 ht
      exact .last (asciiHexValue?_foldDigit.1 digit)
    | next digit rest ih =>
      obtain ⟨c, r, rfl, rfl, hr⟩ := List.map_eq_cons_iff.1 ht
      exact .next (asciiHexValue?_foldDigit.1 digit) (ih hr)
    | gap digit rest ih =>
      obtain ⟨c, r, rfl, rfl, hr⟩ := List.map_eq_cons_iff.1 ht
      obtain ⟨x, t, rfl, hx, hfold⟩ := List.map_eq_cons_iff.1 hr
      obtain rfl := hu.1 hx
      exact .gap (asciiHexValue?_foldDigit.1 digit) (ih hfold)
  · intro h
    induction h with
    | last digit => exact .last (asciiHexValue?_foldDigit.2 digit)
    | next digit rest ih => exact .next (asciiHexValue?_foldDigit.2 digit) ih
    | gap digit rest ih =>
      rw [List.map_cons, List.map_cons, hu.2 rfl]
      exact .gap (asciiHexValue?_foldDigit.2 digit) ih

theorem digitRun?_fold :
    digitRun? asciiHexValue? (s.map foldDigit) = some ds ↔ Underscored Nibble s ds :=
  (digitRun?_eq_some_iff (by decide)).trans underscored_fold

namespace Underscored

/-- Every character of a run of digits is a digit or an underscore. -/
theorem nibble_or_underscore (h : Underscored Nibble s ds) :
    ∀ c ∈ s, c = '_' ∨ ∃ d, Nibble c d := by
  induction h with
  | last digit =>
    intro c hc
    obtain rfl := List.mem_singleton.1 hc
    exact .inr ⟨_, digit⟩
  | next digit rest ih =>
    intro c hc
    rcases List.mem_cons.1 hc with rfl | hc
    · exact .inr ⟨_, digit⟩
    · exact ih c hc
  | gap digit rest ih =>
    intro c hc
    rcases List.mem_cons.1 hc with rfl | hc
    · exact .inr ⟨_, digit⟩
    · rcases List.mem_cons.1 hc with rfl | hc
      · exact .inl rfl
      · exact ih c hc

/-- A run of digits ends with a digit. -/
theorem exists_concat (h : Underscored Nibble s ds) : ∃ r c d, s = r ++ [c] ∧ Nibble c d := by
  induction h with
  | last digit => exact ⟨[], _, _, rfl, digit⟩
  | next digit rest ih =>
    obtain ⟨r, c, d, rfl, hc⟩ := ih
    exact ⟨_ :: r, c, d, rfl, hc⟩
  | gap digit rest ih =>
    obtain ⟨r, c, d, rfl, hc⟩ := ih
    exact ⟨_ :: '_' :: r, c, d, rfl, hc⟩

theorem lt (h : Underscored Nibble s ds) : ∀ d ∈ ds, d < 16 := by
  induction h with
  | last digit => simpa using digit.lt
  | next digit rest ih => simpa using ⟨digit.lt, ih⟩
  | gap digit rest ih => simpa using ⟨digit.lt, ih⟩

theorem length_le (h : Underscored Nibble s ds) : ds.length ≤ s.length := by
  induction h with
  | last digit => exact Nat.le_refl _
  | next digit rest ih => simpa using ih
  | gap digit rest ih =>
    simp only [List.length_cons]
    omega

end Underscored

end Fold

/-! ## The mark and the sign -/

section Mark

variable {s : List Char} {ds : List Nat}

theorem withoutHexMark_of_not {t : List Char}
    (h : ∀ x r, t = '0' :: x :: r → ¬ (x = 'x' ∨ x = 'X')) : withoutHexMark t = t := by
  unfold withoutHexMark
  split
  · rename_i x r
    exact if_neg (h x r rfl)
  · rfl

theorem withoutHexMark_underscored {x : Char} (hx : x = 'x' ∨ x = 'X') (r : List Char) :
    withoutHexMark ('0' :: x :: '_' :: r) = r := by
  simp only [withoutHexMark, if_pos hx]

theorem withoutHexMark_present {x : Char} (hx : x = 'x' ∨ x = 'X') {r : List Char}
    (hr : ∀ t, r ≠ '_' :: t) : withoutHexMark ('0' :: x :: r) = r := by
  simp only [withoutHexMark, if_pos hx]

theorem foldDigit_isX {x : Char} : foldDigit x = 'x' ∨ foldDigit x = 'X' ↔ x = 'x' ∨ x = 'X' := by
  rw [foldDigit_eq_iff (by decide), foldDigit_eq_iff (by decide)]

/-- What is taken off the front of a text that is folded is a mark. -/
theorem exists_hexMark (s : List Char) : ∃ mark body, HexMark mark ∧ s = mark ++ body ∧
    withoutHexMark (s.map foldDigit) = body.map foldDigit := by
  by_cases hmark : ∃ z x r, s = z :: x :: r ∧ Nibble z 0 ∧ (x = 'x' ∨ x = 'X')
  · obtain ⟨z, x, r, rfl, hz, hx⟩ := hmark
    have hfold := foldDigit_isX.2 hx
    by_cases hr : ∃ t, r = '_' :: t
    · obtain ⟨t, rfl⟩ := hr
      refine ⟨[z, x, '_'], t, .underscored hz hx, rfl, ?_⟩
      rw [List.map_cons, List.map_cons, List.map_cons, foldDigit_eq_zero_iff.2 hz]
      exact withoutHexMark_underscored hfold _
    · refine ⟨[z, x], r, .present hz hx, rfl, ?_⟩
      rw [List.map_cons, List.map_cons, foldDigit_eq_zero_iff.2 hz]
      refine withoutHexMark_present hfold fun t ht => hr ?_
      obtain ⟨y, t', rfl, hy, -⟩ := List.map_eq_cons_iff.1 ht
      exact ⟨t', by rw [(foldDigit_eq_iff (by decide)).1 hy]⟩
  · refine ⟨[], s, .absent, rfl, withoutHexMark_of_not fun x r hs hx => hmark ?_⟩
    obtain ⟨z, t, rfl, hz, ht⟩ := List.map_eq_cons_iff.1 hs
    obtain ⟨y, u, rfl, rfl, -⟩ := List.map_eq_cons_iff.1 ht
    exact ⟨z, y, u, rfl, foldDigit_eq_zero_iff.1 hz, foldDigit_isX.1 hx⟩

/-- A mark is taken off the digits behind it. -/
theorem withoutHexMark_fold {mark : List Char} (hmark : HexMark mark)
    (hs : Underscored Nibble s ds) :
    withoutHexMark ((mark ++ s).map foldDigit) = s.map foldDigit := by
  cases hmark with
  | absent =>
    refine withoutHexMark_of_not fun x r ht hx => ?_
    obtain ⟨z, t, rfl, hz, ht⟩ := List.map_eq_cons_iff.1 ht
    obtain ⟨y, u, rfl, rfl, -⟩ := List.map_eq_cons_iff.1 ht
    rcases foldDigit_isX.1 hx with rfl | rfl <;>
      obtain h | ⟨d, hd⟩ := hs.nibble_or_underscore _ (List.mem_cons_of_mem _ List.mem_cons_self)
    · cases h
    · exact hd.ne (by decide) rfl
    · cases h
    · exact hd.ne (by decide) rfl
  | @present z x hz hx =>
    rw [List.cons_append, List.cons_append, List.nil_append, List.map_cons, List.map_cons,
      foldDigit_eq_zero_iff.2 hz]
    refine withoutHexMark_present (foldDigit_isX.2 hx) fun t ht => ?_
    obtain ⟨c, d, r, rfl, hd⟩ := hs.exists_cons
    have hc : foldDigit c = '_' := (List.cons.inj ht).1
    exact hd.ne (by decide) ((foldDigit_eq_iff (by decide)).1 hc)
  | @underscored z x hz hx =>
    rw [List.cons_append, List.cons_append, List.cons_append, List.nil_append, List.map_cons,
      List.map_cons, List.map_cons, foldDigit_eq_zero_iff.2 hz]
    exact withoutHexMark_underscored (foldDigit_isX.2 hx) _

/-- The digits begin with a digit, and so does the mark in front of them. -/
theorem HexMark.exists_cons {mark : List Char} (hmark : HexMark mark)
    (hs : Underscored Nibble s ds) : ∃ c d r, mark ++ s = c :: r ∧ Nibble c d := by
  cases hmark with
  | absent => exact hs.exists_cons
  | present isZero isX => exact ⟨_, _, _, rfl, isZero⟩
  | underscored isZero isX => exact ⟨_, _, _, rfl, isZero⟩

theorem foldDigit_plus : foldDigit '+' = '+' := foldDigit_of_none (by decide)

/-- What is taken off the front of a text without a minus sign that is folded is a plus sign. -/
theorem exists_plus (h : '-' ∉ s) : ∃ plus rest, (plus = [] ∨ plus = ['+']) ∧ s = plus ++ rest ∧
    splitSign (s.map foldDigit) = (false, rest.map foldDigit) := by
  cases s with
  | nil => exact ⟨[], [], .inl rfl, rfl, rfl⟩
  | cons c r =>
    by_cases hc : c = '+'
    · subst hc
      refine ⟨['+'], r, .inr rfl, rfl, ?_⟩
      rw [List.map_cons, foldDigit_plus]
      rfl
    · refine ⟨[], c :: r, .inl rfl, rfl, splitSign_cons ?_ ?_⟩
      · rw [Ne, foldDigit_eq_iff (by decide)]
        rintro rfl
        exact h List.mem_cons_self
      · rwa [Ne, foldDigit_eq_iff (by decide)]

/-- A plus sign is taken off what begins with a digit. -/
theorem splitSign_fold {plus rest r : List Char} {c : Char} {d : Nat}
    (hplus : plus = [] ∨ plus = ['+']) (hrest : rest = c :: r) (hc : Nibble c d) :
    splitSign ((plus ++ rest).map foldDigit) = (false, rest.map foldDigit) := by
  rcases hplus with rfl | rfl
  · subst hrest
    refine splitSign_cons ?_ ?_
    · rw [Ne, foldDigit_eq_iff (by decide)]
      exact hc.ne (by decide)
    · rw [Ne, foldDigit_eq_iff (by decide)]
      exact hc.ne (by decide)
  · rw [List.cons_append, List.map_cons, foldDigit_plus]
    rfl

end Mark

/-! ## Reading a literal -/

theorem ofDigits_eq (b : Nat) (ds : List Nat) : ofDigits b ds = Nat.ofDigits b ds.reverse := by
  rw [Nat.ofDigits_eq_foldr, List.foldr_reverse, ofDigits]
  congr 1
  funext n d
  rw [Nat.cast_id]
  ring

theorem hexLiteral_of_hexLiteral? {s : List Char} (hs : '-' ∉ s) {n : Nat}
    (h : hexLiteral? s = some (n : Int)) : HexLiteral s n := by
  have hstripped := stripped_trim (p := isBlank) s
  unfold hexLiteral? at h
  generalize trim isBlank s = core at h hstripped
  cases hstripped with
  | @intro before core after front head last back =>
    have hcore : '-' ∉ core := fun hm =>
      hs (List.mem_append_left _ (List.mem_append_right _ hm))
    obtain ⟨plus, rest, hplus, rfl, hsign⟩ := exists_plus hcore
    obtain ⟨mark, body, hmark, rfl, hbody⟩ := exists_hexMark rest
    simp only [hsign, hbody, Option.map_eq_some_iff] at h
    obtain ⟨ds, hds, hn⟩ := h
    have hvalue : n = Nat.ofDigits 16 ds.reverse := by
      rw [← ofDigits_eq]
      simpa using hn.symm
    rw [hvalue]
    exact .intro front hplus hmark (digitRun?_fold.1 hds) back

theorem HexLiteral.read {s : List Char} {n : Nat} (h : HexLiteral s n) :
    hexLiteral? s = some (n : Int) := by
  cases h with
  | @intro before plus mark body after ds front hplus hmark digits back =>
    obtain ⟨c, d, r, hfirst, hc⟩ := hmark.exists_cons digits
    obtain ⟨r', c', d', hlast, hc'⟩ := digits.exists_concat
    have htrim : trim isBlank (before ++ (plus ++ (mark ++ body)) ++ after) =
        plus ++ (mark ++ body) := by
      refine (stripped_iff.1 (.intro front ?_ ?_ back)).symm
      · rw [hfirst]
        rcases hplus with rfl | rfl
        · simpa using hc.not_blank
        · simp [isBlank]
      · rw [hlast]
        simpa using hc'.not_blank
    have hsign := splitSign_fold hplus hfirst hc
    have hmark := withoutHexMark_fold hmark digits
    unfold hexLiteral?
    simp only [htrim, hsign, hmark, digitRun?_fold.2 digits, Option.map_some, Bool.false_eq_true,
      if_false, ofDigits_eq]

/-- **A text without a minus sign is read exactly if it is a literal**, and as the number of it. -/
theorem hexLiteral?_eq_some_iff {s : List Char} (hs : '-' ∉ s) {n : Nat} :
    hexLiteral? s = some (n : Int) ↔ HexLiteral s n :=
  ⟨hexLiteral_of_hexLiteral? hs, HexLiteral.read⟩

/-- A number is below the power of sixteen that its literal has room for. -/
theorem HexLiteral.lt {s : List Char} {n : Nat} (h : HexLiteral s n) : n < 16 ^ s.length := by
  cases h with
  | @intro before plus mark body after ds front hplus hmark digits back =>
    have hlt : Nat.ofDigits 16 ds.reverse < 16 ^ ds.reverse.length :=
      Nat.ofDigits_lt_base_pow_length (by decide) fun d hd => digits.lt d (List.mem_reverse.1 hd)
    refine Nat.lt_of_lt_of_le hlt (Nat.pow_le_pow_right (by decide) ?_)
    have hlength := digits.length_le
    simp only [List.length_append, List.length_reverse]
    omega

end Discography.Text
