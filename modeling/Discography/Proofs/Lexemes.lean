import Discography.Proofs.Grammar

/-!
# Strings, numbers and words are read as they are spelled

Each part of the reader is matched with the rule of the grammar that it reads. What is read in part
is a text of the rule and what follows it. The other way round, a text of a rule is read whatever
follows a string, and read to its end if nothing follows a number that could go on with it.

* `escape?_eq_some_iff`, `string?_eq_some_iff` — escapes and strings.
* `numeral_of_number?`, `number?_append` — numbers; `Stops` says what may follow one.
* `scalar_of_scalar?`, `scalar?_numeral` — no word is taken for a number.
-/

set_option autoImplicit false

namespace Discography.Json

open Discography.Number Discography.Text

/-! ## Blanks -/

theorem isGap_iff {c : Char} : isGap c = true ↔ c = ' ' ∨ c = '\t' ∨ c = '\n' ∨ c = '\r' := by
  simp [isGap, or_assoc]

theorem Gap.nil : Gap [] := by
  intro c hc
  cases hc

theorem Gap.append {g g' : List Char} (h : Gap g) (h' : Gap g') : Gap (g ++ g') := by
  intro c hc
  rcases List.mem_append.1 hc with hc | hc
  · exact h c hc
  · exact h' c hc

theorem exists_gap_append_skipGap (s : List Char) : ∃ g, Gap g ∧ s = g ++ skipGap s := by
  refine ⟨s.takeWhile isGap, fun c hc => ?_, List.takeWhile_append_dropWhile.symm⟩
  exact isGap_iff.1 (List.all_eq_true.1 List.all_takeWhile c hc)

theorem skipGap_append {g : List Char} (h : Gap g) (s : List Char) :
    skipGap (g ++ s) = skipGap s := by
  unfold skipGap
  rw [List.dropWhile_append_of_pos]
  intro c hc
  exact isGap_iff.2 (h c hc)

theorem skipGap_cons {c : Char} (h : isGap c = false) (s : List Char) :
    skipGap (c :: s) = c :: s := by
  simp [skipGap, h]

/-! ## Strings -/

/-- The value of a digit in base sixteen by the number of its character. -/
theorem asciiHexValue?_eq (c : Char) :
    asciiHexValue? c = if 48 ≤ c.toNat ∧ c.toNat ≤ 57 then some (c.toNat - 48)
      else if 97 ≤ c.toNat ∧ c.toNat ≤ 102 then some (c.toNat - 97 + 10)
      else if 65 ≤ c.toNat ∧ c.toNat ≤ 70 then some (c.toNat - 65 + 10) else none := by
  have hall : ∀ k < 128, asciiHexValue? (Char.ofNat k) =
      if 48 ≤ k ∧ k ≤ 57 then some (k - 48) else if 97 ≤ k ∧ k ≤ 102 then some (k - 97 + 10)
      else if 65 ≤ k ∧ k ≤ 70 then some (k - 65 + 10) else none := by decide
  by_cases hc : c.toNat < 128
  · have h := hall c.toNat hc
    rwa [Char.ofNat_toNat] at h
  · unfold asciiHexValue?
    rw [if_neg hc, if_neg (by omega), if_neg (by omega), if_neg (by omega)]

theorem asciiHexValue?_eq_some_iff {c : Char} {n : Nat} :
    asciiHexValue? c = some n ↔ HexDigit c n := by
  have hle (a b : Char) : a ≤ c ∧ c ≤ b ↔ a.toNat ≤ c.toNat ∧ c.toNat ≤ b.toNat := Iff.rfl
  rw [asciiHexValue?_eq]
  constructor
  · intro h
    split at h
    · next hr => cases h; exact .decimal ((hle '0' '9').2 hr)
    · split at h
      · next hr => cases h; exact .lower ((hle 'a' 'f').2 hr)
      · split at h
        · next hr => cases h; exact .upper ((hle 'A' 'F').2 hr)
        · cases h
  · intro h
    cases h with
    | decimal range =>
      have hr : 48 ≤ c.toNat ∧ c.toNat ≤ 57 := (hle '0' '9').1 range
      rw [if_pos hr]
      rfl
    | lower range =>
      have hr : 97 ≤ c.toNat ∧ c.toNat ≤ 102 := (hle 'a' 'f').1 range
      rw [if_neg (by omega), if_pos hr]
      rfl
    | upper range =>
      have hr : 65 ≤ c.toNat ∧ c.toNat ≤ 70 := (hle 'A' 'F').1 range
      rw [if_neg (by omega), if_neg (by omega), if_pos hr]
      rfl

theorem HexDigit.lt {c : Char} {n : Nat} (h : HexDigit c n) : n < 16 := by
  have h := asciiHexValue?_eq_some_iff.2 h
  unfold asciiHexValue? at h
  split at h
  · exact hexValue?_lt h
  · cases h

theorem HexUnit.lt {s : List Char} {n : Nat} (h : HexUnit s n) : n < 0x10000 := by
  cases h with
  | intro ha hb hc hd =>
    have := ha.lt
    have := hb.lt
    have := hc.lt
    have := hd.lt
    omega

theorem unit?_eq_some_iff {s r : List Char} {n : Nat} :
    unit? s = some (n, r) ↔ ∃ t, HexUnit t n ∧ s = t ++ r := by
  constructor
  · intro h
    unfold unit? at h
    split at h
    · next a b c d r =>
      split at h
      · next w x y z ha hb hc hd =>
        simp only [Option.some.injEq, Prod.mk.injEq] at h
        obtain ⟨rfl, rfl⟩ := h
        refine ⟨[a, b, c, d], ?_, rfl⟩
        have hvalue : ofDigits 16 [w, x, y, z] = w * 4096 + x * 256 + y * 16 + z := by
          simp only [ofDigits, List.foldl_cons, List.foldl_nil]
          omega
        rw [hvalue]
        exact .intro (asciiHexValue?_eq_some_iff.1 ha) (asciiHexValue?_eq_some_iff.1 hb)
          (asciiHexValue?_eq_some_iff.1 hc) (asciiHexValue?_eq_some_iff.1 hd)
      · cases h
    · cases h
  · rintro ⟨t, ht, rfl⟩
    cases ht with
    | intro ha hb hc hd =>
      simp only [List.cons_append, List.nil_append, unit?, asciiHexValue?_eq_some_iff.2 ha,
        asciiHexValue?_eq_some_iff.2 hb, asciiHexValue?_eq_some_iff.2 hc,
        asciiHexValue?_eq_some_iff.2 hd, ofDigits, List.foldl_cons, List.foldl_nil,
        Option.some.injEq, Prod.mk.injEq, and_true]
      omega

theorem letterEscape?_eq_some_iff {x c : Char} :
    letterEscape? x = some c ↔ (x, c) ∈ letterEscapes := by
  unfold letterEscape?
  constructor
  · intro h
    split at h
    · next hx =>
      cases h
      rcases hx with rfl | rfl | rfl <;> decide
    · split at h; · cases h; simp [letterEscapes, *]
      split at h; · cases h; simp [letterEscapes, *]
      split at h; · cases h; simp [letterEscapes, *]
      split at h; · cases h; simp [letterEscapes, *]
      split at h; · cases h; simp [letterEscapes, *]
      cases h
  · intro h
    simp only [letterEscapes, List.mem_cons, Prod.mk.injEq, List.not_mem_nil, or_false] at h
    rcases h with ⟨rfl, rfl⟩ | ⟨rfl, rfl⟩ | ⟨rfl, rfl⟩ | ⟨rfl, rfl⟩ | ⟨rfl, rfl⟩ | ⟨rfl, rfl⟩ |
      ⟨rfl, rfl⟩ | ⟨rfl, rfl⟩ <;> rfl

theorem toNat_ofNat {n : Nat} (h : n < 0xD800 ∨ 0xDFFF < n ∧ n < 0x110000) :
    (Char.ofNat n).toNat = n := by
  have hv : n.isValidChar := h
  rw [Char.ofNat, dif_pos hv]
  rfl

theorem toNat_not_half (c : Char) : c.toNat < 0xD800 ∨ 0xDFFF < c.toNat := by
  have h : c.toNat.isValidChar := c.valid
  rcases h with h | h
  · exact .inl h
  · exact .inr h.1

/-- A unit that is no half of a pair is the number of a character. -/
theorem isHalf_toNat (c : Char) : isHighHalf c.toNat = false ∧ isLowHalf c.toNat = false := by
  have := toNat_not_half c
  simp only [isHighHalf, isLowHalf, Bool.and_eq_false_iff, decide_eq_false_iff_not]
  omega

theorem escape_of_unicodeEscape? {s r : List Char} {c : Char}
    (h : unicodeEscape? s = some (c, r)) : ∃ e, Escape ('u' :: e) c ∧ s = e ++ r := by
  unfold unicodeEscape? at h
  split at h
  · cases h
  · next high t hunit =>
    obtain ⟨a, ha, rfl⟩ := unit?_eq_some_iff.1 hunit
    split at h
    · next hhigh =>
      split at h
      · next u =>
        split at h
        · cases h
        · next low v hunit' =>
          obtain ⟨b, hb, rfl⟩ := unit?_eq_some_iff.1 hunit'
          split at h
          · next hlow =>
            simp only [isHighHalf, isLowHalf, Bool.and_eq_true, decide_eq_true_eq] at hhigh hlow
            simp only [Option.some.injEq, Prod.mk.injEq] at h
            obtain ⟨rfl, rfl⟩ := h
            refine ⟨a ++ '\\' :: 'u' :: b, .pair ha hb hhigh hlow ?_, by simp⟩
            rw [pairChar, toNat_ofNat (by omega)]
          · cases h
      · cases h
    · next hhigh =>
      split at h
      · cases h
      · next hlow =>
        simp only [isHighHalf, isLowHalf, Bool.and_eq_true, decide_eq_true_eq] at hhigh hlow
        simp only [Option.some.injEq, Prod.mk.injEq] at h
        obtain ⟨rfl, rfl⟩ := h
        have hlt := ha.lt
        refine ⟨a, .unit ?_, rfl⟩
        rwa [toNat_ofNat (by omega)]

theorem unicodeEscape?_unit {s : List Char} {c : Char} (h : HexUnit s c.toNat) (r : List Char) :
    unicodeEscape? (s ++ r) = some (c, r) := by
  obtain ⟨hhigh, hlow⟩ := isHalf_toNat c
  simp [unicodeEscape?, unit?_eq_some_iff.2 ⟨s, h, rfl⟩, hhigh, hlow]

theorem unicodeEscape?_pair {s t : List Char} {high low : Nat} {c : Char} (hs : HexUnit s high)
    (ht : HexUnit t low) (hhigh : 0xD800 ≤ high ∧ high < 0xDC00)
    (hlow : 0xDC00 ≤ low ∧ low < 0xE000)
    (hc : c.toNat = 0x10000 + (high - 0xD800) * 0x400 + (low - 0xDC00)) (r : List Char) :
    unicodeEscape? (s ++ '\\' :: 'u' :: (t ++ r)) = some (c, r) := by
  have hpair : pairChar high low = c := by rw [pairChar, ← hc, Char.ofNat_toNat]
  have h₁ : isHighHalf high = true := by simpa [isHighHalf] using hhigh
  have h₂ : isLowHalf low = true := by simpa [isLowHalf] using hlow
  simp [unicodeEscape?, unit?_eq_some_iff.2 ⟨s, hs, rfl⟩, unit?_eq_some_iff.2 ⟨t, ht, rfl⟩, h₁, h₂,
    hpair]

theorem escape?_u (s : List Char) : escape? ('u' :: s) = unicodeEscape? s := rfl

theorem escape?_eq_some_iff {s r : List Char} {c : Char} :
    escape? s = some (c, r) ↔ ∃ e, Escape e c ∧ s = e ++ r := by
  constructor
  · intro h
    unfold escape? at h
    split at h
    · cases h
    · next x t =>
      split at h
      · next y hy =>
        cases h
        exact ⟨[x], .letter (letterEscape?_eq_some_iff.1 hy), rfl⟩
      · split at h
        · next hx =>
          subst hx
          obtain ⟨e, he, rfl⟩ := escape_of_unicodeEscape? h
          exact ⟨'u' :: e, he, rfl⟩
        · cases h
  · rintro ⟨e, he, rfl⟩
    cases he with
    | letter mem =>
      have h := letterEscape?_eq_some_iff.2 mem
      simp [escape?, h]
    | unit unit =>
      rw [List.cons_append, escape?_u]
      exact unicodeEscape?_unit unit r
    | pair first second isHigh isLow value =>
      rw [List.append_assoc, List.cons_append, escape?_u]
      exact unicodeEscape?_pair first second isHigh isLow value r

theorem stringFrom_eq_some_iff {s read cs r : List Char} :
    stringFrom read s = some (cs, r) ↔
      ∃ t ds, StringBody t ds ∧ s = t ++ '"' :: r ∧ cs = read.reverse ++ ds := by
  constructor
  · intro h
    induction hn : s.length using Nat.strongRecOn generalizing s read with
    | ind n ih =>
      subst hn
      unfold stringFrom at h
      split at h
      · cases h
      · next c s =>
        split at h
        · next hquote =>
          cases h
          exact ⟨[], [], .nil, by rw [hquote]; rfl, by simp⟩
        · next hquote =>
          split at h
          · next hslash =>
            split at h
            · cases h
            · next x u hescape =>
              have hlt := escape?_length_lt hescape
              obtain ⟨e, he, rfl⟩ := escape?_eq_some_iff.1 hescape
              obtain ⟨t, ds, hbody, rfl, rfl⟩ := ih _ (by simp only [List.length_cons]; omega) h rfl
              refine ⟨'\\' :: e ++ t, x :: ds, .escape he hbody, ?_, by simp⟩
              simp [hslash]
          · next hslash =>
            split at h
            · cases h
            · next hcontrol =>
              obtain ⟨t, ds, hbody, rfl, rfl⟩ := ih _ (by simp) h rfl
              exact ⟨c :: t, c :: ds, .plain (Char.not_lt.1 hcontrol) hquote hslash hbody, rfl,
                by simp⟩
  · rintro ⟨t, ds, hbody, rfl, rfl⟩
    induction hbody generalizing read with
    | nil =>
      unfold stringFrom
      simp
    | @plain c s cs printable noQuote noBackslash rest ih =>
      unfold stringFrom
      simp only [List.cons_append, if_neg noQuote, if_neg noBackslash,
        if_neg (Char.not_lt.2 printable)]
      rw [ih]
      simp
    | @escape e s cs c escape rest ih =>
      have hescape : escape? (e ++ s ++ '"' :: r) = some (c, s ++ '"' :: r) :=
        escape?_eq_some_iff.2 ⟨e, escape, List.append_assoc ..⟩
      have hslash : ('\\' : Char) ≠ '"' := by decide
      unfold stringFrom
      simp only [List.cons_append, if_neg hslash, ↓reduceIte]
      split
      · next h =>
        rw [hescape] at h
        cases h
      · next x u h =>
        rw [hescape] at h
        cases h
        rw [ih]
        simp

theorem string?_eq_some_iff {s r : List Char} {x : String} :
    string? s = some (x, r) ↔ ∃ t, StringBody t x.toList ∧ s = t ++ '"' :: r := by
  unfold string?
  simp only [Option.map_eq_some_iff, Prod.exists, Prod.mk.injEq, stringFrom_eq_some_iff]
  constructor
  · rintro ⟨cs, r, ⟨t, ds, hbody, rfl, rfl⟩, rfl, rfl⟩
    exact ⟨t, by simpa using hbody, rfl⟩
  · rintro ⟨t, hbody, rfl⟩
    exact ⟨_, _, ⟨t, x.toList, hbody, rfl, rfl⟩, by simp, rfl⟩

/-! ## Numbers -/

theorem digitsValue_eq (ds : List Char) : digitsValue ds = valueOf ds := ofDigits_ascii ds

/-- What a run of digits ends before. -/
def NoDigit (r : List Char) : Prop := ∀ c ∈ r.head?, c.isDigit = false

/-- What a number ends before: nothing that could go on with it. -/
def Stops (r : List Char) : Prop :=
  ∀ c ∈ r.head?, c.isDigit = false ∧ c ≠ '.' ∧ c ≠ 'e' ∧ c ≠ 'E'

theorem Stops.noDigit {r : List Char} (h : Stops r) : NoDigit r := fun c hc => (h c hc).1

theorem takeWhile_isDigit_append {ds r : List Char} (hds : ∀ c ∈ ds, c.isDigit = true)
    (hr : NoDigit r) : (ds ++ r).takeWhile Char.isDigit = ds := by
  rw [List.takeWhile_append_of_pos hds]
  cases r with
  | nil => simp
  | cons c r => simp [hr c rfl]

theorem dropWhile_isDigit_append {ds r : List Char} (hds : ∀ c ∈ ds, c.isDigit = true)
    (hr : NoDigit r) : (ds ++ r).dropWhile Char.isDigit = r := by
  rw [List.dropWhile_append_of_pos hds]
  cases r with
  | nil => simp
  | cons c r => simp [hr c rfl]

theorem isDigit_of_mem_takeWhile {s : List Char} :
    ∀ c ∈ s.takeWhile Char.isDigit, c.isDigit = true :=
  List.all_eq_true.1 List.all_takeWhile

theorem digitRun_of_someDigits? {s ds r : List Char} (h : someDigits? s = some (ds, r)) :
    DigitRun ds ∧ s = ds ++ r := by
  unfold someDigits? at h
  split at h
  · cases h
  · next ds' hne =>
    cases h
    exact ⟨⟨hne, isDigit_of_mem_takeWhile⟩, List.takeWhile_append_dropWhile.symm⟩

theorem someDigits?_append {ds r : List Char} (hds : DigitRun ds) (hr : NoDigit r) :
    someDigits? (ds ++ r) = some (ds, r) := by
  unfold someDigits?
  rw [takeWhile_isDigit_append hds.isDigit hr, dropWhile_isDigit_append hds.isDigit hr]
  cases ds with
  | nil => exact absurd rfl hds.ne_nil
  | cons d ds => rfl

theorem fraction_of_fraction? {s fs r : List Char} (h : fraction? s = some (fs, r)) :
    ∃ f, Fraction f fs ∧ s = f ++ r := by
  unfold fraction? at h
  split at h
  · obtain ⟨hrun, rfl⟩ := digitRun_of_someDigits? h
    exact ⟨'.' :: fs, .present hrun, rfl⟩
  · cases h
    exact ⟨[], .absent, rfl⟩

theorem fraction?_append {f fs r : List Char} (hf : Fraction f fs) (hr : NoDigit r)
    (hpoint : r.head? ≠ some '.') : fraction? (f ++ r) = some (fs, r) := by
  cases hf with
  | absent =>
    unfold fraction?
    split
    · next heq => exact absurd (by rw [List.nil_append] at heq; rw [heq]; rfl) hpoint
    · rfl
  | present run => exact someDigits?_append run hr

theorem exponent_of_exponent? {s r : List Char} {x : Option Int}
    (h : exponent? s = some (x, r)) : ∃ e, Exponent e x ∧ s = e ++ r := by
  unfold exponent? at h
  split at h
  · next c t =>
    split at h
    · next hmark =>
      simp only [Option.map_eq_some_iff, Prod.exists, Prod.mk.injEq, digitsValue_eq] at h
      obtain ⟨ds, r, hdigits, rfl, rfl⟩ := h
      obtain ⟨hrun, hs⟩ := digitRun_of_someDigits? hdigits
      split at hs
      · exact ⟨c :: '-' :: ds, .minus hmark hrun, congrArg (c :: '-' :: ·) hs⟩
      · exact ⟨c :: '+' :: ds, .plus hmark hrun, congrArg (c :: '+' :: ·) hs⟩
      · exact ⟨c :: ds, .bare hmark hrun, congrArg (c :: ·) hs⟩
    · cases h
      exact ⟨[], .absent, rfl⟩
  · cases h
    exact ⟨[], .absent, rfl⟩

theorem DigitRun.exists_cons {ds : List Char} (h : DigitRun ds) :
    ∃ d t, ds = d :: t ∧ d.isDigit = true := by
  cases ds with
  | nil => exact absurd rfl h.ne_nil
  | cons d t => exact ⟨d, t, rfl, h.isDigit d List.mem_cons_self⟩

theorem exponent?_append {e r : List Char} {x : Option Int} (he : Exponent e x) (hr : Stops r) :
    exponent? (e ++ r) = some (x, r) := by
  cases he with
  | absent =>
    cases r with
    | nil => rfl
    | cons c r =>
      obtain ⟨-, -, he, hE⟩ := hr c rfl
      simp [exponent?, he, hE]
  | @bare mark ds isMark run =>
    -- A digit is no sign, so the third way of reading the sign is taken.
    obtain ⟨d, t, rfl, hd⟩ := run.exists_cons
    have hminus : d ≠ '-' := by rintro rfl; exact absurd hd (by decide)
    have hplus : d ≠ '+' := by rintro rfl; exact absurd hd (by decide)
    have hdigits := someDigits?_append run hr.noDigit
    simp_all [exponent?, digitsValue_eq]
  | plus isMark run =>
    simp [exponent?, isMark, someDigits?_append run hr.noDigit, digitsValue_eq]
  | minus isMark run =>
    simp [exponent?, isMark, someDigits?_append run hr.noDigit, digitsValue_eq]

/-- An exponent goes on neither with digits nor with a fraction. -/
theorem Exponent.noDigit_append {e r : List Char} {x : Option Int} (he : Exponent e x)
    (hr : Stops r) : NoDigit (e ++ r) ∧ (e ++ r).head? ≠ some '.' := by
  have hmark (c : Char) (hc : c = 'e' ∨ c = 'E') (s : List Char) :
      NoDigit (c :: s) ∧ (c :: s).head? ≠ some '.' := by
    rcases hc with rfl | rfl <;> simp [NoDigit]
  cases he with
  | absent => exact ⟨hr.noDigit, fun h => (hr '.' h).2.1 rfl⟩
  | bare isMark run => exact hmark _ isMark _
  | plus isMark run => exact hmark _ isMark _
  | minus isMark run => exact hmark _ isMark _

theorem Fraction.eq_nil_iff {f fs : List Char} (h : Fraction f fs) : f = [] ↔ fs = [] := by
  cases h with
  | absent => simp
  | present run => simp [run.ne_nil]

theorem Exponent.eq_nil_iff {e : List Char} {x : Option Int} (h : Exponent e x) :
    e = [] ↔ x = none := by
  cases h <;> simp

/-- The value of a numeral is the one that its parts make up. -/
theorem numeral_of_parts {limits : Limits} {m ds f fs e : List Char} {negative : Bool}
    {x : Option Int} (sign : Minus m negative) (whole : Whole ds)
    (short : FitsDigits limits m ds) (fraction : Fraction f fs) (exponent : Exponent e x) :
    Numeral limits (m ++ ds ++ f ++ e) (numeral negative ds fs x) := by
  unfold numeral
  simp only [digitsValue_eq]
  by_cases hmore : f ++ e = []
  · obtain ⟨rfl, rfl⟩ := List.append_eq_nil_iff.1 hmore
    rw [fraction.eq_nil_iff.1 rfl, exponent.eq_nil_iff.1 rfl]
    simpa [signed] using Numeral.integer sign whole short
  · rw [if_neg]
    · exact .decimal sign whole short fraction exponent hmore
    · intro h
      simp only [Bool.and_eq_true, List.isEmpty_iff, Option.isNone_iff_eq_none] at h
      rw [fraction.eq_nil_iff.2 h.1, exponent.eq_nil_iff.2 h.2] at hmore
      exact hmore rfl

/-- Every numeral has parts that make up its value. -/
theorem Numeral.exists_parts {limits : Limits} {s : List Char} {v : Value}
    (h : Numeral limits s v) : ∃ m ds f fs e negative x, Minus m negative ∧ Whole ds ∧
      FitsDigits limits m ds ∧ Fraction f fs ∧ Exponent e x ∧ s = m ++ ds ++ f ++ e ∧
      v = numeral negative ds fs x := by
  cases h with
  | integer sign whole short =>
    refine ⟨_, _, [], [], [], _, none, sign, whole, short, .absent, .absent, by simp, ?_⟩
    simp [numeral, signed, digitsValue_eq]
  | decimal sign whole short fraction exponent more =>
    refine ⟨_, _, _, _, _, _, _, sign, whole, short, fraction, exponent, rfl, ?_⟩
    unfold numeral
    rw [if_neg, digitsValue_eq]
    intro h
    simp only [Bool.and_eq_true, List.isEmpty_iff, Option.isNone_iff_eq_none] at h
    rw [fraction.eq_nil_iff.2 h.1, exponent.eq_nil_iff.2 h.2] at more
    exact more rfl

/-- The sign adds one to the digits if it is there and counts. -/
theorem fitsDigits_iff {limits : Limits} {m ds : List Char} {negative : Bool}
    (sign : Minus m negative) :
    FitsDigits limits m ds ↔ limits.admits negative ds.length = true := by
  unfold FitsDigits Limits.admits
  cases sign <;> cases limits.countsMinus <;> simp

theorem isWhole_iff {limits : Limits} {m ds : List Char} {negative : Bool}
    (sign : Minus m negative) (h : ∀ c ∈ ds, c.isDigit = true) :
    isWhole limits negative ds = true ↔ Whole ds ∧ FitsDigits limits m ds := by
  rw [fitsDigits_iff sign]
  unfold isWhole
  cases ds with
  | nil =>
    simp only [Bool.false_eq_true, false_iff, not_and]
    intro hw
    cases hw with
    | positive run first => exact absurd rfl run.ne_nil
  | cons d r =>
    simp only [Bool.and_eq_true, Bool.or_eq_true, bne_iff_ne, List.isEmpty_iff]
    refine and_congr_left fun _ => ⟨?_, ?_⟩
    · rintro (hd | rfl)
      · exact .positive ⟨List.cons_ne_nil _ _, h⟩ (by simpa using hd)
      · by_cases hd : d = '0'
        · subst hd
          exact .zero
        · exact .positive ⟨List.cons_ne_nil _ _, h⟩ (by simpa using hd)
    · intro hw
      cases hw with
      | zero => exact .inr rfl
      | positive run first => exact .inl (by simpa using first)

theorem Whole.isDigit {ds : List Char} (h : Whole ds) : ∀ c ∈ ds, c.isDigit = true := by
  cases h with
  | zero => simp
  | positive run first => exact run.isDigit

/-- A text without an optional minus sign in front, and whether there is one. -/
def splitMinus : List Char → Bool × List Char
  | '-' :: r => (true, r)
  | r => (false, r)

theorem exists_minus (s : List Char) :
    ∃ m, Minus m (splitMinus s).1 ∧ s = m ++ (splitMinus s).2 := by
  unfold splitMinus
  split
  · exact ⟨['-'], .present, rfl⟩
  · exact ⟨[], .absent, rfl⟩

theorem splitMinus_append {m s : List Char} {negative : Bool} (sign : Minus m negative)
    (h : s.head? ≠ some '-') : splitMinus (m ++ s) = (negative, s) := by
  cases sign with
  | absent =>
    rw [List.nil_append]
    unfold splitMinus
    split
    · exact absurd rfl h
    · rfl
  | present => rfl

/-- Reading a numeral as a sequence of steps. -/
theorem number?_eq (limits : Limits) (s : List Char) :
    number? limits s =
      if isWhole limits (splitMinus s).1 ((splitMinus s).2.takeWhile Char.isDigit) then
        (fraction? ((splitMinus s).2.dropWhile Char.isDigit)).bind fun p =>
          (exponent? p.2).map fun q =>
            (numeral (splitMinus s).1 ((splitMinus s).2.takeWhile Char.isDigit) p.1 q.1, q.2)
      else none := by
  unfold number? splitMinus
  rcases s with _ | ⟨c, s⟩
  · rfl
  by_cases hc : c = '-'
  · subst hc
    cases hfraction : fraction? (s.dropWhile Char.isDigit) with
    | none => simp [hfraction]
    | some f =>
      cases hexponent : exponent? f.2 with
      | none => simp [hfraction, hexponent]
      | some e => simp [hfraction, hexponent]
  · cases hfraction : fraction? ((c :: s).dropWhile Char.isDigit) with
    | none => simp [hc, hfraction]
    | some f =>
      cases hexponent : exponent? f.2 with
      | none => simp [hc, hfraction, hexponent]
      | some e => simp [hc, hfraction, hexponent]

theorem numeral_of_number? {limits : Limits} {s r : List Char} {v : Value}
    (h : number? limits s = some (v, r)) : ∃ t, Numeral limits t v ∧ s = t ++ r := by
  obtain ⟨m, hm, hs⟩ := exists_minus s
  simp only [number?_eq, Option.ite_none_right_eq_some, Option.bind_eq_some_iff,
    Option.map_eq_some_iff, Prod.exists, Prod.mk.injEq] at h
  obtain ⟨hwhole, fs, u, hfraction, x, w, hexponent, rfl, rfl⟩ := h
  obtain ⟨hwhole, hshort⟩ := (isWhole_iff hm isDigit_of_mem_takeWhile).1 hwhole
  obtain ⟨f, hf, hu⟩ := fraction_of_fraction? hfraction
  obtain ⟨e, he, rfl⟩ := exponent_of_exponent? hexponent
  refine ⟨_, numeral_of_parts hm hwhole hshort hf he, ?_⟩
  rw [List.append_assoc, List.append_assoc, List.append_assoc, ← hu,
    List.takeWhile_append_dropWhile]
  exact hs

theorem Whole.exists_cons {ds : List Char} (h : Whole ds) :
    ∃ d t, ds = d :: t ∧ d.isDigit = true := by
  cases h with
  | zero => exact ⟨'0', [], rfl, by decide⟩
  | positive run first => exact run.exists_cons

theorem number?_append {limits : Limits} {t r : List Char} {v : Value} (h : Numeral limits t v)
    (hr : Stops r) : number? limits (t ++ r) = some (v, r) := by
  obtain ⟨m, ds, f, fs, e, negative, x, sign, whole, short, fraction, exponent, rfl, rfl⟩ :=
    h.exists_parts
  have hsign : splitMinus (m ++ ds ++ f ++ e ++ r) = (negative, ds ++ (f ++ (e ++ r))) := by
    obtain ⟨d, t, rfl, hd⟩ := whole.exists_cons
    have hminus : d ≠ '-' := by rintro rfl; exact absurd hd (by decide)
    have h := splitMinus_append (s := d :: t ++ (f ++ (e ++ r))) sign (by simpa using hminus)
    simpa using h
  -- Neither the exponent nor what follows it goes on with the digits before.
  have hexponent : NoDigit (e ++ r) ∧ (e ++ r).head? ≠ some '.' := exponent.noDigit_append hr
  have hfraction : NoDigit (f ++ (e ++ r)) := by
    cases fraction with
    | absent => exact hexponent.1
    | present run => intro c hc; cases hc; decide
  simp only [number?_eq, hsign, takeWhile_isDigit_append whole.isDigit hfraction,
    dropWhile_isDigit_append whole.isDigit hfraction,
    (isWhole_iff sign whole.isDigit).2 ⟨whole, short⟩,
    fraction?_append fraction hexponent.1 hexponent.2, exponent?_append exponent hr, ↓reduceIte,
    Option.bind_some, Option.map_some]

/-! ## Scalars -/

theorem after?_eq_some_iff {word s r : List Char} : after? word s = some r ↔ s = word ++ r := by
  unfold after?
  simp only [Option.ite_none_right_eq_some, List.isPrefixOf_iff_prefix, Option.some.injEq]
  constructor
  · rintro ⟨⟨t, rfl⟩, rfl⟩
    rw [List.drop_left]
  · rintro rfl
    exact ⟨List.prefix_append word r, List.drop_left⟩

theorem scalar_of_mem_words {limits : Limits} {w : List Char × Value} (h : w ∈ words) :
    Scalar limits w.1 w.2 := by
  simp only [words, List.mem_cons, List.not_mem_nil, or_false] at h
  rcases h with rfl | rfl | rfl | rfl | rfl | rfl
  · exact .null
  · exact .true
  · exact .false
  · exact .nan
  · exact .infinity
  · exact .negativeInfinity

theorem scalar_of_scalar? {limits : Limits} {s r : List Char} {v : Value}
    (h : scalar? limits s = some (v, r)) : ∃ t, Scalar limits t v ∧ s = t ++ r := by
  unfold scalar? at h
  split at h
  · next p hp =>
    cases h
    obtain ⟨w, hw, hafter⟩ := List.exists_of_findSome?_eq_some hp
    simp only [Option.map_eq_some_iff, Prod.mk.injEq] at hafter
    obtain ⟨u, hu, rfl, rfl⟩ := hafter
    exact ⟨w.1, scalar_of_mem_words hw, after?_eq_some_iff.1 hu⟩
  · obtain ⟨t, ht, rfl⟩ := numeral_of_number? h
    exact ⟨t, .numeral ht, rfl⟩

/-- A numeral begins with a digit, or with one after a minus sign. -/
theorem Numeral.exists_digit {limits : Limits} {t : List Char} {v : Value}
    (h : Numeral limits t v) : ∃ d u, d.isDigit = true ∧ (t = d :: u ∨ t = '-' :: d :: u) := by
  obtain ⟨m, ds, f, fs, e, negative, x, sign, whole, -, -, -, rfl, -⟩ := h.exists_parts
  obtain ⟨d, u, rfl, hd⟩ := whole.exists_cons
  refine ⟨d, u ++ (f ++ e), hd, ?_⟩
  cases sign with
  | absent => exact .inl (by simp)
  | present => exact .inr (by simp)

/-- No word begins with a digit, or with one after a minus sign. -/
theorem scalar?_numeral {limits : Limits} {t r : List Char} {v : Value} (h : Numeral limits t v)
    (hr : Stops r) : scalar? limits (t ++ r) = some (v, r) := by
  have hwords : (words.findSome? fun w => (after? w.1 (t ++ r)).map fun r => (w.2, r)) = none := by
    rw [List.findSome?_eq_none_iff]
    intro w hw
    rw [Option.map_eq_none_iff, Option.eq_none_iff_forall_ne_some]
    intro u hu
    have hu := after?_eq_some_iff.1 hu
    simp only [words, List.mem_cons, List.not_mem_nil, or_false] at hw
    obtain ⟨d, s, hd, rfl | rfl⟩ := h.exists_digit
    · rcases hw with rfl | rfl | rfl | rfl | rfl | rfl <;> simp at hu <;>
        exact absurd (hu.1 ▸ hd) (by decide)
    · rcases hw with rfl | rfl | rfl | rfl | rfl | rfl <;> simp at hu
      exact absurd (hu.1 ▸ hd) (by decide)
  unfold scalar?
  rw [hwords]
  exact number?_append h hr

end Discography.Json
