import Discography.Json.Printer
import Discography.Proofs.Queries
import Discography.Proofs.DraftReading

/-!
# Objects of texts and integers

An object whose members are texts and integers is read back from whatever text spells it, and every
layout prints such a text. It stays within any limits that leave room for the integers and their
signs, whatever limits it was written for.

* `Document.relimit` — limits do not matter for such an object.
* `counts_of_mem` — of members with different names, each one counts.
* `quoted_stringChars` — a printed string spells the string, escapes and pairs of halves included.
* `document_chars` — a printed object spells the object.
-/

set_option autoImplicit false

namespace Discography.Json

open Discography.Number Discography.Text

/-- A text, or an integer that so many digits are enough for. -/
inductive Plain (digits : Nat) : Value → Prop
  | text (s : String) : Plain digits (.text s)
  | integer {n : Int} (some : 0 < digits) (fits : n.natAbs < 10 ^ digits) : Plain digits (.integer n)

/-! ## Other limits -/

section Relimit

variable {limits limits' : Limits} {depth : Nat} {s : List Char}

theorem Spells.quoted {x : String} (h : Spells limits depth s (.text x)) : Quoted s x := by
  rcases h.scalar_or_container with h | ⟨inner, h⟩
  · cases h with
    | numeral numeral => cases numeral
    | text quoted => exact quoted
  · cases h

theorem Spells.numeral {n : Int} (h : Spells limits depth s (.integer n)) :
    Numeral limits s (.integer n) := by
  rcases h.scalar_or_container with h | ⟨inner, h⟩
  · cases h with
    | numeral numeral => exact numeral
  · cases h

theorem Spells.members {ms : List (String × Value)} (h : Spells limits depth s (.object ms)) :
    ∃ inner, Enclosed (Member (Spells limits inner)) '\x7b' '\x7d' s ms := by
  rcases h.scalar_or_container with h | ⟨inner, h⟩
  · cases h with
    | numeral numeral => cases numeral
  · cases h with
    | object members => exact ⟨inner, members⟩

theorem pow_le_foldl (ds : List Nat) (a : Nat) :
    a * 10 ^ ds.length ≤ ds.foldl (fun n d => n * 10 + d) a := by
  induction ds generalizing a with
  | nil => simp
  | cons d ds ih =>
    calc a * 10 ^ (ds.length + 1)
      _ = (a * 10) * 10 ^ ds.length := by rw [Nat.pow_succ', Nat.mul_assoc]
      _ ≤ (a * 10 + d) * 10 ^ ds.length := Nat.mul_le_mul_right _ (Nat.le_add_right _ _)
      _ ≤ _ := ih (a * 10 + d)

/-- Without useless zeros, a number below a power of ten has no more digits than that. -/
theorem Whole.length_le {ds : List Char} {k : Nat} (h : Whole ds) (hk : 0 < k)
    (hlt : valueOf ds < 10 ^ k) : ds.length ≤ k := by
  cases h with
  | zero => exact hk
  | positive run first =>
    obtain ⟨d, r, rfl, hd⟩ := run.exists_cons
    have hne : d ≠ '0' := by simpa using first
    have hpositive : 1 ≤ d.toNat - '0'.toNat := by
      have hrange : 48 ≤ d.toNat ∧ d.toNat ≤ 57 := Char.isDigit_iff_toNat.1 hd
      have hzero : d.toNat ≠ 48 := fun h => hne (Char.toNat_inj.1 h)
      have hvalue : '0'.toNat = 48 := by decide
      omega
    have hle : 10 ^ r.length ≤ valueOf (d :: r) := by
      have h := pow_le_foldl (r.map fun c => c.toNat - '0'.toNat) (d.toNat - '0'.toNat)
      rw [List.length_map] at h
      rw [← digitsValue_eq]
      refine Nat.le_trans (Nat.le_mul_of_pos_left _ hpositive) (Nat.le_trans h ?_)
      simp [digitsValue, ofDigits]
    have hlength := (Nat.pow_lt_pow_iff_right (by decide)).1 (Nat.lt_of_le_of_lt hle hlt)
    exact hlength

theorem natAbs_signed (negative : Bool) (n : Nat) : (signed negative n).natAbs = n := by
  cases negative <;> simp [signed]

/-- Where there is room for one digit more, there is room for a sign. -/
theorem fitsDigits_of_lt {m ds : List Char} {negative : Bool} (sign : Minus m negative)
    (h : ds.length < limits.digits) : FitsDigits limits m ds := by
  rw [fitsDigits_iff sign, Limits.admits, decide_eq_true_eq]
  split <;> omega

theorem Spells.relimit {digits : Nat} {v : Value} (hv : Plain digits v)
    (hdigits : digits < limits'.digits) (h : Spells limits depth s v) (depth' : Nat) :
    Spells limits' (depth' + 1) s v := by
  cases hv with
  | text x => exact .inl (.text h.quoted)
  | integer some fits =>
    cases h.numeral with
    | integer sign whole short =>
      rw [natAbs_signed] at fits
      have hlength := Nat.lt_of_le_of_lt (whole.length_le some fits) hdigits
      exact .inl (.numeral (.integer sign whole (fitsDigits_of_lt sign hlength)))

/-- Limits do not matter for an object of texts and integers, as long as there is room for these. -/
theorem Document.relimit {digits : Nat} {ms : List (String × Value)}
    (h : Document limits s (.object ms)) (hms : ∀ m ∈ ms, Plain digits m.2)
    (hdigits : digits < limits'.digits) (hdepth : 0 < limits'.depth) :
    Document limits' s (.object ms) := by
  refine Padded.imp h fun s hs => ?_
  obtain ⟨depth', hdepth'⟩ : ∃ depth', limits'.depth = depth' + 1 :=
    ⟨limits'.depth - 1, by omega⟩
  rw [hdepth']
  obtain ⟨inner, members⟩ := hs.members
  refine .inr (.object (members.imp fun m hm s hmember => ?_))
  exact hmember.imp fun s hs => hs.relimit (hms m hm) hdigits depth'

end Relimit

/-! ## Members -/

/-- Of members with different names, each one counts. -/
theorem counts_of_mem {name : String} {v : Value} {ms : List (String × Value)}
    (hnames : (ms.map Prod.fst).Nodup) (h : (name, v) ∈ ms) : Counts name ms (some v) := by
  obtain ⟨before, after, rfl⟩ := List.append_of_mem h
  refine .last fun m hm => ?_
  rw [List.map_append, List.map_cons] at hnames
  have hafter := (List.nodup_cons.1 (List.nodup_append.1 hnames).2.1).1
  rintro rfl
  exact hafter (List.mem_map.2 ⟨m, hm, rfl⟩)

/-! ## Printed strings -/

theorem hexDigit_hexDigit {n : Nat} (h : n < 16) : HexDigit (hexDigit n) n := by
  have hall : ∀ n < 16, asciiHexValue? (hexDigit n) = some n := by decide
  exact asciiHexValue?_eq_some_iff.1 (hall n h)

/-- The escape of a 16-bit unit holds its four digits. -/
theorem exists_hexUnit {n : Nat} (h : n < 0x10000) :
    ∃ s, unitEscape n = '\\' :: 'u' :: s ∧ HexUnit s n := by
  refine ⟨_, rfl, ?_⟩
  have hunit := HexUnit.intro (hexDigit_hexDigit (n := n / 4096 % 16) (by omega))
    (hexDigit_hexDigit (n := n / 256 % 16) (by omega))
    (hexDigit_hexDigit (n := n / 16 % 16) (by omega)) (hexDigit_hexDigit (n := n % 16) (by omega))
  have hvalue : n / 4096 % 16 * 4096 + n / 256 % 16 * 256 + n / 16 % 16 * 16 + n % 16 = n := by
    omega
  rwa [hvalue] at hunit

/-- One escape of a unit, or two of halves, spell a character. -/
theorem exists_escape_charEscape (c : Char) : ∃ e, charEscape c = '\\' :: e ∧ Escape e c := by
  unfold charEscape
  simp only
  split
  · next hc =>
    obtain ⟨s, hs, hunit⟩ := exists_hexUnit hc
    exact ⟨'u' :: s, hs, .unit hunit⟩
  · next hc =>
    have hvalid : c.toNat < 0x110000 := by
      have h : c.toNat.isValidChar := c.valid
      rcases h with h | h
      · omega
      · exact h.2
    obtain ⟨s, hs, hhigh⟩ := exists_hexUnit (n := 0xD800 + (c.toNat - 0x10000) / 0x400) (by omega)
    obtain ⟨t, ht, hlow⟩ := exists_hexUnit (n := 0xDC00 + (c.toNat - 0x10000) % 0x400) (by omega)
    refine ⟨'u' :: s ++ '\\' :: 'u' :: t, by rw [hs, ht]; rfl, ?_⟩
    exact .pair hhigh hlow (by omega) (by omega) (by omega)

/-- A character is printed as itself or as an escape that stands for it. -/
theorem stringBody_escaped (layout : Layout) {c : Char} {s cs : List Char}
    (h : StringBody s cs) : StringBody (escaped layout c ++ s) (c :: cs) := by
  have hletter {x c : Char} (hx : (x, c) ∈ letterEscapes) :
      StringBody (['\\', x] ++ s) (c :: cs) := .escape (.letter hx) h
  have hunit : StringBody (charEscape c ++ s) (c :: cs) := by
    obtain ⟨e, he, hescape⟩ := exists_escape_charEscape c
    rw [he]
    exact .escape hescape h
  unfold escaped
  split; · next hc => subst hc; exact hletter (by decide)
  split; · next hc => subst hc; exact hletter (by decide)
  split; · next hc => subst hc; exact hletter (by decide)
  split; · next hc => subst hc; exact hletter (by decide)
  split; · next hc => subst hc; exact hletter (by decide)
  split; · next hc => subst hc; exact hletter (by decide)
  split; · next hc => subst hc; exact hletter (by decide)
  split; · exact hunit
  split; · exact hunit
  next hquote hslash _ _ _ _ _ hcontrol _ =>
    exact .plain (Char.not_lt.1 hcontrol) hquote hslash h

theorem stringBody_flatMap (layout : Layout) (cs : List Char) :
    StringBody (cs.flatMap (escaped layout)) cs := by
  induction cs with
  | nil => exact .nil
  | cons c cs ih =>
    rw [List.flatMap_cons]
    exact stringBody_escaped layout ih

theorem quoted_stringChars (layout : Layout) (x : String) : Quoted (stringChars layout x) x :=
  .intro (stringBody_flatMap layout x.toList)

/-! ## Printed integers -/

theorem head?_toDigits_ne (n : Nat) (h : 0 < n) : (Nat.toDigits 10 n).head? ≠ some '0' := by
  induction n using Nat.strongRecOn with
  | ind n ih =>
    rw [Nat.toDigits_eq_if (by decide)]
    split
    · next hn =>
      have hall : ∀ n < 10, 0 < n → [n.digitChar].head? ≠ some '0' := by decide
      exact hall n hn h
    · next hn =>
      rw [List.head?_append_of_ne_nil _ Nat.toDigits_ne_nil]
      exact ih (n / 10) (by omega) (by omega)

theorem whole_decimal (n : Nat) : Whole (decimal n).toList := by
  by_cases hn : n = 0
  · subst hn
    exact .zero
  · refine .positive ⟨?_, fun c hc => isDigit_of_mem_decimal hc⟩ ?_
    · rw [decimal, String.toList_ofList]
      exact Nat.toDigits_ne_nil
    · rw [decimal, String.toList_ofList]
      exact head?_toDigits_ne n (by omega)

theorem numeral_signedDecimal {limits : Limits} {digits : Nat} {n : Int} (hsome : 0 < digits)
    (h : n.natAbs < 10 ^ digits) (hdigits : digits < limits.digits) :
    Numeral limits (signedDecimal n).toList (.integer n) := by
  have hdecimal {negative : Bool} {m : List Char} (k : Nat) (sign : Minus m negative)
      (hk : k < 10 ^ digits) :
      Numeral limits (m ++ (decimal k).toList) (.integer (signed negative k)) := by
    have hvalue : valueOf (decimal k).toList = k := by
      rw [← digitsValue_eq]
      exact ofDigits_decimal k
    have hlength := (whole_decimal k).length_le hsome (by rwa [hvalue])
    have hnumeral := Numeral.integer sign (whole_decimal k)
      (fitsDigits_of_lt sign (Nat.lt_of_le_of_lt hlength hdigits))
    rwa [hvalue] at hnumeral
  cases n with
  | ofNat k => exact hdecimal k .absent h
  | negSucc k =>
    have hnumeral := hdecimal (k + 1) .present h
    rw [signedDecimal, String.toList_append]
    exact hnumeral

/-! ## Printed objects -/

section Printed

variable {limits : Limits} {depth digits : Nat} (layout : Layout)

theorem spells_chars {v : Value} (hv : Plain digits v) (hdigits : digits < limits.digits) :
    Spells limits (depth + 1) (v.chars layout) v := by
  cases hv with
  | text x => exact .inl (.text (quoted_stringChars layout x))
  | integer some fits => exact .inl (.numeral (numeral_signedDecimal some fits hdigits))

theorem member_chars {name : String} {v : Value} (hv : Plain digits v)
    (hdigits : digits < limits.digits) :
    Member (Spells limits (depth + 1)) (stringChars layout name ++ colon layout ++ v.chars layout)
      (name, v) := by
  obtain ⟨g, hg, hcolon⟩ : ∃ g, Gap g ∧ colon layout = ':' :: g := by
    unfold colon
    split
    · exact ⟨[' '], by simp [Gap], rfl⟩
    · exact ⟨[], .nil, rfl⟩
  have hvalue : Spells limits (depth + 1) (v.chars layout) v := spells_chars layout hv hdigits
  have hmember := Member.intro (quoted_stringChars layout name) .nil hg hvalue
  rw [hcolon]
  simpa using hmember

/-- The members behind a first one, with a comma in front of each. -/
theorem separated_moreMemberChars (hdigits : digits < limits.digits) {ms : List (String × Value)}
    (hms : ∀ m ∈ ms, Plain digits m.2) {s : List Char} {m : String × Value}
    (h : Padded (Member (Spells limits (depth + 1))) s m) :
    ∃ t, s ++ moreMemberChars layout ms = t ++ ['\x7d'] ∧
      Separated (Padded (Member (Spells limits (depth + 1)))) t (m :: ms) := by
  induction ms generalizing s m with
  | nil => exact ⟨s, rfl, .last h⟩
  | cons x ms ih =>
    obtain ⟨name, v⟩ := x
    obtain ⟨g, hg, hcomma⟩ : ∃ g, Gap g ∧ comma layout = ',' :: g := by
      unfold comma
      split
      · exact ⟨[' '], by simp [Gap], rfl⟩
      · exact ⟨[], .nil, rfl⟩
    have hmember : Member (Spells limits (depth + 1)) _ (name, v) :=
      member_chars layout (hms _ List.mem_cons_self) hdigits
    obtain ⟨t, ht, hrest⟩ := ih (fun y hy => hms y (List.mem_cons_of_mem _ hy))
      (Padded.intro hg hmember .nil)
    refine ⟨s ++ ',' :: t, ?_, .more h hrest⟩
    rw [List.append_assoc, List.cons_append, ← ht, moreMemberChars, hcomma]
    simp

/-- Every layout prints an object of texts and integers as a text that spells it. -/
theorem document_chars (hdigits : digits < limits.digits) (hdepth : 0 < limits.depth)
    {ms : List (String × Value)} (hms : ∀ m ∈ ms, Plain digits m.2) :
    Document limits ((Value.object ms).chars layout) (.object ms) := by
  obtain ⟨depth, hsucc⟩ : ∃ depth, limits.depth = depth + 1 := ⟨limits.depth - 1, by omega⟩
  have henclosed : Enclosed (Member (Spells limits (depth + 1))) '\x7b' '\x7d'
      ((Value.object ms).chars layout) ms := by
    cases ms with
    | nil => exact .empty .nil
    | cons m ms =>
      obtain ⟨name, v⟩ := m
      have hmember : Member (Spells limits (depth + 1)) _ (name, v) :=
        member_chars layout (hms _ List.mem_cons_self) hdigits
      obtain ⟨t, ht, hseparated⟩ := separated_moreMemberChars layout hdigits
        (fun y hy => hms y (List.mem_cons_of_mem _ hy)) (Padded.intro .nil hmember .nil)
      have hchars : (Value.object ((name, v) :: ms)).chars layout = '\x7b' :: t ++ ['\x7d'] := by
        rw [List.cons_append, ← ht]
        simp [Value.chars, memberChars]
      rw [hchars]
      exact .elements hseparated
  have hdocument : Document limits ([] ++ (Value.object ms).chars layout ++ []) (.object ms) := by
    unfold Document
    rw [hsucc]
    exact .intro .nil (.inr (.object henclosed)) .nil
  simpa using hdocument

end Printed

end Discography.Json
