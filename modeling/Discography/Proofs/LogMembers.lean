import Discography.Log.Record
import Discography.Proofs.FlatObject
import Discography.Proofs.StampTexts

/-!
# What a line of a log shows

A line of a log is an object of texts: five that are always there, and those of seven further fields
that are not missing. No text in it, however it was made up, ends the line, adds a member or hides
one: the line is read back as the object of its members in their order, and these tell all that is
shown, since the timestamp, the path and the number of the line can be told from their texts.

* `space_le_of_mem_chars` — no control character stands in a printed object of texts.
* `textMembers_inj` — of fields with known names, the members tell which are missing.
* `placeText_inj` — a place tells the path and the line.
* `Surface` — what a line shows; `Surface.members_injective` — the members tell it.
* `Surface.read?_text`, `Surface.text_injective` — so does the line, within any limits.
-/

set_option autoImplicit false

namespace Discography.Log

open Discography.Calendar Discography.Json Discography.Text

/-! ## Control characters -/

section Characters

variable {layout : Layout} {c : Char}

theorem space_le_of_mem_stringChars {t : String} (h : c ∈ stringChars layout t) : ' ' ≤ c := by
  simp only [stringChars, List.cons_append, List.mem_cons, List.mem_append, List.mem_flatMap,
    List.not_mem_nil, or_false] at h
  rcases h with rfl | ⟨d, -, hd⟩ | rfl
  · decide
  · exact space_le_of_mem_escaped hd
  · decide

theorem space_le_of_mem_comma (h : c ∈ comma layout) : ' ' ≤ c := by
  have hmark : c = ',' ∨ c = ' ' := by
    unfold comma at h
    split at h
    · simpa using h
    · exact .inl (List.mem_singleton.1 h)
  rcases hmark with rfl | rfl
  · decide
  · decide

theorem space_le_of_mem_colon (h : c ∈ colon layout) : ' ' ≤ c := by
  have hmark : c = ':' ∨ c = ' ' := by
    unfold colon at h
    split at h
    · simpa using h
    · exact .inl (List.mem_singleton.1 h)
  rcases hmark with rfl | rfl
  · decide
  · decide

theorem space_le_of_mem_member {m : String × Value} (hm : ∃ t, m.2 = .text t)
    (h : c ∈ stringChars layout m.1 ++ colon layout ++ m.2.chars layout) : ' ' ≤ c := by
  obtain ⟨t, ht⟩ := hm
  rw [ht] at h
  rcases List.mem_append.1 h with h | h
  · rcases List.mem_append.1 h with h | h
    · exact space_le_of_mem_stringChars h
    · exact space_le_of_mem_colon h
  · exact space_le_of_mem_stringChars h

theorem space_le_of_mem_moreMemberChars {ms : List (String × Value)}
    (hms : ∀ m ∈ ms, ∃ t, m.2 = .text t) (h : c ∈ moreMemberChars layout ms) : ' ' ≤ c := by
  induction ms with
  | nil =>
    rw [List.mem_singleton.1 h]
    decide
  | cons m ms ih =>
    have hparts : moreMemberChars layout (m :: ms) = comma layout ++
        (stringChars layout m.1 ++ colon layout ++ m.2.chars layout) ++
          moreMemberChars layout ms := by
      simp [moreMemberChars]
    rw [hparts] at h
    rcases List.mem_append.1 h with h | h
    · rcases List.mem_append.1 h with h | h
      · exact space_le_of_mem_comma h
      · exact space_le_of_mem_member (hms m List.mem_cons_self) h
    · exact ih (fun x hx => hms x (List.mem_cons_of_mem m hx)) h

/-- **No control character stands in a printed object of texts.** -/
theorem space_le_of_mem_chars {ms : List (String × Value)} (hms : ∀ m ∈ ms, ∃ t, m.2 = .text t)
    (h : c ∈ (Value.object ms).chars layout) : ' ' ≤ c := by
  rcases List.mem_cons.1 h with rfl | h
  · decide
  cases ms with
  | nil =>
    rw [List.mem_singleton.1 h]
    decide
  | cons m ms =>
    rcases List.mem_append.1 h with h | h
    · exact space_le_of_mem_member (hms m List.mem_cons_self) h
    · exact space_le_of_mem_moreMemberChars (fun x hx => hms x (List.mem_cons_of_mem m hx)) h

end Characters

/-! ## Fields that may be missing -/

/-- The members of fields that are not missing. -/
def textMembers (fs : List (String × Option String)) : List (String × Value) :=
  fs.filterMap fun f => f.2.map fun t => (f.1, .text t)

theorem mem_textMembers {fs : List (String × Option String)} {m : String × Value} :
    m ∈ textMembers fs ↔ ∃ name t, (name, some t) ∈ fs ∧ m = (name, .text t) := by
  simp only [textMembers, List.mem_filterMap, Option.map_eq_some_iff]
  constructor
  · rintro ⟨⟨name, field⟩, hf, t, ht, rfl⟩
    obtain rfl : field = some t := ht
    exact ⟨name, t, hf, rfl⟩
  · rintro ⟨name, t, hf, rfl⟩
    exact ⟨(name, some t), hf, t, rfl, rfl⟩

theorem names_textMembers_sublist (fs : List (String × Option String)) :
    ((textMembers fs).map Prod.fst).Sublist (fs.map Prod.fst) := by
  induction fs with
  | nil => exact .slnil
  | cons f fs ih =>
    obtain ⟨name, field⟩ := f
    cases field with
    | none => exact .cons name ih
    | some t => exact .cons_cons name ih

/-- A member of a name that no field has is not there. -/
theorem textMembers_ne_cons {fs : List (String × Option String)} {name : String}
    (h : name ∉ fs.map Prod.fst) (v : Value) (ms : List (String × Value)) :
    textMembers fs ≠ (name, v) :: ms := by
  intro heq
  have hmem : name ∈ (textMembers fs).map Prod.fst := by
    rw [heq]
    exact List.mem_cons_self
  exact h ((names_textMembers_sublist fs).mem hmem)

/-- Of fields with the same different names, the members tell which are missing and what the others
are. -/
theorem textMembers_inj {fs gs : List (String × Option String)}
    (hnames : fs.map Prod.fst = gs.map Prod.fst) (hnodup : (fs.map Prod.fst).Nodup)
    (h : textMembers fs = textMembers gs) : fs = gs := by
  induction fs generalizing gs with
  | nil => exact (List.map_eq_nil_iff.1 hnames.symm).symm
  | cons f fs ih =>
    obtain ⟨name, field⟩ := f
    cases gs with
    | nil => cases hnames
    | cons g gs =>
      obtain ⟨name', field'⟩ := g
      obtain ⟨rfl, hrest⟩ : name = name' ∧ fs.map Prod.fst = gs.map Prod.fst :=
        List.cons.inj hnames
      obtain ⟨hfresh, hnodup'⟩ := List.nodup_cons.1 hnodup
      -- Where only one side has the field, its member would be one of the others'.
      cases field with
      | none =>
        cases field' with
        | none => rw [ih hrest hnodup' h]
        | some t => exact absurd h (textMembers_ne_cons hfresh _ _)
      | some t =>
        cases field' with
        | none =>
          rw [hrest] at hfresh
          exact absurd h.symm (textMembers_ne_cons hfresh _ _)
        | some t' =>
          obtain ⟨hmember, hmembers⟩ := List.cons.inj h
          obtain rfl : t = t' := Value.text.inj (Prod.mk.inj hmember).2
          rw [ih hrest hnodup' hmembers]

/-! ## Places -/

theorem signedDecimal_injective : Function.Injective signedDecimal := by
  have hminus (k : Nat) (s : String) : decimal k ≠ "-" ++ s := by
    intro h
    have hmem : '-' ∈ (decimal k).toList := by simp [h]
    exact absurd (isDigit_of_mem_decimal hmem) (by decide)
  have hdecimal {k l : Nat} (h : decimal k = decimal l) : k = l := by
    rw [← ofDigits_decimal k, h, ofDigits_decimal l]
  intro m n h
  cases m with
  | ofNat k =>
    cases n with
    | ofNat l => exact congrArg Int.ofNat (hdecimal h)
    | negSucc l => exact absurd h (hminus _ _)
  | negSucc k =>
    cases n with
    | ofNat l => exact absurd h.symm (hminus _ _)
    | negSucc l =>
      have hsucc : k + 1 = l + 1 := hdecimal (String.append_right_inj "-" |>.1 h)
      exact congrArg Int.negSucc (Nat.succ.inj hsucc)

theorem colon_not_mem_signedDecimal (n : Int) : ':' ∉ (signedDecimal n).toList := by
  have hdecimal (k : Nat) : ':' ∉ (decimal k).toList := by
    intro h
    exact absurd (isDigit_of_mem_decimal h) (by decide)
  cases n with
  | ofNat k => exact hdecimal k
  | negSucc k => simpa [signedDecimal] using hdecimal (k + 1)

/-- Where a mark stands for the last time tells what is before and what is behind it. -/
theorem append_last_inj {mark : Char} {a b c d : List Char} (h : a ++ mark :: b = c ++ mark :: d)
    (hb : mark ∉ b) (hd : mark ∉ d) : a = c ∧ b = d := by
  rcases List.append_eq_append_iff.1 h with ⟨t, rfl, ht⟩ | ⟨t, rfl, ht⟩
  · cases t with
    | nil => exact ⟨by simp, (List.cons.inj ht).2⟩
    | cons x t =>
      refine absurd ?_ hb
      rw [(List.cons.inj ht).2]
      simp
  · cases t with
    | nil => exact ⟨by simp, (List.cons.inj ht).2.symm⟩
    | cons x t =>
      refine absurd ?_ hd
      rw [(List.cons.inj ht).2]
      simp

/-- So does the place where it stands for the first time. -/
theorem append_first_inj {mark : Char} {a b c d : List Char} (h : a ++ mark :: b = c ++ mark :: d)
    (ha : mark ∉ a) (hc : mark ∉ c) : a = c ∧ b = d := by
  have hreverse : b.reverse ++ mark :: a.reverse = d.reverse ++ mark :: c.reverse := by
    simpa using congrArg List.reverse h
  obtain ⟨hbehind, hbefore⟩ := append_last_inj hreverse (by simpa using ha) (by simpa using hc)
  exact ⟨List.reverse_injective hbefore, List.reverse_injective hbehind⟩

/-- Where a record was made, as it is shown. -/
def placeText (path : String) (line : Int) : String := path ++ ":" ++ signedDecimal line

/-- A place tells the path and the line, whatever colons the path has. -/
theorem placeText_inj {path path' : String} {line line' : Int}
    (h : placeText path line = placeText path' line') : path = path' ∧ line = line' := by
  have hchars : path.toList ++ ':' :: (signedDecimal line).toList =
      path'.toList ++ ':' :: (signedDecimal line').toList := by
    simpa [placeText] using congrArg String.toList h
  obtain ⟨hpath, hline⟩ := append_last_inj hchars (colon_not_mem_signedDecimal _)
    (colon_not_mem_signedDecimal _)
  exact ⟨String.toList_inj.1 hpath, signedDecimal_injective (String.toList_inj.1 hline)⟩

/-! ## What a line shows -/

/-- What a line shows of a record. -/
structure Surface where
  timestamp : Stamp
  level : String
  logger : String
  path : String
  line : Int
  message : String
  extras : Extras
  exception : Option String
  deriving DecidableEq

namespace Surface

/-- The fields that may be missing: six in their order and the report on a failure. -/
def fields (x : Surface) : List (String × Option String) :=
  x.extras.fields ++ [("exception", x.exception)]

/-- The members of a line: five that are always there, and the fields that are not missing. -/
def members (x : Surface) : List (String × Value) :=
  [("timestamp", .text x.timestamp.fullText), ("level", .text x.level), ("logger", .text x.logger),
   ("source", .text (placeText x.path x.line)), ("message", .text x.message)] ++
    textMembers x.fields

theorem fields_names (x : Surface) : x.fields.map Prod.fst = extraNames ++ ["exception"] := rfl

variable {x y : Surface}

theorem exists_text_of_mem_members {m : String × Value} (h : m ∈ x.members) :
    ∃ t, m.2 = .text t := by
  rcases List.mem_append.1 h with h | h
  · simp only [List.mem_cons, List.not_mem_nil, or_false] at h
    rcases h with rfl | rfl | rfl | rfl | rfl <;> exact ⟨_, rfl⟩
  · obtain ⟨name, t, -, rfl⟩ := mem_textMembers.1 h
    exact ⟨t, rfl⟩

/-- The names of members are different from each other. -/
theorem nodup_names (x : Surface) : (x.members.map Prod.fst).Nodup := by
  have hall : (["timestamp", "level", "logger", "source", "message"] ++
      (extraNames ++ ["exception"])).Nodup := by decide
  rw [members, List.map_append]
  exact hall.sublist ((List.Sublist.refl _).append (names_textMembers_sublist x.fields))

theorem fields_inj (h : x.fields = y.fields) : x.extras = y.extras ∧ x.exception = y.exception := by
  obtain ⟨hextras, hexception⟩ := List.append_inj h rfl
  refine ⟨?_, by simpa using hexception⟩
  generalize x.extras = a at hextras ⊢
  generalize y.extras = b at hextras ⊢
  cases a
  cases b
  simpa [Extras.fields] using hextras

/-- **The members tell all that is shown.** -/
theorem members_injective : Function.Injective members := by
  intro x y h
  unfold members at h
  obtain ⟨hfirst, hrest⟩ := List.append_inj h (by simp only [List.length_cons, List.length_nil])
  have hnodup : (x.fields.map Prod.fst).Nodup := by
    rw [fields_names]
    decide
  have hnames : x.fields.map Prod.fst = y.fields.map Prod.fst :=
    x.fields_names.trans y.fields_names.symm
  obtain ⟨hextras, hexception⟩ := fields_inj (textMembers_inj hnames hnodup hrest)
  simp only [List.cons.injEq, Prod.mk.injEq, Value.text.injEq, true_and, and_true] at hfirst
  obtain ⟨htimestamp, hlevel, hlogger, hplace, hmessage⟩ := hfirst
  obtain ⟨hpath, hline⟩ := placeText_inj hplace
  have hstamp : x.timestamp = y.timestamp := by
    have hread := x.timestamp.read?_fullText
    rw [htimestamp, y.timestamp.read?_fullText] at hread
    exact (Option.some.inj hread).symm
  cases x
  cases y
  simp_all

/-- The line that shows it. -/
def text (x : Surface) : String := (Value.object x.members).render .spacious

/-- No control character stands in a line, so that it is one line. -/
theorem space_le_of_mem_text {c : Char} (h : c ∈ x.text.toList) : ' ' ≤ c := by
  unfold text Value.render at h
  rw [String.toList_ofList] at h
  exact space_le_of_mem_chars (fun m => exists_text_of_mem_members) h

/-- **A line is read back as its members**, within any limits. -/
theorem read?_text (x : Surface) {limits : Limits} (hdepth : 0 < limits.depth)
    (hdigits : 0 < limits.digits) : read? limits x.text = some (.object x.members) := by
  have hplain : ∀ m ∈ x.members, Plain 0 m.2 := by
    intro m hm
    obtain ⟨t, ht⟩ := exists_text_of_mem_members hm
    rw [ht]
    exact .text t
  exact read?_eq_some_iff.2 (document_chars .spacious hdigits hdepth hplain)

/-- **A line tells all that it shows.** -/
theorem text_injective : Function.Injective text := by
  intro x y h
  have hread : read? ⟨1, 1, false⟩ x.text = some (.object x.members) :=
    x.read?_text (Nat.succ_pos 0) (Nat.succ_pos 0)
  rw [h, y.read?_text (Nat.succ_pos 0) (Nat.succ_pos 0)] at hread
  exact members_injective (Value.object.inj (Option.some.inj hread)).symm

end Surface

end Discography.Log
