import Discography.Proofs.HexLiterals
import Discography.Proofs.Outcomes

/-!
# Which texts are read as an id

A text is read as an id exactly if 32 characters of it that make up a literal in base sixteen are
left without its decorations, and the id is the number of that literal. Every other text is
malformed.

* `Bared` — a text and what is left of it without its decorations.
* `Spelled` — the texts that spell an id, and its number; `read?_eq_some_iff`: those are read.
* `forms` — the usual ways to write an id; `read?_of_mem_forms`: all of them are read back, and so
  is the canonical text, `read?_text`.
* `parse_exactly_spelled` — all of this about the segment of a path.
-/

set_option autoImplicit false

namespace Discography.AlbumId

open Discography.Text

/-! ## Texts that spell an id -/

/-- The braces that may stand around an id. -/
def isBrace (c : Char) : Bool := c == '\x7b' || c == '\x7d'

/-- A text and what is left of it without its decorations: every `urn:` is deleted, then every
`uuid:` of what is left, then the braces at both ends, then every hyphen. -/
inductive Bared : List Char → List Char → Prop
  | intro {s t u v : List Char} (urn : Deleted "urn:".toList s t)
      (uuid : Deleted "uuid:".toList t u) (braces : Stripped isBrace u v) :
      Bared s (v.filter (· != '-'))

/-- A text that spells a number as an id: 32 characters are left of it, blanks and the mark counted,
and they are a literal of that number. -/
inductive Spelled (s : List Char) (n : Nat) : Prop
  | intro {body : List Char} (bared : Bared s body) (length : body.length = 32)
      (literal : HexLiteral body n) : Spelled s n

theorem bared_iff {s body : List Char} : Bared s body ↔ body = bare s := by
  have hurn {s t : List Char} : Deleted "urn:".toList s t ↔ t = erase "urn:".toList s :=
    deleted_iff (by decide)
  have huuid {s t : List Char} : Deleted "uuid:".toList s t ↔ t = erase "uuid:".toList s :=
    deleted_iff (by decide)
  constructor
  · intro h
    cases h with
    | intro urn uuid braces =>
      rw [hurn] at urn
      rw [huuid] at uuid
      rw [stripped_iff] at braces
      subst urn uuid braces
      rfl
  · rintro rfl
    exact .intro (hurn.2 rfl) (huuid.2 rfl) (stripped_iff.2 rfl)

/-- No minus sign is left. -/
theorem not_mem_bare (s : List Char) : '-' ∉ bare s := by
  intro h
  have hne := (List.mem_filter.1 h).2
  simp at hne

theorem Spelled.lt {s : List Char} {n : Nat} (h : Spelled s n) : n < 2 ^ 128 := by
  cases h with
  | intro bared length literal =>
    have hlt := literal.lt
    rw [length] at hlt
    norm_num at hlt ⊢
    exact hlt

/-- A text is read as an id exactly if it spells the number of that id. -/
theorem read?_eq_some_iff {raw : String} {id : AlbumId} :
    read? raw = some id ↔ Spelled raw.toList id.value := by
  constructor
  · intro h
    obtain ⟨hlength, hliteral⟩ := read?_eq_some h
    exact .intro (bared_iff.2 rfl) hlength
      ((hexLiteral?_eq_some_iff (not_mem_bare raw.toList)).1 hliteral)
  · intro h
    cases h with
    | intro bared length literal =>
      rw [bared_iff] at bared
      subst bared
      have hread := literal.read
      unfold read?
      simp only [length, hread, if_true]
      exact dif_pos id.value_lt

/-- A decoration that appears when another one is deleted, blanks and a mark that count as
characters, and digits of two scripts. -/
example : (read? "uuurn:id:\x7b 0x_\u0661_0000-0000-0000-0000-0000-0000-0f\x7d").map value =
    some 20282409603651670423947251286031 := by decide +kernel

/-! ## The usual forms -/

/-- The usual ways to write an id: its canonical text, the same in upper case and the same without
hyphens, each of them alone, in braces and behind the prefix of a name. -/
def forms (id : AlbumId) : List String :=
  [id.text, id.text.toUpper, String.ofList (id.text.toList.filter (· != '-'))].flatMap fun s =>
    [s, "\x7b" ++ s ++ "\x7d", "urn:uuid:" ++ s]

theorem bare_eq (s : List Char) : bare s =
    (trim isBrace (erase "uuid:".toList (erase "urn:".toList s))).filter (· != '-') := rfl

/-- No decoration is found in a text without a `u`. -/
theorem erase_decorations {s : List Char} (hu : 'u' ∉ s) :
    erase "urn:".toList s = s ∧ erase "uuid:".toList s = s := by
  have hurn : erase ('u' :: "rn:".toList) s = s := erase_eq_self hu
  have huuid : erase ('u' :: "uid:".toList) s = s := erase_eq_self hu
  exact ⟨hurn, huuid⟩

section Bare

variable {s : List Char} (hs : ∀ c ∈ s, c = '-' ∨ ∃ d, Nibble c d)

include hs

theorem not_mem_of_nibbles : 'u' ∉ s := by
  intro h
  rcases hs _ h with h | ⟨d, hd⟩
  · cases h
  · exact hd.ne (by decide) rfl

theorem isBrace_of_nibbles : ∀ c ∈ s, isBrace c = false := by
  intro c hc
  rcases hs c hc with rfl | ⟨d, hd⟩
  · decide
  · have hopen : c ≠ '\x7b' := hd.ne (by decide)
    have hclose : c ≠ '\x7d' := hd.ne (by decide)
    simp [isBrace, hopen, hclose]

theorem bare_plain : bare s = s.filter (· != '-') := by
  obtain ⟨hurn, huuid⟩ := erase_decorations (not_mem_of_nibbles hs)
  rw [bare_eq, hurn, huuid, trim_eq_self (isBrace_of_nibbles hs)]

theorem bare_braced : bare (['\x7b'] ++ s ++ ['\x7d']) = s.filter (· != '-') := by
  have hu : 'u' ∉ ['\x7b'] ++ s ++ ['\x7d'] := by simp [not_mem_of_nibbles hs]
  obtain ⟨hurn, huuid⟩ := erase_decorations hu
  have hbrace := isBrace_of_nibbles hs
  have hstripped : Stripped isBrace (['\x7b'] ++ s ++ ['\x7d']) s :=
    .intro (by simp [isBrace]) (fun c hc => hbrace c (List.mem_of_head? hc))
      (fun c hc => hbrace c (List.mem_of_getLast? hc)) (by simp [isBrace])
  rw [bare_eq, hurn, huuid, ← stripped_iff.1 hstripped]

theorem bare_prefixed : bare ("urn:uuid:".toList ++ s) = s.filter (· != '-') := by
  have hprefix : erase "urn:".toList ("urn:uuid:".toList ++ s) =
      "uuid:".toList ++ erase "urn:".toList s := rfl
  obtain ⟨hurn, huuid⟩ := erase_decorations (not_mem_of_nibbles hs)
  rw [bare_eq, hprefix, hurn, erase_word (by decide), huuid, trim_eq_self (isBrace_of_nibbles hs)]

end Bare

section Digits

variable {digit : Nat → Char} (hdigit : ∀ d < 16, Nibble (digit d) d)

include hdigit

/-- Digits that are not apart are a literal of the number that they spell. -/
theorem hexLiteral_map {ds : List Nat} (hne : ds ≠ []) (hds : ∀ d ∈ ds, d < 16) :
    HexLiteral (ds.map digit) (ofDigits 16 ds) := by
  have hrun : Underscored Nibble (ds.map digit) ds := by
    induction ds with
    | nil => exact absurd rfl hne
    | cons d ds ih =>
      have hd := hdigit d (hds d List.mem_cons_self)
      cases ds with
      | nil => exact .last hd
      | cons e ds =>
        exact .next hd (ih (List.cons_ne_nil _ _) fun x hx => hds x (List.mem_cons_of_mem d hx))
  have h : HexLiteral ([] ++ ([] ++ ([] ++ ds.map digit)) ++ []) _ :=
    .intro nofun (.inl rfl) .absent hrun nofun
  rw [ofDigits_eq]
  simpa using h

/-- A text is read of which nothing but the digits of an id is left. -/
theorem read?_of_bare {id : AlbumId} {form : String}
    (h : bare form.toList = (nibbles 32 id.value).map digit) : read? form = some id := by
  have hne : nibbles 32 id.value ≠ [] := by
    rw [← List.length_pos_iff, length_nibbles]
    decide
  have hvalue : ofDigits 16 (nibbles 32 id.value) = id.value := by
    rw [ofDigits_nibbles, Nat.mod_eq_of_lt (show id.value < 16 ^ 32 from id.value_lt)]
  have hliteral := hexLiteral_map hdigit hne fun _ => lt_of_mem_nibbles
  rw [hvalue] at hliteral
  refine read?_eq_some_iff.2 (.intro (bared_iff.2 h.symm) ?_ hliteral)
  rw [List.length_map, length_nibbles]

/-- The digits of an id are read with hyphens anywhere between them, alone, in braces and behind the
prefix of a name. -/
theorem read?_of_digits {id : AlbumId} {s : String}
    (h : s.toList.filter (· != '-') = (nibbles 32 id.value).map digit) :
    ∀ form ∈ [s, "\x7b" ++ s ++ "\x7d", "urn:uuid:" ++ s], read? form = some id := by
  have hs : ∀ c ∈ s.toList, c = '-' ∨ ∃ d, Nibble c d := by
    intro c hc
    by_cases hne : c = '-'
    · exact .inl hne
    · have hm : c ∈ (nibbles 32 id.value).map digit := by
        rw [← h]
        exact List.mem_filter.2 ⟨hc, bne_iff_ne.2 hne⟩
      obtain ⟨d, hd, rfl⟩ := List.mem_map.1 hm
      exact .inr ⟨d, hdigit d (lt_of_mem_nibbles hd)⟩
  intro form hform
  simp only [List.mem_cons, List.not_mem_nil, or_false] at hform
  rcases hform with rfl | rfl | rfl
  · exact read?_of_bare hdigit ((bare_plain hs).trans h)
  · refine read?_of_bare hdigit ?_
    rw [String.toList_append, String.toList_append]
    exact (bare_braced hs).trans h
  · refine read?_of_bare hdigit ?_
    rw [String.toList_append]
    exact (bare_prefixed hs).trans h

end Digits

theorem nibble_hexDigit : ∀ d < 16, Nibble (hexDigit d) d := by
  have h : ∀ d < 16, asciiHexValue? (foldDigit (hexDigit d)) = some d := by decide
  exact fun d hd => asciiHexValue?_foldDigit.1 (h d hd)

theorem nibble_upperHexDigit : ∀ d < 16, Nibble (upperHexDigit d) d := by
  have h : ∀ d < 16, asciiHexValue? (foldDigit (upperHexDigit d)) = some d := by decide
  exact fun d hd => asciiHexValue?_foldDigit.1 (h d hd)

theorem toUpper_hexDigit : ∀ d < 16, (hexDigit d).toUpper = upperHexDigit d := by decide

section Forms

variable (id : AlbumId)

theorem filter_text_eq : id.text.toList.filter (· != '-') = (nibbles 32 id.value).map hexDigit :=
  (filter_text id).trans (digits_eq id)

/-- The digits of the text in upper case are those of the text, in upper case. -/
theorem filter_toUpper_text :
    id.text.toUpper.toList.filter (· != '-') = (nibbles 32 id.value).map upperHexDigit := by
  have hsame : ∀ c ∈ id.text.toList, ((· != '-') ∘ Char.toUpper) c = (c != '-') := by
    intro c hc
    by_cases hne : c = '-'
    · rw [hne]
      decide
    · have hm : c ∈ (nibbles 32 id.value).map hexDigit := by
        rw [← filter_text_eq]
        exact List.mem_filter.2 ⟨hc, bne_iff_ne.2 hne⟩
      obtain ⟨d, hd, rfl⟩ := List.mem_map.1 hm
      have h : ∀ d < 16, ((hexDigit d).toUpper != '-') = (hexDigit d != '-') := by decide
      exact h d (lt_of_mem_nibbles hd)
  rw [String.toUpper, String.toList_map, List.filter_map, List.filter_congr hsame, filter_text_eq,
    List.map_map]
  exact List.map_congr_left fun d hd => toUpper_hexDigit d (lt_of_mem_nibbles hd)

/-- Every usual form of an id is read back as that id. -/
theorem read?_of_mem_forms {form : String} (h : form ∈ forms id) : read? form = some id := by
  obtain ⟨s, hs, hform⟩ := List.mem_flatMap.1 h
  simp only [List.mem_cons, List.not_mem_nil, or_false] at hs
  rcases hs with rfl | rfl | rfl
  · exact read?_of_digits nibble_hexDigit (filter_text_eq id) form hform
  · exact read?_of_digits nibble_upperHexDigit (filter_toUpper_text id) form hform
  · refine read?_of_digits nibble_hexDigit ?_ form hform
    rw [String.toList_ofList, List.filter_filter]
    simpa using filter_text_eq id

/-- **The canonical text of an id spells that id.** -/
theorem read?_text : read? id.text = some id := read?_of_mem_forms id List.mem_cons_self

end Forms

/-! ## Segments of paths -/

/-- **A segment is read as an id exactly if it spells one**, and the id is the number that is
spelled, which has 128 bits. Any other segment is malformed, as is one that is missing, and there is
no other failure. All the usual forms of an id are read back as that id. -/
theorem parse_exactly_spelled :
    (∀ raw id, parse (some raw) = .ok id ↔ Spelled raw.toList id.value) ∧
      (∀ raw : String, ∀ n, Spelled raw.toList n → n < 2 ^ 128) ∧
      (∀ raw f, parse (some raw) = .error f ↔
        f = .malformed "malformed album id" ∧ ¬ ∃ n, Spelled raw.toList n) ∧
      (parse none = .error (.malformed "malformed album id")) ∧
      ∀ id, ∀ form ∈ forms id, parse (some form) = .ok id := by
  have hok (raw : String) (id : AlbumId) :
      parse (some raw) = .ok id ↔ Spelled raw.toList id.value :=
    Api.parse_id_ok.trans read?_eq_some_iff
  refine ⟨hok, fun raw n h => h.lt, fun raw f => ?_, rfl, fun id form hform => ?_⟩
  · constructor
    · intro h
      refine ⟨Api.parse_id_error h, fun ⟨n, hn⟩ => ?_⟩
      have hid := (hok raw ⟨n, hn.lt⟩).2 hn
      rw [h] at hid
      cases hid
    · rintro ⟨rfl, hnone⟩
      cases h : parse (some raw) with
      | ok id => exact absurd ⟨_, (hok raw id).1 h⟩ hnone
      | error f => rw [Api.parse_id_error h]
  · exact Api.parse_id_ok.2 (read?_of_mem_forms id hform)

end Discography.AlbumId
