import Mathlib.Algebra.Group.Int.Defs
import Discography.Album.Body
import Discography.Http.Message
import Discography.Proofs.Reading

/-!
# Which bodies are read as a draft

A body is read as a draft exactly when its bytes are the UTF-8 encoding of a JSON text of an object
whose members for a title, an artist and a price are acceptable. Nothing else is asked of it, and
any other body is malformed.

* `Counts` — which member of a name counts: the last one.
* `Draft.IsText`, `Draft.IsPrice` — what is acceptable for a text and for a price.
* `Draft.Spelled` — the bytes that spell a draft.
* `Draft.parse_joined` — those and no others are read, in however many chunks they arrive.
* `Draft.spelled_nested_iff` — how deep containers that hold something may be nested.
-/

set_option autoImplicit false

namespace Discography

open Discography.Json

namespace Json

/-- The value that counts for a name: the one of the last member of that name, if there is one. -/
inductive Counts (name : String) : List (String × Value) → Option Value → Prop
  | missing {ms : List (String × Value)} (absent : ∀ m ∈ ms, m.1 ≠ name) : Counts name ms none
  | last {before after : List (String × Value)} {v : Value} (absent : ∀ m ∈ after, m.1 ≠ name) :
      Counts name (before ++ (name, v) :: after) (some v)

theorem last?_of_absent {name : String} {ms : List (String × Value)}
    (h : ∀ m ∈ ms, m.1 ≠ name) : last? name ms = none := by
  unfold last?
  rw [Option.map_eq_none_iff, List.find?_eq_none]
  intro m hm
  simpa using h m (List.mem_reverse.1 hm)

theorem counts_last? (name : String) (ms : List (String × Value)) :
    Counts name ms (last? name ms) := by
  cases hfind : ms.reverse.find? (fun m => m.1 == name) with
  | none =>
    have habsent : ∀ m ∈ ms, m.1 ≠ name := by simpa using List.find?_eq_none.1 hfind
    rw [last?_of_absent habsent]
    exact .missing habsent
  | some m =>
    obtain ⟨hm, after, before, hms, hafter⟩ := List.find?_eq_some_iff_append.1 hfind
    have hlast : last? name ms = some m.2 := by
      unfold last?
      rw [hfind]
      rfl
    have hname : m = (name, m.2) := by rw [← beq_iff_eq.1 hm]
    have hsplit : ms = before.reverse ++ (name, m.2) :: after.reverse := by
      rw [← hname, ← List.reverse_reverse ms, hms]
      simp
    rw [hlast, hsplit]
    exact .last (by simpa using hafter)

/-- The member that the reader looks up is the one that counts. -/
theorem last?_eq_iff {name : String} {ms : List (String × Value)} {x : Option Value} :
    last? name ms = x ↔ Counts name ms x := by
  constructor
  · rintro rfl
    exact counts_last? name ms
  · intro h
    cases h with
    | missing absent => exact last?_of_absent absent
    | @last before after v absent =>
      have hlast : last? name [(name, v)] = some v := by simp [last?]
      rw [← List.singleton_append, last?_append, last?_append, last?_of_absent absent, hlast]
      rfl

end Json

namespace Http

/-- The bytes of a body are those of its chunks, one after the other. -/
theorem toList_joined (chunks : List ByteArray) :
    (joined chunks).data.toList = chunks.flatMap fun c => c.data.toList := by
  have hfold (a : ByteArray) : (chunks.foldl (· ++ ·) a).data.toList =
      a.data.toList ++ chunks.flatMap fun c => c.data.toList := by
    induction chunks generalizing a with
    | nil => simp
    | cons c cs ih => simp [ih, ByteArray.data_append]
  simpa [joined] using hfold ByteArray.empty

end Http

namespace Draft

/-- A text for a member that counts, if there is one: a missing member or null stands for the empty
text. -/
inductive IsText : Option Value → String → Prop
  | missing : IsText none ""
  | null : IsText (some .null) ""
  | text (s : String) : IsText (some (.text s)) s

/-- A price for a member that counts, if there is one: a missing member or null stands for zero, and
an integer has 64 bits. -/
inductive IsPrice : Option Value → Int → Prop
  | missing : IsPrice none 0
  | null : IsPrice (some .null) 0
  | integer {n : Int} (range : -2 ^ 63 ≤ n ∧ n ≤ 2 ^ 63 - 1) : IsPrice (some (.integer n)) n

theorem textOf?_eq_some_iff {x : Option Value} {s : String} : textOf? x = some s ↔ IsText x s := by
  constructor
  · intro h
    unfold textOf? at h
    split at h
    · cases h; exact .missing
    · cases h; exact .null
    · cases h; exact .text s
    · cases h
  · intro h
    cases h with
    | missing => rfl
    | null => rfl
    | text s => rfl

theorem priceOf?_eq_some_iff {x : Option Value} {n : Int} : priceOf? x = some n ↔ IsPrice x n := by
  have hrange (n : Int) : fitsInt64 n = true ↔ -2 ^ 63 ≤ n ∧ n ≤ 2 ^ 63 - 1 := decide_eq_true_iff
  constructor
  · intro h
    unfold priceOf? at h
    split at h
    · cases h; exact .missing
    · cases h; exact .null
    · next m =>
      split at h
      · next hm => cases h; exact .integer ((hrange n).1 hm)
      · cases h
    · cases h
  · intro h
    cases h with
    | missing => rfl
    | null => rfl
    | integer range => exact if_pos ((hrange n).2 range)

/-- What the members of an object have to be like to make up a draft. -/
structure MakeUp (ms : List (String × Value)) (d : Draft) : Prop where
  title : ∃ x, Counts "title" ms x ∧ IsText x d.title
  artist : ∃ x, Counts "artist" ms x ∧ IsText x d.artist
  price : ∃ x, Counts "price" ms x ∧ IsPrice x d.price

theorem ofMembers?_eq_some_iff {ms : List (String × Value)} {d : Draft} :
    ofMembers? ms = some d ↔ MakeUp ms d := by
  unfold ofMembers?
  simp only [Option.bind_eq_bind, Option.bind_eq_some_iff, textOf?_eq_some_iff,
    priceOf?_eq_some_iff, Option.some.injEq]
  constructor
  · rintro ⟨title, htitle, artist, hartist, price, hprice, rfl⟩
    exact ⟨⟨_, last?_eq_iff.1 rfl, htitle⟩, ⟨_, last?_eq_iff.1 rfl, hartist⟩,
      ⟨_, last?_eq_iff.1 rfl, hprice⟩⟩
  · rintro ⟨⟨x, hx, htitle⟩, ⟨y, hy, hartist⟩, ⟨z, hz, hprice⟩⟩
    rw [last?_eq_iff.2 hx, last?_eq_iff.2 hy, last?_eq_iff.2 hz]
    exact ⟨_, htitle, _, hartist, _, hprice, rfl⟩

/-- Bytes that spell a draft: the UTF-8 encoding of the text of an object within limits. -/
inductive Spelled (limits : Limits) : ByteArray → Draft → Prop
  | intro {text : List Char} {ms : List (String × Value)} {d : Draft}
      (document : Document limits text (.object ms)) (members : MakeUp ms d) :
      Spelled limits text.utf8Encode d

theorem fromUTF8?_eq_some_iff {b : ByteArray} {s : String} :
    String.fromUTF8? b = some s ↔ b = s.toList.utf8Encode := by
  have hbytes : s.toList.utf8Encode = s.toByteArray := by
    rw [← String.toByteArray_ofList, String.ofList_toList]
  unfold String.fromUTF8?
  rw [hbytes]
  constructor
  · intro h
    split at h
    · cases h
      rfl
    · cases h
  · rintro rfl
    rw [dif_pos s.isValidUTF8]
    rfl

theorem utf8Encode_inj {s t : List Char} (h : s.utf8Encode = t.utf8Encode) : s = t := by
  have hs : String.fromUTF8? s.utf8Encode = some (String.ofList s) :=
    fromUTF8?_eq_some_iff.2 (by rw [String.toList_ofList])
  have ht : String.fromUTF8? t.utf8Encode = some (String.ofList t) :=
    fromUTF8?_eq_some_iff.2 (by rw [String.toList_ofList])
  rw [h, ht] at hs
  exact String.ofList_injective (Option.some.inj hs.symm)

section Within

variable {limits : Limits} {b : ByteArray} {d : Draft} {f : Failure}

theorem readWithin?_eq_some_iff : readWithin? limits b = some d ↔ Spelled limits b d := by
  unfold readWithin?
  simp only [Option.bind_eq_some_iff, fromUTF8?_eq_some_iff]
  constructor
  · rintro ⟨v, ⟨s, rfl, hv⟩, hd⟩
    rw [← String.ofList_toList (s := s)] at hv
    have hdocument := Json.read?_eq_some_iff.1 hv
    unfold ofValue? at hd
    obtain ⟨ms, hms, hd⟩ := Option.bind_eq_some_iff.1 hd
    cases v with
    | object ms' =>
      cases hms
      exact .intro hdocument (ofMembers?_eq_some_iff.1 hd)
    | _ => cases hms
  · intro h
    cases h with
    | @intro text ms _ document members =>
      refine ⟨.object ms, ⟨String.ofList text, ?_, Json.read?_eq_some_iff.2 document⟩, ?_⟩
      · rw [String.toList_ofList]
      · exact ofMembers?_eq_some_iff.2 members

theorem parseWithin_eq_ok_iff : parseWithin limits b = .ok d ↔ Spelled limits b d := by
  rw [← readWithin?_eq_some_iff]
  unfold parseWithin
  cases readWithin? limits b with
  | none => simp
  | some d' => simp

theorem parseWithin_eq_error_iff : parseWithin limits b = .error f ↔
    f = .malformed "malformed request body" ∧ ¬ ∃ d, Spelled limits b d := by
  simp only [← readWithin?_eq_some_iff]
  unfold parseWithin
  cases readWithin? limits b with
  | none => simp [eq_comm]
  | some d => simp

theorem spelled_utf8Encode_iff {text : List Char} : Spelled limits text.utf8Encode d ↔
    ∃ ms, Document limits text (.object ms) ∧ MakeUp ms d := by
  constructor
  · intro h
    generalize hbytes : text.utf8Encode = bytes at h
    cases h with
    | @intro text' ms _ document members =>
      rw [utf8Encode_inj hbytes]
      exact ⟨ms, document, members⟩
  · rintro ⟨ms, document, members⟩
    exact .intro document members

end Within

/-- **A body is read as a draft exactly when its bytes spell that draft, and it is malformed if they
spell none.** Containers that hold something may be nested 200 deep, so that an empty one may be the
201st, and an integer part has at most 4300 digits. The chunks in which the bytes arrive make no
difference, a byte order mark makes them malformed, and there is no other failure. The service admits
releases of the reader that count a minus sign as one of the digits and others that do not: all this
holds for both, and `parse` reads as the latter do. -/
theorem parse_joined {chunks : List ByteArray} {b : ByteArray}
    (h : b.data.toList = chunks.flatMap fun c => c.data.toList) :
    parse (Http.joined chunks) = parseWithin ⟨200, 4300, false⟩ (Http.joined chunks) ∧
      ∀ countsMinus,
        (∀ d, parseWithin ⟨200, 4300, countsMinus⟩ (Http.joined chunks) = .ok d ↔
          Spelled ⟨200, 4300, countsMinus⟩ b d) ∧
        (∀ f, parseWithin ⟨200, 4300, countsMinus⟩ (Http.joined chunks) = .error f ↔
          f = .malformed "malformed request body" ∧ ¬ ∃ d, Spelled ⟨200, 4300, countsMinus⟩ b d) ∧
        ∀ text d, b = ('\ufeff' :: text).utf8Encode → ¬ Spelled ⟨200, 4300, countsMinus⟩ b d := by
  have hb : Http.joined chunks = b := by
    rw [ByteArray.ext_iff, ← Array.toList_inj, Http.toList_joined, h]
  rw [hb]
  refine ⟨rfl, fun countsMinus => ⟨fun d => parseWithin_eq_ok_iff, fun f => parseWithin_eq_error_iff,
    ?_⟩⟩
  rintro text d rfl hd
  obtain ⟨ms, document, -⟩ := spelled_utf8Encode_iff.1 hd
  exact absurd (document.head?_ascii _ rfl) (by decide)

/-- A body in two chunks that part within a character, which is spelled in two more ways before. -/
def halves : List ByteArray :=
  ["\x7b\"title\": \"\\u00E9\\u00e9".toUTF8.push 0xC3,
    ⟨#[0xA9]⟩ ++ "\", \"artist\":\"b\", \"price\": 7\x7d".toUTF8]

theorem spelled_halves :
    (Http.joined halves).data.toList = halves.flatMap (fun c => c.data.toList) ∧
      Spelled ⟨200, 4300, false⟩ (Http.joined halves) ⟨"\u00e9\u00e9\u00e9", "b", 7⟩ := by
  have h : (Http.joined halves).data.toList = halves.flatMap (fun c => c.data.toList) := by
    decide +kernel
  have hread : readWithin? ⟨200, 4300, false⟩ (Http.joined halves) =
      some ⟨"\u00e9\u00e9\u00e9", "b", 7⟩ := by
    decide +kernel
  obtain ⟨-, hjoined⟩ := parse_joined h
  exact ⟨h, ((hjoined false).1 _).1 (by rw [parseWithin, hread])⟩

/-! ## The edge of the nesting -/

/-- So many arrays, each in the one before, and a zero in the last one. -/
def nest : Nat → Value
  | 0 => .integer 0
  | n + 1 => .array [nest n]

/-- The text of nested arrays. -/
def nestText : Nat → List Char
  | 0 => ['0']
  | n + 1 => '[' :: nestText n ++ [']']

/-- The text of an object with nested arrays in it. -/
def nestedText (n : Nat) : List Char := "\x7b\"x\":".toList ++ nestText n ++ ['\x7d']

section Nesting

variable {limits : Limits} {levels : Nat}

theorem spells_nestText (hdigits : 0 < limits.digits) (n : Nat) :
    Spells limits (n + 1) (nestText n) (nest n) := by
  induction n with
  | zero =>
    have hfits : FitsDigits limits [] ['0'] :=
      (fitsDigits_iff .absent).2 (by simpa [Limits.admits] using Nat.succ_le_of_lt hdigits)
    exact .inl (.numeral (.integer .absent .zero hfits))
  | succ n ih =>
    have hpadded : Padded (Spells limits (n + 1)) ([] ++ nestText n ++ []) (nest n) :=
      .intro .nil ih .nil
    rw [List.nil_append, List.append_nil] at hpadded
    exact .inr (.array (.elements (.last hpadded)))

/-- Nested arrays have a level each, and the zero in them has one. -/
theorem lt_of_spells_nest {s : List Char} {n : Nat} (h : Spells limits levels s (nest n)) :
    n < levels := by
  induction n generalizing levels s with
  | zero =>
    cases levels with
    | zero => exact h.elim
    | succ levels => exact Nat.succ_pos levels
  | succ n ih =>
    cases levels with
    | zero => exact h.elim
    | succ levels =>
      rcases h with h | h
      · cases h with
        | numeral numeral => cases numeral
      · cases h with
        | array items =>
          obtain ⟨t, ht⟩ := items.exists_of_mem (List.mem_singleton_self _)
          exact Nat.succ_lt_succ (ih ht)

theorem padded_nestedText (hdigits : 0 < limits.digits) (n : Nat) :
    Padded (Spells limits (n + 2)) (nestedText n) (.object [("x", nest n)]) := by
  have hbody : StringBody ['x'] "x".toList := .plain (by decide) (by decide) (by decide) .nil
  have hmember : Member (Spells limits (n + 1)) _ ("x", nest n) :=
    .intro (.intro hbody) .nil .nil (spells_nestText hdigits n)
  have hobject : Spells limits (n + 2) _ (.object [("x", nest n)]) :=
    .inr (.object (.elements (.last (.intro .nil hmember .nil))))
  have hpadded : Padded (Spells limits (n + 2)) _ _ := .intro .nil hobject .nil
  simpa [nestedText] using hpadded

/-- The object has one level more than the arrays in it. -/
theorem lt_of_padded_nest {t : List Char} {n : Nat}
    (h : Padded (Spells limits (levels + 1)) t (.object [("x", nest n)])) : n < levels := by
  cases h with
  | intro before core after =>
    rcases core with h | h
    · cases h with
      | numeral numeral => cases numeral
    · cases h with
      | object members =>
        obtain ⟨u, hu⟩ := members.exists_of_mem (List.mem_singleton_self _)
        cases hu with
        | intro quoted before after value => exact lt_of_spells_nest value

/-- **Containers that hold something are nested as deep as the limit says, and no deeper.** An
object around nested arrays is one container more than there are arrays. -/
theorem spelled_nested_iff {n : Nat} {d : Draft} (hdigits : 0 < limits.digits) :
    Spelled limits (nestedText n).utf8Encode d ↔ n < limits.depth ∧ d = ⟨"", "", 0⟩ := by
  have hmembers : MakeUp [("x", nest n)] d ↔ d = ⟨"", "", 0⟩ := by
    rw [← ofMembers?_eq_some_iff, eq_comm]
    exact Option.some_inj
  have hpadded := padded_nestedText hdigits n
  rw [spelled_utf8Encode_iff]
  constructor
  · rintro ⟨ms, document, members⟩
    obtain rfl : ms = [("x", nest n)] := by simpa using Spells.unique document hpadded
    exact ⟨lt_of_padded_nest document, hmembers.1 members⟩
  · rintro ⟨hn, hd⟩
    exact ⟨_, hpadded.imp fun s hs => hs.mono (Nat.succ_le_succ hn), hmembers.2 hd⟩

end Nesting

/-- An object and 200 arrays are 201 nested containers, the last of which holds something. -/
theorem nested_refused :
    Spelled ⟨201, 4300, false⟩ (nestedText 200).utf8Encode ⟨"", "", 0⟩ ∧
      parse (nestedText 200).utf8Encode = .error (.malformed "malformed request body") := by
  have hrefused : ¬ ∃ d, Spelled ⟨200, 4300, false⟩ (nestedText 200).utf8Encode d := by
    rintro ⟨d, hd⟩
    exact Nat.lt_irrefl _ ((spelled_nested_iff (by decide)).1 hd).1
  exact ⟨(spelled_nested_iff (by decide)).2 ⟨by decide, rfl⟩,
    parseWithin_eq_error_iff.2 ⟨rfl, hrefused⟩⟩

end Draft

end Discography
