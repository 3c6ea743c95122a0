import Discography.Proofs.DraftReading

/-!
# The last members decide

An object may name a member more than once, and it may hold members that are no part of a draft.
Which draft it makes up, and whether it makes up one, depends on three of its members alone: the
last one for the title, the last one for the artist and the last one for the price.

* `last?_filter`, `last?_shadowed` — members that make no difference to which one counts.
* `given` — what the object says about a name, where null says nothing; `ofMembers?_congr`: the
  draft depends on what is said about its three fields.
* `reads_last_members` — when an object is rejected, which draft it is otherwise, and which changes
  to an object leave its draft as it is.
-/

set_option autoImplicit false

namespace Discography

open Discography.Json

/-! ## Which member counts -/

namespace Json

section Last

variable {name : String} {ms ms' : List (String × Value)}

/-- Taking members of other names out makes no difference. -/
theorem last?_filter {p : String × Value → Bool} (h : ∀ v, p (name, v) = true) :
    last? name (ms.filter p) = last? name ms := by
  have hp : (fun m : String × Value => decide (p m = true ∧ (m.1 == name) = true)) =
      fun m => m.1 == name := by
    funext ⟨key, v⟩
    by_cases hk : key = name
    · subst hk
      simp [h]
    · simp [hk]
  unfold last?
  rw [← List.filter_reverse, List.find?_filter, hp]

/-- Which member counts can be told from the members of that name. -/
theorem last?_eq_of_filter
    (h : ms'.filter (fun m => m.1 == name) = ms.filter (fun m => m.1 == name)) :
    last? name ms' = last? name ms := by
  have hself (ms : List (String × Value)) :
      last? name (ms.filter fun m => m.1 == name) = last? name ms :=
    last?_filter fun _ => beq_self_eq_true name
  rw [← hself ms', h, hself]

/-- A member does not count that is followed by another one of its name. -/
theorem last?_shadowed {key : String} {v w : Value} {before between after : List (String × Value)} :
    last? name (before ++ (key, v) :: between ++ (key, w) :: after) =
      last? name (before ++ between ++ (key, w) :: after) := by
  have hsplit : before ++ (key, v) :: between ++ (key, w) :: after =
      before ++ ([(key, v)] ++ (between ++ ([(key, w)] ++ after))) := by simp
  have hsplit' : before ++ between ++ (key, w) :: after =
      before ++ (between ++ ([(key, w)] ++ after)) := by simp
  rw [hsplit, hsplit', last?_append, last?_append, last?_append name before]
  congr 1
  by_cases hk : key = name
  · have hlater : (last? name (between ++ ([(key, w)] ++ after))).isSome = true := by
      simp [last?, hk]
    rw [Option.or_of_isSome hlater]
  · have hearlier : last? name [(key, v)] = none := by
      simp [last?, hk]
    rw [hearlier, Option.or_none]

/-- What an object says about a name. Null says nothing. -/
def given (name : String) (ms : List (String × Value)) : Option Value :=
  match last? name ms with
  | some .null => none
  | x => x

theorem given_congr (h : last? name ms' = last? name ms) : given name ms' = given name ms := by
  unfold given
  rw [h]

/-- Nothing is said about a name that counts as null, and nothing without the members of that name
either. -/
theorem given_of_null (h : Counts name ms (some .null)) (field : String) :
    given field (ms.filter fun m => m.1 != name) = given field ms := by
  by_cases hf : field = name
  · subst hf
    have hnone : last? field (ms.filter fun m => m.1 != field) = none := by
      refine last?_of_absent fun m hm => ?_
      exact bne_iff_ne.1 (List.mem_filter.1 hm).2
    unfold given
    rw [hnone, last?_eq_iff.2 h]
  · exact given_congr (last?_filter fun _ => bne_iff_ne.2 hf)

end Last

end Json

/-! ## Which draft is made up -/

namespace Draft

/-- The names of the members that a draft is made up of. -/
def fields : List String := ["title", "artist", "price"]

/-- A member for a text that is neither a string nor null. -/
def WrongText (x : Option Value) : Prop := ∃ v, x = some v ∧ v ≠ .null ∧ ∀ s, v ≠ .text s

/-- A member for a price that is neither null nor an integer of 64 bits. -/
def WrongPrice (x : Option Value) : Prop :=
  ∃ v, x = some v ∧ v ≠ .null ∧ ∀ n, v = .integer n → ¬ (-2 ^ 63 ≤ n ∧ n ≤ 2 ^ 63 - 1)

/-- A member is either wrong for a text or stands for one. -/
theorem wrongText_iff {x : Option Value} : WrongText x ↔ ¬ ∃ s, IsText x s := by
  constructor
  · rintro ⟨v, rfl, hnull, htext⟩ ⟨s, hs⟩
    cases hs with
    | null => exact hnull rfl
    | text s => exact htext s rfl
  · intro h
    cases x with
    | none => exact absurd ⟨_, .missing⟩ h
    | some v =>
      refine ⟨v, rfl, ?_, ?_⟩
      · rintro rfl
        exact h ⟨_, .null⟩
      · rintro s rfl
        exact h ⟨_, .text s⟩

/-- A member is either wrong for a price or stands for one. -/
theorem wrongPrice_iff {x : Option Value} : WrongPrice x ↔ ¬ ∃ n, IsPrice x n := by
  constructor
  · rintro ⟨v, rfl, hnull, hinteger⟩ ⟨n, hn⟩
    cases hn with
    | null => exact hnull rfl
    | integer range => exact hinteger n rfl range
  · intro h
    cases x with
    | none => exact absurd ⟨_, .missing⟩ h
    | some v =>
      refine ⟨v, rfl, ?_, ?_⟩
      · rintro rfl
        exact h ⟨_, .null⟩
      · rintro n rfl range
        exact h ⟨_, .integer range⟩

/-- What is made of a member can be told from what is said about its name, if null counts as
missing. -/
theorem make_congr {α : Type} {make : Option Value → Option α} {name : String}
    {ms ms' : List (String × Value)} (hnull : make (some .null) = make none)
    (h : given name ms' = given name ms) : make (last? name ms') = make (last? name ms) := by
  have hgiven (ms : List (String × Value)) : make (given name ms) = make (last? name ms) := by
    unfold given
    split
    · rename_i hlast
      rw [hlast, hnull]
    · rfl
  rw [← hgiven, h, hgiven]

/-- Objects that say the same about the fields of a draft make up the same draft, or none. -/
theorem ofMembers?_congr {ms ms' : List (String × Value)}
    (h : ∀ name ∈ fields, given name ms' = given name ms) : ofMembers? ms' = ofMembers? ms := by
  have htitle : textOf? (last? "title" ms') = textOf? (last? "title" ms) :=
    make_congr rfl (h "title" (by decide))
  have hartist : textOf? (last? "artist" ms') = textOf? (last? "artist" ms) :=
    make_congr rfl (h "artist" (by decide))
  have hprice : priceOf? (last? "price" ms') = priceOf? (last? "price" ms) :=
    make_congr rfl (h "price" (by decide))
  unfold ofMembers?
  rw [htitle, hartist, hprice]

section Counted

variable {ms : List (String × Value)} {title artist price : Option Value}
  (htitle : Counts "title" ms title) (hartist : Counts "artist" ms artist)
  (hprice : Counts "price" ms price)

include htitle hartist hprice

/-- The members that count are the fields of the draft. -/
theorem ofMembers?_of_counts {d : Draft} : ofMembers? ms = some d ↔
    IsText title d.title ∧ IsText artist d.artist ∧ IsPrice price d.price := by
  rw [ofMembers?_eq_some_iff]
  constructor
  · rintro ⟨⟨x, hx, hd⟩, ⟨y, hy, hd'⟩, ⟨z, hz, hd''⟩⟩
    have hxt : x = title := (last?_eq_iff.2 hx).symm.trans (last?_eq_iff.2 htitle)
    have hya : y = artist := (last?_eq_iff.2 hy).symm.trans (last?_eq_iff.2 hartist)
    have hzp : z = price := (last?_eq_iff.2 hz).symm.trans (last?_eq_iff.2 hprice)
    exact ⟨hxt ▸ hd, hya ▸ hd', hzp ▸ hd''⟩
  · rintro ⟨hd, hd', hd''⟩
    exact ⟨⟨title, htitle, hd⟩, ⟨artist, hartist, hd'⟩, ⟨price, hprice, hd''⟩⟩

/-- An object makes up no draft exactly if one of the members that count is wrong. -/
theorem ofMembers?_eq_none_iff :
    ofMembers? ms = none ↔ WrongText title ∨ WrongText artist ∨ WrongPrice price := by
  rw [Option.eq_none_iff_forall_ne_some, wrongText_iff, wrongText_iff, wrongPrice_iff]
  simp only [ne_eq, ofMembers?_of_counts htitle hartist hprice]
  constructor
  · intro h
    by_cases ht : ∃ s, IsText title s
    · by_cases ha : ∃ s, IsText artist s
      · obtain ⟨s, hs⟩ := ht
        obtain ⟨s', hs'⟩ := ha
        exact .inr (.inr fun ⟨n, hn⟩ => h ⟨s, s', n⟩ ⟨hs, hs', hn⟩)
      · exact .inr (.inl ha)
    · exact .inl ht
  · rintro h d ⟨hd, hd', hd''⟩
    rcases h with h | h | h
    · exact h ⟨_, hd⟩
    · exact h ⟨_, hd'⟩
    · exact h ⟨_, hd''⟩

end Counted

/-- What is read of a body is the draft of the value that its text spells. -/
theorem read?_of_document {text : List Char} {v : Value} (h : Document bodyLimits text v) :
    read? text.utf8Encode = ofValue? v := by
  have hbytes : String.fromUTF8? text.utf8Encode = some (String.ofList text) :=
    fromUTF8?_eq_some_iff.2 (by rw [String.toList_ofList])
  rw [read?, readWithin?, hbytes, Option.bind_some, Json.read?_eq_some_iff.2 h, Option.bind_some]

/-- **The last members decide.** An object makes up no draft exactly if its last member for the
title or for the artist is neither a string nor null, or its last member for the price is neither
null nor an integer of 64 bits. Otherwise its draft has what these members say, and empty texts and
a price of zero where they are null or missing. So it makes no difference which members of other
names there are, how members of different names are ordered, what an earlier member of a name is,
and whether a field that counts as null is there at all. Any value that is no object makes up no
draft. A body whose text spells a value is read as the draft of that value, and is malformed if
there is none. -/
theorem reads_last_members {ms : List (String × Value)} {title artist price : Option Value}
    (htitle : Counts "title" ms title) (hartist : Counts "artist" ms artist)
    (hprice : Counts "price" ms price) :
    (ofValue? (.object ms) = none ↔ WrongText title ∨ WrongText artist ∨ WrongPrice price) ∧
      (∀ d, ofValue? (.object ms) = some d ↔
        IsText title d.title ∧ IsText artist d.artist ∧ IsPrice price d.price) ∧
      (∀ ms', (∀ name ∈ fields,
          ms'.filter (fun m => m.1 == name) = ms.filter (fun m => m.1 == name)) →
        ofValue? (.object ms') = ofValue? (.object ms)) ∧
      (∀ name v w before between after, ms = before ++ (name, v) :: between ++ (name, w) :: after →
        ofValue? (.object (before ++ between ++ (name, w) :: after)) = ofValue? (.object ms)) ∧
      (∀ name, Counts name ms (some .null) →
        ofValue? (.object (ms.filter fun m => m.1 != name)) = ofValue? (.object ms)) ∧
      (∀ v, (∀ ms, v ≠ .object ms) → ofValue? v = none) ∧
      ∀ text v, Document bodyLimits text v →
        (∀ d, parse text.utf8Encode = .ok d ↔ ofValue? v = some d) ∧
          ∀ f, parse text.utf8Encode = .error f ↔
            f = .malformed "malformed request body" ∧ ofValue? v = none := by
  have hobject (ms : List (String × Value)) : ofValue? (.object ms) = ofMembers? ms := rfl
  simp only [hobject]
  refine ⟨ofMembers?_eq_none_iff htitle hartist hprice,
    fun d => ofMembers?_of_counts htitle hartist hprice, ?_, ?_, ?_, ?_, ?_⟩
  · intro ms' h
    exact ofMembers?_congr fun name hname => given_congr (last?_eq_of_filter (h name hname))
  · rintro name v w before between after rfl
    exact ofMembers?_congr fun _ _ => given_congr last?_shadowed.symm
  · intro name h
    exact ofMembers?_congr fun field _ => given_of_null h field
  · intro v h
    cases v with
    | object ms => exact absurd rfl (h ms)
    | _ => rfl
  · intro text v h
    have hread : readWithin? bodyLimits text.utf8Encode = ofValue? v := read?_of_document h
    unfold parse parseWithin
    rw [hread]
    cases ofValue? v with
    | none => simp [eq_comm]
    | some d => simp

/-- A wrong title, a member of another name and a price that are hidden by what comes later. -/
theorem reads_last_members_repeated :
    let ms : List (String × Value) := [("title", .bool true), ("price", .integer (2 ^ 63)),
      ("Price", .null), ("title", .text "Blue"), ("price", .null)]
    Counts "title" ms (some (.text "Blue")) ∧ Counts "artist" ms none ∧
      Counts "price" ms (some .null) ∧ ofValue? (.object ms) = some ⟨"Blue", "", 0⟩ ∧
      ofValue? (.object (ms.filter fun m => m.1 != "price")) = some ⟨"Blue", "", 0⟩ := by
  intro ms
  have htitle : Counts "title" ms (some (.text "Blue")) := last?_eq_iff.1 rfl
  have hartist : Counts "artist" ms none := last?_eq_iff.1 rfl
  have hprice : Counts "price" ms (some .null) := last?_eq_iff.1 rfl
  obtain ⟨-, hread, -, -, hnull, -, -⟩ := reads_last_members htitle hartist hprice
  have hdraft : ofValue? (.object ms) = some ⟨"Blue", "", 0⟩ :=
    (hread _).2 ⟨.text "Blue", .missing, .null⟩
  exact ⟨htitle, hartist, hprice, hdraft, (hnull "price" hprice).trans hdraft⟩

end Draft

end Discography
