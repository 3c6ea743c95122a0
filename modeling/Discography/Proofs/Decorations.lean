import Discography.Text.Numeral

/-!
# Taking decorations off a text

Words are deleted from a text, and its two ends are stripped. What is left is told here without the
functions that do it.

* `Deleted` — a text and what is left of it without the occurrences of a word; `deleted_iff`: it is
  what `erase` leaves.
* `Stripped` — a text and what is left of it between its two ends; `stripped_iff`: it is what `trim`
  leaves.
-/

set_option autoImplicit false

namespace Discography.Text

/-! ## Deleting words -/

/-- A text without the occurrences of a word, as they are met from left to right. What is left of it
may contain the word. -/
inductive Deleted (word : List Char) : List Char → List Char → Prop
  | nil : Deleted word [] []
  | word {s t : List Char} (rest : Deleted word s t) : Deleted word (word ++ s) t
  | keep {c : Char} {s t : List Char} (other : ¬ word <+: c :: s) (rest : Deleted word s t) :
      Deleted word (c :: s) (c :: t)

section Erase

variable {word : List Char}

/-- The characters of an occurrence that has begun are skipped. -/
theorem eraseFrom_append (t s : List Char) : eraseFrom word t.length (t ++ s) = erase word s := by
  induction t with
  | nil => rfl
  | cons c t ih => exact ih

theorem erase_word (hne : word ≠ []) (s : List Char) : erase word (word ++ s) = erase word s := by
  cases word with
  | nil => exact absurd rfl hne
  | cons c r =>
    have hp : (c :: r).isPrefixOf (c :: (r ++ s)) = true :=
      List.isPrefixOf_iff_prefix.2 ⟨s, rfl⟩
    rw [List.cons_append, erase, eraseFrom, if_pos hp]
    exact eraseFrom_append r s

theorem erase_cons {c : Char} {s : List Char} (h : ¬ word <+: c :: s) :
    erase word (c :: s) = c :: erase word s := by
  rw [erase, eraseFrom, if_neg (fun hp => h (List.isPrefixOf_iff_prefix.1 hp))]
  rfl

theorem deleted_erase (hne : word ≠ []) (s : List Char) : Deleted word s (erase word s) := by
  -- An occurrence may be of any length, so the induction is on the length of what is left to read.
  induction hn : s.length using Nat.strongRecOn generalizing s with
  | ind n ih =>
    cases s with
    | nil => exact .nil
    | cons c r =>
      by_cases hp : word <+: c :: r
      · obtain ⟨t, ht⟩ := hp
        have hpositive : 0 < word.length := List.length_pos_iff.2 hne
        have hlength := congrArg List.length ht
        rw [List.length_append] at hlength
        rw [← ht, erase_word hne]
        exact .word (ih t.length (by omega) t rfl)
      · rw [erase_cons hp]
        exact .keep hp (ih r.length (by simp only [List.length_cons] at hn; omega) r rfl)

/-- A word whose first character is missing does not occur. -/
theorem erase_eq_self {c : Char} {s : List Char} (h : c ∉ s) : erase (c :: word) s = s := by
  induction s with
  | nil => rfl
  | cons d r ih =>
    obtain ⟨hne, hr⟩ := List.ne_and_not_mem_of_not_mem_cons h
    have hp : ¬ c :: word <+: d :: r := fun hp => hne (List.cons_prefix_cons.1 hp).1
    rw [erase_cons hp, ih hr]

/-- Erasing a word leaves the text without its occurrences. -/
theorem deleted_iff (hne : word ≠ []) {s t : List Char} : Deleted word s t ↔ t = erase word s := by
  constructor
  · intro h
    induction h with
    | nil => rfl
    | word rest ih => rw [erase_word hne, ih]
    | keep other rest ih => rw [erase_cons other, ih]
  · rintro rfl
    exact deleted_erase hne s

end Erase

/-! ## Stripping ends -/

/-- A text without the characters in `p` at its two ends. What is left neither begins nor ends with
one of them. -/
inductive Stripped (p : Char → Bool) : List Char → List Char → Prop
  | intro {before s after : List Char} (front : ∀ c ∈ before, p c = true)
      (head : ∀ c ∈ s.head?, p c = false) (last : ∀ c ∈ s.getLast?, p c = false)
      (back : ∀ c ∈ after, p c = true) : Stripped p (before ++ s ++ after) s

section Trim

variable {p : Char → Bool}

theorem dropWhile_of_head? {s : List Char} (h : ∀ c ∈ s.head?, p c = false) :
    s.dropWhile p = s := by
  cases s with
  | nil => rfl
  | cons c r => rw [List.dropWhile_cons_of_neg (by simp [h c rfl])]

theorem head?_dropWhile {s : List Char} : ∀ c ∈ (s.dropWhile p).head?, p c = false := by
  intro c hc
  have h := List.head?_dropWhile_not p s
  rw [hc] at h
  simpa using h

theorem stripped_trim (s : List Char) : Stripped p s (trim p s) := by
  let kept := s.dropWhile p
  have hkept : kept = trim p s ++ (kept.reverse.takeWhile p).reverse := by
    rw [trim, trimRight, trimLeft, ← List.reverse_append, List.takeWhile_append_dropWhile,
      List.reverse_reverse]
  have hsplit : s = s.takeWhile p ++ trim p s ++ (kept.reverse.takeWhile p).reverse := by
    rw [List.append_assoc, ← hkept]
    exact List.takeWhile_append_dropWhile.symm
  have htaken {l : List Char} {c : Char} (hc : c ∈ l.takeWhile p) : p c = true :=
    List.all_eq_true.1 List.all_takeWhile c hc
  have hhead : ∀ c ∈ (trim p s).head?, p c = false := by
    intro c hc
    refine head?_dropWhile (s := s) c ?_
    show c ∈ kept.head?
    rw [hkept, List.head?_append, Option.mem_def.1 hc]
    rfl
  have hlast : ∀ c ∈ (trim p s).getLast?, p c = false := by
    rw [trim, trimRight, List.getLast?_reverse]
    exact head?_dropWhile
  have h : Stripped p (s.takeWhile p ++ trim p s ++ (kept.reverse.takeWhile p).reverse)
      (trim p s) :=
    .intro (fun _ hc => htaken hc) hhead hlast fun _ hc => htaken (List.mem_reverse.1 hc)
  rwa [← hsplit] at h

/-- Trimming leaves the text without its two ends. -/
theorem stripped_iff {s t : List Char} : Stripped p s t ↔ t = trim p s := by
  constructor
  · intro h
    cases h with
    | @intro before t after front head last back =>
      cases t with
      | nil =>
        refine (trim_eq_nil fun c hc => ?_).symm
        rw [List.append_nil] at hc
        exact (List.mem_append.1 hc).elim (front c) (back c)
      | cons c r =>
        have hback : ∀ x ∈ after.reverse, p x = true := fun x hx => back x (List.mem_reverse.1 hx)
        have hlast : ∀ x ∈ ((c :: r).reverse).head?, p x = false := fun x hx =>
          last x (by rwa [List.head?_reverse] at hx)
        have hleft : trimLeft p (before ++ (c :: r) ++ after) = c :: r ++ after := by
          rw [trimLeft, List.append_assoc, List.dropWhile_append_of_pos front]
          exact dropWhile_of_head? head
        rw [trim, hleft, trimRight, List.reverse_append, List.dropWhile_append_of_pos hback,
          dropWhile_of_head? hlast, List.reverse_reverse]
  · rintro rfl
    exact stripped_trim s

/-- There is nothing to strip from a text without characters in `p`. -/
theorem trim_eq_self {s : List Char} (h : ∀ c ∈ s, p c = false) : trim p s = s := by
  have hstripped : Stripped p ([] ++ s ++ []) s :=
    .intro nofun (fun c hc => h c (List.mem_of_head? hc))
      (fun c hc => h c (List.mem_of_getLast? hc)) nofun
  rw [List.nil_append, List.append_nil] at hstripped
  exact (stripped_iff.1 hstripped).symm

end Trim

end Discography.Text
