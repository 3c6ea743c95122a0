import Discography.Proofs.Lexemes

/-!
# A text is read as the value that it spells

The reader of values is sound and complete for the grammar. Both are inductions on the fuel, with
one lemma for each of the three functions that call one another. Two steps for each character are
enough, so that the fuel that a whole text is given never runs out.

* `Sound`, `sound` — what is read is spelled that way.
* `Complete`, `complete` — what is spelled is read that way, whatever may follow it.
* `read?_eq_some_iff` — a whole text is read as a value exactly when it spells that value.
* `Spells.unique` — and it spells no other one.
-/

set_option autoImplicit false

namespace Discography.Json

/-! ## Values -/

/-- A value that does not begin like a text or a container is read as a word or a numeral. -/
theorem value?_eq_scalar? {limits : Limits} {fuel levels : Nat} {s : List Char}
    (h : ∀ c ∈ s.head?, c ≠ '"' ∧ c ≠ '[' ∧ c ≠ '\x7b') :
    value? limits (fuel + 1) (levels + 1) s = scalar? limits s := by
  cases s with
  | nil => rfl
  | cons c s =>
    obtain ⟨h₁, h₂, h₃⟩ := h c rfl
    unfold value?
    split
    · next heq => cases heq; exact absurd rfl h₁
    · next heq => cases heq; exact absurd rfl h₂
    · next heq => cases heq; exact absurd rfl h₃
    · rfl

/-- A value is a scalar, or a container of values of fewer levels. -/
theorem Spells.scalar_or_container {limits : Limits} {levels : Nat} {s : List Char} {v : Value}
    (h : Spells limits levels s v) :
    Scalar limits s v ∨ ∃ inner, Container (Spells limits inner) s v := by
  cases levels with
  | zero => exact h.elim
  | succ levels => exact h.imp_right fun h => ⟨levels, h⟩

/-- Blanks in front of the first element belong to it. -/
theorem Separated.pad {α : Type} {P : List Char → α → Prop} {g s : List Char} {xs : List α}
    (hg : Gap g) (h : Separated (Padded P) s xs) : Separated (Padded P) (g ++ s) xs := by
  have hpad {t : List Char} {x : α} (h : Padded P t x) : Padded P (g ++ t) x := by
    cases h with
    | @intro b t' a x before core after =>
      have h := Padded.intro (hg.append before) core after
      simpa using h
  cases h with
  | last element => exact .last (hpad element)
  | more element rest =>
    rw [← List.append_assoc]
    exact .more (hpad element) rest

/-- What is read within some fuel is spelled that way. -/
structure Sound (limits : Limits) (fuel : Nat) : Prop where
  value : ∀ {levels : Nat} {s r : List Char} {v : Value}, value? limits fuel levels s = some (v, r) →
    ∃ t, Spells limits levels t v ∧ s = t ++ r
  items : ∀ {levels : Nat} {read : List Value} {s r : List Char} {v : Value},
    items? limits fuel levels read s = some (v, r) →
      ∃ t vs, Separated (Padded (Spells limits levels)) t vs ∧ s = t ++ ']' :: r ∧
        v = .array (read.reverse ++ vs)
  members : ∀ {levels : Nat} {read : List (String × Value)} {s r : List Char} {v : Value},
    members? limits fuel levels read s = some (v, r) →
      ∃ t ms, Separated (Padded (Member (Spells limits levels))) t ms ∧ s = t ++ '\x7d' :: r ∧
        v = .object (read.reverse ++ ms)

section Soundness

variable {limits : Limits} {fuel : Nat}

theorem Sound.value_succ (h : Sound limits fuel) {levels : Nat} {s r : List Char} {v : Value}
    (hs : value? limits (fuel + 1) levels s = some (v, r)) :
    ∃ t, Spells limits levels t v ∧ s = t ++ r := by
  cases levels with
  | zero => cases hs
  | succ levels =>
    unfold value? at hs
    split at hs
    · simp only [Option.map_eq_some_iff, Prod.exists, Prod.mk.injEq] at hs
      obtain ⟨x, u, hx, rfl, rfl⟩ := hs
      obtain ⟨t, ht, rfl⟩ := string?_eq_some_iff.1 hx
      exact ⟨'"' :: t ++ ['"'], .inl (.text (.intro ht)), by simp⟩
    · next u =>
      obtain ⟨g, hg, hu⟩ := exists_gap_append_skipGap u
      split at hs
      · next w hw =>
        cases hs
        rw [hw] at hu
        exact ⟨'[' :: g ++ [']'], .inr (.array (.empty hg)), by simp [hu]⟩
      · obtain ⟨t, vs, ht, hw, rfl⟩ := h.items hs
        rw [hw] at hu
        exact ⟨'[' :: (g ++ t) ++ [']'], .inr (.array (.elements (ht.pad hg))), by simp [hu]⟩
    · next u =>
      obtain ⟨g, hg, hu⟩ := exists_gap_append_skipGap u
      split at hs
      · next w hw =>
        cases hs
        rw [hw] at hu
        exact ⟨'\x7b' :: g ++ ['\x7d'], .inr (.object (.empty hg)), by simp [hu]⟩
      · obtain ⟨t, ms, ht, hw, rfl⟩ := h.members hs
        rw [hw] at hu
        exact ⟨'\x7b' :: (g ++ t) ++ ['\x7d'], .inr (.object (.elements (ht.pad hg))),
          by simp [hu]⟩
    · obtain ⟨t, ht, rfl⟩ := scalar_of_scalar? hs
      exact ⟨t, .inl ht, rfl⟩

theorem Sound.items_succ (h : Sound limits fuel) {levels : Nat} {read : List Value}
    {s r : List Char} {v : Value} (hs : items? limits (fuel + 1) levels read s = some (v, r)) :
    ∃ t vs, Separated (Padded (Spells limits levels)) t vs ∧ s = t ++ ']' :: r ∧
      v = .array (read.reverse ++ vs) := by
  unfold items? at hs
  split at hs
  · cases hs
  · next x u hx =>
    obtain ⟨t, ht, rfl⟩ := h.value hx
    obtain ⟨g, hg, hu⟩ := exists_gap_append_skipGap u
    have hpadded : Padded (Spells limits levels) (t ++ g) x := .intro Gap.nil ht hg
    split at hs
    · next w hw =>
      rw [hw] at hu
      obtain ⟨g', hg', hw'⟩ := exists_gap_append_skipGap w
      obtain ⟨t', vs, ht', hrest, rfl⟩ := h.items hs
      rw [hrest] at hw'
      exact ⟨t ++ g ++ ',' :: (g' ++ t'), x :: vs, .more hpadded (ht'.pad hg'),
        by simp [hu, hw'], by simp⟩
    · next w hw =>
      cases hs
      rw [hw] at hu
      exact ⟨t ++ g, [x], .last hpadded, by simp [hu], by simp⟩
    · cases hs

theorem Sound.members_succ (h : Sound limits fuel) {levels : Nat} {read : List (String × Value)}
    {s r : List Char} {v : Value} (hs : members? limits (fuel + 1) levels read s = some (v, r)) :
    ∃ t ms, Separated (Padded (Member (Spells limits levels))) t ms ∧ s = t ++ '\x7d' :: r ∧
      v = .object (read.reverse ++ ms) := by
  unfold members? at hs
  split at hs
  · split at hs
    · cases hs
    · next name u hname =>
      obtain ⟨k, hk, rfl⟩ := string?_eq_some_iff.1 hname
      obtain ⟨g, hg, hu⟩ := exists_gap_append_skipGap u
      split at hs
      · next w hw =>
        rw [hw] at hu
        obtain ⟨g', hg', hw'⟩ := exists_gap_append_skipGap w
        split at hs
        · cases hs
        · next x y hx =>
          obtain ⟨t, ht, hy⟩ := h.value hx
          rw [hy] at hw'
          obtain ⟨g'', hg'', hy'⟩ := exists_gap_append_skipGap y
          have hpadded : Padded (Member (Spells limits levels))
              ([] ++ ('"' :: k ++ ['"'] ++ g ++ ':' :: g' ++ t) ++ g'') (name, x) :=
            .intro Gap.nil (.intro (.intro hk) hg hg' ht) hg''
          split at hs
          · next z hz =>
            rw [hz] at hy'
            obtain ⟨g₃, hg₃, hz'⟩ := exists_gap_append_skipGap z
            obtain ⟨t', ms, ht', hrest, rfl⟩ := h.members hs
            rw [hrest] at hz'
            exact ⟨_, (name, x) :: ms, .more hpadded (ht'.pad hg₃),
              by simp [hu, hw', hy', hz'], by simp⟩
          · next z hz =>
            cases hs
            rw [hz] at hy'
            exact ⟨_, [(name, x)], .last hpadded, by simp [hu, hw', hy'], by simp⟩
          · cases hs
      · cases hs
  · cases hs

theorem sound (limits : Limits) (fuel : Nat) : Sound limits fuel := by
  induction fuel with
  | zero =>
    refine ⟨fun h => ?_, fun h => ?_, fun h => ?_⟩
    · cases h
    · cases h
    · cases h
  | succ fuel ih => exact ⟨ih.value_succ, ih.items_succ, ih.members_succ⟩

end Soundness

/-- What is spelled is read that way within fuel for two steps for each character, whatever
follows. -/
structure Complete (limits : Limits) (fuel : Nat) : Prop where
  value : ∀ {levels : Nat} {t r : List Char} {v : Value}, Spells limits levels t v →
    2 * t.length ≤ fuel → Stops r → value? limits fuel levels (t ++ r) = some (v, r)
  items : ∀ {levels : Nat} {t : List Char} {vs : List Value},
    Separated (Padded (Spells limits levels)) t vs → 2 * t.length < fuel →
      ∀ (read : List Value) (r : List Char),
        items? limits fuel levels read (skipGap (t ++ ']' :: r)) =
          some (.array (read.reverse ++ vs), r)
  members : ∀ {levels : Nat} {t : List Char} {ms : List (String × Value)},
    Separated (Padded (Member (Spells limits levels))) t ms → 2 * t.length < fuel →
      ∀ (read : List (String × Value)) (r : List Char),
        members? limits fuel levels read (skipGap (t ++ '\x7d' :: r)) =
          some (.object (read.reverse ++ ms), r)

section Completeness

variable {limits : Limits} {fuel : Nat}

/-- What a value or a member begins with: an ASCII character that neither is a blank nor closes a
container. -/
def Opens (c : Char) : Prop := c.toNat < 128 ∧ isGap c = false ∧ c ≠ ']' ∧ c ≠ '\x7d'

instance : DecidablePred Opens := fun _ => inferInstanceAs (Decidable (_ ∧ _ ∧ _ ∧ _))

theorem opens_of_isDigit {c : Char} (h : c.isDigit = true) : Opens c := by
  have hne (x : Char) (hx : x.isDigit = false) : c ≠ x := by
    rintro rfl
    rw [h] at hx
    cases hx
  have hascii : c.toNat < 128 := by
    simp only [Char.isDigit, Bool.and_eq_true, decide_eq_true_eq] at h
    have hle : c.toNat ≤ '9'.toNat := h.2
    simp at hle
    omega
  refine ⟨hascii, ?_, hne ']' (by decide), hne '\x7d' (by decide)⟩
  rw [Bool.eq_false_iff, ne_eq, isGap_iff, not_or, not_or, not_or]
  exact ⟨hne ' ' (by decide), hne '\t' (by decide), hne '\n' (by decide), hne '\r' (by decide)⟩

theorem Scalar.exists_cons {t : List Char} {v : Value} (h : Scalar limits t v) :
    ∃ c u, t = c :: u ∧ Opens c := by
  cases h with
  | null => exact ⟨'n', "ull".toList, rfl, by decide⟩
  | true => exact ⟨'t', "rue".toList, rfl, by decide⟩
  | false => exact ⟨'f', "alse".toList, rfl, by decide⟩
  | nan => exact ⟨'N', "aN".toList, rfl, by decide⟩
  | infinity => exact ⟨'I', "nfinity".toList, rfl, by decide⟩
  | negativeInfinity => exact ⟨'-', "Infinity".toList, rfl, by decide⟩
  | numeral numeral =>
    obtain ⟨d, u, hd, rfl | rfl⟩ := numeral.exists_digit
    · exact ⟨d, u, rfl, opens_of_isDigit hd⟩
    · exact ⟨'-', d :: u, rfl, by decide⟩
  | text quoted =>
    cases quoted with
    | intro body => exact ⟨'"', _, rfl, by decide⟩

theorem Enclosed.exists_cons {α : Type} {P : List Char → α → Prop} {start stop : Char}
    {t : List Char} {xs : List α} (h : Enclosed P start stop t xs) : ∃ u, t = start :: u := by
  cases h with
  | empty gap => exact ⟨_, rfl⟩
  | elements separated => exact ⟨_, rfl⟩

theorem Spells.exists_cons {levels : Nat} {t : List Char} {v : Value}
    (h : Spells limits levels t v) : ∃ c u, t = c :: u ∧ Opens c := by
  rcases h.scalar_or_container with h | ⟨inner, h⟩
  · exact h.exists_cons
  · cases h with
    | array items =>
      obtain ⟨u, rfl⟩ := items.exists_cons
      exact ⟨'[', u, rfl, by decide⟩
    | object members =>
      obtain ⟨u, rfl⟩ := members.exists_cons
      exact ⟨'\x7b', u, rfl, by decide⟩

theorem Member.exists_cons {P : List Char → Value → Prop} {t : List Char} {m : String × Value}
    (h : Member P t m) : ∃ c u, t = c :: u ∧ Opens c := by
  cases h with
  | intro quoted before after value =>
    cases quoted with
    | intro body => exact ⟨'"', _, rfl, by decide⟩

theorem skipGap_of_exists_cons {t : List Char} (h : ∃ c u, t = c :: u ∧ Opens c) (r : List Char) :
    skipGap (t ++ r) = t ++ r := by
  obtain ⟨c, u, rfl, hc⟩ := h
  exact skipGap_cons hc.2.1 (u ++ r)

/-- What separated elements begin with after the blanks in front. -/
theorem Separated.exists_skipGap {α : Type} {P : List Char → α → Prop} {t : List Char}
    {xs : List α} (hP : ∀ {s x}, P s x → ∃ c u, s = c :: u ∧ Opens c)
    (h : Separated (Padded P) t xs) (r : List Char) :
    ∃ c u, skipGap (t ++ r) = c :: u ∧ Opens c := by
  have hpadded {s : List Char} {x : α} (hs : Padded P s x) (r : List Char) :
      ∃ c u, skipGap (s ++ r) = c :: u ∧ Opens c := by
    cases hs with
    | intro before core after =>
      obtain ⟨c, u, rfl, hc⟩ := hP core
      rw [List.append_assoc, List.append_assoc, skipGap_append before]
      exact ⟨c, _, skipGap_cons hc.2.1 _, hc⟩
  cases h with
  | last element => exact hpadded element r
  | more element rest =>
    rw [List.append_assoc]
    exact hpadded element _

/-- What may follow a value or a name, and the blanks behind it, within a container. -/
def IsMark (c : Char) : Prop := c = ',' ∨ c = ':' ∨ c = ']' ∨ c = '\x7d'

theorem stops_gap_append {g : List Char} (hg : Gap g) {c : Char} (hc : IsMark c) (r : List Char) :
    Stops (g ++ c :: r) := by
  cases g with
  | nil => rcases hc with rfl | rfl | rfl | rfl <;> simp [Stops]
  | cons b g => rcases hg b List.mem_cons_self with rfl | rfl | rfl | rfl <;> simp [Stops]

theorem stops_of_gap {g : List Char} (hg : Gap g) : Stops g := by
  cases g with
  | nil => simp [Stops]
  | cons b g => rcases hg b List.mem_cons_self with rfl | rfl | rfl | rfl <;> simp [Stops]

theorem skipGap_gap_append {g : List Char} (hg : Gap g) {c : Char} (hc : IsMark c)
    (r : List Char) : skipGap (g ++ c :: r) = c :: r := by
  rw [skipGap_append hg]
  rcases hc with rfl | rfl | rfl | rfl <;> exact skipGap_cons (by decide) r

theorem Complete.scalar_succ {levels : Nat} {t r : List Char} {v : Value}
    (h : Scalar limits t v) (hr : Stops r) :
    value? limits (fuel + 1) (levels + 1) (t ++ r) = some (v, r) := by
  cases h with
  | null => rfl
  | true => rfl
  | false => rfl
  | nan => rfl
  | infinity => rfl
  | negativeInfinity => rfl
  | numeral numeral =>
    rw [value?_eq_scalar?, scalar?_numeral numeral hr]
    obtain ⟨d, u, hd, rfl | rfl⟩ := numeral.exists_digit
    · rintro c ⟨⟩
      refine ⟨?_, ?_, ?_⟩ <;> (rintro rfl; exact absurd hd (by decide))
    · rintro c ⟨⟩
      decide
  | text quoted =>
    cases quoted with
    | @intro s _ body =>
      have hx : string? (s ++ '"' :: r) = _ := string?_eq_some_iff.2 ⟨s, body, rfl⟩
      rw [List.append_assoc, List.cons_append, List.singleton_append]
      show (string? (s ++ '"' :: r)).map _ = _
      rw [hx]
      rfl

theorem Complete.array_succ (h : Complete limits fuel) {levels : Nat} {t : List Char}
    {vs : List Value} (ht : Enclosed (Spells limits levels) '[' ']' t vs)
    (hfuel : 2 * t.length ≤ fuel + 1) (r : List Char) :
    value? limits (fuel + 1) (levels + 1) (t ++ r) = some (.array vs, r) := by
  cases ht with
  | @empty g gap =>
    have hskip : skipGap (g ++ ']' :: r) = ']' :: r := skipGap_gap_append gap (by simp [IsMark]) r
    simp [value?, hskip]
  | @elements s vs separated =>
    have hitems := h.items separated (by simp at hfuel; omega) [] r
    obtain ⟨c, u, hskip, hc⟩ := separated.exists_skipGap Spells.exists_cons (']' :: r)
    rw [hskip] at hitems
    have hclose : c ≠ ']' := hc.2.2.1
    simp [value?, hskip, hclose, hitems]

theorem Complete.object_succ (h : Complete limits fuel) {levels : Nat} {t : List Char}
    {ms : List (String × Value)} (ht : Enclosed (Member (Spells limits levels)) '\x7b' '\x7d' t ms)
    (hfuel : 2 * t.length ≤ fuel + 1) (r : List Char) :
    value? limits (fuel + 1) (levels + 1) (t ++ r) = some (.object ms, r) := by
  cases ht with
  | @empty g gap =>
    have hskip : skipGap (g ++ '\x7d' :: r) = '\x7d' :: r :=
      skipGap_gap_append gap (by simp [IsMark]) r
    simp [value?, hskip]
  | @elements s ms separated =>
    have hmembers := h.members separated (by simp at hfuel; omega) [] r
    obtain ⟨c, u, hskip, hc⟩ := separated.exists_skipGap Member.exists_cons ('\x7d' :: r)
    rw [hskip] at hmembers
    have hclose : c ≠ '\x7d' := hc.2.2.2
    simp [value?, hskip, hclose, hmembers]

theorem Complete.items_succ (h : Complete limits fuel) {levels : Nat} {t : List Char}
    {vs : List Value} (ht : Separated (Padded (Spells limits levels)) t vs)
    (hfuel : 2 * t.length < fuel + 1) (read : List Value) (r : List Char) :
    items? limits (fuel + 1) levels read (skipGap (t ++ ']' :: r)) =
      some (.array (read.reverse ++ vs), r) := by
  cases ht with
  | @last t v element =>
    cases element with
    | @intro g s g' v before core after =>
      have hmark : IsMark ']' := by simp [IsMark]
      have hvalue := h.value core (by simp at hfuel; omega) (stops_gap_append after hmark r)
      have hskip := skipGap_of_exists_cons core.exists_cons (g' ++ ']' :: r)
      rw [List.append_assoc, List.append_assoc, skipGap_append before, hskip]
      simp [items?, hvalue, skipGap_gap_append after hmark]
  | @more t u v vs element rest =>
    cases element with
    | @intro g s g' v before core after =>
      have hmark : IsMark ',' := by simp [IsMark]
      have hvalue := h.value core (by simp at hfuel; omega)
        (stops_gap_append after hmark (u ++ ']' :: r))
      have hskip := skipGap_of_exists_cons core.exists_cons (g' ++ ',' :: (u ++ ']' :: r))
      have hrest := h.items rest (by simp at hfuel; omega) (v :: read) r
      rw [List.append_assoc, List.append_assoc, List.append_assoc, skipGap_append before,
        List.cons_append, hskip]
      simp [items?, hvalue, skipGap_gap_append after hmark, hrest]

/-- A member is read up to the mark behind it. -/
theorem Complete.members_front (h : Complete limits fuel) {levels : Nat} {t g r : List Char}
    {name : String} {v : Value} (core : Member (Spells limits levels) t (name, v)) (after : Gap g)
    (hfuel : 2 * t.length ≤ fuel) {c : Char} (hc : IsMark c) (read : List (String × Value)) :
    members? limits (fuel + 1) levels read (t ++ (g ++ c :: r)) =
      if c = ',' then members? limits fuel levels ((name, v) :: read) (skipGap r)
      else if c = '\x7d' then some (.object ((name, v) :: read).reverse, r)
      else none := by
  cases core with
  | @intro k g₁ g₂ s _ _ quoted before between value =>
    cases quoted with
    | @intro b _ body =>
      have hname : string? (b ++ '"' :: (g₁ ++ ':' :: (g₂ ++ (s ++ (g ++ c :: r))))) = _ :=
        string?_eq_some_iff.2 ⟨b, body, rfl⟩
      have hcolon := skipGap_gap_append before (c := ':') (by simp [IsMark])
        (g₂ ++ (s ++ (g ++ c :: r)))
      have hskip := skipGap_of_exists_cons value.exists_cons (g ++ c :: r)
      have hvalue := h.value value (by simp at hfuel; omega) (stops_gap_append after hc r)
      simp only [List.append_assoc, List.cons_append, List.nil_append, members?, hname, hcolon,
        skipGap_append between, hskip, hvalue, skipGap_gap_append after hc]
      rcases hc with rfl | rfl | rfl | rfl <;> rfl

theorem Complete.members_succ (h : Complete limits fuel) {levels : Nat} {t : List Char}
    {ms : List (String × Value)} (ht : Separated (Padded (Member (Spells limits levels))) t ms)
    (hfuel : 2 * t.length < fuel + 1) (read : List (String × Value)) (r : List Char) :
    members? limits (fuel + 1) levels read (skipGap (t ++ '\x7d' :: r)) =
      some (.object (read.reverse ++ ms), r) := by
  cases ht with
  | @last t m element =>
    cases element with
    | @intro g s g' m before core after =>
      have hskip := skipGap_of_exists_cons core.exists_cons (g' ++ '\x7d' :: r)
      have hfront := h.members_front core after (by simp at hfuel; omega) (c := '\x7d') (r := r)
        (by simp [IsMark]) read
      rw [List.append_assoc, List.append_assoc, skipGap_append before, hskip, hfront]
      simp
  | @more t u m ms element rest =>
    cases element with
    | @intro g s g' m before core after =>
      have hskip := skipGap_of_exists_cons core.exists_cons (g' ++ ',' :: (u ++ '\x7d' :: r))
      have hfront := h.members_front core after (by simp at hfuel; omega) (c := ',')
        (r := u ++ '\x7d' :: r) (by simp [IsMark]) read
      have hrest := h.members rest (by simp at hfuel; omega) (m :: read) r
      rw [List.append_assoc, List.append_assoc, List.append_assoc, skipGap_append before,
        List.cons_append, hskip, hfront]
      simpa using hrest

open Complete in
theorem complete (limits : Limits) (fuel : Nat) : Complete limits fuel := by
  induction fuel with
  | zero =>
    refine ⟨fun h hfuel _ => ?_, fun _ hfuel => ?_, fun _ hfuel => ?_⟩
    · obtain ⟨c, u, rfl, -⟩ := h.exists_cons
      simp at hfuel
    · omega
    · omega
  | succ fuel ih =>
    refine ⟨fun {levels} {t} {r} {v} h hfuel hr => ?_, ih.items_succ, ih.members_succ⟩
    cases levels with
    | zero => exact h.elim
    | succ levels =>
      rcases h with h | h
      · exact scalar_succ h hr
      · cases h with
        | array items => exact ih.array_succ items hfuel r
        | object members => exact ih.object_succ members hfuel r

end Completeness

/-! ## Whole texts -/

/-- Behind a value with blanks around it nothing but blanks are left. -/
theorem value?_of_padded {limits : Limits} {levels : Nat} {t : List Char} {v : Value}
    (h : Padded (Spells limits levels) t v) :
    ∃ r, value? limits (2 * t.length + 2) levels (skipGap t) = some (v, r) ∧ skipGap r = [] := by
  cases h with
  | @intro g s g' _ before core after =>
    have hskip : skipGap (g ++ s ++ g') = s ++ g' := by
      rw [List.append_assoc, skipGap_append before, skipGap_of_exists_cons core.exists_cons]
    have hvalue := (complete limits (2 * (g ++ s ++ g').length + 2)).value core
      (by simp; omega) (stops_of_gap after)
    refine ⟨g', by rw [hskip, hvalue], ?_⟩
    simpa [skipGap] using skipGap_append after []

/-- **A text is read as a value exactly when it spells that value.** -/
theorem read?_eq_some_iff {limits : Limits} {t : List Char} {v : Value} :
    Json.read? limits (String.ofList t) = some v ↔ Document limits t v := by
  unfold Json.read?
  simp only [String.toList_ofList]
  constructor
  · intro h
    split at h
    · cases h
    · next x r hvalue =>
      split at h
      · next hrest =>
        cases h
        obtain ⟨s, hs, hr⟩ := (sound _ _).value hvalue
        obtain ⟨g, hg, ht⟩ := exists_gap_append_skipGap t
        obtain ⟨g', hg', hg''⟩ := exists_gap_append_skipGap r
        rw [List.isEmpty_iff.1 hrest, List.append_nil] at hg''
        subst hg''
        rw [hr, ← List.append_assoc] at ht
        rw [ht]
        exact .intro hg hs hg'
      · cases h
  · intro h
    obtain ⟨r, hvalue, hr⟩ := value?_of_padded h
    rw [hvalue]
    simp [hr]

/-- A text spells one value at most, however many levels there may be. -/
theorem Spells.unique {limits : Limits} {levels levels' : Nat} {t : List Char} {v w : Value}
    (hv : Padded (Spells limits levels) t v) (hw : Padded (Spells limits levels') t w) : v = w := by
  obtain ⟨r, hr, -⟩ := value?_of_padded (hv.imp fun s hs => hs.mono (Nat.le_max_left levels levels'))
  obtain ⟨r', hr', -⟩ :=
    value?_of_padded (hw.imp fun s hs => hs.mono (Nat.le_max_right levels levels'))
  rw [hr] at hr'
  exact congrArg Prod.fst (Option.some.inj hr')

/-- A text that spells a value begins with an ASCII character, so no byte order mark comes first. -/
theorem Document.head?_ascii {limits : Limits} {t : List Char} {v : Value}
    (h : Document limits t v) : ∀ c ∈ t.head?, c.toNat < 128 := by
  intro c hc
  cases h with
  | @intro g s g' _ before core after =>
    cases g with
    | nil =>
      obtain ⟨b, u, rfl, hb, -⟩ := core.exists_cons
      cases hc
      exact hb
    | cons b g =>
      cases hc
      rcases before c List.mem_cons_self with rfl | rfl | rfl | rfl <;> decide

end Discography.Json
