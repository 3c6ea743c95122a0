import Discography.Proofs.Storage

/-!
# The order of a listing

Rows are listed in the order of the bytes of their titles in lower case, and rows of one title in the
order of their ids. On the rows of a table this order is strict and total, so that there is one way
only to list them.

* `Precedes` — the order of a listing, without reference to how rows are sorted.
* `listed_pairwise` — a listing is in order.
* `eq_of_precedes`, `mergeSort_eq_listed` — a listing depends on the set of rows alone.
-/

set_option autoImplicit false

namespace Discography.Store

/-- Bytes are compared as lists are. -/
theorem bytesLe_iff {a b : List UInt8} : bytesLe a b = true ↔ a < b ∨ a = b := by
  induction a generalizing b with
  | nil => cases b <;> simp [bytesLe]
  | cons x xs ih =>
    cases b with
    | nil => simp [bytesLe]
    | cons y ys =>
      unfold bytesLe
      rw [List.cons_lt_cons_iff, List.cons.injEq]
      by_cases h : x = y
      · subst h
        rw [if_pos rfl, ih]
        simp
      · rw [if_neg h]
        simp [h]

/-- A row comes before another one in a listing. -/
def Precedes (a b : Row) : Prop :=
  titleKey a.title < titleKey b.title ∨
    (titleKey a.title = titleKey b.title ∧ a.id.value < b.id.value)

/-! ## A strict order, total on rows of different ids -/

theorem not_precedes_self (a : Row) : ¬ Precedes a a := by
  rintro (h | ⟨-, h⟩)
  · exact List.lt_irrefl _ h
  · exact Nat.lt_irrefl _ h

theorem precedes_trans {a b c : Row} (hab : Precedes a b) (hbc : Precedes b c) : Precedes a c := by
  rcases hab with hab | ⟨hab, hi⟩
  · rcases hbc with hbc | ⟨hbc, -⟩
    · exact .inl (List.lt_trans hab hbc)
    · exact .inl (hbc ▸ hab)
  · rcases hbc with hbc | ⟨hbc, hj⟩
    · exact .inl (hab ▸ hbc)
    · exact .inr ⟨hab.trans hbc, Nat.lt_trans hi hj⟩

theorem precedes_of_listedBefore {a b : Row} (h : listedBefore a b = true) (hne : a.id ≠ b.id) :
    Precedes a b := by
  unfold listedBefore at h
  split at h
  · rename_i htitle
    refine .inr ⟨htitle, Nat.lt_of_le_of_ne (of_decide_eq_true h) fun he => hne ?_⟩
    cases ha : a.id
    cases hb : b.id
    simp_all
  · rename_i htitle
    exact .inl ((bytesLe_iff.1 h).resolve_right htitle)

/-! ## One way to list rows -/

/-- Two lists in one strict order that have the same elements are equal. -/
theorem eq_of_strict {α : Type} {R : α → α → Prop} (irrefl : ∀ a, ¬ R a a)
    (trans : ∀ a b c, R a b → R b c → R a c) {xs ys : List α} (hx : xs.Pairwise R)
    (hy : ys.Pairwise R) (h : ∀ a, a ∈ xs ↔ a ∈ ys) : xs = ys := by
  have hnodup {l : List α} (hl : l.Pairwise R) : l.Nodup := by
    refine hl.imp ?_
    rintro a b hab rfl
    exact irrefl a hab
  refine List.Perm.eq_of_pairwise ?_ hx hy
    ((List.perm_ext_iff_of_nodup (hnodup hx) (hnodup hy)).2 h)
  intro a b _ _ hab hba
  exact absurd (trans a b a hab hba) (irrefl a)

/-- Two lists in order that have the same rows are equal. -/
theorem eq_of_precedes {xs ys : List Row} (hx : xs.Pairwise Precedes) (hy : ys.Pairwise Precedes)
    (h : ∀ r, r ∈ xs ↔ r ∈ ys) : xs = ys :=
  eq_of_strict not_precedes_self (fun _ _ _ => precedes_trans) hx hy h

/-- Rows of different ids are sorted into the order of a listing. -/
theorem mergeSort_pairwise {rows : List Row} (h : rows.Pairwise fun a b => a.id ≠ b.id) :
    (rows.mergeSort listedBefore).Pairwise Precedes := by
  have hsorted := List.pairwise_mergeSort listedBefore_trans listedBefore_total rows
  have hne := (List.mergeSort_perm rows listedBefore).symm.pairwise h fun hab => Ne.symm hab
  refine (hsorted.and hne).imp ?_
  rintro a b ⟨hab, hne⟩
  exact precedes_of_listedBefore hab hne

namespace Table

theorem listed_pairwise (t : Table) : t.listed.Pairwise Precedes :=
  mergeSort_pairwise t.rows_pairwise_ne

/-- In whatever order the rows of a table are held, sorting them gives its listing. -/
theorem mergeSort_eq_listed (t : Table) {rows : List Row} (h : rows.Perm t.rows) :
    rows.mergeSort listedBefore = t.listed := by
  have hne := h.symm.pairwise t.rows_pairwise_ne fun hab => Ne.symm hab
  refine eq_of_precedes (mergeSort_pairwise hne) t.listed_pairwise fun r => ?_
  rw [((List.mergeSort_perm rows listedBefore).trans h).mem_iff, t.listed_perm.mem_iff]

end Table

end Discography.Store
