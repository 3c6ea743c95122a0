import Discography.Store.Table

/-!
# Listings

A listing shows the rows by title, where the case of ASCII letters does not count and titles are
compared by their UTF-8 bytes, and rows of one title by id. A window of a listing skips a number of
rows and shows at most a number of them.

* `listed_perm` — a listing has exactly the rows of the table.
* `listedBefore_total`, `listedBefore_trans` — the order of a listing is total and transitive.
-/

set_option autoImplicit false

namespace Discography.Store

/-- A text with its ASCII letters in lower case. -/
def lowerAscii (s : String) : String := String.ofList (s.toList.map Char.toLower)

/-- The bytes by which a title is compared. -/
def titleKey (s : String) : List UInt8 := (lowerAscii s).toUTF8.data.toList

/-- Whether bytes come before or are the same as other bytes. -/
def bytesLe : List UInt8 → List UInt8 → Bool
  | [], _ => true
  | _ :: _, [] => false
  | a :: as, b :: bs => if a = b then bytesLe as bs else decide (a < b)

theorem bytesLe_total (a b : List UInt8) : bytesLe a b = true ∨ bytesLe b a = true := by
  induction a generalizing b with
  | nil => simp [bytesLe]
  | cons x xs ih =>
    cases b with
    | nil => simp [bytesLe]
    | cons y ys =>
      unfold bytesLe
      by_cases h : x = y
      · simpa [h] using ih ys
      · have hyx : ¬ y = x := fun h' => h h'.symm
        simp only [h, hyx, if_false, decide_eq_true_eq]
        rcases UInt8.lt_or_lt_of_ne h with h1 | h1
        · exact .inl h1
        · exact .inr h1

theorem bytesLe_trans {a b c : List UInt8} (hab : bytesLe a b = true) (hbc : bytesLe b c = true) :
    bytesLe a c = true := by
  induction a generalizing b c with
  | nil => simp [bytesLe]
  | cons x xs ih =>
    cases b with
    | nil => simp [bytesLe] at hab
    | cons y ys =>
      cases c with
      | nil => simp [bytesLe] at hbc
      | cons z zs =>
        unfold bytesLe at hab hbc ⊢
        by_cases hxy : x = y
        · subst hxy
          by_cases hxz : x = z
          · subst hxz
            simp only [if_true] at hab hbc ⊢
            exact ih hab hbc
          · simp only [hxz, if_false] at hbc ⊢
            exact hbc
        · by_cases hyz : y = z
          · subst hyz
            simp only [hxy, if_false] at hab ⊢
            exact hab
          · simp only [hxy, hyz, if_false, decide_eq_true_eq] at hab hbc
            have hxz := UInt8.lt_trans hab hbc
            rw [if_neg (UInt8.ne_of_lt hxz)]
            exact decide_eq_true hxz

theorem bytesLe_antisymm {a b : List UInt8} (hab : bytesLe a b = true) (hba : bytesLe b a = true) :
    a = b := by
  induction a generalizing b with
  | nil =>
    cases b with
    | nil => rfl
    | cons y ys => simp [bytesLe] at hba
  | cons x xs ih =>
    cases b with
    | nil => simp [bytesLe] at hab
    | cons y ys =>
      unfold bytesLe at hab hba
      by_cases h : x = y
      · subst h
        simp only [if_true] at hab hba
        rw [ih hab hba]
      · have hyx : ¬ y = x := fun h' => h h'.symm
        simp only [h, hyx, if_false, decide_eq_true_eq] at hab hba
        exact absurd hab (UInt8.lt_asymm hba)

/-- Whether a row is listed before another one or is the same. -/
def listedBefore (a b : Row) : Bool :=
  if titleKey a.title = titleKey b.title then decide (a.id.value ≤ b.id.value)
  else bytesLe (titleKey a.title) (titleKey b.title)

theorem listedBefore_total (a b : Row) : (listedBefore a b || listedBefore b a) = true := by
  unfold listedBefore
  by_cases h : titleKey a.title = titleKey b.title
  · simp only [h, if_true, Bool.or_eq_true, decide_eq_true_eq]
    omega
  · have h' : ¬ titleKey b.title = titleKey a.title := fun e => h e.symm
    simpa [h, h'] using bytesLe_total (titleKey a.title) (titleKey b.title)

theorem listedBefore_trans (a b c : Row) (hab : listedBefore a b = true)
    (hbc : listedBefore b c = true) : listedBefore a c = true := by
  unfold listedBefore at *
  by_cases h1 : titleKey a.title = titleKey b.title
  · by_cases h2 : titleKey b.title = titleKey c.title
    · simp only [h1, h2, if_true, decide_eq_true_eq] at *
      omega
    · rw [if_neg h2] at hbc
      rw [h1, if_neg h2]
      exact hbc
  · rw [if_neg h1] at hab
    by_cases h2 : titleKey b.title = titleKey c.title
    · rw [← h2, if_neg h1]
      exact hab
    · rw [if_neg h2] at hbc
      have hac := bytesLe_trans hab hbc
      by_cases h3 : titleKey a.title = titleKey c.title
      · rw [← h3] at hbc
        exact absurd (bytesLe_antisymm hab hbc) h1
      · rw [if_neg h3]
        exact hac

namespace Table

/-- All rows in the order of a listing. -/
def listed (t : Table) : List Row := t.rows.mergeSort listedBefore

theorem listed_perm (t : Table) : t.listed.Perm t.rows := List.mergeSort_perm _ _

/-- The rows after the first `offset` ones, at most `limit` of them. A negative offset counts as
zero, and a negative limit as none. -/
def window (t : Table) (offset limit : Int) : List Row :=
  let rest := t.listed.drop offset.toNat
  if limit < 0 then rest else rest.take limit.toNat

end Table

end Discography.Store
