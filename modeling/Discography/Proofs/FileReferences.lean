import Discography.Settings.EnvFile

/-!
# References in files of variables

A value in a file of variables can refer to variables by name. What the file binds under some names
depends on nothing but the bindings of these names and the variables that their values refer to.

* `RefersTo` — a value refers to a variable.
* `substitute_congr` — a value depends on the variables that it refers to.
* `only_resolve` — bindings of other names can be left out, if no value refers to them.
-/

set_option autoImplicit false

namespace Discography.Settings.EnvFile

/-- A value refers to a variable by a name. -/
inductive RefersTo : List Char → String → Prop
  | here {r name fallback t : List Char} (found : reference? r = some (name, fallback, t)) :
      RefersTo ('$' :: r) (String.ofList name)
  /-- A reference after the first one; what stands for a missing variable is no place for any. -/
  | after {r name fallback t : List Char} {n : String}
      (found : reference? r = some (name, fallback, t)) (rest : RefersTo t n) :
      RefersTo ('$' :: r) n
  | skip {c : Char} {r : List Char} {n : String} (plain : c = '$' → reference? r = none)
      (rest : RefersTo r n) : RefersTo (c :: r) n

/-- A value without a dollar sign refers to nothing. -/
theorem not_refersTo {s : List Char} {n : String} (h : '$' ∉ s) : ¬ RefersTo s n := by
  intro hrefers
  induction hrefers with
  | here => exact h List.mem_cons_self
  | after => exact h List.mem_cons_self
  | skip _ _ ih => exact ih fun hr => h (List.mem_cons_of_mem _ hr)

theorem substitute_congr {lookup lookup' : String → Option (Option String)} {s : List Char}
    (h : ∀ n, RefersTo s n → lookup n = lookup' n) (fuel : Nat) :
    substitute lookup fuel s = substitute lookup' fuel s := by
  induction fuel generalizing s with
  | zero => rfl
  | succ fuel ih =>
    cases s with
    | nil => rfl
    | cons c r =>
      by_cases hc : c = '$'
      · subst hc
        cases hfound : reference? r with
        | none =>
          have hrest := ih fun n hn => h n (.skip (fun _ => hfound) hn)
          simp only [substitute, hfound, if_true, hrest]
        | some found =>
          obtain ⟨name, fallback, t⟩ := found
          have hrest := ih fun n hn => h n (.after hfound hn)
          simp only [substitute, hfound, if_true, h _ (.here hfound), hrest]
      · have hrest := ih fun n hn => h n (.skip (fun hd => absurd hd hc) hn)
        simp only [substitute, hc, if_false, hrest]

/-! ## Leaving names out -/

/-- The bindings of the names that are kept. -/
def only {α : Type} (keep : String → Bool) (bound : List (String × α)) : List (String × α) :=
  bound.filter fun b => keep b.1

/-- The values under the names that are kept refer to such names alone. -/
def Closed (keep : String → Bool) (bound : List (String × Option String)) : Prop :=
  ∀ b ∈ only keep bound, ∀ t, b.2 = some t → ∀ n, RefersTo t.toList n → keep n = true

section LeftOut

variable {keep : String → Bool} {environment environment' : List (String × String)}

theorem only_bind_of_kept {b : String × Option String} (h : keep b.1 = true)
    (bound : List (String × Option String)) :
    only keep (bind b bound) = bind b (only keep bound) := by
  unfold only
  induction bound with
  | nil => simp only [bind, List.filter_cons, List.filter_nil, h, if_true]
  | cons c r ih =>
    by_cases hc : c.1 = b.1
    · simp only [bind, hc, if_true, List.filter_cons, h]
    · by_cases hkept : keep c.1 = true
      · simp only [bind, hc, if_false, List.filter_cons, hkept, if_true, ih]
      · simp only [bind, hc, if_false, List.filter_cons, hkept, ih, Bool.false_eq_true]

theorem only_bind_of_not_kept {b : String × Option String} (h : keep b.1 = false)
    (bound : List (String × Option String)) : only keep (bind b bound) = only keep bound := by
  unfold only
  induction bound with
  | nil => simp only [bind, List.filter_cons, h, Bool.false_eq_true, if_false]
  | cons c r ih =>
    by_cases hc : c.1 = b.1
    · simp only [bind, hc, if_true, List.filter_cons, h, Bool.false_eq_true, if_false]
    · simp only [bind, hc, if_false, List.filter_cons, ih]

/-- A name that is kept stands for the same without the others. -/
theorem meaning_only (henv : only keep environment = only keep environment')
    (done : List (String × Option String)) {name : String} (h : keep name = true) :
    meaning environment done name = meaning environment' (only keep done) name := by
  have hreverse (bindings : List (String × String)) :
      bindings.reverse.lookup name = (only keep bindings).reverse.lookup name := by
    unfold only
    rw [← List.filter_reverse, lookup_filter keep h]
  unfold meaning
  rw [hreverse environment, henv, ← hreverse environment']
  unfold only
  rw [lookup_filter keep h]

theorem only_resolveOne_of_kept (henv : only keep environment = only keep environment')
    (done : List (String × Option String)) {b : String × Option String} (h : keep b.1 = true)
    (hrefers : ∀ t, b.2 = some t → ∀ n, RefersTo t.toList n → keep n = true) :
    only keep (resolveOne environment done b) = resolveOne environment' (only keep done) b := by
  have hvalue : (b.2.map fun t => String.ofList
        (substitute (meaning environment done) (t.length + 1) t.toList)) =
      b.2.map fun t => String.ofList
        (substitute (meaning environment' (only keep done)) (t.length + 1) t.toList) := by
    cases ht : b.2 with
    | none => rfl
    | some t =>
      rw [Option.map_some, Option.map_some,
        substitute_congr fun n hn => meaning_only henv done (hrefers t ht n hn)]
  unfold resolveOne
  rw [only_bind_of_kept (by exact h), hvalue]

theorem only_resolveOne_of_not_kept (done : List (String × Option String))
    {b : String × Option String} (h : keep b.1 = false) :
    only keep (resolveOne environment done b) = only keep done := by
  unfold resolveOne
  exact only_bind_of_not_kept (by exact h) done

theorem only_foldl_resolveOne {bound : List (String × Option String)}
    (henv : only keep environment = only keep environment') (hclosed : Closed keep bound)
    (done : List (String × Option String)) :
    only keep (bound.foldl (resolveOne environment) done) =
      (only keep bound).foldl (resolveOne environment') (only keep done) := by
  -- What is bound so far agrees on the names that are kept; a value that refers to no other name
  -- comes out the same.
  induction bound generalizing done with
  | nil => rfl
  | cons b r ih =>
    by_cases hkept : keep b.1 = true
    · have hcons : only keep (b :: r) = b :: only keep r := by
        simp only [only, List.filter_cons, hkept, if_true]
      have hrest : Closed keep r := fun c hc => hclosed c (hcons ▸ List.mem_cons_of_mem b hc)
      rw [hcons, List.foldl_cons, List.foldl_cons, ih hrest,
        only_resolveOne_of_kept henv done hkept (hclosed b (hcons ▸ List.mem_cons_self))]
    · have hcons : only keep (b :: r) = only keep r := by
        simp only [only, List.filter_cons, hkept, if_false, Bool.false_eq_true]
      have hrest : Closed keep r := fun c hc => hclosed c (hcons ▸ hc)
      rw [hcons, List.foldl_cons, ih hrest,
        only_resolveOne_of_not_kept done (Bool.eq_false_iff.2 hkept)]

/-- **Bindings of other names can be left out**, and the variables of the environment too, if no
value of the others refers to them. -/
theorem only_resolve {bound : List (String × Option String)}
    (henv : only keep environment = only keep environment') (hclosed : Closed keep bound) :
    only keep (resolve environment bound) = resolve environment' (only keep bound) :=
  only_foldl_resolveOne henv hclosed []

/-- What a file binds under the names that are kept depends on these bindings and variables. -/
theorem only_resolve_congr {bound bound' : List (String × Option String)}
    (henv : only keep environment = only keep environment')
    (hbound : only keep bound = only keep bound') (hclosed : Closed keep bound) :
    only keep (resolve environment bound) = only keep (resolve environment' bound') := by
  have hclosed' : Closed keep bound' := by
    unfold Closed
    rw [← hbound]
    exact hclosed
  rw [only_resolve henv hclosed, only_resolve rfl hclosed', hbound]

end LeftOut

end Discography.Settings.EnvFile
