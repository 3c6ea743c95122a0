import Mathlib.Data.List.Induction
import Discography.Proofs.FileReferences
import Discography.Proofs.LastMembers
import Discography.Settings.Basic

/-!
# What the sources of settings give

Settings are looked up among arguments, variables of the environment and a file of variables. Here
is said, without the sources that are made of them, what these give under a name: the last argument
of that name, or the value of the last variable of that name in whatever case.

* `Setup.Gives` — what is given in one place, `Setup.Decides` — what the first place that gives
  anything gives.
* `Setup.decides_iff` — it is this that a lookup finds.
* `Setup.Decides.congr` — what is given under other names makes no difference, as long as the file
  does not refer to it.
-/

set_option autoImplicit false

namespace Discography.Settings

open Discography.Json Discography.Text

/-- What settings are made from: arguments, variables of the environment, and the text of a file of
variables. -/
structure Setup where
  arguments : Source := []
  environment : List (String × String) := []
  file : String := ""

/-- The sources of the process. -/
def Setup.sources (s : Setup) : Sources := .of s.arguments s.environment s.file

/-- Where settings are given. -/
inductive Place where
  | arguments
  | environment
  | file
  deriving DecidableEq, Repr

/-- The places in the order in which they are asked. -/
def Place.inOrder : List Place := [.arguments, .environment, .file]

/-- The first element of a list for which `R` gives something, and what it gives. -/
inductive FirstGiven {α β : Type} (R : α → Option β → Prop) : List α → Option β → Prop
  | nothing : FirstGiven R [] none
  | here {a : α} {l : List α} {b : β} (gives : R a (some b)) : FirstGiven R (a :: l) (some b)
  | later {a : α} {l : List α} {x : Option β} (nothing : R a none) (rest : FirstGiven R l x) :
      FirstGiven R (a :: l) x

section FirstGiven

variable {α β : Type} {R R' : α → Option β → Prop} {l : List α} {x : Option β}

theorem findSome?_eq_iff {f : α → Option β} (h : ∀ a x, f a = x ↔ R a x) :
    l.findSome? f = x ↔ FirstGiven R l x := by
  induction l with
  | nil =>
    constructor
    · rintro rfl
      exact .nothing
    · rintro ⟨⟩
      rfl
  | cons a l ih =>
    rw [List.findSome?_cons]
    cases hf : f a with
    | some b =>
      have hgives : R a (some b) := (h a _).1 hf
      constructor
      · rintro rfl
        exact .here hgives
      · intro hfirst
        cases hfirst with
        | here gives => rw [← (h a _).2 gives, hf]
        | later nothing _ => cases hf.symm.trans ((h a _).2 nothing)
    | none =>
      have hnothing : R a none := (h a _).1 hf
      constructor
      · intro hrest
        exact .later hnothing (ih.1 hrest)
      · intro hfirst
        cases hfirst with
        | here gives => cases hf.symm.trans ((h a _).2 gives)
        | later _ rest => exact ih.2 rest

theorem FirstGiven.mono (h : FirstGiven R l x) (himp : ∀ a ∈ l, ∀ x, R a x → R' a x) :
    FirstGiven R' l x := by
  induction h with
  | nothing => exact .nothing
  | here gives => exact .here (himp _ List.mem_cons_self _ gives)
  | later nothing _ ih =>
    refine .later (himp _ List.mem_cons_self _ nothing) (ih fun a ha => ?_)
    exact himp a (List.mem_cons_of_mem _ ha)

end FirstGiven

/-! ## What each place gives -/

/-- Bindings under their lower-case names, one without a value as null. -/
def lowered (bound : List (String × Option String)) : Source :=
  bound.map fun b => (lowerText b.1, .ofText? b.2)

namespace Setup

variable {s s' : Setup} {o : Place} {name : String} {x : Option Value}

/-- The bindings of the file, with the references in their values replaced. -/
def bound (s : Setup) : List (String × Option String) :=
  EnvFile.resolve s.environment (EnvFile.read s.file)

/-- What is given under a name in one place. A name of the file without a value gives nothing, and
hides those before it. -/
def Gives (s : Setup) : Place → String → Option Value → Prop
  | .arguments, name, x => Counts name s.arguments x
  | .environment, name, x => Counts name (environmentSource s.environment) x
  | .file, name, x =>
    (Counts name (lowered s.bound) x ∧ x ≠ some .null) ∨
      (Counts name (lowered s.bound) (some .null) ∧ x = none)

/-- What is given under the first of some names in one place, with that name. -/
def GivesUnder (s : Setup) (names : List String) (o : Place) : Option (String × Value) → Prop :=
  FirstGiven (fun name x => ∃ y, s.Gives o name y ∧ x = y.map (name, ·)) names

/-- What is given in the first place that gives anything under any of some names. -/
def Decides (s : Setup) (names : List String) : Option (String × Value) → Prop :=
  FirstGiven (s.GivesUnder names) Place.inOrder

end Setup

/-! ## The sources that are made of them -/

theorem last?_map {α : Type} (f : α → Value) (name : String) (bound : List (String × α)) :
    last? name (bound.map fun b => (b.1, f b.2)) = (bound.reverse.lookup name).map f := by
  unfold last?
  rw [← List.map_reverse]
  induction bound.reverse with
  | nil => rfl
  | cons b r ih =>
    rw [List.map_cons, List.find?_cons, List.lookup_cons]
    by_cases h : name = b.1
    · rw [beq_iff_eq.2 h.symm, beq_iff_eq.2 h]
      rfl
    · rw [beq_eq_false_iff_ne.2 (Ne.symm h), beq_eq_false_iff_ne.2 h]
      exact ih

namespace EnvFile

theorem settle_concat (bound : List (String × Option String)) (b : String × Option String) :
    settle (bound ++ [b]) = bind b (settle bound) := by
  unfold settle
  rw [List.foldl_append]
  rfl

/-- The last binding of a name is found once the bindings are settled. -/
theorem lookup_settle (name : String) (bound : List (String × Option String)) :
    (settle bound).lookup name = bound.reverse.lookup name := by
  induction bound using List.reverseRecOn with
  | nil => rfl
  | append_singleton bound b ih =>
    rw [settle_concat, lookup_bind, ih, List.reverse_append, List.reverse_singleton,
      List.singleton_append, List.lookup_cons]
    by_cases h : name = b.1
    · rw [if_pos h, beq_iff_eq.2 h]
    · rw [if_neg h, beq_eq_false_iff_ne.2 h]

theorem mem_names_bind {b : String × Option String} {bound : List (String × Option String)}
    {name : String} : name ∈ (bind b bound).map (·.1) ↔ name = b.1 ∨ name ∈ bound.map (·.1) := by
  induction bound with
  | nil => simp [bind]
  | cons c r ih =>
    by_cases hc : c.1 = b.1
    · simp [bind, hc]
    · simp [bind, hc, ih]
      tauto

/-- No name is settled twice. -/
theorem nodup_settle (bound : List (String × Option String)) :
    ((settle bound).map (·.1)).Nodup := by
  have hbind (b : String × Option String) (done : List (String × Option String))
      (h : (done.map (·.1)).Nodup) : ((bind b done).map (·.1)).Nodup := by
    induction done with
    | nil => simp [bind]
    | cons c r ih =>
      obtain ⟨hc, hr⟩ := List.nodup_cons.1 h
      by_cases he : c.1 = b.1
      · rw [bind, if_pos he, List.map_cons]
        exact List.nodup_cons.2 ⟨he ▸ hc, hr⟩
      · rw [bind, if_neg he, List.map_cons]
        exact List.nodup_cons.2 ⟨by rw [mem_names_bind]; exact not_or.2 ⟨he, hc⟩, ih hr⟩
  induction bound using List.reverseRecOn with
  | nil => exact List.nodup_nil
  | append_singleton bound b ih =>
    rw [settle_concat]
    exact hbind b _ ih

/-- The bindings with a value, as a source. -/
def valued (bound : List (String × Option String)) : Source :=
  bound.filterMap fun b => b.2.map fun v => (b.1, .text v)

theorem absent_valued {name : String} {bound : List (String × Option String)}
    (h : ∀ b ∈ bound, b.1 ≠ name) : ∀ m ∈ valued bound, m.1 ≠ name := by
  intro m hm
  obtain ⟨b, hb, hvalue⟩ := List.mem_filterMap.1 hm
  obtain ⟨v, -, rfl⟩ := Option.map_eq_some_iff.1 hvalue
  exact h b hb

/-- Of names that are bound once, the one binding is found. -/
theorem last?_valued {bound : List (String × Option String)} (h : (bound.map (·.1)).Nodup)
    (name : String) : last? name (valued bound) = (bound.lookup name).join.map .text := by
  cases hfound : bound.lookup name with
  | none =>
    refine last?_of_absent (absent_valued fun b hb => ?_)
    exact Ne.symm (bne_iff_ne.1 (List.lookup_eq_none_iff.1 hfound b hb))
  | some y =>
    obtain ⟨before, after, rfl, hbefore⟩ := List.lookup_eq_some_iff.1 hfound
    -- The binding that is found first is the only one of its name, and so the last one.
    have hbefore' : ∀ b ∈ before, b.1 ≠ name := fun b hb => Ne.symm (bne_iff_ne.1 (hbefore b hb))
    have hafter : ∀ b ∈ after, b.1 ≠ name := by
      rintro b hb rfl
      rw [List.map_append, List.map_cons] at h
      exact (List.nodup_cons.1 (List.nodup_append.1 h).2.1).1 (List.mem_map_of_mem (f := (·.1)) hb)
    have hsplit : valued (before ++ (name, y) :: after) =
        valued before ++ (valued [(name, y)] ++ valued after) := by
      unfold valued
      rw [← List.filterMap_append, ← List.filterMap_append, List.singleton_append]
    rw [hsplit, last?_append, last?_append, last?_of_absent (absent_valued hbefore'),
      last?_of_absent (absent_valued hafter), Option.none_or, Option.or_none]
    cases y with
    | none => rfl
    | some v => simp [valued, last?]

end EnvFile

theorem given_eq_iff {name : String} {ms : List (String × Value)} {x : Option Value} :
    given name ms = x ↔
      (Counts name ms x ∧ x ≠ some .null) ∨ (Counts name ms (some .null) ∧ x = none) := by
  rw [← last?_eq_iff, ← last?_eq_iff]
  unfold given
  split
  · next hnull =>
    rw [hnull]
    constructor
    · rintro rfl
      exact .inr ⟨rfl, rfl⟩
    · rintro (⟨rfl, hne⟩ | ⟨-, rfl⟩)
      · exact absurd rfl hne
      · rfl
  · next y hother =>
    constructor
    · rintro rfl
      exact .inl ⟨rfl, hother⟩
    · rintro (⟨rfl, -⟩ | ⟨hnull, -⟩)
      · rfl
      · exact absurd hnull hother

/-- A file gives the last value of a name, and nothing if that has none. -/
theorem last?_fileSource (name : String) (environment : List (String × String)) (file : String) :
    last? name (fileSource environment file) =
      given name (lowered (EnvFile.resolve environment (EnvFile.read file))) := by
  let named := (EnvFile.resolve environment (EnvFile.read file)).map fun b => (lowerText b.1, b.2)
  have hlowered : lowered (EnvFile.resolve environment (EnvFile.read file)) =
      named.map fun b => (b.1, .ofText? b.2) := by
    rw [List.map_map]
    rfl
  have hfile : last? name (fileSource environment file) =
      (named.reverse.lookup name).join.map .text := by
    rw [← EnvFile.lookup_settle]
    exact EnvFile.last?_valued (EnvFile.nodup_settle named) name
  rw [hfile, hlowered, given, last?_map]
  rcases named.reverse.lookup name with - | - | v <;> rfl

namespace Setup

variable {s s' : Setup} {o : Place} {names : List String} {name : String} {x : Option Value}

/-- The source of a place. -/
def source (s : Setup) : Place → Source
  | .arguments => s.arguments
  | .environment => environmentSource s.environment
  | .file => fileSource s.environment s.file

theorem gives_iff : last? name (s.source o) = x ↔ s.Gives o name x := by
  cases o with
  | arguments => exact last?_eq_iff
  | environment => exact last?_eq_iff
  | file =>
    have hgiven : last? name (s.source .file) = given name (lowered s.bound) :=
      last?_fileSource name s.environment s.file
    rw [hgiven]
    exact given_eq_iff

/-- **A lookup finds what the first place gives that gives anything.** -/
theorem decides_iff {x : Option (String × Value)} :
    lookup? names s.sources.inOrder = x ↔ s.Decides names x := by
  have hunder (o : Place) (y : Option (String × Value)) :
      given? names (s.source o) = y ↔ s.GivesUnder names o y := by
    refine findSome?_eq_iff fun name y => ?_
    constructor
    · rintro rfl
      exact ⟨_, gives_iff.1 rfl, rfl⟩
    · rintro ⟨v, hv, rfl⟩
      rw [gives_iff.2 hv]
  rw [Decides, ← findSome?_eq_iff hunder]
  rfl

/-! ## What makes no difference -/

/-- Names other than these. -/
def beside (names : List String) (name : String) : Bool := !names.contains name

/-- Names other than these, whatever their case. -/
def besideLowered (names : List String) (name : String) : Bool := beside names (lowerText name)

/-- Two setups say the same under all other names than these. -/
structure AlikeBeside (names : List String) (s s' : Setup) : Prop where
  arguments : EnvFile.only (beside names) s.arguments = EnvFile.only (beside names) s'.arguments
  environment : EnvFile.only (besideLowered names) s.environment =
    EnvFile.only (besideLowered names) s'.environment
  file : EnvFile.only (besideLowered names) (EnvFile.read s.file) =
    EnvFile.only (besideLowered names) (EnvFile.read s'.file)

/-- No value of the file under another name than these refers to one of these. -/
def Unmentioned (names : List String) (s : Setup) : Prop :=
  EnvFile.Closed (besideLowered names) (EnvFile.read s.file)

theorem last?_only {keep : String → Bool} (h : keep name = true) (ms : Source) :
    last? name (EnvFile.only keep ms) = last? name ms :=
  last?_filter fun _ => h

/-- What is given under a name depends on the variables of that name, in whatever case. -/
theorem last?_lowered_congr {α : Type} {f : α → Value} {vs vs' : List (String × α)}
    (h : beside names name = true)
    (halike : EnvFile.only (besideLowered names) vs = EnvFile.only (besideLowered names) vs') :
    last? name (vs.map fun v => (lowerText v.1, f v.2)) =
      last? name (vs'.map fun v => (lowerText v.1, f v.2)) := by
  have honly (vs : List (String × α)) :
      EnvFile.only (beside names) (vs.map fun v => (lowerText v.1, f v.2)) =
        (EnvFile.only (besideLowered names) vs).map fun v => (lowerText v.1, f v.2) :=
    List.filter_map
  rw [← last?_only h, honly, halike, ← honly, last?_only h]

theorem last?_source_congr (h : AlikeBeside names s s') (hfile : Unmentioned names s)
    (hname : beside names name = true) :
    last? name (s.source o) = last? name (s'.source o) := by
  cases o with
  | arguments =>
    show last? name s.arguments = last? name s'.arguments
    rw [← last?_only hname, h.arguments, last?_only hname]
  | environment => exact last?_lowered_congr hname h.environment
  | file =>
    show last? name (fileSource _ _) = last? name (fileSource _ _)
    rw [last?_fileSource, last?_fileSource]
    exact given_congr
      (last?_lowered_congr hname (EnvFile.only_resolve_congr h.environment h.file hfile))

/-- **What is said under other names makes no difference**, as long as no value of the file refers
to it. -/
theorem Decides.congr {asked : List String} {x : Option (String × Value)}
    (h : AlikeBeside names s s') (hfile : Unmentioned names s)
    (hasked : ∀ name ∈ asked, beside names name = true) (hx : s.Decides asked x) :
    s'.Decides asked x := by
  refine hx.mono fun o _ y hy => hy.mono fun name hname z hz => ?_
  obtain ⟨v, hv, rfl⟩ := hz
  refine ⟨v, gives_iff.1 ?_, rfl⟩
  rw [← last?_source_congr h hfile (hasked name hname), gives_iff.2 hv]

end Setup

end Discography.Settings
