import Mathlib.Data.List.Induction
import Discography.Log.Root

/-!
# Setting up logging again and again

The entry point of the service and its lifespan both set up logging, each with a word for the level
and a word for the form. Whatever the root has been before, each call leaves one handler, so that no
event is written twice. The level is the one that the word names in capitals, and information for
any other word, but for two words: what they name among the things of logging is no level, and a
call with one of them fails after it has replaced the handler and leaves the level as it was.

* `Stands` — the level that a word stands for; `Misleads` — the two words that fail, and how.
* `levelOfWord_eq_ok`, `levelOfWord_eq_error` — every word is read in one of the two ways.
* `called_of_legible`, `called_of_misleads` — what a call does in each of the two cases.
* `levelAfter_setUpAll` — the level that calls leave is that of the last word that can be read.
* `last_setUp_decides` — what every call of every sequence leaves.
-/

set_option autoImplicit false

namespace Discography.Log

/-! ## Words for levels -/

/-- The level that a word stands for: the one that it names in capitals, and information if it names
none. -/
inductive Stands (word : String) : Int → Prop
  | named {n : Int} (known : (upperWord word, n) ∈ levelWords) : Stands word n
  | unnamed (unknown : ∀ n, (upperWord word, n) ∉ levelWords) : Stands word Level.info.number

/-- The words that name something in capitals that is no level, with the failures that they lead
to. -/
inductive Misleads (word : String) : Failure → Prop
  | form (upper : upperWord word = formWord) : Misleads word levelIsForm
  | styles (upper : upperWord word = stylesWord) : Misleads word levelIsStyles

/-- A word that can be read as a level. -/
def Legible (word : String) : Prop := upperWord word ≠ formWord ∧ upperWord word ≠ stylesWord

section Words

variable {word : String} {n m : Int} {f : Failure}

theorem legible_or_misleads (word : String) : Legible word ∨ ∃ f, Misleads word f := by
  by_cases hform : upperWord word = formWord
  · exact .inr ⟨_, .form hform⟩
  · by_cases hstyles : upperWord word = stylesWord
    · exact .inr ⟨_, .styles hstyles⟩
    · exact .inl ⟨hform, hstyles⟩

/-- A level has one number, whichever of its names is used. -/
theorem levelWords_functional :
    ∀ p ∈ levelWords, ∀ q ∈ levelWords, p.1 = q.1 → p.2 = q.2 := by
  decide

/-- **A word stands for one level only.** -/
theorem Stands.unique (h : Stands word n) (h' : Stands word m) : n = m := by
  cases h with
  | named known =>
    cases h' with
    | named known' => exact levelWords_functional _ known _ known' rfl
    | unnamed unknown => exact absurd known (unknown _)
  | unnamed unknown =>
    cases h' with
    | named known => exact absurd known (unknown _)
    | unnamed => rfl

theorem mem_levelWords_of_lookup {name : String} (h : levelWords.lookup name = some n) :
    (name, n) ∈ levelWords := by
  obtain ⟨before, after, hwords, -⟩ := List.lookup_eq_some_iff.1 h
  rw [hwords]
  simp

theorem not_mem_levelWords_of_lookup {name : String} (h : levelWords.lookup name = none) :
    (name, n) ∉ levelWords := by
  intro hmem
  have hne := List.lookup_eq_none_iff.1 h _ hmem
  simp at hne

/-- The two words that fail name no level. -/
theorem Misleads.lookup_eq_none (h : Misleads word f) :
    levelWords.lookup (upperWord word) = none := by
  cases h with
  | form upper => rw [upper]; decide
  | styles upper => rw [upper]; decide

/-- **Every word but two is read as the level that it stands for.** -/
theorem levelOfWord_eq_ok (h : Legible word) : ∃ n, levelOfWord word = .ok n ∧ Stands word n := by
  obtain ⟨hform, hstyles⟩ := h
  unfold levelOfWord
  dsimp only
  split
  · next n hlookup => exact ⟨n, rfl, .named (mem_levelWords_of_lookup hlookup)⟩
  · next hlookup =>
    rw [if_neg hform, if_neg hstyles]
    exact ⟨_, rfl, .unnamed fun n => not_mem_levelWords_of_lookup hlookup⟩

theorem levelOfWord_eq_error (h : Misleads word f) : levelOfWord word = .error f := by
  have hlookup := h.lookup_eq_none
  unfold levelOfWord
  dsimp only
  rw [hlookup]
  cases h with
  | form upper => exact if_pos upper
  | styles upper =>
    have hform : upperWord word ≠ formWord := by rw [upper]; decide
    rw [if_neg hform, if_pos upper]

end Words

/-! ## Calls in turn -/

theorem Form.ofWord_eq_json_iff {word : String} : Form.ofWord word = .json ↔ word = "json" := by
  unfold Form.ofWord
  split <;> simp_all

theorem Form.ofWord_eq_text_iff {word : String} : Form.ofWord word = .text ↔ word ≠ "json" := by
  unfold Form.ofWord
  split <;> simp_all

/-- The two words that logging is set up with. -/
structure Setup where
  level : String
  format : String
  deriving DecidableEq, Repr

/-- The level after calls that began with some level: that of the last word that can be read. -/
inductive LevelAfter (start : Int) : List Setup → Int → Prop
  | start : LevelAfter start [] start
  | set {calls : List Setup} {c : Setup} {n : Int} (legible : Legible c.level)
      (stands : Stands c.level n) : LevelAfter start (calls ++ [c]) n
  | kept {calls : List Setup} {c : Setup} {f : Failure} {n : Int} (misleads : Misleads c.level f)
      (before : LevelAfter start calls n) : LevelAfter start (calls ++ [c]) n

namespace Root

variable {r : Root} {c : Setup} {f : Failure}

/-- The root after a call, and what the call comes to. -/
def called (r : Root) (c : Setup) : Except Failure Unit × Root := r.setUp c.level c.format

/-- The root after calls in turn, whether they succeed or fail. -/
def setUpAll (r : Root) (calls : List Setup) : Root := calls.foldl (fun r c => (r.called c).2) r

theorem setUpAll_concat (r : Root) (calls : List Setup) (c : Setup) :
    r.setUpAll (calls ++ [c]) = ((r.setUpAll calls).called c).2 := by
  simp [setUpAll]

/-- A call with a word that can be read sets the level and the handler. -/
theorem called_of_legible (h : Legible c.level) :
    ∃ n, Stands c.level n ∧ r.called c = (.ok (), ⟨n, [Form.ofWord c.format]⟩) := by
  obtain ⟨n, hlevel, hstands⟩ := levelOfWord_eq_ok h
  exact ⟨n, hstands, level_setUp hlevel⟩

/-- A call with a word that cannot be read fails and sets the handler alone. -/
theorem called_of_misleads (h : Misleads c.level f) :
    r.called c = (.error f, ⟨r.level, [Form.ofWord c.format]⟩) := by
  simp only [called, setUp, levelOfWord_eq_error h]

/-- **The level that calls leave** is that of the last word that can be read. -/
theorem levelAfter_setUpAll (r : Root) (calls : List Setup) :
    LevelAfter r.level calls (r.setUpAll calls).level := by
  induction calls using List.reverseRecOn with
  | nil => exact .start
  | append_singleton calls c ih =>
    rw [setUpAll_concat]
    rcases legible_or_misleads c.level with hlegible | ⟨f, hmisleads⟩
    · obtain ⟨n, hstands, hcall⟩ := (r.setUpAll calls).called_of_legible hlegible
      rw [hcall]
      exact .set hlegible hstands
    · rw [called_of_misleads hmisleads]
      exact .kept hmisleads ih

/-- A root with one handler writes an event once, or not at all if it is below the level. -/
theorem entries_of_one_handler {form : Form} (h : r.handlers = [form]) (e : Event) :
    r.entries e = if r.level ≤ e.level.number then [⟨form, e⟩] else [] := by
  have hpos : 0 < e.level.number := by cases e.level <;> decide
  by_cases hlevel : r.level ≤ e.level.number <;>
    simp [entries, formsFor, isEnabled, h, hpos, hlevel]

/-- **The last call decides.** Whatever the root was and whatever calls came before, a call leaves
one handler, for JSON exactly if its word for the form is that very word and for text otherwise, so
that an event is written once if it is not below the level and not at all otherwise. A call whose
word for the level can be read succeeds and leaves the level that the word stands for. A call fails
exactly if its word is one of the two that name something else, and then leaves the level that it
found: that of the last word before it that could be read. -/
theorem last_setUp_decides (r : Root) (calls : List Setup) (c : Setup) :
    let before := r.setUpAll calls
    let after := r.setUpAll (calls ++ [c])
    (∃ form, after.handlers = [form] ∧ (form = .json ↔ c.format = "json") ∧
      (form = .text ↔ c.format ≠ "json") ∧
      ∀ e, after.entries e = if after.level ≤ e.level.number then [⟨form, e⟩] else []) ∧
    (Legible c.level →
      (before.called c).1 = .ok () ∧ ∀ n, Stands c.level n ↔ after.level = n) ∧
    (∀ f, (before.called c).1 = .error f ↔ Misleads c.level f) ∧
    (¬ Legible c.level → after.level = before.level) ∧
    LevelAfter r.level (calls ++ [c]) after.level := by
  intro before after
  have hafter : after = (before.called c).2 := r.setUpAll_concat calls c
  have hhandlers : after.handlers = [Form.ofWord c.format] := by
    rw [hafter]
    exact handlers_setUp _ _ _
  refine ⟨⟨Form.ofWord c.format, hhandlers, Form.ofWord_eq_json_iff, Form.ofWord_eq_text_iff,
    entries_of_one_handler hhandlers⟩, ?legible, ?fails, ?keeps, r.levelAfter_setUpAll _⟩
  case legible =>
    intro hlegible
    obtain ⟨n, hstands, hcall⟩ := before.called_of_legible hlegible
    rw [hafter, hcall]
    refine ⟨rfl, fun m => ⟨hstands.unique, ?_⟩⟩
    rintro rfl
    exact hstands
  case fails =>
    intro f
    constructor
    · intro hfails
      rcases legible_or_misleads c.level with hlegible | ⟨g, hmisleads⟩
      · obtain ⟨n, -, hcall⟩ := before.called_of_legible hlegible
        rw [hcall] at hfails
        cases hfails
      · rw [called_of_misleads hmisleads] at hfails
        cases hfails
        exact hmisleads
    · intro hmisleads
      rw [called_of_misleads hmisleads]
  case keeps =>
    intro hillegible
    rcases legible_or_misleads c.level with hlegible | ⟨f, hmisleads⟩
    · exact absurd hlegible hillegible
    · rw [hafter, called_of_misleads hmisleads]

/-- A call after one that has failed, with a word in small letters of which one has a capital that
it shares. -/
theorem last_setUp_decides_after_failure :
    let calls : List Setup := [⟨"debug", "json"⟩, ⟨"basic_format", "text"⟩]
    let c : Setup := ⟨"crıtical", "json"⟩
    let after := Root.setUpAll {} (calls ++ [c])
    Legible c.level ∧ after.handlers = [.json] ∧ after.level = 50 ∧
      ((Root.setUpAll {} calls).called c).1 = .ok () := by
  intro calls c after
  have hupper : upperWord c.level = "CRITICAL" := by decide +kernel
  have hlegible : Legible c.level := by
    constructor
    · rw [hupper]
      decide
    · rw [hupper]
      decide
  have hstands : Stands c.level 50 := by
    apply Stands.named
    rw [hupper]
    decide
  obtain ⟨⟨form, hhandlers, hjson, -⟩, hlegibly, -⟩ := last_setUp_decides {} calls c
  obtain ⟨hok, hlevel⟩ := hlegibly hlegible
  refine ⟨hlegible, ?_, (hlevel 50).1 hstands, hok⟩
  rw [← hjson.2 rfl]
  exact hhandlers

/-- A word that names no level stands for information, but a call with the word for the default form
of messages fails and leaves the level as it was. -/
theorem called_with_form_word :
    let c : Setup := ⟨formWord, "json"⟩
    let r : Root := {}
    Stands c.level Level.info.number ∧
      r.called c = (.error levelIsForm, ⟨Level.warning.number, [.json]⟩) ∧
      ¬ ∀ (r : Root) (c : Setup), (r.called c).1 = .ok () ∧ Stands c.level (r.called c).2.level := by
  intro c r
  have hupper : upperWord c.level = formWord := by decide +kernel
  have hcall : r.called c = (.error levelIsForm, ⟨Level.warning.number, [.json]⟩) :=
    called_of_misleads (.form hupper)
  refine ⟨?_, hcall, fun h => ?_⟩
  · apply Stands.unnamed
    intro n
    apply not_mem_levelWords_of_lookup
    exact (Misleads.form hupper).lookup_eq_none
  · have hok := (h r c).1
    rw [hcall] at hok
    cases hok

end Root

end Discography.Log
