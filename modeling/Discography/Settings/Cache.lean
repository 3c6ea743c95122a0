import Discography.Settings.Basic

/-!
# The cache of settings

The process resolves its settings once and remembers them until the cache is cleared. A failure is
not remembered. Each resolution makes a new object; the number of the object tells whether two calls
gave the same one.

* `get_filled` — a filled cache gives what it holds, whatever the sources say.
-/

set_option autoImplicit false

namespace Discography.Settings

/-- Settings together with the number of the object that holds them. -/
structure Held where
  number : Nat
  settings : Settings
  deriving DecidableEq, Repr

/-- What is remembered, and how many objects have been made. -/
structure Cache where
  held : Option Held := none
  made : Nat := 0
  deriving DecidableEq, Repr

namespace Cache

/-- A cache that remembers nothing. -/
def clear (c : Cache) : Cache := { c with held := none }

/-- The settings that are remembered, or else those of the sources, which are then remembered. -/
def get (c : Cache) (s : Sources) : Except (List Complaint) Held × Cache :=
  match c.held with
  | some h => (.ok h, c)
  | none =>
    match resolve s with
    | .ok settings =>
      let h : Held := ⟨c.made, settings⟩
      (.ok h, ⟨some h, c.made + 1⟩)
    | .error complaints => (.error complaints, c)

theorem get_filled {c : Cache} {h : Held} (s : Sources) (hc : c.held = some h) :
    c.get s = (.ok h, c) := by
  simp [get, hc]

end Cache

end Discography.Settings
