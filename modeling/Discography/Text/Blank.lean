/-!
# Blanks and trimming

Which characters count as blank when a text is trimmed, and trimming itself.

* `trim_eq_nil` — a text of blanks only trims to nothing.
-/

set_option autoImplicit false

namespace Discography.Text

/-- The characters with the Unicode property White_Space. -/
def isBlank (c : Char) : Bool :=
  let n := c.toNat
  (9 ≤ n && n ≤ 13) || n == 0x20 || n == 0x85 || n == 0xA0 || n == 0x1680 ||
    (0x2000 ≤ n && n ≤ 0x200A) || n == 0x2028 || n == 0x2029 || n == 0x202F ||
    n == 0x205F || n == 0x3000

/-- Blanks together with the four information separators U+001C to U+001F. -/
def isSpacing (c : Char) : Bool :=
  isBlank c || (0x1C ≤ c.toNat && c.toNat ≤ 0x1F)

/-- A text without the leading characters in `p`. -/
def trimLeft (p : Char → Bool) (s : List Char) : List Char := s.dropWhile p

/-- A text without the trailing characters in `p`. -/
def trimRight (p : Char → Bool) (s : List Char) : List Char := (s.reverse.dropWhile p).reverse

/-- A text without the characters in `p` at its two ends. -/
def trim (p : Char → Bool) (s : List Char) : List Char := trimRight p (trimLeft p s)

theorem trim_eq_nil {p : Char → Bool} {s : List Char} (h : ∀ c ∈ s, p c = true) :
    trim p s = [] := by
  have : trimLeft p s = [] := by
    induction s with
    | nil => rfl
    | cons c r ih =>
      have hc := h c List.mem_cons_self
      simpa [trimLeft, hc] using ih fun d hd => h d (List.mem_cons_of_mem c hd)
  simp [trim, trimRight, this]

end Discography.Text
