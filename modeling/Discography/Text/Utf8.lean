/-!
# Lenient UTF-8 decoding

Bytes are decoded as UTF-8, and each longest start of a character that does not become one is
replaced by U+FFFD.

* `lenient_ascii` — ASCII bytes are decoded as themselves.
-/

set_option autoImplicit false

namespace Discography.Text

/-- The character that stands for bytes that are no text. -/
def replacement : Char := '\uFFFD'

/-- A character that has begun: the value read so far, the number of bytes that are owed, and the
range of the next one. -/
structure Begun where
  value : Nat
  owed : Nat
  low : Nat
  high : Nat

/-- What the first byte of a character comes to: the character itself, a begun character, or
nothing. -/
def firstByte (b : Nat) : Char ⊕ Option Begun :=
  if b < 0x80 then .inl (Char.ofNat b)
  else if b < 0xC2 then .inr none
  else if b < 0xE0 then .inr (some ⟨b - 0xC0, 1, 0x80, 0xBF⟩)
  else if b = 0xE0 then .inr (some ⟨0, 2, 0xA0, 0xBF⟩)
  else if b = 0xED then .inr (some ⟨0xD, 2, 0x80, 0x9F⟩)
  else if b < 0xF0 then .inr (some ⟨b - 0xE0, 2, 0x80, 0xBF⟩)
  else if b = 0xF0 then .inr (some ⟨0, 3, 0x90, 0xBF⟩)
  else if b < 0xF4 then .inr (some ⟨b - 0xF0, 3, 0x80, 0xBF⟩)
  else if b = 0xF4 then .inr (some ⟨4, 3, 0x80, 0x8F⟩)
  else .inr none

/-- The characters of bytes after a character that has begun, if one has. -/
def lenientFrom : Option Begun → List UInt8 → List Char
  | none, [] => []
  | some _, [] => [replacement]
  | none, b :: r =>
    match firstByte b.toNat with
    | .inl c => c :: lenientFrom none r
    | .inr none => replacement :: lenientFrom none r
    | .inr (some s) => lenientFrom (some s) r
  | some s, b :: r =>
    if s.low ≤ b.toNat ∧ b.toNat ≤ s.high then
      let value := s.value * 64 + (b.toNat - 0x80)
      if s.owed ≤ 1 then Char.ofNat value :: lenientFrom none r
      else lenientFrom (some ⟨value, s.owed - 1, 0x80, 0xBF⟩) r
    else
      match firstByte b.toNat with
      | .inl c => replacement :: c :: lenientFrom none r
      | .inr none => replacement :: replacement :: lenientFrom none r
      | .inr (some t) => replacement :: lenientFrom (some t) r

/-- The characters of bytes. -/
def lenient (bytes : List UInt8) : List Char := lenientFrom none bytes

theorem lenient_ascii {bytes : List UInt8} (h : ∀ b ∈ bytes, b.toNat < 0x80) :
    lenient bytes = bytes.map fun b => Char.ofNat b.toNat := by
  unfold lenient
  induction bytes with
  | nil => rfl
  | cons b r ih =>
    have hb := h b List.mem_cons_self
    simp [lenientFrom, firstByte, hb, ih fun c hc => h c (List.mem_cons_of_mem b hc)]

end Discography.Text
