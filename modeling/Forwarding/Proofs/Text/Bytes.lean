import Forwarding.Text.Bytes

/-! Decoding takes back what encoding does. -/

set_option autoImplicit false

namespace Forwarding.Bytes

variable {read : Text} {position n : Nat} {more : Bytes}

theorem toNat_ofNat (bound : n < 256) : (UInt8.ofNat n).toNat = n := by
  rw [UInt8.toNat_ofNat', Nat.mod_eq_of_lt bound]

theorem announced_two (low : 0xC2 ≤ n) (high : n < 0xE0) :
    announced (.ofNat n) = some (n - 0xC0, [(0x80, 0xBF)]) := by
  have before : ¬ n < 0x80 ∧ ¬ n < 0xC2 := by omega
  simp [announced, toNat_ofNat (by omega : n < 256), before, high]

/-- The range of a second byte is narrow where fewer bytes would do and where the character would be a
surrogate. -/
theorem announced_three (low : 0xE0 ≤ n) (high : n < 0xF0) :
    announced (.ofNat n) = some (n - 0xE0,
      [(if n = 0xE0 then 0xA0 else 0x80, if n = 0xED then 0x9F else 0xBF), (0x80, 0xBF)]) := by
  by_cases first : n = 0xE0
  · subst first
    rfl
  by_cases surrogate : n = 0xED
  · subst surrogate
    rfl
  have before : ¬ n < 0x80 ∧ ¬ n < 0xC2 ∧ ¬ n < 0xE0 := by omega
  simp [announced, toNat_ofNat (by omega : n < 256), before, first, surrogate, high]

/-- It is narrow also where the character would be too large. -/
theorem announced_four (low : 0xF0 ≤ n) (high : n < 0xF5) :
    announced (.ofNat n) = some (n - 0xF0,
      [(if n = 0xF0 then 0x90 else 0x80, if n = 0xF4 then 0x8F else 0xBF), (0x80, 0xBF), (0x80, 0xBF)]) := by
  by_cases first : n = 0xF0
  · subst first
    rfl
  by_cases last : n = 0xF4
  · subst last
    rfl
  have before : ¬ n < 0x80 ∧ ¬ n < 0xC2 ∧ ¬ n < 0xE0 ∧ ¬ n < 0xF0 ∧ n < 0xF4 := by omega
  have other : n ≠ 0xE0 ∧ n ≠ 0xED := by omega
  simp [announced, toNat_ofNat (by omega : n < 256), before, first, last, other]

section
variable {begun : Begun} (low : begun.next.1 ≤ n) (high : n ≤ begun.next.2) (bound : n < 256)
include low high bound

theorem textFrom_next {next : Nat × Nat} {later : List (Nat × Nat)} (still : begun.later = next :: later) :
    textFrom read position (some begun) (.ofNat n :: more) =
      textFrom read (position + 1)
        (some { begun with value := begun.value * 64 + (n - 0x80), next, later }) more := by
  rw [textFrom, toNat_ofNat bound]
  simp only [low, high, decide_true, Bool.and_self, if_true, still]

theorem textFrom_last (done : begun.later = []) :
    textFrom read position (some begun) (.ofNat n :: more) =
      textFrom (Char.ofNat (begun.value * 64 + (n - 0x80)) :: read) (position + 1) none more := by
  rw [textFrom, toNat_ofNat bound]
  simp only [low, high, decide_true, Bool.and_self, if_true, done]

end

theorem textFrom_utf8EncodeChar (c : Char) :
    textFrom read position none (String.utf8EncodeChar c ++ more) =
      textFrom (c :: read) (position + (String.utf8EncodeChar c).length) none more := by
  have valid : c.val.toNat < 0xD800 ∨ 0xDFFF < c.val.toNat ∧ c.val.toNat < 0x110000 := c.valid
  have whole : c = Char.ofNat c.val.toNat := (Char.ofNat_toNat c).symm
  -- The cases are by the number of bytes: what the first one announces, the others have to be in the range of.
  rw [String.utf8EncodeChar]
  generalize c.val.toNat = v at valid whole
  subst whole
  split
  · next one =>
    have begins : announced (.ofNat v) = some (v, []) := by
      simp [announced, toNat_ofNat (by omega : v < 256), (by omega : v < 0x80)]
    simp only [List.cons_append, List.nil_append, textFrom, begins, List.length_singleton]
  split
  · next two =>
    have value : (v / 64 % 32 + 192 - 0xC0) * 64 + (v % 64 + 128 - 0x80) = v := by omega
    rw [List.cons_append, textFrom]
    simp only [announced_two (by omega : 0xC2 ≤ v / 64 % 32 + 192) (by omega)]
    rw [List.cons_append, textFrom_last (by dsimp only; omega) (by dsimp only; omega) (by omega) rfl, value]
    rfl
  split
  · next three =>
    have value : ((v / 4096 % 16 + 224 - 0xE0) * 64 + (v / 64 % 64 + 128 - 0x80)) * 64 +
        (v % 64 + 128 - 0x80) = v := by omega
    rw [List.cons_append, textFrom]
    simp only [announced_three (by omega : 0xE0 ≤ v / 4096 % 16 + 224) (by omega)]
    rw [List.cons_append, textFrom_next (by dsimp only; split <;> omega) (by dsimp only; split <;> omega)
        (by omega) rfl,
      List.cons_append, textFrom_last (by dsimp only; omega) (by dsimp only; omega) (by omega) rfl, value]
    rfl
  · next four =>
    have value : (((v / 262144 % 8 + 240 - 0xF0) * 64 + (v / 4096 % 64 + 128 - 0x80)) * 64 +
        (v / 64 % 64 + 128 - 0x80)) * 64 + (v % 64 + 128 - 0x80) = v := by omega
    rw [List.cons_append, textFrom]
    simp only [announced_four (by omega : 0xF0 ≤ v / 262144 % 8 + 240) (by omega)]
    rw [List.cons_append, textFrom_next (by dsimp only; split <;> omega) (by dsimp only; split <;> omega)
        (by omega) rfl,
      List.cons_append, textFrom_next (by dsimp only; omega) (by dsimp only; omega) (by omega) rfl,
      List.cons_append, textFrom_last (by dsimp only; omega) (by dsimp only; omega) (by omega) rfl, value]
    rfl

theorem ofText_append (s t : Text) : ofText (s ++ t) = ofText s ++ ofText t := List.flatMap_append

theorem length_ofText_cons (c : Char) (t : Text) : (ofText (c :: t)).length = c.utf8Size + (ofText t).length := by
  rw [← String.length_utf8EncodeChar, ← List.length_append]
  rfl

theorem textFrom_ofText (t : Text) :
    textFrom read position none (ofText t) = .ok (read.reverse ++ t) := by
  induction t generalizing read position with
  | nil => simp [ofText, textFrom]
  | cons c t ih =>
    have parts : ofText (c :: t) = String.utf8EncodeChar c ++ ofText t := rfl
    rw [parts, textFrom_utf8EncodeChar, ih, List.reverse_cons, List.append_assoc]
    rfl

theorem toText_ofText (t : Text) : toText (ofText t) = .ok t := textFrom_ofText t

end Forwarding.Bytes
