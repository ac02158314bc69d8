import Forwarding.Manifest
import Forwarding.Proofs.Text.Join

/-! Reading a document back from its text.

The reader takes the common notation: gaps may stand between any two signs, any character of a text may be
escaped, and one beyond the first plane is escaped by two units. Of numbers it takes those that a document can hold,
which are whole or have up to four places behind a point. It goes down one step for each bracket that is open, and a
written text has room for that many (`readValue_write`).
-/

set_option autoImplicit false

namespace Forwarding.Document

open Text

/-! ### Texts in quotes -/

/-- The value of a hexadecimal digit. -/
def digit? (c : Char) : Option Nat :=
  if c.isDigit then some (c.toNat - '0'.toNat)
  else if 'a' ≤ c ∧ c ≤ 'f' then some (10 + (c.toNat - 'a'.toNat))
  else if 'A' ≤ c ∧ c ≤ 'F' then some (10 + (c.toNat - 'A'.toNat))
  else none

def unit? (digits : Text) : Option Nat :=
  digits.foldlM (fun value c => (digit? c).map (16 * value + ·)) 0

def escapes : List (Char × Char) :=
  [('"', '"'), ('\\', '\\'), ('/', '/'), ('b', '\x08'), ('f', '\x0c'), ('n', '\n'), ('r', '\r'), ('t', '\t')]

/-- Puts units before those that are read from the rest. -/
def prepend (first : List Nat) : Option (List Nat × Text) → Option (List Nat × Text) :=
  Option.map (Prod.map (first ++ ·) id)

/-- The UTF-16 units up to the closing quote, and the text behind it. -/
def readUnits : Text → Option (List Nat × Text)
  | [] => none
  | '"' :: rest => some ([], rest)
  | '\\' :: 'u' :: a :: b :: c :: d :: rest => do
    let unit ← unit? [a, b, c, d]
    prepend [unit] (readUnits rest)
  | '\\' :: c :: rest => do
    let meant ← escapes.lookup c
    prepend (units meant) (readUnits rest)
  | c :: rest => if c.toNat < 32 then none else prepend (units c) (readUnits rest)

def isHigh (unit : Nat) : Bool := 0xD800 ≤ unit && unit < 0xDC00

def isLow (unit : Nat) : Bool := 0xDC00 ≤ unit && unit < 0xE000

def ofUnits : List Nat → Option Text
  | [] => some []
  | unit :: rest =>
    if isHigh unit then
      match rest with
      | [] => none
      | low :: rest =>
        if isLow low then
          (ofUnits rest).map (Char.ofNat (0x10000 + 0x400 * (unit - 0xD800) + (low - 0xDC00)) :: ·)
        else none
    else if isLow unit then none
    else (ofUnits rest).map (Char.ofNat unit :: ·)

def readText : Text → Option (Text × Text)
  | '"' :: rest => do
    let (found, rest) ← readUnits rest
    return (← ofUnits found, rest)
  | _ => none

theorem digit?_digitChar : ∀ n < 16, digit? (Nat.digitChar n) = some n := by decide

theorem unit?_hexadecimal (width n : Nat) : unit? (hexadecimal width n) = some (n % 16 ^ width) := by
  induction width generalizing n with
  | zero => simp [unit?, hexadecimal, Nat.mod_one]
  | succ width ih =>
    rw [unit?, hexadecimal, List.foldlM_append, ← unit?, ih, Option.bind_eq_bind, Option.bind_some,
      List.foldlM_cons, digit?_digitChar _ (Nat.mod_lt n (by decide)), Nat.pow_succ', Nat.mod_mul, Nat.add_comm]
    rfl

theorem readUnits_hexadecimal {unit : Nat} (bound : unit < 16 ^ 4) (rest : Text) :
    readUnits ("\\u" ++ hexadecimal 4 unit ++ rest) = prepend [unit] (readUnits rest) := by
  have digits := unit?_hexadecimal 4 unit
  rw [Nat.mod_eq_of_lt bound] at digits
  obtain ⟨a, b, c, d, four⟩ : ∃ a b c d, hexadecimal 4 unit = [a, b, c, d] := ⟨_, _, _, _, rfl⟩
  rw [four] at digits ⊢
  change readUnits ('\\' :: 'u' :: a :: b :: c :: d :: rest) = _
  rw [readUnits, digits]
  rfl

theorem prepend_nil (r : Option (List Nat × Text)) : prepend [] r = r := by
  cases r <;> simp [prepend, Prod.map]

theorem prepend_prepend (first second : List Nat) (r : Option (List Nat × Text)) :
    prepend first (prepend second r) = prepend (first ++ second) r := by
  cases r <;> simp [prepend, Prod.map]

theorem units_lt (c : Char) : ∀ unit ∈ units c, unit < 16 ^ 4 := by
  have valid : c.toNat < 0xD800 ∨ 0xDFFF < c.toNat ∧ c.toNat < 0x110000 := c.valid
  unfold units
  dsimp only
  split <;> simp <;> omega

theorem readUnits_unprintable (c : Char) (rest : Text) :
    readUnits ((units c).flatMap (fun unit => "\\u" ++ hexadecimal 4 unit : Nat → Text) ++ rest) =
      prepend (units c) (readUnits rest) := by
  have small := units_lt c
  generalize units c = escaped at small
  induction escaped with
  | nil => exact (prepend_nil _).symm
  | cons unit escaped ih =>
    rw [List.forall_mem_cons] at small
    rw [List.flatMap_cons, List.append_assoc, readUnits_hexadecimal small.1, ih small.2, prepend_prepend]
    rfl

theorem readUnits_printable {c : Char} (printable : 32 ≤ c.toNat) (quote : c ≠ '"') (backslash : c ≠ '\\')
    (rest : Text) : readUnits (c :: rest) = prepend (units c) (readUnits rest) := by
  rw [readUnits, if_neg (by omega)]
  · exact quote
  · exact fun _ _ _ _ _ same _ => backslash same
  · exact fun _ _ same _ => backslash same

theorem readUnits_escaped (c : Char) (rest : Text) :
    readUnits (escaped c ++ rest) = prepend (units c) (readUnits rest) := by
  -- Some characters have an escape of their own; of the others, those that cannot be printed are written by units.
  by_cases marked : c ∈ ['"', '\\', '\n', '\r', '\t', '\x08', '\x0c']
  · simp only [List.mem_cons, List.not_mem_nil, or_false] at marked
    rcases marked with rfl | rfl | rfl | rfl | rfl | rfl | rfl <;> rfl
  · simp only [List.mem_cons, List.not_mem_nil, or_false, not_or] at marked
    obtain ⟨quote, backslash, feed, back, tab, delete, form⟩ := marked
    simp only [escaped, beq_iff_eq, quote, backslash, feed, back, tab, delete, form, if_false]
    split
    · next printable =>
      simp only [Bool.and_eq_true, decide_eq_true_eq] at printable
      exact readUnits_printable printable.1 quote backslash rest
    · exact readUnits_unprintable c rest

theorem readUnits_flatMap_escaped (t rest : Text) :
    readUnits (t.flatMap escaped ++ '"' :: rest) = some (t.flatMap units, rest) := by
  induction t with
  | nil => rfl
  | cons c t ih =>
    rw [List.flatMap_cons, List.append_assoc, readUnits_escaped, ih]
    rfl

theorem ofUnits_units (c : Char) (later : List Nat) : ofUnits (units c ++ later) = (ofUnits later).map (c :: ·) := by
  -- No character is a surrogate, so that a unit of its own is never taken for half of a pair.
  have valid : c.toNat < 0xD800 ∨ 0xDFFF < c.toNat ∧ c.toNat < 0x110000 := c.valid
  have same := Char.ofNat_toNat c
  unfold units
  dsimp only
  split
  · have high : isHigh c.toNat = false := by
      simp only [isHigh, Bool.and_eq_false_iff, decide_eq_false_iff_not]
      omega
    have low : isLow c.toNat = false := by
      simp only [isLow, Bool.and_eq_false_iff, decide_eq_false_iff_not]
      omega
    rw [List.singleton_append, ofUnits.eq_def]
    simp [high, low, same]
  · generalize split : c.toNat - 0x10000 = n
    have high : isHigh (0xD800 + n / 0x400) = true := by
      simp only [isHigh, Bool.and_eq_true, decide_eq_true_eq]
      omega
    have low : isLow (0xDC00 + n % 0x400) = true := by
      simp only [isLow, Bool.and_eq_true, decide_eq_true_eq]
      omega
    have joined : 0x10000 + 0x400 * (0xD800 + n / 0x400 - 0xD800) + (0xDC00 + n % 0x400 - 0xDC00) = c.toNat := by
      omega
    change ofUnits (_ :: _ :: later) = _
    simp only [ofUnits, high, low, joined, same, if_true]

theorem ofUnits_flatMap_units (t : Text) : ofUnits (t.flatMap units) = some t := by
  induction t with
  | nil => rfl
  | cons c t ih => rw [List.flatMap_cons, ofUnits_units, ih, Option.map_some]

theorem readText_quote (t rest : Text) : readText (quote t ++ rest) = some (t, rest) := by
  have found := readUnits_flatMap_escaped t rest
  rw [quote, List.append_assoc, List.cons_append, readText, List.singleton_append, found]
  simp [ofUnits_flatMap_units]

/-! ### Numbers -/

def readNumber (t : Text) : Option (Document × Text) :=
  let whole := t.takeWhile Char.isDigit
  if whole.isEmpty || (whole.head? == some '0' && 1 < whole.length) then none
  else
    match t.dropWhile Char.isDigit with
    | '.' :: t =>
      let places := t.takeWhile Char.isDigit
      if places.isEmpty || 4 < places.length then none
      else some (decimals (Nat.ofDigitChars 10 (whole ++ places.rightpad 4 '0') 0), t.dropWhile Char.isDigit)
    | rest => some (number (Nat.ofDigitChars 10 whole 0), rest)

/-- No number goes on with a text. -/
def Ends (rest : Text) : Prop := ∀ c, rest.head? = some c → c.isDigit = false ∧ c ≠ '.'

theorem ends_cons {c : Char} {rest : Text} (digit : c.isDigit = false) (point : c ≠ '.') : Ends (c :: rest) := by
  rintro _ ⟨rfl⟩
  exact ⟨digit, point⟩

theorem span_digits {digits t : Text} (all : ∀ c ∈ digits, c.isDigit = true)
    (stops : ∀ c, t.head? = some c → c.isDigit = false) :
    (digits ++ t).takeWhile Char.isDigit = digits ∧ (digits ++ t).dropWhile Char.isDigit = t := by
  rw [List.takeWhile_append_of_pos all, List.dropWhile_append_of_pos all]
  cases t with
  | nil => simp
  | cons c t => simp [stops c rfl]

theorem isDigit_of_mem_decimal {n : Nat} {c : Char} (member : c ∈ decimal n) : c.isDigit = true :=
  Nat.isDigit_of_mem_toDigits (by decide) (by decide) member

theorem decimal_ne_nil (n : Nat) : decimal n ≠ [] := Nat.toDigits_ne_nil

theorem decimal_concat {n d : Nat} (given : 0 < n) (digit : d < 10) :
    decimal (10 * n + d) = decimal n ++ [Nat.digitChar d] := by
  rw [decimal, ← Nat.toDigits_append_toDigits (by decide) given digit, Nat.toDigits_of_lt_base digit]
  rfl

theorem eq_zero_of_digitChar : ∀ n < 10, Nat.digitChar n = '0' → n = 0 := by decide

theorem eq_zero_of_head?_decimal {n : Nat} (head : (decimal n).head? = some '0') : n = 0 := by
  induction n using Nat.strongRecOn with
  | ind n ih =>
    by_cases small : n < 10
    · rw [decimal, Nat.toDigits_of_lt_base small] at head
      exact eq_zero_of_digitChar n small (Option.some.inj head)
    · have parts : decimal n = decimal (n / 10) ++ [Nat.digitChar (n % 10)] := by
        rw [← decimal_concat (by omega) (Nat.mod_lt n (by decide)), Nat.div_add_mod]
      obtain ⟨c, later, shape⟩ := List.exists_cons_of_ne_nil (decimal_ne_nil (n / 10))
      rw [parts, shape] at head
      have := ih (n / 10) (by omega) (by rw [shape]; exact head)
      omega

/-- No other digit stands behind a zero at the start. -/
theorem decimal_plain (n : Nat) :
    ((decimal n).isEmpty || ((decimal n).head? == some '0' && 1 < (decimal n).length)) = false := by
  rw [Bool.or_eq_false_iff, Bool.and_eq_false_iff]
  refine ⟨by simpa using decimal_ne_nil n, ?_⟩
  by_cases zero : n = 0
  · subst zero
    exact .inr rfl
  · exact .inl (by simpa using mt eq_zero_of_head?_decimal zero)

theorem readNumber_decimal {rest : Text} (n : Nat) (ends : Ends rest) :
    readNumber (decimal n ++ rest) = some (number n, rest) := by
  obtain ⟨digits, behind⟩ := span_digits (fun _ => isDigit_of_mem_decimal (n := n)) fun c first => (ends c first).1
  rw [readNumber, digits, behind, decimal_plain]
  have value : Nat.ofDigitChars 10 (decimal n) 0 = n := Nat.ofDigitChars_ten_toDigits
  cases rest with
  | nil => simp [value]
  | cons c rest =>
    have point : c ≠ '.' := (ends c rfl).2
    simp [value, point]

/-- The four places behind the point of a number of ten-thousandths. -/
theorem exists_places {n : Nat} (small : n < 10000) : ∃ places, decimal (10000 + n) = '1' :: places ∧
    places.length = 4 ∧ (∀ c ∈ places, c.isDigit = true) ∧ Nat.ofDigitChars 10 places 0 = n := by
  have shape : decimal (10000 + n) = '1' :: [Nat.digitChar (n / 1000), Nat.digitChar (n / 100 % 10),
      Nat.digitChar (n / 10 % 10), Nat.digitChar (n % 10)] := by
    rw [show 10000 + n = 10 * (10 * (10 * (10 * 1 + n / 1000) + n / 100 % 10) + n / 10 % 10) + n % 10 by omega,
      decimal_concat (by omega) (by omega), decimal_concat (by omega) (by omega),
      decimal_concat (by omega) (by omega), decimal_concat (by omega) (by omega)]
    rfl
  refine ⟨_, shape, rfl, fun c member => ?_, ?_⟩
  · exact isDigit_of_mem_decimal (shape ▸ List.mem_cons_of_mem _ member)
  · have whole : Nat.ofDigitChars 10 (decimal (10000 + n)) 0 = 10000 + n := Nat.ofDigitChars_ten_toDigits
    rw [shape, Nat.ofDigitChars_cons, Nat.ofDigitChars_eq_ofDigitChars_zero] at whole
    simpa using whole

/-- The places that are written, of which the rest up to the fourth are zeros. -/
theorem exists_decimalText (n : Nat) : ∃ places, decimalText n = decimal (n / 10000) ++ '.' :: places ∧
    (places.isEmpty || decide (4 < places.length)) = false ∧ (∀ c ∈ places, c.isDigit = true) ∧
    Nat.ofDigitChars 10 (decimal (n / 10000) ++ places.rightpad 4 '0') 0 = n := by
  obtain ⟨all, shape, four, digits, value⟩ := exists_places (Nat.mod_lt n (by decide : 0 < 10000))
  obtain ⟨zeros, parts, zero⟩ := exists_dropEnd (· == '0') all
  have written : decimalText n = decimal (n / 10000) ++ '.' ::
      (if (dropEnd (· == '0') all).isEmpty then ['0'] else dropEnd (· == '0') all) := by
    rw [decimalText, shape]
    simp
  generalize dropEnd (· == '0') all = fraction at parts written
  have padding : zeros = List.replicate zeros.length '0' :=
    List.eq_replicate_of_mem fun c member => eq_of_beq (zero c member)
  have total : fraction.length + zeros.length = 4 := by rw [← List.length_append, ← parts, four]
  obtain ⟨places, shown, given, few, padded⟩ : ∃ places, (if fraction.isEmpty then ['0'] else fraction) = places ∧
      places ≠ [] ∧ places.length ≤ 4 ∧ places.rightpad 4 '0' = all := by
    cases fraction with
    | nil =>
      -- A number without a fraction is written with one zero of the four.
      refine ⟨['0'], rfl, by decide, by decide, ?_⟩
      rw [parts, padding, show zeros.length = 4 by simpa using total]
      rfl
    | cons c fraction =>
      refine ⟨c :: fraction, rfl, by simp, by omega, ?_⟩
      rw [List.rightpad, parts, ← total, Nat.add_sub_cancel_left, ← padding]
  rw [shown] at written
  refine ⟨places, written, ?_, fun c member => digits c ?_, ?_⟩
  · simpa using ⟨given, few⟩
  · exact padded ▸ List.mem_append_left _ member
  · rw [padded, Nat.ofDigitChars_append, Nat.ofDigitChars_eq_ofDigitChars_zero, value, four,
      show Nat.ofDigitChars 10 (decimal (n / 10000)) 0 = n / 10000 from Nat.ofDigitChars_ten_toDigits]
    omega

theorem readNumber_decimalText {rest : Text} (n : Nat) (ends : Ends rest) :
    readNumber (decimalText n ++ rest) = some (decimals n, rest) := by
  obtain ⟨places, written, count, digits, value⟩ := exists_decimalText n
  have stops : ∀ c, rest.head? = some c → c.isDigit = false := fun c first => (ends c first).1
  obtain ⟨before, behind⟩ := span_digits (t := '.' :: (places ++ rest))
    (fun _ => isDigit_of_mem_decimal (n := n / 10000)) (by rintro _ ⟨rfl⟩; rfl)
  obtain ⟨found, left⟩ := span_digits digits stops
  rw [written, List.append_assoc, List.cons_append, readNumber, before, behind, decimal_plain]
  simp only [found, left, count, value]
  rfl

/-! ### Brackets -/

def isGap (c : Char) : Bool := c == ' ' || c == '\n' || c == '\r' || c == '\t'

def past? (sign : Char) (t : Text) : Option Text :=
  match t.dropWhile isGap with
  | [] => none
  | c :: rest => if c == sign then some rest else none

section
variable {α : Type}

/-- Reads items with a comma between each two, up to the closing sign. -/
def readSequence (one : Text → Option (α × Text)) (closing : Char) : Nat → Text → Option (List α × Text)
  | 0, _ => none
  | count + 1, t => do
    let (item, rest) ← one t
    match past? ',' rest with
    | some rest => (readSequence one closing count rest).map (Prod.map (item :: ·) id)
    | none => (past? closing rest).map ([item], ·)

/-- Reads what stands behind an opening sign: perhaps no items at all. -/
def readEnclosed (one : Text → Option (α × Text)) (closing : Char) (t : Text) : Option (List α × Text) :=
  match past? closing t with
  | some rest => some ([], rest)
  | none => readSequence one closing t.length t

theorem past?_gap {gap : Text} (blank : ∀ c ∈ gap, isGap c = true) (sign : Char) (rest : Text) :
    past? sign (gap ++ rest) = past? sign rest := by
  rw [past?, List.dropWhile_append_of_pos blank, past?]

theorem past?_cons {c : Char} (solid : isGap c = false) (sign : Char) (rest : Text) :
    past? sign (c :: rest) = if c == sign then some rest else none := by
  rw [past?, List.dropWhile_cons_of_neg (by simp [solid])]

/-- In front of anything that does not go on a number, a text is read as an item. -/
def Reads (one : Text → Option (α × Text)) (t : Text) (item : α) : Prop :=
  ∀ rest, Ends rest → one (t ++ rest) = some (item, rest)

/-- The sign of an end, which stands for nothing else. -/
structure Closing (sign : Char) : Prop where
  solid : isGap sign = false
  comma : sign ≠ ','
  digit : sign.isDigit = false
  point : sign ≠ '.'

variable {one : Text → Option (α × Text)} {closing : Char} {text : α → Text}

theorem isGap_of_mem_indent {depth : Nat} {c : Char} (member : c ∈ indent depth) : isGap c = true := by
  rcases List.mem_cons.mp member with rfl | member
  · rfl
  · rw [List.eq_of_mem_replicate member]
    rfl

theorem ends_indent (depth : Nat) (rest : Text) : Ends (indent depth ++ rest) := ends_cons rfl (by decide)

theorem past?_closing (closes : Closing closing) (depth : Nat) (rest : Text) :
    past? closing (indent depth ++ closing :: rest) = some rest := by
  rw [past?_gap (fun _ => isGap_of_mem_indent), past?_cons closes.solid, if_pos (beq_self_eq_true closing)]

theorem readSequence_join (closes : Closing closing) (depth : Nat) (rest : Text) {items : List α}
    (each : ∀ item ∈ items, Reads one (text item) item) (given : items ≠ []) {count : Nat}
    (room : items.length ≤ count) :
    readSequence one closing count (join "," (items.map text) ++ (indent depth ++ closing :: rest)) =
      some (items, rest) := by
  induction items generalizing count with
  | nil => contradiction
  | cons item items ih =>
    obtain ⟨count, rfl⟩ : ∃ n, count = n + 1 := Nat.exists_eq_succ_of_ne_zero (by rintro rfl; simp at room)
    rw [List.forall_mem_cons] at each
    cases items with
    | nil =>
      have comma : past? ',' (indent depth ++ closing :: rest) = none := by
        rw [past?_gap (fun _ => isGap_of_mem_indent), past?_cons closes.solid, if_neg (by simp [closes.comma])]
      rw [List.map_singleton, join_singleton, readSequence, each.1 _ (ends_indent _ _)]
      simp [comma, past?_closing closes]
    | cons second items =>
      have fewer : (second :: items).length ≤ count := by simpa using room
      have later := ih each.2 (List.cons_ne_nil _ _) fewer
      generalize written : join "," ((second :: items).map text) ++ (indent depth ++ closing :: rest) = tail at later
      have first : one (text item ++ ("," ++ tail)) = some (item, "," ++ tail) :=
        each.1 _ (ends_cons rfl (by decide))
      rw [List.map_cons, List.map_cons, join_cons_cons, ← List.map_cons, List.append_assoc, List.append_assoc, written,
        readSequence, first]
      change (readSequence one closing count tail).map _ = _
      rw [later]
      rfl

theorem reads_enclose (closes : Closing closing) (opening : Char) (depth : Nat) {items : List α}
    (each : ∀ item ∈ items, Reads one (indent (depth + 1) ++ text item) item)
    (starts : ∀ item ∈ items, ∃ c t, text item = c :: t ∧ isGap c = false ∧ c ≠ closing) :
    ∃ body, enclose opening closing depth (items.map text) = opening :: body ∧
      Reads (readEnclosed one closing) body items := by
  cases items with
  | nil =>
    refine ⟨[closing], rfl, fun rest _ => ?_⟩
    rw [readEnclosed, List.singleton_append, past?_cons closes.solid, if_pos (beq_self_eq_true closing)]
  | cons item items =>
    let placed := fun item => indent (depth + 1) ++ text item
    refine ⟨join "," ((item :: items).map placed) ++ (indent depth ++ [closing]), ?_, fun rest _ => ?_⟩
    · simp [enclose, placed, Function.comp_def]
    · rw [List.append_assoc, List.append_assoc, List.singleton_append]
      -- What is behind the opening sign does not begin with the closing one.
      have nonempty : past? closing (join "," ((item :: items).map placed) ++ (indent depth ++ closing :: rest)) =
          none := by
        obtain ⟨c, t, shape, solid, other⟩ := starts item (List.mem_cons_self ..)
        obtain ⟨later, joined⟩ := exists_join_cons "," (placed item) (items.map placed)
        rw [List.map_cons, joined, List.append_assoc, List.append_assoc, past?_gap (fun _ => isGap_of_mem_indent), shape,
          List.cons_append, past?_cons solid, if_neg (by simp [other])]
      rw [readEnclosed, nonempty]
      refine readSequence_join closes depth rest each (List.cons_ne_nil _ _) ?_
      have least : ((item :: items).map placed).length ≤ (join "," ((item :: items).map placed)).length :=
        length_le_join (List.forall_mem_map.mpr fun _ _ => List.cons_ne_nil _ _)
      rw [List.length_map] at least
      rw [List.length_append]
      omega

end

/-! ### Documents -/

def words : List (Text × Document) := [("null", null), ("true", bool true), ("false", bool false)]

def readWord (t : Text) : Option (Document × Text) :=
  words.findSome? fun (word, d) => (after? word t).map (d, ·)

/-- Reads a name and, behind a colon, a value. -/
def readField (value : Text → Option (Document × Text)) (t : Text) : Option ((Text × Document) × Text) := do
  let (name, rest) ← readText (t.dropWhile isGap)
  let (d, rest) ← value (← past? ':' rest)
  return ((name, d), rest)

/-- Reads a document from its first sign, with a reader for what is in brackets. -/
def readSign (value : Text → Option (Document × Text)) : Text → Option (Document × Text)
  | [] => none
  | c :: t =>
    if c == '"' then (readText (c :: t)).map (Prod.map text id)
    else if c == '[' then (readEnclosed value ']' t).map (Prod.map list id)
    else if c == '\x7b' then (readEnclosed (readField value) '\x7d' t).map (Prod.map record id)
    else if c.isDigit then readNumber (c :: t)
    else readWord (c :: t)

/-- Reads the document at the start of a text, with fewer brackets open than a number. -/
def readValue : Nat → Text → Option (Document × Text)
  | 0, _ => none
  | depth + 1, t => readSign (readValue depth) (t.dropWhile isGap)

def read (t : Text) : Option Document := do
  let (d, rest) ← readValue t.length t
  if rest.all isGap then some d else none

example : read "\x7b \"a\" : [1, 0.5, \"\\ud83d\\ude00\"] \x7d" =
    some (record [("a", list [number 1, decimals 5000, text ['😀']])]) := by
  cbv

theorem writeItems_eq (depth : Nat) (items : List Document) : writeItems depth items = items.map (write depth) := by
  induction items with
  | nil => rfl
  | cons item items ih => rw [writeItems, ih, List.map_cons]

theorem writeFields_eq (depth : Nat) (fields : List (Text × Document)) :
    writeFields depth fields = fields.map fun f => quote f.1 ++ ": " ++ write depth f.2 := by
  induction fields with
  | nil => rfl
  | cons f fields ih => rw [writeFields, ih, List.map_cons]

theorem plain_of_isDigit {c : Char} (digit : c.isDigit = true) :
    isGap c = false ∧ c ≠ ']' ∧ c ≠ '"' ∧ c ≠ '[' ∧ c ≠ '\x7b' := by
  refine ⟨?_, ?_, ?_, ?_, ?_⟩
  · simp only [isGap, Bool.or_eq_false_iff, beq_eq_false_iff_ne]
    refine ⟨⟨⟨?_, ?_⟩, ?_⟩, ?_⟩ <;> (rintro rfl; revert digit; decide)
  all_goals (rintro rfl; revert digit; decide)

/-- A number begins with a digit. -/
theorem exists_decimal (n : Nat) : ∃ c t, decimal n = c :: t ∧ c.isDigit = true := by
  obtain ⟨c, t, shape⟩ := List.exists_cons_of_ne_nil (decimal_ne_nil n)
  exact ⟨c, t, shape, isDigit_of_mem_decimal (shape ▸ List.mem_cons_self ..)⟩

theorem exists_decimalText_cons (n : Nat) : ∃ c t, decimalText n = c :: t ∧ c.isDigit = true := by
  obtain ⟨places, shape, -⟩ := exists_decimalText n
  obtain ⟨c, t, first, digit⟩ := exists_decimal (n / 10000)
  exact ⟨c, t ++ '.' :: places, by rw [shape, first, List.cons_append], digit⟩

theorem exists_enclose (opening closing : Char) (depth : Nat) (pieces : List Text) :
    ∃ t, enclose opening closing depth pieces = opening :: t := by
  rw [enclose]
  split
  · exact ⟨_, rfl⟩
  · exact ⟨_, rfl⟩

/-- What is written begins with a sign of its own. -/
theorem exists_write (depth : Nat) (d : Document) : ∃ c t, write depth d = c :: t ∧ isGap c = false ∧ c ≠ ']' := by
  cases d with
  | null => exact ⟨_, _, rfl, rfl, by decide⟩
  | bool value => cases value <;> exact ⟨_, _, rfl, rfl, by decide⟩
  | number n =>
    obtain ⟨c, t, shape, digit⟩ := exists_decimal n
    exact ⟨c, t, shape, (plain_of_isDigit digit).1, (plain_of_isDigit digit).2.1⟩
  | decimals n =>
    obtain ⟨c, t, shape, digit⟩ := exists_decimalText_cons n
    exact ⟨c, t, shape, (plain_of_isDigit digit).1, (plain_of_isDigit digit).2.1⟩
  | text t => exact ⟨_, _, rfl, rfl, by decide⟩
  | list items =>
    obtain ⟨t, shape⟩ := exists_enclose '[' ']' depth (writeItems (depth + 1) items)
    exact ⟨_, t, shape, rfl, by decide⟩
  | record fields =>
    obtain ⟨t, shape⟩ := exists_enclose '\x7b' '\x7d' depth (writeFields (depth + 1) fields)
    exact ⟨_, t, shape, rfl, by decide⟩

theorem length_lt_enclose {opening closing : Char} {depth : Nat} {pieces : List Text} {piece : Text}
    (member : piece ∈ pieces) : piece.length < (enclose opening closing depth pieces).length := by
  have least : (indent (depth + 1) ++ piece).length ≤
      (join "," (pieces.map fun item => indent (depth + 1) ++ item)).length :=
    length_le_join_of_mem (List.mem_map_of_mem member)
  rw [List.length_append] at least
  rw [enclose, if_neg (by simpa using List.ne_nil_of_mem member)]
  simp only [List.length_append, List.length_cons]
  omega

section
variable {value : Text → Option (Document × Text)}

theorem reads_text (t : Text) : Reads (readSign value) (quote t) (text t) := by
  intro rest _
  change (readText (quote t ++ rest)).map _ = _
  rw [readText_quote]
  rfl

theorem readSign_of_isDigit {c : Char} (digit : c.isDigit = true) (t : Text) :
    readSign value (c :: t) = readNumber (c :: t) := by
  obtain ⟨-, -, quote, bracket, brace⟩ := plain_of_isDigit digit
  rw [readSign]
  simp [quote, bracket, brace, digit]

theorem reads_number (n : Nat) : Reads (readSign value) (decimal n) (number n) := by
  intro rest ends
  obtain ⟨c, t, shape, digit⟩ := exists_decimal n
  rw [← readNumber_decimal n ends, shape]
  exact readSign_of_isDigit digit _

theorem reads_decimals (n : Nat) : Reads (readSign value) (decimalText n) (decimals n) := by
  intro rest ends
  obtain ⟨c, t, shape, digit⟩ := exists_decimalText_cons n
  rw [← readNumber_decimalText n ends, shape]
  exact readSign_of_isDigit digit _

theorem reads_list {depth : Nat} {items : List Document}
    (each : ∀ item ∈ items, Reads value (indent (depth + 1) ++ write (depth + 1) item) item) :
    Reads (readSign value) (write depth (list items)) (list items) := by
  intro rest ends
  have closes : Closing ']' := ⟨rfl, by decide, rfl, by decide⟩
  obtain ⟨body, shape, reads⟩ := reads_enclose closes '[' depth each fun item _ => exists_write (depth + 1) item
  rw [write, writeItems_eq, shape]
  change (readEnclosed value ']' (body ++ rest)).map _ = _
  rw [reads rest ends]
  rfl

theorem reads_field {written : Text} {d : Document} (depth : Nat) (name : Text)
    (reads : Reads value (' ' :: written) d) :
    Reads (readField value) (indent depth ++ (quote name ++ ": " ++ written)) (name, d) := by
  intro rest ends
  have start : (indent depth ++ (quote name ++ ": " ++ written) ++ rest).dropWhile isGap =
      quote name ++ (':' :: (' ' :: written ++ rest)) := by
    rw [List.append_assoc, List.dropWhile_append_of_pos (fun _ => isGap_of_mem_indent)]
    simp [quote, isGap]
  have colon : past? ':' (':' :: (' ' :: written ++ rest)) = some (' ' :: written ++ rest) := rfl
  rw [readField, start, readText_quote]
  simp only [Option.bind_eq_bind, Option.bind_some, colon]
  rw [reads rest ends]
  rfl

theorem reads_record {depth : Nat} {fields : List (Text × Document)}
    (each : ∀ f ∈ fields, Reads value (' ' :: write (depth + 1) f.2) f.2) :
    Reads (readSign value) (write depth (record fields)) (record fields) := by
  intro rest ends
  have closes : Closing '\x7d' := ⟨rfl, by decide, rfl, by decide⟩
  have named : ∀ f ∈ fields, Reads (readField value)
      (indent (depth + 1) ++ (quote f.1 ++ ": " ++ write (depth + 1) f.2)) f :=
    fun f member => reads_field (depth + 1) f.1 (each f member)
  obtain ⟨body, shape, reads⟩ := reads_enclose closes '\x7b' depth named fun f _ => ⟨'"', _, rfl, rfl, by decide⟩
  rw [write, writeFields_eq, shape]
  change (readEnclosed (readField value) '\x7d' (body ++ rest)).map _ = _
  rw [reads rest ends]
  rfl

end

theorem reads_gap {deep : Nat} {gap written : Text} {d : Document} (blank : ∀ c ∈ gap, isGap c = true)
    (starts : ∃ c t, written = c :: t ∧ isGap c = false) (reads : Reads (readSign (readValue deep)) written d) :
    Reads (readValue (deep + 1)) (gap ++ written) d := by
  intro rest ends
  obtain ⟨c, t, shape, solid⟩ := starts
  have start : (written ++ rest).dropWhile isGap = written ++ rest := by
    rw [shape, List.cons_append, List.dropWhile_cons_of_neg (by simp [solid])]
  rw [readValue, List.append_assoc, List.dropWhile_append_of_pos blank, start, reads rest ends]

theorem readValue_write (d : Document) {deep depth : Nat} {s : Text} (room : (write depth d).length ≤ deep)
    (blank : ∀ c ∈ s, isGap c = true) : Reads (readValue deep) (s ++ write depth d) d := by
  -- Each bracket takes a step down, and what is in it is shorter.
  induction deep generalizing d depth s with
  | zero =>
    obtain ⟨c, t, shape, -⟩ := exists_write depth d
    rw [shape] at room
    cases room
  | succ deep ih =>
    obtain ⟨c, t, shape, solid, -⟩ := exists_write depth d
    refine reads_gap blank ⟨c, t, shape, solid⟩ ?_
    cases d with
    | null => exact fun _ _ => rfl
    | bool value => cases value <;> exact fun _ _ => rfl
    | number n => exact reads_number n
    | decimals n => exact reads_decimals n
    | text t => exact reads_text t
    | list items =>
      rw [write, writeItems_eq] at room
      refine reads_list fun item member => ih item ?_ fun _ => isGap_of_mem_indent
      have less := Nat.lt_of_lt_of_le (length_lt_enclose (List.mem_map_of_mem member)) room
      omega
    | record fields =>
      rw [write, writeFields_eq] at room
      refine reads_record fun f member => ih f.2 (s := [' ']) ?_ (by decide)
      have less := Nat.lt_of_lt_of_le (length_lt_enclose (List.mem_map_of_mem member)) room
      rw [List.length_append] at less
      omega

/-! ### The text of a manifest -/

theorem digitChar_ne_return : ∀ n < 16, Nat.digitChar n ≠ '\r' := by decide

theorem return_not_mem_hexadecimal (width n : Nat) : '\r' ∉ hexadecimal width n := by
  induction width generalizing n with
  | zero => exact List.not_mem_nil
  | succ width ih =>
    rw [hexadecimal, List.mem_append, List.mem_singleton, not_or]
    exact ⟨ih _, (digitChar_ne_return _ (Nat.mod_lt n (by decide))).symm⟩

theorem return_not_mem_escaped (c : Char) : '\r' ∉ escaped c := by
  by_cases same : c = '\r'
  · subst same
    decide
  · unfold escaped
    repeat' split
    all_goals simp [return_not_mem_hexadecimal, Ne.symm same]

theorem return_not_mem_quote (t : Text) : '\r' ∉ quote t := by
  simp [quote, return_not_mem_escaped]

theorem return_not_mem_enclose {opening closing : Char} {depth : Nat} {pieces : List Text}
    (signs : '\r' ∉ [opening, closing]) (each : ∀ piece ∈ pieces, '\r' ∉ piece) :
    '\r' ∉ enclose opening closing depth pieces := by
  have margin : ∀ deep, '\r' ∉ indent deep := fun deep => by simp [indent]
  have items : '\r' ∉ join "," (pieces.map (indent (depth + 1) ++ ·)) :=
    not_mem_join (by decide) (List.forall_mem_map.mpr fun piece member => by simp [margin, each piece member])
  simp only [List.mem_cons, List.not_mem_nil, or_false, not_or] at signs
  rw [enclose]
  split
  · simp [signs]
  · simpa [signs, margin] using items

mutual

theorem return_not_mem_write : ∀ (d : Document) (depth : Nat), '\r' ∉ write depth d
  | null, _ | bool true, _ | bool false, _ => by simp [write]
  | number n, _ => by
    rw [write]
    exact fun member => absurd (isDigit_of_mem_decimal member) (by decide)
  | decimals n, _ => by
    obtain ⟨places, shape, -, digits, -⟩ := exists_decimalText n
    rw [write, shape, List.mem_append, List.mem_cons]
    rintro (whole | point | fraction)
    · exact absurd (isDigit_of_mem_decimal whole) (by decide)
    · cases point
    · exact absurd (digits _ fraction) (by decide)
  | text t, _ => return_not_mem_quote t
  | list items, depth => return_not_mem_enclose (by simp) (return_not_mem_writeItems items (depth + 1))
  | record fields, depth => return_not_mem_enclose (by simp) (return_not_mem_writeFields fields (depth + 1))

theorem return_not_mem_writeItems : ∀ (items : List Document) (depth : Nat),
    ∀ piece ∈ writeItems depth items, '\r' ∉ piece
  | [], _ => nofun
  | d :: items, depth => List.forall_mem_cons.mpr ⟨return_not_mem_write d depth, return_not_mem_writeItems items depth⟩

theorem return_not_mem_writeFields : ∀ (fields : List (Text × Document)) (depth : Nat),
    ∀ piece ∈ writeFields depth fields, '\r' ∉ piece
  | [], _ => nofun
  | (name, d) :: fields, depth => by
    refine List.forall_mem_cons.mpr ⟨?_, return_not_mem_writeFields fields depth⟩
    simp [return_not_mem_quote name, return_not_mem_write d depth]

end

/-- A manifest is read back from the text of its file, whatever the ends of its lines are. -/
theorem read_of_unixNewlines {d : Document} {found : Text}
    (same : unixNewlines found = unixNewlines (Manifest.render d)) : read (unixNewlines found) = some d := by
  have plain : unixNewlines (Manifest.render d) = Manifest.render d :=
    unixNewlines_of_not_mem (by simp [Manifest.render, return_not_mem_write d 0])
  have room : (write 0 d).length ≤ (write 0 d ++ ['\n']).length := by simp
  have reads := readValue_write d room (s := []) nofun ['\n'] (ends_cons rfl (by decide))
  rw [List.nil_append] at reads
  rw [same, plain, read, Manifest.render, reads]
  rfl

end Forwarding.Document
