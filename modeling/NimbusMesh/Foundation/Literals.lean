import Mathlib.Data.List.Basic
import Mathlib.Data.Rat.Defs
import Mathlib.Tactic.Ring
import Mathlib.Tactic.IntervalCases

namespace Foundation.Literals

def Printable (text : List Char) : Prop := ∀ c ∈ text, 32 ≤ c.toNat ∧ c.toNat ≤ 126

section Printable

variable {text more : List Char}

theorem printable_letters (letters : text.all (fun c => 32 ≤ c.toNat && c.toNat ≤ 126) = true) : Printable text := by
  intro c member
  simpa using List.all_eq_true.mp letters c member

theorem printable_nil : Printable [] := printable_letters rfl

theorem printable_cons {c : Char} (first : 32 ≤ c.toNat ∧ c.toNat ≤ 126) (later : Printable text) :
    Printable (c :: text) := List.forall_mem_cons.mpr ⟨first, later⟩

theorem Printable.append (first : Printable text) (second : Printable more) : Printable (text ++ more) :=
  List.forall_mem_append.mpr ⟨first, second⟩

theorem printable_digits (digits : ∀ c ∈ text, c.isDigit = true) : Printable text := by
  intro c member
  have digit := digits c member
  rw [Char.isDigit_iff_toNat] at digit
  change 48 ≤ c.toNat ∧ c.toNat ≤ 57 at digit
  omega

theorem printable_intercalate {separator : List Char} (between : Printable separator) {parts : List (List Char)}
    (each : ∀ part ∈ parts, Printable part) : Printable (separator.intercalate parts) := by
  induction parts with
  | nil => exact printable_nil
  | cons first later ih =>
    rw [List.forall_mem_cons] at each
    cases later with
    | nil =>
      rw [List.intercalate_singleton]
      exact each.1
    | cons next others =>
      rw [List.intercalate_cons_cons]
      exact (each.1.append between).append (ih each.2)

end Printable

section Hex

def hexValue (c : Char) : Option ℕ :=
  if '0' ≤ c ∧ c ≤ '9' then some (c.toNat - 48)
  else if 'a' ≤ c ∧ c ≤ 'f' then some (c.toNat - 87)
  else if 'A' ≤ c ∧ c ≤ 'F' then some (c.toNat - 55)
  else none

def hexDigits (n : ℕ) : List Char :=
  [Nat.digitChar (n / 0x1000), Nat.digitChar (n / 0x100 % 16), Nat.digitChar (n / 16 % 16), Nat.digitChar (n % 16)]

def readHex : List Char → Option (ℕ × List Char)
  | a :: b :: c :: d :: rest => do
    let a ← hexValue a
    let b ← hexValue b
    let c ← hexValue c
    let d ← hexValue d
    return (((a * 16 + b) * 16 + c) * 16 + d, rest)
  | _ => none

theorem hexValue_digitChar {n : ℕ} (bound : n < 16) : hexValue (Nat.digitChar n) = some n := by
  interval_cases n <;> decide

theorem readHex_hexDigits {n : ℕ} (bound : n < 0x10000) (rest : List Char) :
    readHex (hexDigits n ++ rest) = some (n, rest) := by
  have leading : n / 0x1000 < 16 := by omega
  have value : ((n / 0x1000 * 16 + n / 0x100 % 16) * 16 + n / 16 % 16) * 16 + n % 16 = n := by omega
  simp only [hexDigits, List.cons_append, List.nil_append, readHex, hexValue_digitChar leading,
    hexValue_digitChar (Nat.mod_lt _ (by decide : 0 < 16)), Option.bind_eq_bind, Option.bind_some, value]
  rfl

end Hex

section Strings

/-- The characters with an escape of two characters. -/
def shortEscapes : List (Char × Char) :=
  [('\\', '\\'), ('"', '"'), ('\x08', 'b'), ('\x0c', 'f'), ('\n', 'n'), ('\r', 'r'), ('\t', 't')]

def unicodeEscape (code : ℕ) : List Char := '\\' :: 'u' :: hexDigits code

/-- The escape of a character in a text of printable ASCII. A character outside the basic plane is a
    pair of surrogates. -/
def escapeChar (c : Char) : List Char :=
  match shortEscapes.lookup c with
  | some letter => ['\\', letter]
  | none =>
    if 32 ≤ c.toNat ∧ c.toNat ≤ 126 then [c]
    else if c.toNat < 0x10000 then unicodeEscape c.toNat
    else
      unicodeEscape (0xD800 + (c.toNat - 0x10000) / 0x400) ++ unicodeEscape (0xDC00 + (c.toNat - 0x10000) % 0x400)

def escape (text : List Char) : List Char := text.flatMap escapeChar

def quote (text : List Char) : List Char := '"' :: (escape text ++ ['"'])

/-- The escapes that a reader knows: those of the writer, and the one of a slash. -/
def backslashes : List (Char × Char) :=
  [('"', '"'), ('\\', '\\'), ('/', '/'), ('b', '\x08'), ('f', '\x0c'), ('n', '\n'), ('r', '\r'), ('t', '\t')]

def charOf (code : ℕ) : Option Char := if code.isValidChar then some (Char.ofNat code) else none

def lowSurrogate : List Char → Option (ℕ × List Char)
  | '\\' :: 'u' :: rest => (readHex rest).filter (fun unit => 0xDC00 ≤ unit.1 && unit.1 ≤ 0xDFFF)
  | _ => none

def joinSurrogates (high low : ℕ) : ℕ := 0x10000 + (high % 0x400 * 0x400 + low % 0x400)

/-- What follows a backslash. A surrogate alone is no character. -/
def unescape : List Char → Option (Char × List Char)
  | [] => none
  | letter :: rest =>
    if letter = 'u' then
      match readHex rest with
      | none => none
      | some (code, rest) =>
        if 0xD800 ≤ code ∧ code ≤ 0xDBFF then
          (lowSurrogate rest).bind (fun low => (charOf (joinSurrogates code low.1)).map (fun c => (c, low.2)))
        else (charOf code).map (fun c => (c, rest))
    else (backslashes.lookup letter).map (fun c => (c, rest))

def nextChar : List Char → Option (Char × List Char)
  | [] => none
  | c :: rest => if c = '\\' then unescape rest else if c.toNat < 32 then none else some (c, rest)

def scanString : ℕ → List Char → Option (List Char × List Char)
  | 0, _ => none
  | fuel + 1, text =>
    if text.head? = some '"' then some ([], text.tail)
    else do
      let (c, rest) ← nextChar text
      let (chars, rest) ← scanString fuel rest
      return (c :: chars, rest)

theorem mem_shortEscapes {c letter : Char} (found : shortEscapes.lookup c = some letter) :
    (c, letter) ∈ shortEscapes := by
  obtain ⟨before, after, split, _⟩ := List.lookup_eq_some_iff.mp found
  rw [split]
  simp

theorem toNat_valid (c : Char) : c.toNat < 0xD800 ∨ (0xDFFF < c.toNat ∧ c.toNat < 0x110000) := c.valid

theorem charOf_toNat (c : Char) : charOf c.toNat = some c := by
  unfold charOf
  rw [if_pos (toNat_valid c), Char.ofNat_toNat]

theorem lowSurrogate_unicodeEscape {code : ℕ} (low : 0xDC00 ≤ code) (high : code ≤ 0xDFFF) (rest : List Char) :
    lowSurrogate (unicodeEscape code ++ rest) = some (code, rest) := by
  simp only [unicodeEscape, List.cons_append, lowSurrogate]
  rw [readHex_hexDigits (by omega), Option.filter_some, if_pos (by simp [low, high])]

theorem unescape_basic {c : Char} (basic : c.toNat < 0x10000) (rest : List Char) :
    unescape ('u' :: (hexDigits c.toNat ++ rest)) = some (c, rest) := by
  have surrogate : ¬ (0xD800 ≤ c.toNat ∧ c.toNat ≤ 0xDBFF) := by
    have valid := toNat_valid c
    omega
  rw [unescape, if_pos rfl, readHex_hexDigits basic]
  simp only [if_neg surrogate, charOf_toNat, Option.map_some]

theorem unescape_pair {c : Char} {high low : ℕ} (first : 0xD800 ≤ high ∧ high ≤ 0xDBFF)
    (second : 0xDC00 ≤ low ∧ low ≤ 0xDFFF) (code : joinSurrogates high low = c.toNat) (rest : List Char) :
    unescape ('u' :: (hexDigits high ++ (unicodeEscape low ++ rest))) = some (c, rest) := by
  have bound : high < 0x10000 := by omega
  rw [unescape, if_pos rfl, readHex_hexDigits bound]
  simp only [if_pos first]
  rw [lowSurrogate_unicodeEscape second.1 second.2, Option.bind_some, code, charOf_toNat]
  rfl

theorem nextChar_unicodeEscape (code : ℕ) (rest : List Char) :
    nextChar (unicodeEscape code ++ rest) = unescape ('u' :: (hexDigits code ++ rest)) := rfl

theorem nextChar_supplementary {c : Char} (supplementary : 0x10000 ≤ c.toNat) (rest : List Char) {high low : ℕ}
    (first : high = 0xD800 + (c.toNat - 0x10000) / 0x400) (second : low = 0xDC00 + (c.toNat - 0x10000) % 0x400) :
    nextChar (unicodeEscape high ++ (unicodeEscape low ++ rest)) = some (c, rest) := by
  have valid := toNat_valid c
  have joined : joinSurrogates high low = c.toNat := by
    unfold joinSurrogates
    omega
  rw [nextChar_unicodeEscape]
  exact unescape_pair (by omega) (by omega) joined rest

theorem nextChar_escapeChar (c : Char) (rest : List Char) : nextChar (escapeChar c ++ rest) = some (c, rest) := by
  have letters : ∀ pair ∈ shortEscapes, pair.2 ≠ 'u' ∧ backslashes.lookup pair.2 = some pair.1 := by decide
  unfold escapeChar
  split
  · rename_i letter found
    obtain ⟨other, known⟩ := letters _ (mem_shortEscapes found)
    simp only [List.cons_append, List.nil_append, nextChar, if_true, unescape, if_neg other, known, Option.map_some]
  · rename_i plain
    have unescaped : c ≠ '\\' := by
      intro same
      rw [same] at plain
      exact absurd plain (by decide)
    split
    · rename_i printable
      simp only [List.cons_append, List.nil_append, nextChar, if_neg unescaped]
      rw [if_neg (by omega)]
    · split
      · rename_i basic
        rw [nextChar_unicodeEscape, unescape_basic basic]
      · rename_i supplementary
        rw [List.append_assoc]
        exact nextChar_supplementary (Nat.le_of_not_lt supplementary) rest rfl rfl

theorem digitChar_printable {n : ℕ} : 32 < (Nat.digitChar n).toNat ∧ (Nat.digitChar n).toNat ≤ 126 := by
  by_cases bound : n < 16
  · interval_cases n <;> decide
  · rw [Nat.digitChar_eq_star.mpr (Nat.le_of_not_lt bound)]
    decide

theorem unicodeEscape_printable (code : ℕ) : Printable (unicodeEscape code) := by
  intro c member
  simp only [unicodeEscape, hexDigits, List.mem_cons, List.not_mem_nil, or_false] at member
  rcases member with rfl | rfl | rfl | rfl | rfl | rfl
  · decide
  · decide
  all_goals exact ⟨digitChar_printable.1.le, digitChar_printable.2⟩

theorem escapeChar_printable (c : Char) : Printable (escapeChar c) := by
  have letters : ∀ pair ∈ shortEscapes, 32 ≤ pair.2.toNat ∧ pair.2.toNat ≤ 126 := by decide
  intro d member
  unfold escapeChar at member
  split at member
  · rename_i letter found
    simp only [List.mem_cons, List.not_mem_nil, or_false] at member
    rcases member with rfl | rfl
    · decide
    · exact letters _ (mem_shortEscapes found)
  · split at member
    · rename_i printable
      rw [List.mem_singleton] at member
      rw [member]
      exact printable
    · split at member
      · exact unicodeEscape_printable _ d member
      · rcases List.mem_append.mp member with first | second
        · exact unicodeEscape_printable _ d first
        · exact unicodeEscape_printable _ d second

theorem quote_printable (text : List Char) : Printable (quote text) := by
  apply printable_cons (by decide)
  apply Printable.append
  · intro d member
    obtain ⟨c, _, inside⟩ := List.mem_flatMap.mp member
    exact escapeChar_printable c d inside
  · exact printable_letters rfl

theorem head_escapeChar (c : Char) (rest : List Char) : (escapeChar c ++ rest).head? ≠ some '"' := by
  unfold escapeChar
  split
  · simp
  · rename_i plain
    have unquoted : c ≠ '"' := by
      intro same
      rw [same] at plain
      exact absurd plain (by decide)
    split
    · simpa using unquoted
    · split
      · simp [unicodeEscape]
      · simp [unicodeEscape]

theorem scanString_escape {text : List Char} {fuel : ℕ} (enough : text.length < fuel) (rest : List Char) :
    scanString fuel (escape text ++ '"' :: rest) = some (text, rest) := by
  induction text generalizing fuel with
  | nil =>
    obtain ⟨left, rfl⟩ := Nat.exists_eq_succ_of_ne_zero (Nat.ne_of_gt enough)
    rfl
  | cons c later ih =>
    obtain ⟨left, rfl⟩ := Nat.exists_eq_succ_of_ne_zero (Nat.ne_of_gt (Nat.zero_lt_of_lt enough))
    rw [escape, List.flatMap_cons, List.append_assoc, Nat.succ_eq_add_one, scanString,
      if_neg (head_escapeChar c _), nextChar_escapeChar]
    have read := ih (Nat.lt_of_succ_lt_succ enough)
    rw [escape] at read
    simp only [Option.bind_eq_bind, Option.bind_some, read]
    rfl

theorem escapeChar_ne_nil (c : Char) : escapeChar c ≠ [] := by
  intro empty
  have read := nextChar_escapeChar c []
  rw [empty] at read
  cases read

theorem length_le_escape (text : List Char) : text.length ≤ (escape text).length := by
  induction text with
  | nil => exact Nat.zero_le _
  | cons c later ih =>
    have nonempty := List.length_pos_of_ne_nil (escapeChar_ne_nil c)
    rw [escape, List.flatMap_cons, List.length_append, List.length_cons]
    rw [escape] at ih
    omega

end Strings

section Numbers

/-- The groups of the text of a number. -/
structure NumberToken where
  integer : List Char
  fraction : List Char
  exponent : List Char

def NumberToken.text (token : NumberToken) : List Char := token.integer ++ (token.fraction ++ token.exponent)

def naturalAt : List Char → Option (List Char × List Char)
  | [] => none
  | c :: rest =>
    if c = '0' then some (['0'], rest)
    else if c.isDigit then some (c :: rest.takeWhile Char.isDigit, rest.dropWhile Char.isDigit)
    else none

def integerAt (text : List Char) : Option (List Char × List Char) :=
  if text.head? = some '-' then (naturalAt text.tail).map (fun read => ('-' :: read.1, read.2))
  else naturalAt text

def fractionAt : List Char → List Char × List Char
  | [] => ([], [])
  | c :: rest =>
    if c = '.' ∧ rest.takeWhile Char.isDigit ≠ [] then
      ('.' :: rest.takeWhile Char.isDigit, rest.dropWhile Char.isDigit)
    else ([], c :: rest)

def signAt : List Char → List Char × List Char
  | [] => ([], [])
  | c :: rest => if c = '+' ∨ c = '-' then ([c], rest) else ([], c :: rest)

def exponentAt : List Char → List Char × List Char
  | [] => ([], [])
  | c :: rest =>
    if (c = 'e' ∨ c = 'E') ∧ (signAt rest).2.takeWhile Char.isDigit ≠ [] then
      (c :: ((signAt rest).1 ++ (signAt rest).2.takeWhile Char.isDigit), (signAt rest).2.dropWhile Char.isDigit)
    else ([], c :: rest)

def numberAt (text : List Char) : Option (NumberToken × List Char) :=
  (integerAt text).map (fun integer =>
    let fraction := fractionAt integer.2
    let exponent := exponentAt fraction.2
    (⟨integer.1, fraction.1, exponent.1⟩, exponent.2))

def intText : ℤ → List Char
  | .ofNat n => Nat.toDigits 10 n
  | .negSucc n => '-' :: Nat.toDigits 10 (n + 1)

def readInt (text : List Char) : ℤ :=
  if text.head? = some '-' then -(Nat.ofDigitChars 10 text.tail 0 : ℤ) else Nat.ofDigitChars 10 text 0

/-- What a finite float is written as: digits, then a fraction or an exponent or both. -/
structure FloatLiteral where
  negative : Bool
  whole : ℕ
  fraction : List Char
  exponent : Option (Bool × List Char)
  fraction_digits : ∀ c ∈ fraction, c.isDigit = true
  exponent_digits : ∀ power ∈ exponent, power.2 ≠ [] ∧ ∀ c ∈ power.2, c.isDigit = true
  marked : fraction ≠ [] ∨ exponent ≠ none

namespace FloatLiteral

def integerText (literal : FloatLiteral) : List Char :=
  if literal.negative then '-' :: Nat.toDigits 10 literal.whole else Nat.toDigits 10 literal.whole

def fractionText (literal : FloatLiteral) : List Char :=
  if literal.fraction = [] then [] else '.' :: literal.fraction

def exponentText (literal : FloatLiteral) : List Char :=
  match literal.exponent with
  | none => []
  | some (negative, digits) => 'e' :: (if negative then '-' else '+') :: digits

def token (literal : FloatLiteral) : NumberToken :=
  ⟨literal.integerText, literal.fractionText, literal.exponentText⟩

def text (literal : FloatLiteral) : List Char := literal.token.text

end FloatLiteral

def Delimited (text : List Char) : Prop :=
  ∀ c ∈ text.head?, c.isDigit = false ∧ c ≠ '.' ∧ c ≠ 'e' ∧ c ≠ 'E'

theorem takeWhile_digits {digits rest : List Char} (all : ∀ c ∈ digits, c.isDigit = true)
    (ends : ∀ c ∈ rest.head?, c.isDigit = false) : (digits ++ rest).takeWhile Char.isDigit = digits := by
  rw [List.takeWhile_append_of_pos all]
  cases rest with
  | nil => simp
  | cons c later => rw [List.takeWhile_cons_of_neg (by simp [ends c rfl]), List.append_nil]

theorem dropWhile_digits {digits rest : List Char} (all : ∀ c ∈ digits, c.isDigit = true)
    (ends : ∀ c ∈ rest.head?, c.isDigit = false) : (digits ++ rest).dropWhile Char.isDigit = rest := by
  rw [List.dropWhile_append_of_pos all]
  cases rest with
  | nil => rfl
  | cons c later => rw [List.dropWhile_cons_of_neg (by simp [ends c rfl])]

theorem isDigit_toDigits (n : ℕ) : ∀ c ∈ Nat.toDigits 10 n, c.isDigit = true :=
  fun _ member => Nat.isDigit_of_mem_toDigits (by decide) (by decide) member

theorem toDigits_leading {n : ℕ} (positive : 0 < n) : ∃ c later, Nat.toDigits 10 n = c :: later ∧ c ≠ '0' := by
  induction n using Nat.strongRecOn with
  | ind n ih =>
    by_cases small : n < 10
    · refine ⟨n.digitChar, [], Nat.toDigits_of_lt_base small, ?_⟩
      rw [Ne, Nat.digitChar_eq_zero]
      omega
    · obtain ⟨c, later, leading, nonzero⟩ := ih (n / 10) (by omega) (by omega)
      refine ⟨c, later ++ [(n % 10).digitChar], ?_, nonzero⟩
      rw [Nat.toDigits_of_base_le (by decide) (by omega), leading]
      rfl

theorem naturalAt_toDigits (n : ℕ) {rest : List Char} (ends : ∀ c ∈ rest.head?, c.isDigit = false) :
    naturalAt (Nat.toDigits 10 n ++ rest) = some (Nat.toDigits 10 n, rest) := by
  rcases Nat.eq_zero_or_pos n with rfl | positive
  · rfl
  · obtain ⟨c, later, leading, nonzero⟩ := toDigits_leading positive
    have digits := isDigit_toDigits n
    rw [leading, List.forall_mem_cons] at digits
    rw [leading, List.cons_append, naturalAt, if_neg nonzero, if_pos digits.1, takeWhile_digits digits.2 ends,
      dropWhile_digits digits.2 ends]

theorem toDigits_cons (n : ℕ) : ∃ c later, Nat.toDigits 10 n = c :: later ∧ c.isDigit = true := by
  obtain ⟨c, later, shape⟩ := List.exists_cons_of_ne_nil (@Nat.toDigits_ne_nil n 10)
  exact ⟨c, later, shape, isDigit_toDigits n c (shape ▸ List.mem_cons_self)⟩

theorem head_toDigits (n : ℕ) (rest : List Char) : (Nat.toDigits 10 n ++ rest).head? ≠ some '-' := by
  obtain ⟨c, later, shape, digit⟩ := toDigits_cons n
  rw [shape]
  intro leads
  cases leads
  exact absurd digit (by decide)

theorem integerAt_signed (negative : Bool) (n : ℕ) {rest : List Char} (ends : ∀ c ∈ rest.head?, c.isDigit = false) :
    integerAt ((if negative then '-' :: Nat.toDigits 10 n else Nat.toDigits 10 n) ++ rest) =
      some (if negative then '-' :: Nat.toDigits 10 n else Nat.toDigits 10 n, rest) := by
  cases negative with
  | false =>
    rw [if_neg Bool.false_ne_true, integerAt, if_neg (head_toDigits n rest), naturalAt_toDigits n ends]
  | true =>
    rw [if_pos rfl, List.cons_append, integerAt, List.head?_cons, if_pos rfl, List.tail_cons,
      naturalAt_toDigits n ends]
    rfl

theorem fractionAt_none {rest : List Char} (other : ∀ c ∈ rest.head?, c ≠ '.') : fractionAt rest = ([], rest) := by
  cases rest with
  | nil => rfl
  | cons c later => rw [fractionAt, if_neg (fun marked => other c rfl marked.1)]

theorem fractionAt_digits {digits rest : List Char} (all : ∀ c ∈ digits, c.isDigit = true) (nonempty : digits ≠ [])
    (ends : ∀ c ∈ rest.head?, c.isDigit = false) :
    fractionAt ('.' :: (digits ++ rest)) = ('.' :: digits, rest) := by
  rw [fractionAt, takeWhile_digits all ends, dropWhile_digits all ends, if_pos ⟨rfl, nonempty⟩]

theorem exponentAt_none {rest : List Char} (other : ∀ c ∈ rest.head?, c ≠ 'e' ∧ c ≠ 'E') :
    exponentAt rest = ([], rest) := by
  cases rest with
  | nil => rfl
  | cons c later =>
    rw [exponentAt, if_neg]
    rintro ⟨small | large, _⟩
    · exact (other c rfl).1 small
    · exact (other c rfl).2 large

theorem exponentAt_digits (negative : Bool) {digits rest : List Char} (all : ∀ c ∈ digits, c.isDigit = true)
    (nonempty : digits ≠ []) (ends : ∀ c ∈ rest.head?, c.isDigit = false) :
    exponentAt ('e' :: (if negative then '-' else '+') :: (digits ++ rest)) =
      ('e' :: (if negative then '-' else '+') :: digits, rest) := by
  have signed : signAt ((if negative then '-' else '+') :: (digits ++ rest)) =
      ([if negative then '-' else '+'], digits ++ rest) := by
    cases negative <;> rfl
  rw [exponentAt, signed, takeWhile_digits all ends, dropWhile_digits all ends, if_pos ⟨Or.inl rfl, nonempty⟩]
  rfl

theorem isDigit_head {text : List Char} (delimited : Delimited text) : ∀ c ∈ text.head?, c.isDigit = false :=
  fun c leads => (delimited c leads).1

theorem intText_eq (value : ℤ) :
    intText value = if value < 0 then '-' :: Nat.toDigits 10 value.natAbs else Nat.toDigits 10 value.natAbs := by
  cases value with
  | ofNat n =>
    rw [if_neg (by simp), intText]
    rfl
  | negSucc n => rw [if_pos (Int.negSucc_lt_zero n), intText, Int.natAbs_negSucc]

theorem numberAt_intText (value : ℤ) {rest : List Char} (delimited : Delimited rest) :
    numberAt (intText value ++ rest) = some (⟨intText value, [], []⟩, rest) := by
  have read := integerAt_signed (decide (value < 0)) value.natAbs (isDigit_head delimited)
  simp only [decide_eq_true_eq, ← intText_eq] at read
  rw [numberAt, read, Option.map_some]
  simp only [fractionAt_none (fun c leads => (delimited c leads).2.1),
    exponentAt_none (fun c leads => (delimited c leads).2.2)]

theorem readInt_intText (value : ℤ) : readInt (intText value) = value := by
  cases value with
  | ofNat n =>
    have unsigned := head_toDigits n []
    rw [List.append_nil] at unsigned
    rw [intText, readInt, if_neg unsigned, Nat.ofDigitChars_ten_toDigits]
    rfl
  | negSucc n =>
    rw [intText, readInt, List.head?_cons, if_pos rfl, List.tail_cons, Nat.ofDigitChars_ten_toDigits]
    rfl

namespace FloatLiteral

variable (literal : FloatLiteral) {rest : List Char}

theorem head_exponentText (delimited : Delimited rest) :
    ∀ c ∈ (literal.exponentText ++ rest).head?, c.isDigit = false ∧ c ≠ '.' := by
  unfold exponentText
  split
  · exact fun c leads => ⟨(delimited c leads).1, (delimited c leads).2.1⟩
  · intro c leads
    cases leads
    decide

theorem fractionAt_text (delimited : Delimited rest) :
    fractionAt (literal.fractionText ++ (literal.exponentText ++ rest)) =
      (literal.fractionText, literal.exponentText ++ rest) := by
  have later := literal.head_exponentText delimited
  unfold fractionText
  split
  · exact fractionAt_none (fun c leads => (later c leads).2)
  · rename_i nonempty
    exact fractionAt_digits literal.fraction_digits nonempty (fun c leads => (later c leads).1)

theorem exponentAt_text (delimited : Delimited rest) :
    exponentAt (literal.exponentText ++ rest) = (literal.exponentText, rest) := by
  unfold exponentText
  split
  · exact exponentAt_none (fun c leads => (delimited c leads).2.2)
  · rename_i negative digits power
    obtain ⟨nonempty, all⟩ := literal.exponent_digits _ power
    exact exponentAt_digits negative all nonempty (isDigit_head delimited)

theorem head_fractionText (delimited : Delimited rest) :
    ∀ c ∈ (literal.fractionText ++ (literal.exponentText ++ rest)).head?, c.isDigit = false := by
  have later := literal.head_exponentText delimited
  unfold fractionText
  split
  · exact fun c leads => (later c leads).1
  · intro c leads
    cases leads
    decide

theorem numberAt_text (delimited : Delimited rest) :
    numberAt (literal.text ++ rest) = some (literal.token, rest) := by
  have read := integerAt_signed literal.negative literal.whole (literal.head_fractionText delimited)
  have unfolded : literal.text ++ rest =
      literal.integerText ++ (literal.fractionText ++ (literal.exponentText ++ rest)) := by
    simp only [text, token, NumberToken.text, List.append_assoc]
  rw [unfolded, numberAt, integerText, read, Option.map_some]
  simp only [literal.fractionAt_text delimited, literal.exponentAt_text delimited]
  rfl

theorem token_marked : literal.token.fraction ≠ [] ∨ literal.token.exponent ≠ [] := by
  rcases literal.marked with fraction | exponent
  · left
    simp [token, fractionText, fraction]
  · right
    cases power : literal.exponent with
    | none => exact absurd power exponent
    | some signed => simp [token, exponentText, power]

theorem text_leading : ∃ c later, literal.text = c :: later ∧ (c.isDigit = true ∨ c = '-') := by
  obtain ⟨first, later, shape, digit⟩ := toDigits_cons literal.whole
  simp only [text, token, NumberToken.text, integerText, shape]
  cases literal.negative with
  | false => exact ⟨first, _, rfl, Or.inl digit⟩
  | true => exact ⟨'-', _, rfl, Or.inr rfl⟩

end FloatLiteral

theorem intText_leading (value : ℤ) : ∃ c later, intText value = c :: later ∧ (c.isDigit = true ∨ c = '-') := by
  cases value with
  | ofNat n =>
    obtain ⟨first, later, shape, digit⟩ := toDigits_cons n
    exact ⟨first, later, shape, Or.inl digit⟩
  | negSucc n => exact ⟨'-', _, rfl, Or.inr rfl⟩

theorem intText_printable (value : ℤ) : Printable (intText value) := by
  cases value with
  | ofNat n => exact printable_digits (isDigit_toDigits n)
  | negSucc n => exact printable_cons (by decide) (printable_digits (isDigit_toDigits (n + 1)))

theorem FloatLiteral.text_printable (literal : FloatLiteral) : Printable literal.text := by
  have digits := printable_digits (isDigit_toDigits literal.whole)
  apply Printable.append
  · simp only [token, integerText]
    split
    · exact printable_cons (by decide) digits
    · exact digits
  · apply Printable.append
    · simp only [token, fractionText]
      split
      · exact printable_nil
      · exact printable_cons (by decide) (printable_digits literal.fraction_digits)
    · simp only [token, exponentText]
      split
      · exact printable_nil
      · rename_i negative power held
        have sign : 32 ≤ (if negative then '-' else '+').toNat ∧ (if negative then '-' else '+').toNat ≤ 126 := by
          cases negative <;> decide
        exact printable_cons (by decide) (printable_cons sign (printable_digits (literal.exponent_digits _ held).2))

end Numbers

end Foundation.Literals
