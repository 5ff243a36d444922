import NimbusMesh.Foundation.Scanning

namespace NimbusMesh.Text

open Foundation.Scanning

/-- The whitespace that `str.strip` and `str.split` remove. -/
def isSpace (c : Char) : Bool :=
  let code := c.toNat
  (9 ≤ code && code ≤ 13) || (28 ≤ code && code ≤ 32) || (0x2000 ≤ code && code ≤ 0x200A) ||
    [0x85, 0xA0, 0x1680, 0x2028, 0x2029, 0x202F, 0x205F, 0x3000].contains code

def strip (text : String) : String :=
  String.ofList ((text.toList.dropWhile isSpace).reverse.dropWhile isSpace).reverse

def split (text : String) : List String :=
  ((text.toList.splitOnP isSpace).filter (fun word => !word.isEmpty)).map String.ofList

/-- Lower case, as far as the comparison with a word of ASCII letters can tell. -/
def lower (text : String) : String := String.ofList (text.toList.map Char.toLower)

def rstrip (text : String) : String := String.ofList (text.toList.rdropWhile isSpace)

def startsWith (text start : String) : Bool := start.toList.isPrefixOf text.toList

def contains (text part : String) : Bool := decide (part.toList <:+: text.toList)

/-- The ends of a line that `str.splitlines` knows. -/
def isLineBreak (c : Char) : Bool :=
  let code := c.toNat
  (10 ≤ code && code ≤ 13) || (28 ≤ code && code ≤ 30) || [0x85, 0x2028, 0x2029].contains code

def linesOf : List Char → List (List Char)
  | [] => []
  | '\r' :: '\n' :: rest => [] :: linesOf rest
  | c :: rest =>
    if isLineBreak c then [] :: linesOf rest
    else
      match linesOf rest with
      | [] => [[c]]
      | line :: lines => (c :: line) :: lines

def splitlines (text : String) : List String := (linesOf text.toList).map String.ofList

/-- The zeros of the decimal digits of Unicode 14. The nine other digits of a script follow its zero. -/
def decimalZeros : List ℕ :=
  [0x30, 0x660, 0x6F0, 0x7C0, 0x966, 0x9E6, 0xA66, 0xAE6, 0xB66, 0xBE6, 0xC66, 0xCE6, 0xD66, 0xDE6, 0xE50,
    0xED0, 0xF20, 0x1040, 0x1090, 0x17E0, 0x1810, 0x1946, 0x19D0, 0x1A80, 0x1A90, 0x1B50, 0x1BB0, 0x1C40,
    0x1C50, 0xA620, 0xA8D0, 0xA900, 0xA9D0, 0xA9F0, 0xAA50, 0xABF0, 0xFF10, 0x104A0, 0x10D30, 0x11066,
    0x110F0, 0x11136, 0x111D0, 0x112F0, 0x11450, 0x114D0, 0x11650, 0x116C0, 0x11730, 0x118E0, 0x11950,
    0x11C50, 0x11D50, 0x11DA0, 0x16A60, 0x16AC0, 0x16B50, 0x1D7CE, 0x1D7D8, 0x1D7E2, 0x1D7EC, 0x1D7F6,
    0x1E140, 0x1E2F0, 0x1E950, 0x1FBF0]

/-- The characters that `\d` matches in a regular expression. -/
def isDecimal (c : Char) : Bool :=
  decimalZeros.any (fun first => first ≤ c.toNat && c.toNat ≤ first + 9)

theorem forall_eq_false_of_any {property : Char → Bool} {text : List Char} (none : text.any property = false) :
    ∀ c ∈ text, property c = false := by
  intro c member
  exact Bool.eq_false_iff.mpr (List.any_eq_false.mp none c member)

section Lines

variable {line : List Char}

theorem isSpace_of_isLineBreak {c : Char} (ends : isLineBreak c = true) : isSpace c = true := by
  simp only [isLineBreak, isSpace, Bool.or_eq_true, Bool.and_eq_true, decide_eq_true_eq, List.contains_cons,
    List.contains_nil, Bool.or_false, beq_iff_eq] at ends ⊢
  omega

theorem isDecimal_of_isSpace {c : Char} (space : isSpace c = true) : isDecimal c = false := by
  have spaces : ∀ code ∈ [9, 10, 11, 12, 13, 28, 29, 30, 31, 32, 0x2000, 0x2001, 0x2002, 0x2003, 0x2004, 0x2005,
      0x2006, 0x2007, 0x2008, 0x2009, 0x200A, 0x85, 0xA0, 0x1680, 0x2028, 0x2029, 0x202F, 0x205F, 0x3000],
      decimalZeros.any (fun first => first ≤ code && code ≤ first + 9) = false := by decide
  apply spaces c.toNat
  simp only [isSpace, Bool.or_eq_true, Bool.and_eq_true, decide_eq_true_eq, List.contains_cons, List.contains_nil,
    Bool.or_false, beq_iff_eq] at space
  simp only [List.mem_cons, List.not_mem_nil, or_false]
  omega

theorem isSpace_of_isDigit {c : Char} (digit : c.isDigit = true) : isSpace c = false := by
  rw [Char.isDigit_iff_toNat] at digit
  change 48 ≤ c.toNat ∧ c.toNat ≤ 57 at digit
  by_contra space
  simp only [Bool.not_eq_false, isSpace, Bool.or_eq_true, Bool.and_eq_true, decide_eq_true_eq, List.contains_cons,
    List.contains_nil, Bool.or_false, beq_iff_eq] at space
  omega

theorem linesOf_append (unbroken : ∀ c ∈ line, isLineBreak c = false) (rest : List Char) :
    linesOf (line ++ '\n' :: rest) = line :: linesOf rest := by
  induction line with
  | nil => rfl
  | cons c later ih =>
    rw [List.forall_mem_cons] at unbroken
    rw [List.cons_append, linesOf, unbroken.1, if_neg Bool.false_ne_true, ih unbroken.2]
    intro _ returns _
    rw [returns] at unbroken
    exact absurd unbroken.1 (by decide)

theorem linesOf_last (unbroken : ∀ c ∈ line, isLineBreak c = false) :
    linesOf line = if line = [] then [] else [line] := by
  induction line with
  | nil => rfl
  | cons c later ih =>
    rw [List.forall_mem_cons] at unbroken
    rw [linesOf, unbroken.1, if_neg Bool.false_ne_true, ih unbroken.2, if_neg (List.cons_ne_nil c later)]
    · by_cases ends : later = []
      · rw [if_pos ends, ends]
      · rw [if_neg ends]
    · intro _ returns _
      rw [returns] at unbroken
      exact absurd unbroken.1 (by decide)

theorem filter_linesOf {lines : List (List Char)} (unbroken : ∀ line ∈ lines, ∀ c ∈ line, isLineBreak c = false)
    {keep : List Char → Bool} (drops : keep [] = false) :
    (linesOf (['\n'].intercalate lines)).filter keep = lines.filter keep := by
  induction lines with
  | nil => rfl
  | cons line rest ih =>
    rw [List.forall_mem_cons] at unbroken
    cases rest with
    | nil =>
      rw [List.intercalate_singleton, linesOf_last unbroken.1]
      split
      · rename_i empty
        rw [empty, List.filter_cons_of_neg (by simp [drops])]
      · rfl
    | cons next later =>
      have joined : ['\n'].intercalate (line :: next :: later) =
          line ++ '\n' :: ['\n'].intercalate (next :: later) := by
        simp [List.intercalate_cons_cons]
      rw [joined, linesOf_append unbroken.1, List.filter_cons, List.filter_cons, ih unbroken.2]

theorem strip_eq_empty {text : String} : strip text = "" ↔ ∀ c ∈ text.toList, isSpace c = true := by
  unfold strip
  rw [← String.toList_inj, String.toList_ofList, String.toList_empty, List.reverse_eq_nil_iff,
    List.dropWhile_eq_nil_iff]
  simp only [List.mem_reverse]
  constructor
  · intro dropped
    apply List.dropWhile_eq_nil_iff.mp
    by_contra some
    have leads := List.head_dropWhile_not isSpace some
    rw [dropped _ (List.head_mem some)] at leads
    cases leads
  · intro spaces
    rw [List.dropWhile_eq_nil_iff.mpr spaces]
    intro c member
    cases member

end Lines

end NimbusMesh.Text
