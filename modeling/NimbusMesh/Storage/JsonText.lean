import Mathlib.Data.List.Sort
import Mathlib.Data.String.Basic
import NimbusMesh.Foundation.Literals
import NimbusMesh.Storage.RedisStore
import NimbusMesh.Text

namespace NimbusMesh

open Foundation Foundation.Literals

/-- The texts of the floats: `float.__repr__` and `float`, and which values are floats. The repr of a
    float reads back as the same float. A number that is too large for a float reads as nothing. -/
structure FloatText where
  IsFloat : ℚ → Prop
  repr : ℚ → FloatLiteral
  read : List Char → Option ℚ
  read_repr : ∀ value, IsFloat value → read (repr value).text = some value

namespace Json

section Writing

variable (floats : FloatText)

mutual

/-- The text that `json.dumps` writes, with its default separators and in ASCII. -/
def encode : Json → List Char
  | .null => ['n', 'u', 'l', 'l']
  | .bool true => ['t', 'r', 'u', 'e']
  | .bool false => ['f', 'a', 'l', 's', 'e']
  | .int value => intText value
  | .float value => (floats.repr value).text
  | .nonFinite .nan => ['N', 'a', 'N']
  | .nonFinite .inf => ['I', 'n', 'f', 'i', 'n', 'i', 't', 'y']
  | .nonFinite .negInf => ['-', 'I', 'n', 'f', 'i', 'n', 'i', 't', 'y']
  | .str value => quote value.toList
  | .arr items => '[' :: ([',', ' '].intercalate (encodeItems items) ++ [']'])
  | .obj fields => '\x7b' :: ([',', ' '].intercalate (encodeFields fields) ++ ['\x7d'])

def encodeItems : List Json → List (List Char)
  | [] => []
  | item :: rest => encode item :: encodeItems rest

def encodeFields : List (String × Json) → List (List Char)
  | [] => []
  | (key, value) :: rest => (quote key.toList ++ ':' :: ' ' :: encode value) :: encodeFields rest

end

def dumps (value : Json) : String := String.ofList (value.encode floats)

end Writing

mutual

def sortKeys : Json → Json
  | .arr items => .arr (sortItems items)
  | .obj fields => .obj ((sortFields fields).insertionSort (fun a b => a.1 ≤ b.1))
  | .null => .null
  | .bool value => .bool value
  | .int value => .int value
  | .float value => .float value
  | .nonFinite value => .nonFinite value
  | .str value => .str value

def sortItems : List Json → List Json
  | [] => []
  | item :: rest => sortKeys item :: sortItems rest

def sortFields : List (String × Json) → List (String × Json)
  | [] => []
  | (key, value) :: rest => (key, sortKeys value) :: sortFields rest

end

section Reading

variable (floats : FloatText)

def isBlank (c : Char) : Bool := c == ' ' || c == '\t' || c == '\n' || c == '\r'

def skip (text : List Char) : List Char := text.dropWhile isBlank

def keyword (letters : List Char) (value : Json) (text : List Char) : Option (Json × List Char) :=
  if letters.isPrefixOf text then some (value, text.drop letters.length) else none

/-- The infinity that a number too large for a float is read as. -/
def overflowed (token : NumberToken) : NonFinite := if token.integer.head? = some '-' then .negInf else .inf

/-- A number is an integer unless it has a fraction or an exponent. -/
def scanNumber (text : List Char) : Option (Json × List Char) :=
  match numberAt text with
  | none => keyword ['-', 'I', 'n', 'f', 'i', 'n', 'i', 't', 'y'] (.nonFinite .negInf) text
  | some (token, rest) =>
    if token.fraction = [] ∧ token.exponent = [] then some (.int (readInt token.integer), rest)
    else
      match floats.read token.text with
      | some value => some (.float value, rest)
      | none => some (.nonFinite (overflowed token), rest)

mutual

def scanOnce : ℕ → List Char → Option (Json × List Char)
  | 0, _ => none
  | _ + 1, [] => none
  | fuel + 1, c :: rest =>
    if c = '"' then (scanString fuel rest).map (fun read => (.str (String.ofList read.1), read.2))
    else if c = '\x7b' then
      if (skip rest).head? = some '\x7d' then some (.obj [], (skip rest).tail)
      else (scanFields fuel KeyedList.empty (skip rest)).map (fun read => (.obj read.1.toList, read.2))
    else if c = '[' then
      if (skip rest).head? = some ']' then some (.arr [], (skip rest).tail)
      else (scanItems fuel (skip rest)).map (fun read => (.arr read.1, read.2))
    else if c = 'n' then keyword ['u', 'l', 'l'] .null rest
    else if c = 't' then keyword ['r', 'u', 'e'] (.bool true) rest
    else if c = 'f' then keyword ['a', 'l', 's', 'e'] (.bool false) rest
    else if c = 'N' then keyword ['a', 'N'] (.nonFinite .nan) rest
    else if c = 'I' then keyword ['n', 'f', 'i', 'n', 'i', 't', 'y'] (.nonFinite .inf) rest
    else scanNumber floats (c :: rest)

def scanItems : ℕ → List Char → Option (List Json × List Char)
  | 0, _ => none
  | fuel + 1, text =>
    (scanOnce fuel text).bind (fun item =>
      let rest := skip item.2
      if rest.head? = some ',' then
        (scanItems fuel (skip rest.tail)).map (fun later => (item.1 :: later.1, later.2))
      else if rest.head? = some ']' then some ([item.1], rest.tail)
      else none)

/-- The fields of an object. A key that comes again replaces its value. -/
def scanFields : ℕ → Dict String Json → List Char → Option (Dict String Json × List Char)
  | 0, _, _ => none
  | fuel + 1, seen, text =>
    if text.head? = some '"' then
      (scanString fuel text.tail).bind (fun key =>
        let colon := skip key.2
        if colon.head? = some ':' then
          (scanOnce fuel (skip colon.tail)).bind (fun value =>
            let rest := skip value.2
            let seen := Dict.set seen (String.ofList key.1) value.1
            if rest.head? = some ',' then scanFields fuel seen (skip rest.tail)
            else if rest.head? = some '\x7d' then some (seen, rest.tail)
            else none)
        else none)
    else none

end

/-- The document of a text, or nothing where `json.loads` raises. -/
def loads (text : String) : Option Json :=
  (scanOnce floats (2 * text.toList.length) (skip text.toList)).bind (fun read =>
    if skip read.2 = [] then some read.1 else none)

end Reading

section RoundTrip

variable (floats : FloatText)

mutual

/-- The documents that a text can hold: their floats are floats and their keys are distinct. -/
def Writable : Json → Prop
  | .float value => floats.IsFloat value
  | .arr items => WritableItems items
  | .obj fields => (fields.map Prod.fst).Nodup ∧ WritableFields fields
  | .null | .bool _ | .int _ | .nonFinite _ | .str _ => True

def WritableItems : List Json → Prop
  | [] => True
  | item :: rest => Writable item ∧ WritableItems rest

def WritableFields : List (String × Json) → Prop
  | [] => True
  | (_, value) :: rest => Writable value ∧ WritableFields rest

end

theorem skip_nonblank {text : List Char} (nonblank : ∀ c ∈ text.head?, isBlank c = false) : skip text = text := by
  cases text with
  | nil => rfl
  | cons c rest => rw [skip, List.dropWhile_cons_of_neg (by simp [nonblank c rfl])]

def Opens (c : Char) : Prop := c.isDigit = true ∨ c ∈ ['-', 'n', 't', 'f', 'N', 'I', '"', '[', '\x7b']

instance (c : Char) : Decidable (Opens c) := inferInstanceAs (Decidable (_ ∨ _))

theorem Opens.nonblank {c : Char} (opens : Opens c) : isBlank c = false := by
  by_contra blank
  simp only [Bool.not_eq_false, isBlank, Bool.or_eq_true, beq_iff_eq] at blank
  rcases blank with ((rfl | rfl) | rfl) | rfl <;> exact absurd opens (by decide)

theorem encode_opens (value : Json) : ∃ c later, value.encode floats = c :: later ∧ Opens c := by
  cases value with
  | null => exact ⟨_, _, rfl, by decide⟩
  | bool value => cases value <;> exact ⟨_, _, rfl, by decide⟩
  | int value =>
    obtain ⟨c, later, shape, leads⟩ := intText_leading value
    exact ⟨c, later, shape, leads.imp_right (by simp [·])⟩
  | float value =>
    obtain ⟨c, later, shape, leads⟩ := (floats.repr value).text_leading
    exact ⟨c, later, shape, leads.imp_right (by simp [·])⟩
  | nonFinite value => cases value <;> exact ⟨_, _, rfl, by decide⟩
  | str value => exact ⟨_, _, rfl, by decide⟩
  | arr items => exact ⟨_, _, rfl, by decide⟩
  | obj fields => exact ⟨_, _, rfl, by decide⟩

theorem skip_encode (value : Json) (rest : List Char) :
    skip (value.encode floats ++ rest) = value.encode floats ++ rest := by
  obtain ⟨c, later, shape, opens⟩ := encode_opens floats value
  apply skip_nonblank
  intro first leads
  rw [shape] at leads
  cases leads
  exact opens.nonblank

theorem scanOnce_number {c : Char} (leads : c.isDigit = true ∨ c = '-') (fuel : ℕ) (text : List Char) :
    scanOnce floats (fuel + 1) (c :: text) = scanNumber floats (c :: text) := by
  have others : ∀ d ∈ ['"', '\x7b', '[', 'n', 't', 'f', 'N', 'I'], c ≠ d := by
    rintro d member rfl
    simp only [List.mem_cons, List.not_mem_nil, or_false] at member
    rcases member with rfl | rfl | rfl | rfl | rfl | rfl | rfl | rfl <;> exact absurd leads (by decide)
  simp only [List.forall_mem_cons] at others
  obtain ⟨quoted, object, array, null, yes, no, nan, infinity, _⟩ := others
  rw [scanOnce, if_neg quoted, if_neg object, if_neg array, if_neg null, if_neg yes, if_neg no, if_neg nan,
    if_neg infinity]

theorem scanNumber_int (value : ℤ) {rest : List Char} (delimited : Delimited rest) :
    scanNumber floats (intText value ++ rest) = some (.int value, rest) := by
  rw [scanNumber, numberAt_intText value delimited]
  simp only [and_self, if_true, readInt_intText]

theorem scanNumber_float {value : ℚ} (float : floats.IsFloat value) {rest : List Char} (delimited : Delimited rest) :
    scanNumber floats ((floats.repr value).text ++ rest) = some (.float value, rest) := by
  have marked := (floats.repr value).token_marked
  have read : floats.read (floats.repr value).token.text = some value := floats.read_repr value float
  rw [scanNumber, (floats.repr value).numberAt_text delimited]
  simp only [read]
  rw [if_neg (by tauto)]

theorem delimited_cons {c : Char} (closes : c ∈ [',', ']', '\x7d']) (rest : List Char) : Delimited (c :: rest) := by
  intro d leads
  cases leads
  simp only [List.mem_cons, List.not_mem_nil, or_false] at closes
  rcases closes with rfl | rfl | rfl <;> decide

theorem skip_closer {c : Char} (closes : c ∈ [',', ']', '\x7d', ':']) (rest : List Char) :
    skip (c :: rest) = c :: rest := by
  apply skip_nonblank
  intro d leads
  cases leads
  simp only [List.mem_cons, List.not_mem_nil, or_false] at closes
  rcases closes with rfl | rfl | rfl | rfl <;> rfl

theorem skip_space (text : List Char) : skip (' ' :: text) = skip text := rfl

theorem joined_cons_cons (first next : List Char) (later : List (List Char)) (rest : List Char) :
    [',', ' '].intercalate (first :: next :: later) ++ rest =
      first ++ ',' :: ' ' :: ([',', ' '].intercalate (next :: later) ++ rest) := by
  simp [List.intercalate_cons_cons]

theorem length_joined_cons_cons (first next : List Char) (later : List (List Char)) :
    ([',', ' '].intercalate (first :: next :: later)).length =
      first.length + 2 + ([',', ' '].intercalate (next :: later)).length := by
  have joined := congrArg List.length (joined_cons_cons first next later [])
  simp only [List.append_nil, List.length_append, List.length_cons] at joined
  omega

theorem skip_items (item : Json) (later : List Json) (rest : List Char) :
    skip ([',', ' '].intercalate (encodeItems floats (item :: later)) ++ rest) =
      [',', ' '].intercalate (encodeItems floats (item :: later)) ++ rest := by
  cases later with
  | nil =>
    rw [encodeItems, encodeItems, List.intercalate_singleton]
    exact skip_encode floats item rest
  | cons next others =>
    rw [encodeItems, encodeItems, joined_cons_cons]
    exact skip_encode floats item _

theorem skip_fields (key : String) (value : Json) (later : List (String × Json)) (rest : List Char) :
    skip ([',', ' '].intercalate (encodeFields floats ((key, value) :: later)) ++ rest) =
      [',', ' '].intercalate (encodeFields floats ((key, value) :: later)) ++ rest := by
  cases later with
  | nil => rfl
  | cons next others => rfl

section Steps

variable {floats} {fuel : ℕ} {text rest : List Char}

theorem scanItems_last {item : Json} (read : scanOnce floats fuel text = some (item, ']' :: rest)) :
    scanItems floats (fuel + 1) text = some ([item], rest) := by
  rw [scanItems, read]
  rfl

theorem scanItems_next {item : Json} (read : scanOnce floats fuel text = some (item, ',' :: ' ' :: rest))
    (nonblank : skip rest = rest) :
    scanItems floats (fuel + 1) text =
      (scanItems floats fuel rest).map (fun later => (item :: later.1, later.2)) := by
  rw [scanItems, read]
  simp only [Option.bind_some, skip_closer (by simp : ',' ∈ [',', ']', '\x7d', ':']), List.head?_cons, if_true,
    List.tail_cons, skip_space, nonblank]

theorem scanFields_value {key : String} {value : Json} (seen : Dict String Json)
    (room : key.toList.length < fuel) (read : scanOnce floats fuel text = some (value, rest))
    (nonblank : skip text = text) (closed : skip rest = rest) :
    scanFields floats (fuel + 1) seen (quote key.toList ++ ':' :: ' ' :: text) =
      if rest.head? = some ',' then scanFields floats fuel (Dict.set seen key value) (skip rest.tail)
      else if rest.head? = some '\x7d' then some (Dict.set seen key value, rest.tail)
      else none := by
  have quoted : quote key.toList ++ ':' :: ' ' :: text = '"' :: (escape key.toList ++ '"' :: ':' :: ' ' :: text) := by
    simp [quote]
  rw [quoted, scanFields, List.head?_cons, if_pos rfl, List.tail_cons, scanString_escape room]
  simp only [Option.bind_some, skip_closer (by simp : ':' ∈ [',', ']', '\x7d', ':']), List.head?_cons, if_true,
    List.tail_cons, skip_space, nonblank, read, closed, String.ofList_toList]

theorem scanFields_last {key : String} {value : Json} (seen : Dict String Json)
    (room : key.toList.length < fuel) (read : scanOnce floats fuel text = some (value, '\x7d' :: rest))
    (nonblank : skip text = text) :
    scanFields floats (fuel + 1) seen (quote key.toList ++ ':' :: ' ' :: text) =
      some (Dict.set seen key value, rest) := by
  rw [scanFields_value seen room read nonblank (skip_closer (by simp) rest)]
  rfl

theorem scanFields_next {key : String} {value : Json} (seen : Dict String Json)
    (room : key.toList.length < fuel) (read : scanOnce floats fuel text = some (value, ',' :: ' ' :: rest))
    (nonblank : skip text = text) (later : skip rest = rest) :
    scanFields floats (fuel + 1) seen (quote key.toList ++ ':' :: ' ' :: text) =
      scanFields floats fuel (Dict.set seen key value) rest := by
  rw [scanFields_value seen room read nonblank (skip_closer (by simp) _), List.head?_cons, if_pos rfl,
    List.tail_cons, skip_space, later]

theorem scanOnce_array (nonblank : skip text = text) (nonempty : text.head? ≠ some ']') :
    scanOnce floats (fuel + 1) ('[' :: text) =
      (scanItems floats fuel text).map (fun read => (.arr read.1, read.2)) := by
  rw [scanOnce, if_neg (by decide), if_neg (by decide), if_pos rfl, nonblank, if_neg nonempty]

theorem scanOnce_object (nonblank : skip text = text) (nonempty : text.head? ≠ some '\x7d') :
    scanOnce floats (fuel + 1) ('\x7b' :: text) =
      (scanFields floats fuel KeyedList.empty text).map (fun read => (.obj read.1.toList, read.2)) := by
  rw [scanOnce, if_neg (by decide), if_pos rfl, nonblank, if_neg nonempty]

end Steps

theorem head_items (item : Json) (later : List Json) (rest : List Char) :
    ([',', ' '].intercalate (encodeItems floats (item :: later)) ++ rest).head? ≠ some ']' := by
  obtain ⟨c, text, shape, opens⟩ := encode_opens floats item
  have leads : ([',', ' '].intercalate (encodeItems floats (item :: later)) ++ rest).head? = some c := by
    cases later with
    | nil =>
      rw [encodeItems, encodeItems, List.intercalate_singleton, shape]
      rfl
    | cons next others =>
      rw [encodeItems, encodeItems, joined_cons_cons, shape]
      rfl
  rw [leads]
  intro closes
  cases closes
  exact absurd opens (by decide)

theorem head_fields (key : String) (value : Json) (later : List (String × Json)) (rest : List Char) :
    ([',', ' '].intercalate (encodeFields floats ((key, value) :: later)) ++ rest).head? ≠ some '\x7d' := by
  cases later with
  | nil => exact (by decide : some '"' ≠ some '\x7d')
  | cons next others => exact (by decide : some '"' ≠ some '\x7d')

theorem length_le_quote (text : List Char) : text.length + 2 ≤ (quote text).length := by
  have escaped := length_le_escape text
  simp only [quote, List.length_cons, List.length_append, List.length_nil]
  omega

mutual

theorem scanOnce_encode : ∀ (value : Json) {fuel : ℕ} {rest : List Char}, Writable floats value →
    2 * (value.encode floats).length ≤ fuel → Delimited rest →
    scanOnce floats fuel (value.encode floats ++ rest) = some (value, rest)
  | value, 0, _, _, enough, _ => by
    obtain ⟨c, later, shape, _⟩ := encode_opens floats value
    rw [shape, List.length_cons] at enough
    omega
  | .null, _ + 1, _, _, _, _ => rfl
  | .bool true, _ + 1, _, _, _, _ => rfl
  | .bool false, _ + 1, _, _, _, _ => rfl
  | .int value, fuel + 1, rest, _, _, delimited => by
    obtain ⟨c, later, shape, leads⟩ := intText_leading value
    have read := scanNumber_int floats value delimited
    rw [shape, List.cons_append] at read
    rw [encode, shape, List.cons_append, scanOnce_number floats leads, read]
  | .float value, fuel + 1, rest, writable, _, delimited => by
    obtain ⟨c, later, shape, leads⟩ := (floats.repr value).text_leading
    rw [Writable] at writable
    have read := scanNumber_float floats writable delimited
    rw [shape, List.cons_append] at read
    rw [encode, shape, List.cons_append, scanOnce_number floats leads, read]
  | .nonFinite .nan, _ + 1, _, _, _, _ => rfl
  | .nonFinite .inf, _ + 1, _, _, _, _ => rfl
  | .nonFinite .negInf, _ + 1, _, _, _, _ => rfl
  | .str value, fuel + 1, rest, _, enough, _ => by
    have escaped := length_le_quote value.toList
    rw [encode] at enough
    rw [encode, quote, List.cons_append, List.append_assoc, scanOnce, if_pos rfl, List.singleton_append,
      scanString_escape (by omega), Option.map_some, String.ofList_toList]
  | .arr [], _ + 1, _, _, _, _ => rfl
  | .arr (item :: later), fuel + 1, rest, writable, enough, _ => by
    rw [Writable] at writable
    rw [encode, List.length_cons, List.length_append, List.length_singleton] at enough
    have read := @scanItems_encode item later fuel rest writable (by omega)
    rw [encode, List.cons_append, List.append_assoc, List.singleton_append,
      scanOnce_array (skip_items floats item later _) (head_items floats item later _), read, Option.map_some]
  | .obj [], _ + 1, _, _, _, _ => rfl
  | .obj ((key, value) :: later), fuel + 1, rest, writable, enough, _ => by
    rw [Writable] at writable
    rw [encode, List.length_cons, List.length_append, List.length_singleton] at enough
    have read := @scanFields_encode key value later fuel rest KeyedList.empty writable.2 (by omega)
    rw [encode, List.cons_append, List.append_assoc, List.singleton_append,
      scanOnce_object (skip_fields floats key value later _) (head_fields floats key value later _), read,
      Option.map_some]
    exact congrArg (fun fields => some (Json.obj fields, rest)) (Dict.toList_ofList writable.1)

theorem scanItems_encode : ∀ (item : Json) (later : List Json) {fuel : ℕ} {rest : List Char},
    WritableItems floats (item :: later) →
    2 * ([',', ' '].intercalate (encodeItems floats (item :: later))).length < fuel →
    scanItems floats fuel ([',', ' '].intercalate (encodeItems floats (item :: later)) ++ ']' :: rest) =
      some (item :: later, rest)
  | _, _, 0, _, _, enough => absurd enough (Nat.not_lt_zero _)
  | item, [], fuel + 1, rest, writable, enough => by
    rw [WritableItems] at writable
    rw [encodeItems, encodeItems, List.intercalate_singleton] at enough ⊢
    exact scanItems_last (scanOnce_encode item writable.1 (by omega) (delimited_cons (by simp) rest))
  | item, next :: later, fuel + 1, rest, writable, enough => by
    rw [WritableItems] at writable
    rw [encodeItems, encodeItems, length_joined_cons_cons] at enough
    have others := @scanItems_encode next later fuel rest writable.2 (by rw [encodeItems]; omega)
    have front := @scanOnce_encode item fuel
      (',' :: ' ' :: ([',', ' '].intercalate (encodeItems floats (next :: later)) ++ ']' :: rest)) writable.1
      (by omega) (delimited_cons (by simp) _)
    rw [encodeItems, encodeItems, joined_cons_cons, ← encodeItems,
      scanItems_next front (skip_items floats next later _), others, Option.map_some]

theorem scanFields_encode : ∀ (key : String) (value : Json) (later : List (String × Json)) {fuel : ℕ}
    {rest : List Char} (seen : Dict String Json), WritableFields floats ((key, value) :: later) →
    2 * ([',', ' '].intercalate (encodeFields floats ((key, value) :: later))).length < fuel →
    scanFields floats fuel seen ([',', ' '].intercalate (encodeFields floats ((key, value) :: later)) ++ '\x7d' :: rest) =
      some (((key, value) :: later).foldl (fun d field => Dict.set d field.1 field.2) seen, rest)
  | _, _, _, 0, _, _, _, enough => absurd enough (Nat.not_lt_zero _)
  | key, value, [], fuel + 1, rest, seen, writable, enough => by
    have escaped := length_le_quote key.toList
    rw [WritableFields] at writable
    rw [encodeFields, encodeFields, List.intercalate_singleton] at enough ⊢
    rw [List.length_append, List.length_cons, List.length_cons] at enough
    rw [List.append_assoc]
    exact scanFields_last seen (by omega)
      (scanOnce_encode value writable.1 (by omega) (delimited_cons (by simp) rest)) (skip_encode floats value _)
  | key, value, (name, next) :: later, fuel + 1, rest, seen, writable, enough => by
    have escaped := length_le_quote key.toList
    rw [WritableFields] at writable
    rw [encodeFields, encodeFields, length_joined_cons_cons, List.length_append, List.length_cons,
      List.length_cons] at enough
    have others := @scanFields_encode name next later fuel rest (Dict.set seen key value) writable.2
      (by rw [encodeFields]; omega)
    have front := @scanOnce_encode value fuel
      (',' :: ' ' :: ([',', ' '].intercalate (encodeFields floats ((name, next) :: later)) ++ '\x7d' :: rest))
      writable.1 (by omega) (delimited_cons (by simp) _)
    rw [encodeFields, encodeFields, joined_cons_cons, ← encodeFields, List.append_assoc, List.cons_append,
      List.cons_append, scanFields_next seen (by omega) front (skip_encode floats value _)
      (skip_fields floats name next later _), others]
    rfl

end

theorem delimited_blank {blanks : List Char} (blank : ∀ c ∈ blanks, isBlank c = true) : Delimited blanks := by
  intro c leads
  have first := blank c (List.mem_of_mem_head? leads)
  simp only [isBlank, Bool.or_eq_true, beq_iff_eq] at first
  rcases first with ((rfl | rfl) | rfl) | rfl <;> decide

/-- What `json.dumps` writes is read back by `json.loads`, whatever blanks surround it. -/
theorem loads_surrounded {value : Json} (writable : Writable floats value) {before after : List Char}
    (leading : ∀ c ∈ before, isBlank c = true) (trailing : ∀ c ∈ after, isBlank c = true) :
    loads floats (String.ofList (before ++ (value.encode floats ++ after))) = some value := by
  have trimmed : skip (before ++ (value.encode floats ++ after)) = value.encode floats ++ after := by
    rw [skip, List.dropWhile_append_of_pos leading]
    exact skip_encode floats value after
  have read := @scanOnce_encode floats value (2 * (before ++ (value.encode floats ++ after)).length) after writable
    (by simp only [List.length_append]; omega) (delimited_blank trailing)
  have blank : skip after = [] := List.dropWhile_eq_nil_iff.mpr trailing
  rw [loads, String.toList_ofList, trimmed, read, Option.bind_some, if_pos blank]

theorem loads_dumps {value : Json} (writable : Writable floats value) :
    loads floats (value.dumps floats) = some value := by
  have read := @loads_surrounded floats value writable [] [] (by simp) (by simp)
  rw [List.nil_append, List.append_nil] at read
  exact read

end RoundTrip

section Sorting

variable (floats : FloatText)

theorem writableItems_iff {items : List Json} : WritableItems floats items ↔ ∀ item ∈ items, Writable floats item := by
  induction items with
  | nil => simp [WritableItems]
  | cons item rest ih => rw [WritableItems, ih, List.forall_mem_cons]

theorem writableFields_iff {fields : List (String × Json)} :
    WritableFields floats fields ↔ ∀ field ∈ fields, Writable floats field.2 := by
  induction fields with
  | nil => simp [WritableFields]
  | cons field rest ih => rw [WritableFields, ih, List.forall_mem_cons]

theorem sortFields_eq (fields : List (String × Json)) :
    sortFields fields = fields.map (fun field => (field.1, sortKeys field.2)) := by
  induction fields with
  | nil => rfl
  | cons field rest ih => rw [sortFields, ih, List.map_cons]

theorem sortFields_keys (fields : List (String × Json)) :
    (sortFields fields).map Prod.fst = fields.map Prod.fst := by
  rw [sortFields_eq, List.map_map]
  rfl

mutual

theorem Writable.sortKeys : ∀ {value : Json}, Writable floats value → Writable floats value.sortKeys
  | .null, _ => trivial
  | .bool _, _ => trivial
  | .int _, _ => trivial
  | .float _, writable => writable
  | .nonFinite _, _ => trivial
  | .str _, _ => trivial
  | .arr items, writable => WritableItems.sortItems writable
  | .obj fields, writable => by
    rw [Writable] at writable
    have sorted := (sortFields fields).perm_insertionSort (fun a b => a.1 ≤ b.1)
    rw [Json.sortKeys, Writable]
    constructor
    · rw [(sorted.map Prod.fst).nodup_iff, sortFields_keys]
      exact writable.1
    · have inside := (writableFields_iff floats).mp (WritableFields.sortFields writable.2)
      exact (writableFields_iff floats).mpr (fun field member => inside field (sorted.mem_iff.mp member))

theorem WritableItems.sortItems : ∀ {items : List Json}, WritableItems floats items →
    WritableItems floats (sortItems items)
  | [], _ => trivial
  | _ :: _, writable => ⟨Writable.sortKeys writable.1, WritableItems.sortItems writable.2⟩

theorem WritableFields.sortFields : ∀ {fields : List (String × Json)}, WritableFields floats fields →
    WritableFields floats (sortFields fields)
  | [], _ => trivial
  | (_, _) :: _, writable => ⟨Writable.sortKeys writable.1, WritableFields.sortFields writable.2⟩

end

end Sorting

section Lines

variable (floats : FloatText)

mutual

/-- The text of a document is printable ASCII, so it takes one line. -/
theorem encode_printable : ∀ value : Json, Printable (value.encode floats)
  | .null => printable_letters rfl
  | .bool true => printable_letters rfl
  | .bool false => printable_letters rfl
  | .int value => intText_printable value
  | .float value => (floats.repr value).text_printable
  | .nonFinite .nan => printable_letters rfl
  | .nonFinite .inf => printable_letters rfl
  | .nonFinite .negInf => printable_letters rfl
  | .str value => quote_printable value.toList
  | .arr items => by
    have inside := printable_intercalate (@printable_letters [',', ' '] rfl) (encodeItems_printable items)
    exact printable_cons (by decide) (inside.append (printable_letters rfl))
  | .obj fields => by
    have inside := printable_intercalate (@printable_letters [',', ' '] rfl) (encodeFields_printable fields)
    exact printable_cons (by decide) (inside.append (printable_letters rfl))

theorem encodeItems_printable : ∀ items : List Json, ∀ part ∈ encodeItems floats items, Printable part
  | [] => by
    intro part member
    cases member
  | item :: rest => List.forall_mem_cons.mpr ⟨encode_printable item, encodeItems_printable rest⟩

theorem encodeFields_printable : ∀ fields : List (String × Json), ∀ part ∈ encodeFields floats fields, Printable part
  | [] => by
    intro part member
    cases member
  | (key, value) :: rest => by
    have field := (quote_printable key.toList).append
      ((@printable_letters [':', ' '] rfl).append (encode_printable value))
    exact List.forall_mem_cons.mpr ⟨field, encodeFields_printable rest⟩

end

theorem isLineBreak_of_printable {c : Char} (printable : 32 ≤ c.toNat ∧ c.toNat ≤ 126) :
    Text.isLineBreak c = false := by
  by_contra ends
  simp only [Bool.not_eq_false, Text.isLineBreak, Bool.or_eq_true, Bool.and_eq_true, decide_eq_true_eq,
    List.contains_cons, List.contains_nil, Bool.or_false, beq_iff_eq] at ends
  omega

end Lines

end Json

section Tenths

def tenthsLiteral (tenths : ℕ) : FloatLiteral where
  negative := false
  whole := tenths / 10
  fraction := [Nat.digitChar (tenths % 10)]
  exponent := none
  fraction_digits := by
    intro c member
    rw [List.mem_singleton] at member
    rw [member, Nat.isDigit_digitChar]
    exact decide_eq_true (Nat.mod_lt _ (by decide))
  exponent_digits := by
    intro power held
    cases held
  marked := Or.inl (List.cons_ne_nil _ _)

def readTenths (text : List Char) : Option ℚ :=
  match numberAt text with
  | some (⟨integer, ['.', digit], []⟩, []) => some (readInt integer + (Nat.ofDigitChars 10 [digit] 0 : ℚ) / 10)
  | _ => none

theorem readTenths_literal (tenths : ℕ) : readTenths (tenthsLiteral tenths).text = some (tenths / 10 : ℚ) := by
  have read := @FloatLiteral.numberAt_text (tenthsLiteral tenths) [] (by simp [Delimited])
  rw [List.append_nil] at read
  have unsigned := head_toDigits (tenths / 10) []
  rw [List.append_nil] at unsigned
  have integer : readInt (Nat.toDigits 10 (tenths / 10)) = (tenths / 10 : ℕ) := by
    rw [readInt, if_neg unsigned, Nat.ofDigitChars_ten_toDigits]
  have digit : Nat.ofDigitChars 10 [Nat.digitChar (tenths % 10)] 0 = tenths % 10 := by
    have whole := @Nat.ofDigitChars_ten_toDigits (tenths % 10)
    rwa [Nat.toDigits_of_lt_base (Nat.mod_lt _ (by decide))] at whole
  have value : ((tenths / 10 : ℕ) : ℚ) + ((tenths % 10 : ℕ) : ℚ) / 10 = tenths / 10 := by
    have split : ((tenths / 10 * 10 + tenths % 10 : ℕ) : ℚ) = tenths := by
      rw [Nat.div_add_mod']
    push_cast at split
    linarith
  unfold readTenths
  rw [read]
  simp only [FloatLiteral.token, FloatLiteral.integerText, FloatLiteral.fractionText, FloatLiteral.exponentText,
    tenthsLiteral, Bool.false_eq_true, if_false, List.cons_ne_nil, integer, digit, Int.cast_natCast, value]

/-- The floats with one decimal place, which `repr` writes with that place. -/
def tenthFloats : FloatText where
  IsFloat value := ∃ tenths : ℕ, tenths < 10 ^ 16 ∧ value = tenths / 10
  repr value := tenthsLiteral ⌊value * 10⌋.toNat
  read := readTenths
  read_repr := by
    rintro value ⟨tenths, _, rfl⟩
    have whole : (tenths / 10 * 10 : ℚ) = (tenths : ℕ) := by ring
    rw [whole, Int.floor_natCast, Int.toNat_natCast, readTenths_literal]

end Tenths

end NimbusMesh
