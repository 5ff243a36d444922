import Mathlib.Data.List.Basic

namespace Foundation.Csv

section Writing

/-- The characters for which a field is quoted: the delimiter, the quote and those of the line ends. -/
def special (c : Char) : Bool := c == ',' || c == '"' || c == '\n' || c == '\r'

def doubled (field : List Char) : List Char := field.flatMap (fun c => if c = '"' then ['"', '"'] else [c])

def fieldText (field : List Char) : List Char :=
  if field.any special then '"' :: (doubled field ++ ['"']) else field

/-- A row whose only field is empty is quoted, as it would be a blank line. -/
def rowText (terminator : List Char) (fields : List (List Char)) : List Char :=
  (if fields = [[]] then ['"', '"'] else [','].intercalate (fields.map fieldText)) ++ terminator

def tableText (terminator : List Char) (rows : List (List (List Char))) : List Char := rows.flatMap (rowText terminator)

end Writing

/-- The translation of the line ends by a file that is opened for reading text. -/
def translate : List Char → List Char
  | [] => []
  | c :: rest =>
    if c = '\r' then if rest.head? = some '\n' then translate rest else '\n' :: translate rest
    else c :: translate rest

section Reading

inductive State where
  | startRecord
  | startField
  | inField
  | inQuotedField
  | quoteInQuotedField
  | eatCrnl
  deriving DecidableEq

structure Machine where
  state : State
  field : List Char
  fields : List (List Char)

def start : Machine := ⟨.startRecord, [], []⟩

variable (limit : ℕ)

def addChar (machine : Machine) (state : State) : Option Char → Option Machine
  | none => some machine
  | some c =>
    if limit ≤ machine.field.length then none else some { machine with state, field := machine.field ++ [c] }

def saveField (machine : Machine) (state : State) : Machine := ⟨state, [], machine.fields ++ [machine.field]⟩

def endsLine (input : Option Char) : Bool := input == none || input == some '\n' || input == some '\r'

def lineEnded (input : Option Char) : State := if input = none then .startRecord else .eatCrnl

def stepField (machine : Machine) (input : Option Char) : Option Machine :=
  if endsLine input then some (saveField machine (lineEnded input))
  else if input = some '"' then some { machine with state := .inQuotedField }
  else if input = some ',' then some (saveField machine .startField)
  else addChar limit machine .inField input

/-- One character, or the end of a line where the input is none. -/
def step (machine : Machine) (input : Option Char) : Option Machine :=
  match machine.state with
  | .startRecord =>
    if input = none then some machine
    else if endsLine input then some { machine with state := .eatCrnl }
    else stepField limit machine input
  | .startField => stepField limit machine input
  | .inField =>
    if endsLine input then some (saveField machine (lineEnded input))
    else if input = some ',' then some (saveField machine .startField)
    else addChar limit machine .inField input
  | .inQuotedField =>
    if input = none then some machine
    else if input = some '"' then some { machine with state := .quoteInQuotedField }
    else addChar limit machine .inQuotedField input
  | .quoteInQuotedField =>
    if input = some '"' then addChar limit machine .inQuotedField input
    else if input = some ',' then some (saveField machine .startField)
    else if endsLine input then some (saveField machine (lineEnded input))
    else addChar limit machine .inField input
  | .eatCrnl =>
    if input = none then some { machine with state := .startRecord }
    else if endsLine input then some machine
    else none

/-- What is left at the end of the text: an open field ends there. -/
def finish (machine : Machine) : List (List (List Char)) :=
  if machine.field ≠ [] ∨ machine.state = .inQuotedField then [machine.fields ++ [machine.field]] else []

/-- The records of a text. A line ends after each newline and at the end of the text, and a record ends
    with the line unless a quoted field is open. -/
def readFrom : Machine → List Char → Option (List (List (List Char)))
  | machine, [] => some (finish machine)
  | machine, c :: rest =>
    (step limit machine (some c)).bind (fun fed =>
      if c = '\n' ∨ rest = [] then
        (step limit fed none).bind (fun ended =>
          if ended.state = .startRecord then (readFrom start rest).map (fun later => ended.fields :: later)
          else readFrom ended rest)
      else readFrom fed rest)

def records (text : List Char) : Option (List (List (List Char))) := readFrom limit start text

end Reading

section Fields

variable {limit : ℕ} {field : List Char} {fields : List (List Char)} {rest : List Char}

theorem readFrom_fed {machine fed : Machine} {c : Char} (stepped : step limit machine (some c) = some fed)
    (inside : c ≠ '\n') (goes : rest ≠ []) : readFrom limit machine (c :: rest) = readFrom limit fed rest := by
  rw [readFrom, stepped, Option.bind_some, if_neg (by simp [inside, goes])]

theorem readFrom_unquoted {before : List Char} (plain : ∀ c ∈ field, special c = false)
    (room : before.length + field.length ≤ limit) (goes : rest ≠ []) :
    readFrom limit ⟨.inField, before, fields⟩ (field ++ rest) = readFrom limit ⟨.inField, before ++ field, fields⟩ rest := by
  induction field generalizing before with
  | nil => rw [List.nil_append, List.append_nil]
  | cons c later ih =>
    rw [List.forall_mem_cons] at plain
    rw [List.length_cons] at room
    have first := plain.1
    simp only [special, Bool.or_eq_false_iff, beq_eq_false_iff_ne] at first
    have stepped : step limit ⟨.inField, before, fields⟩ (some c) = some ⟨.inField, before ++ [c], fields⟩ := by
      simp [step, endsLine, addChar, first]
      omega
    have more : later ++ rest ≠ [] := by simp [goes]
    rw [List.cons_append, readFrom_fed stepped first.1.2 more, ih plain.2 (by simp; omega), List.append_assoc]
    rfl

theorem readFrom_inQuotes {before : List Char} {c : Char} (plain : c ≠ '"') (room : before.length < limit) :
    readFrom limit ⟨.inQuotedField, before, fields⟩ (c :: rest) =
      readFrom limit ⟨.inQuotedField, before ++ [c], fields⟩ rest := by
  have stepped : step limit ⟨.inQuotedField, before, fields⟩ (some c) =
      some ⟨.inQuotedField, before ++ [c], fields⟩ := by
    simp [step, addChar, plain]
    omega
  have ended : step limit ⟨.inQuotedField, before ++ [c], fields⟩ none =
      some ⟨.inQuotedField, before ++ [c], fields⟩ := by
    simp [step]
  have still : ¬ (Machine.mk .inQuotedField (before ++ [c]) fields).state = .startRecord := by simp
  rw [readFrom, stepped, Option.bind_some, ended, Option.bind_some, if_neg still, ite_self]

theorem readFrom_quoted {before : List Char} (room : before.length + field.length ≤ limit) (goes : rest ≠ []) :
    readFrom limit ⟨.inQuotedField, before, fields⟩ (doubled field ++ '"' :: rest) =
      readFrom limit ⟨.quoteInQuotedField, before ++ field, fields⟩ rest := by
  have closes : ∀ held, step limit ⟨.inQuotedField, held, fields⟩ (some '"') =
      some ⟨.quoteInQuotedField, held, fields⟩ := by
    intro held
    simp [step]
  induction field generalizing before with
  | nil =>
    rw [List.append_nil]
    exact readFrom_fed (closes before) (by decide) goes
  | cons c later ih =>
    rw [List.length_cons] at room
    have next := @ih (before ++ [c]) (by simp; omega)
    rw [List.append_assoc, List.singleton_append] at next
    rw [← next, doubled, List.flatMap_cons]
    by_cases quote : c = '"'
    · rw [quote, if_pos rfl, List.append_assoc]
      have reopened : step limit ⟨.quoteInQuotedField, before, fields⟩ (some '"') =
          some ⟨.inQuotedField, before ++ ['"'], fields⟩ := by
        simp [step, addChar]
        omega
      rw [List.cons_append, readFrom_fed (closes before) (by decide) (by simp), List.singleton_append,
        readFrom_fed reopened (by decide) (by simp)]
      rfl
    · rw [if_neg quote, List.append_assoc, List.singleton_append, readFrom_inQuotes quote (by omega)]
      rfl

inductive Closing (field : List Char) (fields : List (List Char)) : Machine → Prop where
  | empty {state : State} (fresh : state = .startRecord ∨ state = .startField) (none : field = []) :
    Closing field fields ⟨state, [], fields⟩
  | plain : Closing field fields ⟨.inField, field, fields⟩
  | quoted : Closing field fields ⟨.quoteInQuotedField, field, fields⟩

theorem readFrom_field {state : State} (fresh : state = .startRecord ∨ state = .startField)
    (room : field.length ≤ limit) (goes : rest ≠ []) :
    ∃ machine, Closing field fields machine ∧ (field ≠ [] → machine.state ≠ .startRecord) ∧
      (machine.state = .startRecord → state = .startRecord) ∧
      readFrom limit ⟨state, [], fields⟩ (fieldText field ++ rest) = readFrom limit machine rest := by
  unfold fieldText
  by_cases holds : field.any special = true
  · rw [if_pos holds]
    refine ⟨⟨.quoteInQuotedField, field, fields⟩, .quoted, by simp, by simp, ?_⟩
    have opened : step limit ⟨state, [], fields⟩ (some '"') = some ⟨.inQuotedField, [], fields⟩ := by
      rcases fresh with rfl | rfl <;> simp [step, stepField, endsLine]
    have read := @readFrom_quoted limit field fields rest [] (by simpa using room) goes
    rw [List.nil_append] at read
    rw [List.cons_append, readFrom_fed opened (by decide) (by simp), List.append_assoc, List.singleton_append, read]
  · rw [if_neg holds]
    cases field with
    | nil => exact ⟨⟨state, [], fields⟩, .empty fresh rfl, by simp, by simp, rfl⟩
    | cons c later =>
      refine ⟨⟨.inField, c :: later, fields⟩, .plain, by simp, by simp, ?_⟩
      have plain : ∀ d ∈ c :: later, special d = false := by simpa using holds
      rw [List.forall_mem_cons] at plain
      rw [List.length_cons] at room
      have first := plain.1
      simp only [special, Bool.or_eq_false_iff, beq_eq_false_iff_ne] at first
      have opened : step limit ⟨state, [], fields⟩ (some c) = some ⟨.inField, [c], fields⟩ := by
        rcases fresh with rfl | rfl <;> simp [step, stepField, endsLine, addChar, first] <;> omega
      have read := @readFrom_unquoted limit later fields rest [c] plain.2 (by simp; omega) goes
      rw [List.cons_append, readFrom_fed opened first.1.2 (by simp [goes]), read]
      rfl

theorem readFrom_comma {machine : Machine} (closing : Closing field fields machine) (goes : rest ≠ []) :
    readFrom limit machine (',' :: rest) = readFrom limit ⟨.startField, [], fields ++ [field]⟩ rest := by
  apply readFrom_fed _ (by decide) goes
  cases closing with
  | empty fresh none =>
    rw [none]
    rcases fresh with rfl | rfl <;> simp [step, stepField, endsLine, saveField]
  | plain => simp [step, endsLine, saveField]
  | quoted => simp [step, saveField]

def LineEnd (terminator : List Char) : Prop := terminator = ['\n'] ∨ terminator = ['\r', '\n']

theorem readFrom_lineEnd {machine : Machine} (closing : Closing field fields machine)
    (begun : machine.state ≠ .startRecord) {terminator : List Char} (ends : LineEnd terminator) :
    readFrom limit machine (terminator ++ rest) =
      (readFrom limit start rest).map (fun later => (fields ++ [field]) :: later) := by
  have saved : ∀ c, c = '\n' ∨ c = '\r' → step limit machine (some c) = some ⟨.eatCrnl, [], fields ++ [field]⟩ := by
    intro c either
    cases closing with
    | empty fresh none =>
      rw [none]
      rcases fresh with rfl | rfl
      · exact absurd rfl begun
      · rcases either with rfl | rfl <;> simp [step, stepField, endsLine, saveField, lineEnded]
    | plain => rcases either with rfl | rfl <;> simp [step, endsLine, saveField, lineEnded]
    | quoted => rcases either with rfl | rfl <;> simp [step, endsLine, saveField, lineEnded]
  have eaten : step limit ⟨.eatCrnl, [], fields ++ [field]⟩ (some '\n') = some ⟨.eatCrnl, [], fields ++ [field]⟩ := by
    simp [step, endsLine]
  have ended : step limit ⟨.eatCrnl, [], fields ++ [field]⟩ none = some ⟨.startRecord, [], fields ++ [field]⟩ := by
    simp [step]
  rcases ends with rfl | rfl
  · rw [List.singleton_append, readFrom, saved _ (Or.inl rfl), Option.bind_some, if_pos (Or.inl rfl), ended,
      Option.bind_some, if_pos rfl]
  · rw [List.cons_append, readFrom_fed (saved _ (Or.inr rfl)) (by decide) (by simp), List.singleton_append, readFrom,
      eaten, Option.bind_some, if_pos (Or.inl rfl), ended, Option.bind_some, if_pos rfl]

end Fields

section Rows

variable {limit : ℕ}

theorem LineEnd.ne_nil {terminator : List Char} (ends : LineEnd terminator) : terminator ≠ [] := by
  rcases ends with rfl | rfl <;> simp

variable {terminator : List Char} (ends : LineEnd terminator)

include ends

theorem readFrom_fields {row : List (List Char)} (nonempty : row ≠ []) (room : ∀ field ∈ row, field.length ≤ limit)
    {state : State} (fresh : state = .startRecord ∨ state = .startField)
    (visible : state = .startRecord → row ≠ [[]]) (fields : List (List Char)) (rest : List Char) :
    readFrom limit ⟨state, [], fields⟩ ([','].intercalate (row.map fieldText) ++ (terminator ++ rest)) =
      (readFrom limit start rest).map (fun later => (fields ++ row) :: later) := by
  have goes : terminator ++ rest ≠ [] := by simp [ends.ne_nil]
  induction row generalizing state fields with
  | nil => exact absurd rfl nonempty
  | cons field later ih =>
    rw [List.forall_mem_cons] at room
    cases later with
    | nil =>
      obtain ⟨machine, closing, filled, opened, read⟩ := @readFrom_field limit field fields (terminator ++ rest) state
        fresh room.1 goes
      have begun : machine.state ≠ .startRecord := by
        intro still
        by_cases empty : field = []
        · exact visible (opened still) (by rw [empty])
        · exact filled empty still
      rw [List.map_singleton, List.intercalate_singleton, read, readFrom_lineEnd closing begun ends]
    | cons next others =>
      obtain ⟨machine, closing, _, _, read⟩ := @readFrom_field limit field fields
        (',' :: ([','].intercalate ((next :: others).map fieldText) ++ (terminator ++ rest))) state fresh room.1 (by simp)
      have joined : [','].intercalate ((field :: next :: others).map fieldText) ++ (terminator ++ rest) =
          fieldText field ++ ',' :: ([','].intercalate ((next :: others).map fieldText) ++ (terminator ++ rest)) := by
        simp [List.intercalate_cons_cons]
      have continued := ih (by simp) room.2 (Or.inr rfl) (by simp) (fields ++ [field])
      have more : [','].intercalate ((next :: others).map fieldText) ++ (terminator ++ rest) ≠ [] := by simp [ends.ne_nil]
      rw [joined, read, readFrom_comma closing more, continued, List.append_assoc]
      rfl

theorem readFrom_row {row : List (List Char)} (nonempty : row ≠ []) (room : ∀ field ∈ row, field.length ≤ limit)
    (rest : List Char) :
    readFrom limit start (rowText terminator row ++ rest) =
      (readFrom limit start rest).map (fun later => row :: later) := by
  unfold rowText
  by_cases blank : row = [[]]
  · rw [if_pos blank, blank]
    rcases ends with rfl | rfl <;> rfl
  · rw [if_neg blank, List.append_assoc]
    exact readFrom_fields ends nonempty room (Or.inl rfl) (fun _ => blank) [] rest

/-- What is written row by row is read back row by row. -/
theorem records_tableText {rows : List (List (List Char))} (nonempty : ∀ row ∈ rows, row ≠ [])
    (room : ∀ row ∈ rows, ∀ field ∈ row, field.length ≤ limit) :
    records limit (tableText terminator rows) = some rows := by
  unfold records
  induction rows with
  | nil => rfl
  | cons row later ih =>
    rw [List.forall_mem_cons] at nonempty room
    rw [tableText, List.flatMap_cons, readFrom_row ends nonempty.1 room.1]
    have read := ih nonempty.2 room.2
    rw [tableText] at read
    rw [read, Option.map_some]

end Rows

section Translation

theorem translate_append {text more : List Char} (apart : text.getLast? ≠ some '\r' ∨ more.head? ≠ some '\n') :
    translate (text ++ more) = translate text ++ translate more := by
  induction text with
  | nil => rfl
  | cons c rest ih =>
    cases rest with
    | nil =>
      rw [List.singleton_append, translate, translate]
      by_cases returns : c = '\r'
      · have other : more.head? ≠ some '\n' := by
          rcases apart with last | first
          · exact absurd (by rw [returns]; rfl) last
          · exact first
        simp [returns, other, translate]
      · simp [returns, translate]
    | cons d later =>
      have continued := ih (by simpa using apart)
      have first : translate (c :: d :: later) = if c = '\r' then if (d :: later).head? = some '\n' then
          translate (d :: later) else '\n' :: translate (d :: later) else c :: translate (d :: later) := rfl
      have both : translate (c :: d :: later ++ more) = if c = '\r' then if (d :: later).head? = some '\n' then
          translate (d :: later ++ more) else '\n' :: translate (d :: later ++ more)
          else c :: translate (d :: later ++ more) := rfl
      rw [both, first, continued]
      split
      · split
        · rfl
        · rw [List.cons_append]
      · rw [List.cons_append]

theorem translate_eq_self {text : List Char} (plain : '\r' ∉ text) : translate text = text := by
  induction text with
  | nil => rfl
  | cons c rest ih =>
    rw [List.mem_cons, not_or] at plain
    rw [translate, if_neg (fun same => plain.1 same.symm), ih plain.2]

theorem mem_translate (text : List Char) : '\r' ∉ translate text := by
  induction text with
  | nil => simp [translate]
  | cons c rest ih =>
    rw [translate]
    split
    · split
      · exact ih
      · simp [ih]
    · rename_i other
      simp [ih, Ne.symm other]

theorem translate_eq_self_iff {text : List Char} : translate text = text ↔ '\r' ∉ text := by
  constructor
  · intro same
    rw [← same]
    exact mem_translate text
  · exact translate_eq_self

theorem translate_eq_nil {text : List Char} : translate text = [] ↔ text = [] := by
  constructor
  · intro empty
    cases text with
    | nil => rfl
    | cons c rest =>
      rw [translate] at empty
      split at empty
      · split at empty
        · rename_i next
          cases rest with
          | nil => cases next
          | cons d later =>
            cases next
            cases empty
        · cases empty
      · cases empty
  · rintro rfl
    rfl

theorem any_special_translate (text : List Char) : (translate text).any special = text.any special := by
  induction text with
  | nil => rfl
  | cons c rest ih =>
    rw [translate]
    split
    · rename_i returns
      rw [returns]
      split
      · rename_i next
        rw [ih]
        cases rest with
        | nil => cases next
        | cons d later =>
          cases next
          rfl
      · simp [special]
    · rw [List.any_cons, List.any_cons, ih]

theorem head_doubled (text : List Char) : (doubled text).head? = text.head? := by
  cases text with
  | nil => rfl
  | cons c rest =>
    rw [doubled, List.flatMap_cons]
    split
    · rename_i quote
      rw [quote]
      rfl
    · rfl

theorem translate_doubled (text : List Char) : translate (doubled text) = doubled (translate text) := by
  induction text with
  | nil => rfl
  | cons c rest ih =>
    have unfolded : doubled (c :: rest) = (if c = '"' then ['"', '"'] else [c]) ++ doubled rest := by
      rw [doubled, List.flatMap_cons, ← doubled]
    rw [unfolded]
    by_cases quote : c = '"'
    · rw [quote, if_pos rfl]
      simp only [List.cons_append, List.nil_append, translate, ih]
      rfl
    · rw [if_neg quote, List.singleton_append, translate, translate, head_doubled, ih]
      split
      · split
        · rfl
        · rfl
      · rw [doubled, doubled, List.flatMap_cons, if_neg quote]
        rfl

theorem translate_fieldText (field : List Char) : translate (fieldText field) = fieldText (translate field) := by
  unfold fieldText
  rw [any_special_translate]
  split
  · rw [translate, if_neg (by decide), translate_append (Or.inr (by decide)), translate_doubled]
    rfl
  · rfl

theorem translate_intercalate (row : List (List Char)) :
    translate ([','].intercalate (row.map fieldText)) = [','].intercalate ((row.map translate).map fieldText) := by
  induction row with
  | nil => rfl
  | cons field later ih =>
    cases later with
    | nil =>
      simp only [List.map_cons, List.map_nil, List.intercalate_singleton]
      exact translate_fieldText field
    | cons next others =>
      have joined : ∀ first second : List Char, ∀ more : List (List Char),
          [','].intercalate (first :: second :: more) = first ++ ',' :: [','].intercalate (second :: more) := by
        intro first second more
        simp [List.intercalate_cons_cons]
      simp only [List.map_cons] at ih ⊢
      rw [joined, joined, translate_append (Or.inr (by simp)), translate_fieldText, translate, if_neg (by decide), ih]

theorem translate_rowText (row : List (List Char)) :
    translate (rowText ['\r', '\n'] row) = rowText ['\n'] (row.map translate) := by
  have blank : row.map translate = [[]] ↔ row = [[]] := by
    constructor
    · intro empty
      obtain ⟨field, rfl, none⟩ := List.map_eq_singleton_iff.mp empty
      rw [translate_eq_nil.mp none]
    · rintro rfl
      rfl
  unfold rowText
  rw [translate_append (Or.inr (by decide))]
  simp only [blank]
  split
  · rfl
  · rw [translate_intercalate]
    rfl

theorem translate_tableText (rows : List (List (List Char))) :
    translate (tableText ['\r', '\n'] rows) = tableText ['\n'] (rows.map (fun row => row.map translate)) := by
  induction rows with
  | nil => rfl
  | cons row later ih =>
    have ends : (rowText ['\r', '\n'] row).getLast? ≠ some '\r' := by
      simp [rowText]
    rw [tableText, List.flatMap_cons, translate_append (Or.inl ends), translate_rowText, ← tableText, ih]
    rfl

end Translation

end Foundation.Csv
