import Mathlib.Data.List.Basic
import Mathlib.Data.List.DropRight
import Mathlib.Data.List.Infix

namespace Foundation.Scanning

variable {α : Type}

section Fields

def fields (space : α → Bool) (text : List α) : List (List α) :=
  (text.splitOnP space).filter (fun field => !field.isEmpty)

def aligned (columns : List (List α × List α)) : List α :=
  columns.flatMap (fun column => column.1 ++ column.2)

/-- A text that a run of other characters cannot go on into. -/
def Separated (space : α → Bool) (text : List α) : Prop :=
  ∀ c ∈ text.head?, space c = true

variable {space : α → Bool}

theorem fields_nil : fields space [] = [] := rfl

theorem fields_gap {gap : List α} (spaces : ∀ c ∈ gap, space c = true) (text : List α) :
    fields space (gap ++ text) = fields space text := by
  induction gap with
  | nil => rfl
  | cons c rest ih =>
    rw [List.forall_mem_cons] at spaces
    unfold fields at ih ⊢
    rw [List.cons_append, List.splitOnP_cons_eq_if_modifyHead, if_pos spaces.1,
      List.filter_cons_of_neg (by simp), ih spaces.2]

theorem fields_word {word text : List α} (nonempty : word ≠ []) (solid : ∀ c ∈ word, space c = false)
    (separated : Separated space text) : fields space (word ++ text) = word :: fields space text := by
  have kept : ∀ rest : List (List α), (word :: rest).filter (fun field => !field.isEmpty) =
      word :: rest.filter (fun field => !field.isEmpty) := by
    intro rest
    exact List.filter_cons_of_pos (by simpa using nonempty)
  cases text with
  | nil =>
    unfold fields
    rw [List.append_nil, List.splitOnP_eq_singleton solid, kept]
    rfl
  | cons c rest =>
    have divides : space c = true := separated c rfl
    have skipped := @fields_gap _ space [c] (by simpa using divides) rest
    rw [List.singleton_append] at skipped
    rw [skipped]
    unfold fields
    rw [List.splitOnP_append_cons_of_forall_mem solid c divides, kept]

theorem separated_aligned {columns : List (List α × List α)} {text : List α}
    (gaps : ∀ column ∈ columns, column.1 ≠ [] ∧ ∀ c ∈ column.1, space c = true)
    (separated : Separated space text) : Separated space (aligned columns ++ text) := by
  cases columns with
  | nil => exact separated
  | cons column rest =>
    obtain ⟨nonempty, spaces⟩ := gaps column List.mem_cons_self
    obtain ⟨c, gap, starts⟩ := List.exists_cons_of_ne_nil nonempty
    intro first leads
    rw [aligned, List.flatMap_cons, starts] at leads
    cases leads
    exact spaces c (starts ▸ List.mem_cons_self)

theorem fields_aligned {columns : List (List α × List α)} {text : List α}
    (gaps : ∀ column ∈ columns, column.1 ≠ [] ∧ ∀ c ∈ column.1, space c = true)
    (words : ∀ column ∈ columns, column.2 ≠ [] ∧ ∀ c ∈ column.2, space c = false)
    (separated : Separated space text) :
    fields space (aligned columns ++ text) = columns.map Prod.snd ++ fields space text := by
  induction columns with
  | nil => rfl
  | cons column rest ih =>
    rw [List.forall_mem_cons] at gaps words
    have later := separated_aligned gaps.2 separated
    have unfolded : aligned (column :: rest) ++ text = column.1 ++ (column.2 ++ (aligned rest ++ text)) := by
      simp [aligned]
    rw [unfolded, fields_gap gaps.1.2, fields_word words.1.1 words.1.2 later, ih gaps.2 words.2]
    rfl

def Closed (space : α → Bool) (text : List α) : Prop :=
  ∃ before c, text = before ++ [c] ∧ space c = false

theorem closed_word (front : List α) {word : List α} (nonempty : word ≠ [])
    (solid : ∀ c ∈ word, space c = false) : Closed space (front ++ word) := by
  refine ⟨front ++ word.dropLast, word.getLast nonempty, ?_, solid _ (List.getLast_mem nonempty)⟩
  rw [List.append_assoc, List.dropLast_append_getLast]

theorem Closed.aligned {front : List α} (closed : Closed space front) {columns : List (List α × List α)}
    (words : ∀ column ∈ columns, column.2 ≠ [] ∧ ∀ c ∈ column.2, space c = false) :
    Closed space (front ++ aligned columns) := by
  induction columns generalizing front with
  | nil =>
    rw [Scanning.aligned, List.flatMap_nil, List.append_nil]
    exact closed
  | cons column rest ih =>
    rw [List.forall_mem_cons] at words
    have next := ih (closed_word (front ++ column.1) words.1.1 words.1.2) words.2
    simpa [Scanning.aligned] using next

theorem Closed.rdropWhile_append {front : List α} (closed : Closed space front) (back : List α) :
    (front ++ back).rdropWhile space = front ++ back.rdropWhile space := by
  obtain ⟨before, last, rfl, solid⟩ := closed
  induction back using List.reverseRecOn with
  | nil =>
    rw [List.append_nil, List.rdropWhile_concat_neg _ _ _ (by simp [solid]), List.rdropWhile_nil, List.append_nil]
  | append_singleton back c ih =>
    rw [← List.append_assoc]
    by_cases divides : space c = true
    · rw [List.rdropWhile_concat_pos _ _ _ divides, List.rdropWhile_concat_pos _ _ _ divides, ih]
    · rw [List.rdropWhile_concat_neg _ _ _ divides, List.rdropWhile_concat_neg _ _ _ divides, List.append_assoc]

end Fields

section Occurrences

/-- The occurrences that a matcher finds from left to right, none of them within another. The counter says
    how much of the last one is still to be passed over. -/
def occurrencesFrom (matchAt : List α → Option (List α)) : ℕ → List α → List (List α)
  | _, [] => []
  | skip + 1, _ :: rest => occurrencesFrom matchAt skip rest
  | 0, c :: rest =>
    match matchAt (c :: rest) with
    | none => occurrencesFrom matchAt 0 rest
    | some found => found :: occurrencesFrom matchAt (found.length - 1) rest

def occurrences (matchAt : List α → Option (List α)) (text : List α) : List (List α) :=
  occurrencesFrom matchAt 0 text

variable {matchAt : List α → Option (List α)}

theorem occurrencesFrom_append (passed rest : List α) :
    occurrencesFrom matchAt passed.length (passed ++ rest) = occurrences matchAt rest := by
  induction passed with
  | nil => rfl
  | cons c passed ih => exact ih

theorem occurrences_found {found rest : List α} (nonempty : found ≠ [])
    (matched : matchAt (found ++ rest) = some found) :
    occurrences matchAt (found ++ rest) = found :: occurrences matchAt rest := by
  cases found with
  | nil => exact absurd rfl nonempty
  | cons c later =>
    rw [List.cons_append] at matched ⊢
    simp only [occurrences, occurrencesFrom, matched, List.length_cons, Nat.add_sub_cancel]
    rw [occurrencesFrom_append later rest]
    rfl

theorem occurrences_passed {passed rest : List α}
    (unmatched : ∀ c ∈ passed, ∀ text, matchAt (c :: text) = none) :
    occurrences matchAt (passed ++ rest) = occurrences matchAt rest := by
  induction passed with
  | nil => rfl
  | cons c passed ih =>
    rw [List.forall_mem_cons] at unmatched
    rw [List.cons_append]
    simp only [occurrences, occurrencesFrom, unmatched.1]
    exact ih unmatched.2

theorem occurrences_none {text : List α} (unmatched : ∀ suffix, suffix <:+ text → matchAt suffix = none) :
    occurrences matchAt text = [] := by
  induction text with
  | nil => rfl
  | cons c rest ih =>
    simp only [occurrences, occurrencesFrom, unmatched _ List.suffix_rfl]
    exact ih (fun suffix ends => unmatched suffix (ends.trans (List.suffix_cons c rest)))

end Occurrences

end Foundation.Scanning
