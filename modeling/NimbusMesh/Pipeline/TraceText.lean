import NimbusMesh.Foundation.Csv
import NimbusMesh.Pipeline.Replay
import NimbusMesh.Storage.JsonText

namespace NimbusMesh

open Foundation Foundation.Decimal Foundation.Execution

section Texts

/-- The longest field that a CSV reader takes. -/
def fieldLimit : ℕ := 131072

/-- A text with its line ends as a file that is opened for reading shows them. -/
def newlines (text : String) : String := String.ofList (Csv.translate text.toList)

/-- The trace in the text of a file: the first record names the columns, and blank records are passed over.
    It is none where the reader raises. -/
def TraceFile.ofText (text : String) : Option TraceFile :=
  (Csv.records fieldLimit (Csv.translate text.toList)).map (fun records =>
    { fieldnames := (records.headD []).map String.ofList
      rows := (records.tail.filter (fun record => record ≠ [])).map (fun record => record.map String.ofList) })

def tableOf (rows : List (List String)) : List (List (List Char)) := rows.map (fun row => row.map String.toList)

def csvText (table : List (List String)) : String := String.ofList (Csv.tableText ['\r', '\n'] (tableOf table))

def normalizedText (conversions : TextConversions) (rows : List NormalizedWorkloadRow) : String :=
  csvText (normalizedColumns :: rows.map (NormalizedWorkloadRow.cells conversions))

def Fits (rows : List (List String)) : Prop := ∀ row ∈ rows, ∀ cell ∈ row, cell.toList.length ≤ fieldLimit

structure Tabular (table : List (List String)) : Prop where
  nonempty : ∀ row ∈ table, row ≠ []
  fits : Fits table

end Texts

section RoundTrip

variable {conversions : TextConversions} {rows : List NormalizedWorkloadRow}

theorem length_translate_le (text : List Char) : (Csv.translate text).length ≤ text.length := by
  induction text with
  | nil => exact le_rfl
  | cons c rest ih =>
    rw [Csv.translate, List.length_cons]
    split
    · split
      · omega
      · rw [List.length_cons]
        omega
    · rw [List.length_cons]
      omega

theorem map_newlines (row : List String) :
    (row.map String.toList).map Csv.translate = (row.map newlines).map String.toList := by
  rw [List.map_map, List.map_map]
  apply List.map_congr_left
  intro cell _
  simp [newlines]

theorem records_tableOf {table : List (List String)} (tabular : Tabular table) :
    Csv.records fieldLimit (Csv.translate (Csv.tableText ['\r', '\n'] (tableOf table))) =
      some (tableOf (table.map (fun row => row.map newlines))) := by
  have translated : (tableOf table).map (fun row => row.map Csv.translate) =
      tableOf (table.map (fun row => row.map newlines)) := by
    unfold tableOf
    rw [List.map_map, List.map_map]
    exact List.map_congr_left (fun row _ => map_newlines row)
  rw [Csv.translate_tableText, translated]
  apply Csv.records_tableText (Or.inl rfl)
  · intro row member
    obtain ⟨source, inside, rfl⟩ := List.mem_map.mp member
    obtain ⟨original, listed, rfl⟩ := List.mem_map.mp inside
    simpa using tabular.nonempty original listed
  · intro row member field held
    obtain ⟨source, inside, rfl⟩ := List.mem_map.mp member
    obtain ⟨original, listed, rfl⟩ := List.mem_map.mp inside
    obtain ⟨cell, within, rfl⟩ := List.mem_map.mp held
    obtain ⟨written, found, rfl⟩ := List.mem_map.mp within
    rw [newlines, String.toList_ofList]
    exact (length_translate_le written.toList).trans (tabular.fits original listed written found)

theorem map_ofList_toList (row : List String) : (row.map String.toList).map String.ofList = row := by
  simp [Function.comp_def]

theorem map_ofList_tableOf (rows : List (List String)) :
    (tableOf rows).map (fun row => row.map String.ofList) = rows := by
  unfold tableOf
  rw [List.map_map]
  conv_rhs => rw [← List.map_id rows]
  exact List.map_congr_left (fun row _ => map_ofList_toList row)

theorem ofText_csvText {header : List String} {cells : List (List String)} (tabular : Tabular (header :: cells)) :
    TraceFile.ofText (csvText (header :: cells)) = some {
      fieldnames := header.map newlines
      rows := cells.map (fun row => row.map newlines) } := by
  have read := records_tableOf tabular
  have kept : (tableOf (cells.map (fun row => row.map newlines))).filter (fun record => record ≠ []) =
      tableOf (cells.map (fun row => row.map newlines)) := by
    apply List.filter_eq_self.mpr
    intro record member
    obtain ⟨source, inside, rfl⟩ := List.mem_map.mp member
    obtain ⟨original, listed, rfl⟩ := List.mem_map.mp inside
    simpa using tabular.nonempty original (List.mem_cons_of_mem header listed)
  rw [TraceFile.ofText, csvText, String.toList_ofList, read, Option.map_some, List.map_cons, tableOf, List.map_cons,
    ← tableOf, List.headD_cons, List.tail_cons, kept, map_ofList_tableOf, map_ofList_toList]

theorem tabular_written (fits : Fits (rows.map (NormalizedWorkloadRow.cells conversions))) :
    Tabular (normalizedColumns :: rows.map (NormalizedWorkloadRow.cells conversions)) := by
  have short : ∀ cell ∈ normalizedColumns, cell.toList.length ≤ fieldLimit := by decide
  refine ⟨?_, List.forall_mem_cons.mpr ⟨short, fits⟩⟩
  intro row member
  rcases List.mem_cons.mp member with rfl | inside
  · decide
  · obtain ⟨source, _, rfl⟩ := List.mem_map.mp inside
    simp [NormalizedWorkloadRow.cells]

theorem ofText_written (fits : Fits (rows.map (NormalizedWorkloadRow.cells conversions))) :
    TraceFile.ofText (normalizedText conversions rows) = some {
      fieldnames := normalizedColumns
      rows := rows.map (fun row => (row.cells conversions).map newlines) } := by
  have names : normalizedColumns.map newlines = normalizedColumns := by decide
  have read := ofText_csvText (tabular_written fits)
  rw [names, List.map_map] at read
  exact read

theorem newlines_eq_self_iff {text : String} : newlines text = text ↔ '\r' ∉ text.toList := by
  rw [← Csv.translate_eq_self_iff, ← String.toList_inj, newlines, String.toList_ofList]

theorem map_newlines_eq_self_iff {table : List (List String)} :
    table.map (fun row => row.map newlines) = table ↔ ∀ row ∈ table, ∀ cell ∈ row, '\r' ∉ cell.toList := by
  have rowwise : ∀ row : List String, row.map newlines = row ↔ ∀ cell ∈ row, '\r' ∉ cell.toList := by
    intro row
    conv_lhs => rhs; rw [← List.map_id row]
    rw [List.map_inj_left]
    exact forall₂_congr (fun cell _ => newlines_eq_self_iff)
  conv_lhs => rhs; rw [← List.map_id table]
  rw [List.map_inj_left]
  exact forall₂_congr (fun row _ => rowwise row)

theorem forall_mem_cells {property : String → Prop} :
    (∀ row ∈ rows.map (NormalizedWorkloadRow.cells conversions), ∀ cell ∈ row, property cell) ↔
      ∀ row ∈ rows, ∀ cell ∈ row.cells conversions, property cell := by
  simp only [List.mem_map, forall_exists_index, and_imp, forall_apply_eq_imp_iff₂]

/-- A written trace is read back with the line ends of its cells as newlines, so that it is the trace that was
    written exactly when no cell holds a carriage return. -/
theorem written_trace_reads_back (conversions : TextConversions) (rows : List NormalizedWorkloadRow)
    (fits : Fits (rows.map (NormalizedWorkloadRow.cells conversions))) :
    TraceFile.ofText (normalizedText conversions rows) = some {
        fieldnames := normalizedColumns
        rows := rows.map (fun row => (row.cells conversions).map newlines) } ∧
      (TraceFile.ofText (normalizedText conversions rows) = some (normalizedTable conversions rows) ↔
        ∀ row ∈ rows, ∀ cell ∈ row.cells conversions, '\r' ∉ cell.toList) := by
  have read := ofText_written fits
  have plain := @map_newlines_eq_self_iff (rows.map (NormalizedWorkloadRow.cells conversions))
  rw [forall_mem_cells, List.map_map] at plain
  refine ⟨read, ?_⟩
  rw [read, Option.some_inj, normalizedTable, TraceFile.mk.injEq, ← plain]
  exact and_iff_right rfl

theorem written_trace_reads_back_return :
    TraceFile.ofText (normalizedText WorkloadGenerator.wholeConversions
        [WorkloadGenerator.acmeRow (some "a\r,\"b\"")]) =
      some {
        fieldnames := normalizedColumns
        rows := [["7.0", "a\n,\"b\"", "128", "64", "acme", "realtime", "llama-3-8b", "session-0"]] } ∧
      TraceFile.ofText (normalizedText WorkloadGenerator.wholeConversions
          [WorkloadGenerator.acmeRow (some "a\r,\"b\"")]) ≠
        some (normalizedTable WorkloadGenerator.wholeConversions
          [WorkloadGenerator.acmeRow (some "a\r,\"b\"")]) := by
  have fits : Fits ([WorkloadGenerator.acmeRow (some "a\r,\"b\"")].map
      (NormalizedWorkloadRow.cells WorkloadGenerator.wholeConversions)) := by
    unfold Fits
    decide +kernel
  have read := written_trace_reads_back WorkloadGenerator.wholeConversions
    [WorkloadGenerator.acmeRow (some "a\r,\"b\"")] fits
  have cells : [WorkloadGenerator.acmeRow (some "a\r,\"b\"")].map
      (fun row => (row.cells WorkloadGenerator.wholeConversions).map newlines) =
        [["7.0", "a\n,\"b\"", "128", "64", "acme", "realtime", "llama-3-8b", "session-0"]] := by
    decide +kernel
  rw [cells] at read
  refine ⟨read.1, fun same => ?_⟩
  have plain := read.2.mp same (WorkloadGenerator.acmeRow (some "a\r,\"b\"")) (List.mem_singleton.mpr rfl) "a\r,\"b\""
    (by decide +kernel)
  exact plain (by decide)

end RoundTrip

section Renormalization

variable {conversions : TextConversions}

/-- A row as its file gives it back: the timestamp rounded, an absent text empty, and newlines for line ends. -/
def NormalizedWorkloadRow.canonical (row : NormalizedWorkloadRow) : NormalizedWorkloadRow :=
  { row with
    timestamp := roundTo 6 row.timestamp
    requestId := some (newlines (row.requestId.getD ""))
    tenantId := some (newlines (row.tenantId.getD ""))
    priorityClass := newlines row.priorityClass
    modelId := some (newlines (row.modelId.getD ""))
    sessionId := some (newlines (row.sessionId.getD "")) }

/-- The texts of the numbers of a row stand on one line and read back as the numbers. -/
structure Legible (conversions : TextConversions) (row : NormalizedWorkloadRow) : Prop where
  reads : ReadsBack conversions conversions row
  plain : '\r' ∉ (conversions.toStr (.float (roundTo 6 row.timestamp))).toList

theorem newlines_plain {text : String} (plain : '\r' ∉ text.toList) : newlines text = text :=
  newlines_eq_self_iff.mpr plain

theorem newlines_newlines (text : String) : newlines (newlines text) = newlines text := by
  apply newlines_plain
  rw [newlines, String.toList_ofList]
  exact Csv.mem_translate text.toList

theorem newlines_toString (n : ℤ) : newlines (toString n) = toString n := by
  have digits : ∀ m : ℕ, '\r' ∉ (Nat.toDigits 10 m) := by
    intro m member
    exact absurd (Nat.isDigit_of_mem_toDigits (by decide) (by decide) member) (by decide)
  apply newlines_plain
  cases n with
  | ofNat m =>
    change '\r' ∉ (toString m).toList
    rw [Nat.toString_eq_repr, Nat.toList_repr]
    exact digits m
  | negSucc m =>
    change '\r' ∉ ("-" ++ Nat.repr (m + 1)).toList
    rw [String.toList_append, Nat.toList_repr, List.mem_append, not_or]
    exact ⟨by decide, digits (m + 1)⟩

theorem roundTo_roundTo (digits : ℕ) (x : ℚ) : roundTo digits (roundTo digits x) = roundTo digits x :=
  (onGrid_roundTo digits x).roundTo_eq

theorem cells_canonical {row : NormalizedWorkloadRow} (legible : Legible conversions row) :
    row.canonical.cells conversions = (row.cells conversions).map newlines := by
  simp only [NormalizedWorkloadRow.cells, NormalizedWorkloadRow.canonical, roundTo_roundTo, List.map_cons, List.map_nil,
    newlines_plain legible.plain, newlines_toString, Option.getD_some]

theorem canonical_canonical (row : NormalizedWorkloadRow) : row.canonical.canonical = row.canonical := by
  simp only [NormalizedWorkloadRow.canonical, roundTo_roundTo, Option.getD_some, newlines_newlines]

theorem Legible.canonical {row : NormalizedWorkloadRow} (legible : Legible conversions row) :
    Legible conversions row.canonical := by
  have rounded : roundTo 6 row.canonical.timestamp = roundTo 6 row.timestamp := roundTo_roundTo 6 row.timestamp
  refine ⟨⟨?_, legible.reads.promptLength, legible.reads.expectedOutputLength⟩, ?_⟩
  · rw [rounded]
    exact legible.reads.timestamp
  · rw [rounded]
    exact legible.plain

theorem NormalizedWorkloadRow.WellFormed.newlines {row : NormalizedWorkloadRow} (formed : row.WellFormed) :
    newlines row.priorityClass = row.priorityClass := by
  obtain ⟨sla, named⟩ := formed.priorityClass
  unfold slaNamed at named
  split at named
  · rename_i same
    rw [same]
    decide
  · rename_i same
    rw [same]
    decide
  · rename_i same
    rw [same]
    decide
  · cases named

theorem NormalizedWorkloadRow.WellFormed.canonical {row : NormalizedWorkloadRow} (formed : row.WellFormed) :
    row.canonical.WellFormed := by
  refine ⟨formed.promptLength, formed.expectedOutputLength, ?_⟩
  have kept : row.canonical.priorityClass = row.priorityClass := formed.newlines
  rw [kept]
  exact formed.priorityClass

theorem ofText_canonical {rows : List NormalizedWorkloadRow} (legible : ∀ row ∈ rows, Legible conversions row)
    (fits : Fits (rows.map (NormalizedWorkloadRow.cells conversions))) :
    TraceFile.ofText (normalizedText conversions rows) =
      some (normalizedTable conversions (rows.map NormalizedWorkloadRow.canonical)) := by
  rw [ofText_written fits, normalizedTable, List.map_map]
  congr 2
  exact List.map_congr_left (fun row member => (cells_canonical (legible row member)).symm)

theorem clampPriority_of_named {name : String} {sla : SlaClass} (named : slaNamed name = some sla) :
    clampPriority (some name) = name := by
  unfold slaNamed at named
  split at named
  · decide
  · decide
  · decide
  · cases named

theorem floatCell_written {environment : PipelineEnvironment} {row : NormalizedWorkloadRow} {name text : String}
    {value : ℚ} (parsed : environment.conversions.parseFloat text = some value)
    (written : TraceFile.cell normalizedColumns (row.cells environment.conversions) name = some (some text))
    (default : ℚ) :
    floatCell environment (TraceFile.cell normalizedColumns (row.cells environment.conversions) name) default =
      .ok value := by
  simp only [written, floatCell, Json.ofCell, TextConversions.toFloat, parsed]

theorem genericRow_canonical (environment : PipelineEnvironment) (defaultModel : String) (index : ℕ)
    {row : NormalizedWorkloadRow} (formed : row.WellFormed) (legible : Legible environment.conversions row) :
    genericRow environment normalizedColumns defaultModel index (row.canonical.cells environment.conversions) =
      .ok row.canonical := by
  have reads := legible.canonical.reads
  obtain ⟨sla, named⟩ := formed.canonical.priorityClass
  have rounded : roundTo 6 row.canonical.timestamp = row.canonical.timestamp := roundTo_roundTo 6 row.timestamp
  have timestamp := @floatCell_written environment row.canonical "timestamp" _ _ reads.timestamp rfl index
  have prompt := @floatCell_written environment row.canonical "prompt_length" _ _ reads.promptLength rfl 1
  have output := @floatCell_written environment row.canonical "expected_output_length" _ _ reads.expectedOutputLength
    rfl 1
  apply except_bind_eq_ok.mpr
  refine ⟨_, timestamp, except_bind_eq_ok.mpr ⟨_, prompt, except_bind_eq_ok.mpr ⟨_, output, ?_⟩⟩⟩
  have priority : clampPriority (some row.canonical.priorityClass) = row.canonical.priorityClass :=
    clampPriority_of_named named
  apply congrArg Except.ok
  rw [rounded, max_truncate formed.canonical.promptLength, max_truncate formed.canonical.expectedOutputLength]
  change { row.canonical with priorityClass := clampPriority (some row.canonical.priorityClass) } = row.canonical
  rw [priority]

theorem normalizeRecords_all {α ρ β : Type} {normalize : ℕ → ρ → Except PyError (Option β)} {make : α → ρ}
    {value : α → β} {items : List α}
    (each : ∀ item ∈ items, ∀ index, normalize index (make item) = .ok (some (value item))) (index taken : ℕ) :
    normalizeRecords none normalize index taken (items.map make) = .ok (items.map value) := by
  induction items generalizing index taken with
  | nil => rfl
  | cons item rest ih =>
    rw [List.forall_mem_cons] at each
    rw [List.map_cons, normalizeRecords, if_neg (by simp)]
    apply except_bind_eq_ok.mpr
    exact ⟨_, each.1 index, except_bind_eq_ok.mpr ⟨_, ih each.2 _ _, rfl⟩⟩

theorem csvText_inj {table other : List (List String)} (first : Tabular table) (second : Tabular other)
    (same : csvText table = csvText other) : table = other := by
  have read : ∀ rows : List (List String), Tabular rows →
      Csv.records fieldLimit (csvText rows).toList = some (tableOf rows) := by
    intro rows tabular
    rw [csvText, String.toList_ofList]
    apply Csv.records_tableText (Or.inr rfl)
    · intro row member
      obtain ⟨source, listed, rfl⟩ := List.mem_map.mp member
      simpa using tabular.nonempty source listed
    · intro row member field held
      obtain ⟨source, listed, rfl⟩ := List.mem_map.mp member
      obtain ⟨cell, within, rfl⟩ := List.mem_map.mp held
      exact tabular.fits source listed cell within
  have records := read table first
  rw [same, read other second, Option.some_inj] at records
  rw [← map_ofList_tableOf table, ← records, map_ofList_tableOf other]

end Renormalization

/-- A dataset by the text of its file, which the CSV reader and the JSON parser read with newlines for line ends. -/
def DatasetFile.ofText (floats : FloatText) (suffix text : String) : DatasetFile where
  csv :=
    match TraceFile.ofText text with
    | some file => .ok file
    | none => .error (.valueError "field larger than field limit (131072)")
  json :=
    match Json.loads floats (newlines text) with
    | some document => .ok document
    | none => .error (.valueError "Expecting value")
  suffix

section Stability

variable {environment : PipelineEnvironment} {rows : List NormalizedWorkloadRow}

theorem fits_canonical (legible : ∀ row ∈ rows, Legible environment.conversions row)
    (fits : Fits (rows.map (NormalizedWorkloadRow.cells environment.conversions))) :
    Fits ((rows.map NormalizedWorkloadRow.canonical).map (NormalizedWorkloadRow.cells environment.conversions)) := by
  intro cells member cell held
  rw [List.map_map] at member
  obtain ⟨row, listed, rfl⟩ := List.mem_map.mp member
  rw [Function.comp_apply, cells_canonical (legible row listed)] at held
  obtain ⟨written, found, rfl⟩ := List.mem_map.mp held
  rw [newlines, String.toList_ofList]
  exact (length_translate_le _).trans (fits _ (List.mem_map_of_mem listed) written found)

theorem normalizeGeneric_written (floats : FloatText) (suffix defaultModel : String)
    (formed : ∀ row ∈ rows, row.WellFormed) (legible : ∀ row ∈ rows, Legible environment.conversions row)
    (fits : Fits (rows.map (NormalizedWorkloadRow.cells environment.conversions))) :
    normalizeGenericWorkloadCsv environment
        (.ofText floats suffix (normalizedText environment.conversions rows)) none defaultModel =
      .ok (rows.map NormalizedWorkloadRow.canonical) := by
  have read := ofText_canonical legible fits
  have file : (DatasetFile.ofText floats suffix (normalizedText environment.conversions rows)).csv =
      .ok (normalizedTable environment.conversions (rows.map NormalizedWorkloadRow.canonical)) := by
    simp only [DatasetFile.ofText, read]
  apply except_bind_eq_ok.mpr
  refine ⟨_, file, ?_⟩
  have each : ∀ row ∈ rows, ∀ index, some <$> genericRow environment normalizedColumns defaultModel index
      (row.canonical.cells environment.conversions) = .ok (some row.canonical) := by
    intro row member index
    rw [genericRow_canonical environment defaultModel index (formed row member) (legible row member)]
    rfl
  have all := @normalizeRecords_all _ _ _ (fun index row => some <$> genericRow environment normalizedColumns defaultModel
    index row) (fun row => row.canonical.cells environment.conversions) _ rows each 0 0
  simp only [normalizedTable, List.map_map]
  exact all

/-- Normalizing the file of normalized rows again gives the rows as the file has them, and from then on the same
    rows over and over. The file stays the same, to the byte, exactly when no cell holds a carriage return. -/
theorem renormalization_stable (name : String) (input : DatasetFile) (limit : Option ℤ) (firstModel : String)
    (normalized : normalizedRows environment name input limit firstModel = .ok rows)
    (legible : ∀ row ∈ rows, Legible environment.conversions row)
    (fits : Fits (rows.map (NormalizedWorkloadRow.cells environment.conversions))) (floats : FloatText)
    (suffix defaultModel : String) :
    let text := normalizedText environment.conversions rows
    ∃ again, normalizedRows environment "generic_csv" (.ofText floats suffix text) none defaultModel = .ok again ∧
      normalizedRows environment "generic_csv"
        (.ofText floats suffix (normalizedText environment.conversions again)) none defaultModel = .ok again ∧
      (normalizedText environment.conversions again = text ↔
        ∀ row ∈ rows, ∀ cell ∈ row.cells environment.conversions, '\r' ∉ cell.toList) := by
  intro text
  have formed : ∀ row ∈ rows, row.WellFormed := fun row member => normalizedRows_wellFormed normalized member
  have canonical : ∀ row ∈ rows.map NormalizedWorkloadRow.canonical, row.WellFormed ∧
      Legible environment.conversions row := by
    intro row member
    obtain ⟨source, listed, rfl⟩ := List.mem_map.mp member
    exact ⟨(formed source listed).canonical, (legible source listed).canonical⟩
  have first := normalizeGeneric_written floats suffix defaultModel formed legible fits
  have second := normalizeGeneric_written floats suffix defaultModel (fun row member => (canonical row member).1)
    (fun row member => (canonical row member).2) (fits_canonical legible fits)
  rw [List.map_map] at second
  have settled : rows.map (NormalizedWorkloadRow.canonical ∘ NormalizedWorkloadRow.canonical) =
      rows.map NormalizedWorkloadRow.canonical :=
    List.map_congr_left (fun row _ => canonical_canonical row)
  rw [settled] at second
  refine ⟨rows.map NormalizedWorkloadRow.canonical, first, second, ?_⟩
  have cells : (rows.map NormalizedWorkloadRow.canonical).map (NormalizedWorkloadRow.cells environment.conversions) =
      rows.map (fun row => (row.cells environment.conversions).map newlines) := by
    rw [List.map_map]
    exact List.map_congr_left (fun row member => cells_canonical (legible row member))
  have plain := @map_newlines_eq_self_iff (rows.map (NormalizedWorkloadRow.cells environment.conversions))
  rw [forall_mem_cells, List.map_map] at plain
  rw [← plain, normalizedText, cells]
  constructor
  · intro same
    have stable := tabular_written (fits_canonical legible fits)
    rw [cells] at stable
    exact (List.cons.inj (csvText_inj stable (tabular_written fits) same)).2
  · intro same
    exact congrArg (fun table => csvText (normalizedColumns :: table)) same

theorem renormalization_stable_named :
    let rows := [WorkloadGenerator.acmeRow (some "r1")]
    let text := normalizedText WorkloadGenerator.wholeConversions rows
    ∃ again, normalizedRows WorkloadGenerator.wholePipeline "generic_csv" (.ofText tenthFloats ".csv" text) none
        "llama-3-8b" = .ok again ∧
      normalizedRows WorkloadGenerator.wholePipeline "generic_csv"
        (.ofText tenthFloats ".csv" (normalizedText WorkloadGenerator.wholeConversions again)) none
        "llama-3-8b" = .ok again ∧
      normalizedText WorkloadGenerator.wholeConversions again = text := by
  intro rows text
  have normalized : normalizedRows WorkloadGenerator.wholePipeline "generic_csv"
      (WorkloadGenerator.namedRequests [["7", "128", "64", "acme", " High ", "r1"]]) none "llama-3-8b" = .ok rows := by
    decide +kernel
  have legible : ∀ row ∈ rows, Legible WorkloadGenerator.wholeConversions row := by
    intro row member
    rw [List.mem_singleton.mp member]
    exact ⟨⟨by decide +kernel, by decide +kernel, by decide +kernel⟩, by decide +kernel⟩
  have fits : Fits (rows.map (NormalizedWorkloadRow.cells WorkloadGenerator.wholeConversions)) := by
    unfold Fits
    decide +kernel
  obtain ⟨again, first, second, unchanged⟩ := renormalization_stable "generic_csv" _ none "llama-3-8b" normalized legible
    fits tenthFloats ".csv" "llama-3-8b"
  exact ⟨again, first, second, unchanged.mpr (by decide +kernel)⟩

end Stability

end NimbusMesh
