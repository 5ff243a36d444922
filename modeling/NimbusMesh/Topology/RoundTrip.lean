import NimbusMesh.Foundation.Execution
import NimbusMesh.Topology.Reading

namespace NimbusMesh

open Foundation Foundation.Execution Foundation.Scanning

section Lines

variable {table : ProbeTable}

theorem unbroken_of_solid {c : Char} (solid : Text.isSpace c = false) : Text.isLineBreak c = false := by
  by_contra ends
  rw [Bool.not_eq_false] at ends
  rw [Text.isSpace_of_isLineBreak ends] at solid
  cases solid

theorem unbroken_aligned {columns : List (List Char × List Char)}
    (gaps : ∀ column ∈ columns, ∀ c ∈ column.1, Text.isLineBreak c = false)
    (words : ∀ column ∈ columns, ∀ c ∈ column.2, Text.isSpace c = false) :
    ∀ c ∈ aligned columns, Text.isLineBreak c = false := by
  intro c member
  obtain ⟨column, inside, member⟩ := List.mem_flatMap.mp member
  rcases List.mem_append.mp member with gap | word
  · exact gaps column inside c gap
  · exact unbroken_of_solid (words column inside c word)

theorem ProbeHeader.unbroken_line (header : ProbeHeader table) :
    ∀ c ∈ header.line, Text.isLineBreak c = false := by
  have columns : ∀ c ∈ deviceColumns header.columns, Text.isLineBreak c = false := by
    apply unbroken_aligned
    all_goals
      intro column member
      obtain ⟨device, _, rfl⟩ := List.mem_map.mp member
    · exact fun c inside => (device.1.spaces c inside).2
    · exact device.2.name_solid.2
  have title : ∀ c ∈ "CPU Affinity".toList, Text.isLineBreak c = false := Text.forall_eq_false_of_any (by decide)
  intro c member
  unfold line stem at member
  rcases List.mem_append.mp member with member | tail
  · rcases List.mem_append.mp member with member | titled
    · rcases List.mem_append.mp member with named | gap
      · exact columns c named
      · exact (header.gap.spaces c gap).2
    · exact title c titled
  · exact header.unbroken c tail

theorem ProbeRow.unbroken_line (row : ProbeRow table) : ∀ c ∈ row.line, Text.isLineBreak c = false := by
  have cells : ∀ c ∈ aligned row.cells, Text.isLineBreak c = false := by
    apply unbroken_aligned _ (fun cell member => (row.words_cells cell member).2)
    intro cell member
    obtain ⟨column, _, rfl⟩ := List.mem_map.mp member
    exact fun c inside => (column.1.spaces c inside).2
  intro c member
  unfold line stem at member
  rcases List.mem_append.mp member with member | blank
  · rcases List.mem_append.mp member with named | cell
    · exact unbroken_of_solid (row.source.name_solid.2 c named)
    · exact cells c cell
  · exact (row.trailing.spaces c blank).2

namespace ProbeLayout

variable (layout : ProbeLayout table)

theorem unbroken_lines : ∀ line ∈ layout.lines, ∀ c ∈ line, Text.isLineBreak c = false := by
  intro line member
  unfold lines at member
  rcases List.mem_append.mp member with leading | member
  · obtain ⟨blanks, _, rfl⟩ := List.mem_map.mp leading
    exact fun c inside => (blanks.spaces c inside).2
  · rcases List.mem_cons.mp member with rfl | member
    · exact layout.header.unbroken_line
    · rcases List.mem_append.mp member with inBody | inLegend
      · obtain ⟨printed, _, rfl⟩ := List.mem_map.mp inBody
        cases printed with
        | blank blanks => exact fun c inside => (blanks.spaces c inside).2
        | row row => exact row.unbroken_line
      · exact layout.legendUnbroken line inLegend

def nonblank (line : List Char) : Bool := Text.strip (String.ofList line) ≠ ""

theorem nonblank_of_mem {line : List Char} {c : Char} (member : c ∈ line) (solid : Text.isSpace c = false) :
    nonblank line = true := by
  apply decide_eq_true
  intro empty
  rw [Text.strip_eq_empty, String.toList_ofList] at empty
  rw [empty c member] at solid
  cases solid

theorem nonblank_blanks (blanks : Blanks) : nonblank blanks.chars = false := by
  apply decide_eq_false
  rw [not_not, Text.strip_eq_empty, String.toList_ofList]
  exact fun c member => (blanks.spaces c member).1

theorem filter_body (body : List (ProbeLine table)) :
    (body.map ProbeLine.chars).filter nonblank = (body.filterMap ProbeLine.row?).map ProbeRow.line := by
  induction body with
  | nil => rfl
  | cons printed rest ih =>
    rw [List.map_cons]
    cases printed with
    | blank blanks =>
      rw [List.filter_cons_of_neg (by simp [ProbeLine.chars, nonblank_blanks]), ih]
      rfl
    | row row =>
      have named := row.source.name_solid
      obtain ⟨c, later, name⟩ := List.exists_cons_of_ne_nil named.1
      have kept : nonblank (ProbeLine.chars (.row row)) = true := by
        apply nonblank_of_mem _ (named.2 c (name ▸ List.mem_cons_self))
        change c ∈ row.source.name ++ aligned row.cells ++ row.trailing.chars
        rw [name]
        simp
      rw [List.filter_cons_of_pos kept, ih]
      rfl

theorem filter_lines :
    layout.lines.filter nonblank =
      layout.header.line :: (layout.rows.map ProbeRow.line ++ layout.legend.filter nonblank) := by
  have leading : (layout.leading.map Blanks.chars).filter nonblank = [] := by
    rw [List.filter_eq_nil_iff]
    intro line member
    obtain ⟨blanks, _, rfl⟩ := List.mem_map.mp member
    simp [nonblank_blanks]
  have titled : nonblank layout.header.line = true := by
    apply @nonblank_of_mem _ 'y' _ (by decide)
    simp [ProbeHeader.line, ProbeHeader.stem]
  rw [lines, List.filter_append, leading, List.nil_append, List.filter_cons_of_pos titled, List.filter_append,
    filter_body]
  rfl

theorem lines_text :
    ((Text.splitlines layout.text).filter (fun line => Text.strip line ≠ "")).map Text.rstrip =
      (layout.header.stripped :: (layout.rows.map ProbeRow.stem ++
        (layout.legend.filter nonblank).map (List.rdropWhile Text.isSpace))).map String.ofList := by
  have chars : layout.text.toList = ['\n'].intercalate layout.lines := String.toList_ofList
  have stripping : Text.rstrip ∘ String.ofList = String.ofList ∘ List.rdropWhile Text.isSpace := by
    funext line
    have same : (String.ofList line).toList = line := String.toList_ofList
    simp only [Function.comp, Text.rstrip, same]
  have rows : layout.rows.map (List.rdropWhile Text.isSpace ∘ ProbeRow.line) = layout.rows.map ProbeRow.stem :=
    List.map_congr_left (fun row _ => row.rdropWhile_line)
  have kept : ((Text.splitlines layout.text).filter (fun line => Text.strip line ≠ "")) =
      (layout.lines.filter nonblank).map String.ofList := by
    rw [← Text.filter_linesOf layout.unbroken_lines (show nonblank [] = false by decide), ← chars, Text.splitlines,
      List.filter_map]
    rfl
  rw [kept, layout.filter_lines, List.map_map, stripping, ← List.map_map, List.map_cons, List.map_append,
    List.map_map, rows, layout.header.rdropWhile_line]

theorem takeWhile_lines :
    ((layout.header.stripped :: (layout.rows.map ProbeRow.stem ++
      (layout.legend.filter nonblank).map (List.rdropWhile Text.isSpace))).map String.ofList).takeWhile
        (fun line => !Text.startsWith line "Legend") =
      (layout.header.stripped :: layout.rows.map ProbeRow.stem).map String.ofList := by
  have goesOn : ∀ line ∈ (layout.header.stripped :: layout.rows.map ProbeRow.stem).map String.ofList,
      (!Text.startsWith line "Legend") = true := by
    intro line member
    obtain ⟨chars, inside, rfl⟩ := List.mem_map.mp member
    rcases List.mem_cons.mp inside with rfl | inRows
    · rw [layout.header.startsWith_stripped]
      rfl
    · obtain ⟨row, _, rfl⟩ := List.mem_map.mp inRows
      rw [row.startsWith_stem]
      rfl
  have stops : (((layout.legend.filter nonblank).map (List.rdropWhile Text.isSpace)).map String.ofList).takeWhile
      (fun line => !Text.startsWith line "Legend") = [] := by
    cases legend : layout.legend with
    | nil => rfl
    | cons first rest =>
      obtain ⟨tail, rfl⟩ := layout.legendStarts first (by rw [legend]; rfl)
      have kept : nonblank ("Legend".toList ++ tail) = true := @nonblank_of_mem _ 'L' (by simp) (by decide)
      have closed : Closed Text.isSpace "Legend".toList := ⟨"Legen".toList, 'd', rfl, by decide⟩
      rw [List.filter_cons_of_pos kept, List.map_cons, List.map_cons, closed.rdropWhile_append]
      apply List.takeWhile_cons_of_neg
      have chars : (String.ofList ("Legend".toList ++ tail.rdropWhile Text.isSpace)).toList =
          "Legend".toList ++ tail.rdropWhile Text.isSpace := String.toList_ofList
      unfold Text.startsWith
      rw [chars, List.isPrefixOf_iff_prefix.mpr (List.prefix_append _ _)]
      simp
  rw [← List.cons_append, List.map_append, List.takeWhile_append_of_pos goesOn, stops, List.append_nil]

end ProbeLayout

end Lines

section Snapshot

variable {table : ProbeTable}

namespace ProbeTable

variable (table)

/-- What a snapshot says of a table: its GPUs, their relations to each other and the values of these. -/
structure ReadAs (snapshot : GpuTopologySnapshot) : Prop where
  devices : snapshot.devices = table.gpus.map Device.label
  sources : ∀ name, (Dict.lookup snapshot.relations name).isSome ↔ name ∈ snapshot.devices
  relations : ∀ source ∈ table.gpus, ∃ edges, Dict.lookup snapshot.relations source.label = some edges ∧
    edges.toList = table.gpus.map (fun target => (target.label, (table.relation source target).text))
  adjacencyMatrix : snapshot.adjacencyMatrix = table.matrix adjacencyCost
  latencyWeights : snapshot.latencyWeights = table.matrix latencyWeight
  bandwidthTiers : snapshot.bandwidthTiers = table.matrix bandwidthTier

theorem filter_labels :
    (table.devices.map Device.label).filter (fun device => Text.startsWith device "GPU") =
      table.gpus.map Device.label := by
  have same : (fun device => Text.startsWith device "GPU") ∘ Device.label =
      fun device : Device => decide (device.kind = .gpu) := funext Device.startsWith_label
  rw [List.filter_map, same]
  rfl

theorem label_mem_gpus (device : Device) (member : device ∈ table.devices) :
    device.label ∈ table.gpus.map Device.label ↔ device.kind = .gpu := by
  constructor
  · intro named
    rw [← filter_labels] at named
    have starts := (List.mem_filter.mp named).2
    rw [device.startsWith_label] at starts
    exact of_decide_eq_true starts
  · intro kind
    exact List.mem_map_of_mem (List.mem_filter.mpr ⟨member, decide_eq_true kind⟩)

theorem toList_edges (source : Device) :
    (table.edges source).toList =
      table.devices.map (fun target => (target.label, (table.relation source target).text)) := by
  apply Dict.toList_ofList
  rw [List.map_map]
  exact Device.label_injective_on table.distinct

theorem lookup_edges (source : Device) {target : Device} (member : target ∈ table.gpus) :
    Dict.lookup (table.edges source) target.label = some (table.relation source target).text := by
  have listed : (target.label, (table.relation source target).text) ∈ (table.edges source).toList := by
    rw [toList_edges]
    exact List.mem_map.mpr ⟨target, (List.mem_filter.mp member).1, rfl⟩
  exact Dict.mem_toList_iff.mp listed

theorem toList_filter_edges (source : Device) :
    (Dict.filter (fun target => (table.gpus.map Device.label).contains target) (table.edges source)).toList =
      table.gpus.map (fun target => (target.label, (table.relation source target).text)) := by
  change (table.edges source).toList.filter _ = _
  rw [toList_edges, List.filter_map]
  congr 1
  apply List.filter_congr
  intro device member
  have same := table.label_mem_gpus device member
  simp only [Function.comp, List.contains_eq_mem, same]

end ProbeTable

namespace ProbeLayout

variable (layout : ProbeLayout table)

/-- The relations after the loop over the lines. A header without indentation is read as the line of its first
    device too, but the line of the device itself comes later. -/
def relations : Dict String (Dict String String) :=
  ((layout.header.stripped :: layout.rows.map ProbeRow.stem).map String.ofList).foldl
    (GpuTopologySnapshot.readLine (table.devices.map Device.label)) KeyedList.empty

theorem lookup_relations {source : Device} (member : source ∈ table.gpus) :
    Dict.lookup layout.relations source.label = some (table.edges source) := by
  obtain ⟨inside, kind⟩ := List.mem_filter.mp member
  have reading : (fun relations (row : ProbeRow table) =>
      GpuTopologySnapshot.readLine (table.devices.map Device.label) relations (String.ofList row.stem)) =
      fun relations row => if decide (row.source.kind = .gpu) = true then
        Dict.set relations row.source.label (table.edges row.source) else relations := by
    funext relations row
    rw [row.readLine_stem]
    simp only [decide_eq_true_eq]
  obtain ⟨row, inRows, rfl⟩ := List.mem_map.mp (layout.complete.mem_iff.mpr inside)
  have distinct : ((layout.rows.filter (fun row => decide (row.source.kind = .gpu))).map
      (fun row => row.source.label)).Nodup := by
    have labels : (layout.rows.map (fun row => row.source.label)).Nodup := by
      have renamed := (layout.complete.map Device.label).symm.nodup (Device.label_injective_on table.distinct)
      rw [List.map_map] at renamed
      exact renamed
    exact labels.sublist (List.filter_sublist.map _)
  have found := @Dict.lookup_foldl_set _ _ _ _ (fun row : ProbeRow table => row.source.label)
    (fun row => table.edges row.source) _ distinct row (List.mem_filter.mpr ⟨inRows, kind⟩)
  unfold relations
  rw [List.map_cons, List.foldl_cons, List.map_map, List.foldl_map]
  change Dict.lookup (layout.rows.foldl (fun relations (row : ProbeRow table) =>
    GpuTopologySnapshot.readLine (table.devices.map Device.label) relations (String.ofList row.stem)) _) _ = _
  rw [reading, ← List.foldl_filter]
  exact found _

theorem relationBetween_relations {source target : Device} (fromGpu : source ∈ table.gpus)
    (toGpu : target ∈ table.gpus) :
    GpuTopologySnapshot.relationBetween layout.relations source.label target.label =
      .ok (table.relation source target).text := by
  unfold GpuTopologySnapshot.relationBetween
  simp only [layout.lookup_relations fromGpu, table.lookup_edges source toGpu]

def snapshot : GpuTopologySnapshot where
  devices := table.gpus.map Device.label
  relations := GpuTopologySnapshot.restricted (table.gpus.map Device.label) layout.relations
  adjacencyMatrix := table.matrix adjacencyCost
  latencyWeights := table.matrix latencyWeight
  bandwidthTiers := table.matrix bandwidthTier

theorem fromText_text : GpuTopologySnapshot.fromText layout.text = .ok layout.snapshot := by
  have header : GpuTopologySnapshot.headerLine ((layout.header.stripped :: (layout.rows.map ProbeRow.stem ++
      (layout.legend.filter nonblank).map (List.rdropWhile Text.isSpace))).map String.ofList) =
      .ok (String.ofList layout.header.stripped) := by
    unfold GpuTopologySnapshot.headerLine
    rw [List.map_cons, List.find?_cons_of_pos layout.header.isHeader_stripped]
  have read : (table.gpus.map Device.label).mapM (fun source =>
      (table.gpus.map Device.label).mapM (GpuTopologySnapshot.relationBetween layout.relations source)) =
      .ok (table.gpus.map (fun source => table.gpus.map (fun target => (table.relation source target).text))) :=
    except_mapM_eq_ok (fun _ fromGpu => except_mapM_eq_ok (fun _ toGpu =>
      layout.relationBetween_relations fromGpu toGpu))
  have matrices : ∀ value : String → ℚ,
      (table.gpus.map (fun source => table.gpus.map (fun target => (table.relation source target).text))).map
        (fun row => row.map value) = table.matrix value := by
    intro value
    simp only [ProbeTable.matrix, List.map_map, Function.comp_def]
  unfold GpuTopologySnapshot.fromText
  rw [layout.lines_text]
  simp only [header, layout.takeWhile_lines]
  apply except_bind_eq_ok.mpr
  refine ⟨_, rfl, ?_⟩
  simp only [layout.header.deviceNames_stripped, table.filter_labels]
  apply except_bind_eq_ok.mpr
  refine ⟨_, read, ?_⟩
  simp only [matrices]
  rfl

theorem lookup_snapshot (name : String) :
    Dict.lookup layout.snapshot.relations name = if (table.gpus.map Device.label).contains name = true then
      (Dict.lookup layout.relations name).map
        (Dict.filter (fun target => (table.gpus.map Device.label).contains target))
      else none := by
  change Dict.lookup (GpuTopologySnapshot.restricted _ _) name = _
  unfold GpuTopologySnapshot.restricted
  rw [Dict.lookup_map, Dict.lookup_filter]
  split
  · rfl
  · rfl

theorem readAs_snapshot : table.ReadAs layout.snapshot where
  devices := rfl
  sources := by
    intro name
    change _ ↔ name ∈ table.gpus.map Device.label
    rw [lookup_snapshot]
    constructor
    · intro present
      split at present
      · rename_i listed
        exact List.contains_iff_mem.mp listed
      · cases present
    · intro listed
      obtain ⟨source, member, rfl⟩ := List.mem_map.mp listed
      rw [if_pos (List.contains_iff_mem.mpr listed), layout.lookup_relations member]
      rfl
  relations := by
    intro source member
    have listed : source.label ∈ table.gpus.map Device.label := List.mem_map_of_mem member
    refine ⟨_, ?_, table.toList_filter_edges source⟩
    rw [lookup_snapshot, if_pos (List.contains_iff_mem.mpr listed), layout.lookup_relations member]
    rfl
  adjacencyMatrix := rfl
  latencyWeights := rfl
  bandwidthTiers := rfl

/-- A table that is laid out like the output of `nvidia-smi topo -m` is read back: the GPUs in the order of the
    header, their relations to each other and the values of these, and nothing else. -/
theorem fromText_layout (table : ProbeTable) (layout : ProbeLayout table) :
    ∃ snapshot, GpuTopologySnapshot.fromText layout.text = .ok snapshot ∧ table.ReadAs snapshot ∧
      ∀ source ∈ table.gpus, ∀ target ∈ table.gpus,
        (adjacencyCost (table.relation source target).text = 0 ↔ (table.relation source target).text = "X") :=
  ⟨layout.snapshot, layout.fromText_text, layout.readAs_snapshot,
    fun _ _ _ _ => adjacencyCost_eq_zero_iff _⟩

section Sample

def space : Blanks := ⟨[' '], List.forall_mem_singleton.mpr (by decide)⟩

def gap : Gap := ⟨space, List.cons_ne_nil _ _⟩

def self : Word := ⟨['X'], List.cons_ne_nil _ _, Text.forall_eq_false_of_any (by decide)⟩

def nearby : Word := ⟨"NV4".toList, List.cons_ne_nil _ _, Text.forall_eq_false_of_any (by decide)⟩

def cores : Word := ⟨"0-47".toList, List.cons_ne_nil _ _, Text.forall_eq_false_of_any (by decide)⟩

def firstGpu : Device := ⟨.gpu, ['1', '0'], List.cons_ne_nil _ _, List.all_eq_true.mp (by decide)⟩

def secondGpu : Device := ⟨.gpu, ['3'], List.cons_ne_nil _ _, List.all_eq_true.mp (by decide)⟩

def onlyNic : Device := ⟨.nic, ['0'], List.cons_ne_nil _ _, List.all_eq_true.mp (by decide)⟩

def sampleTable (relation : Device → Device → Word) : ProbeTable where
  devices := [firstGpu, onlyNic, secondGpu]
  distinct := by decide
  someGpu := ⟨firstGpu, List.mem_cons_self, rfl⟩
  relation

def sampleRow (relation : Device → Device → Word) (source : Device) : ProbeRow (sampleTable relation) where
  source
  affinity := [cores]
  columns := ((sampleTable relation).devices.map (relation source) ++ [cores]).map (fun word => (gap, word))
  filled := by
    rw [List.map_map]
    exact List.map_id _
  trailing := space

def sampleLayout (relation : Device → Device → Word) : ProbeLayout (sampleTable relation) where
  leading := []
  header := {
    columns := (sampleTable relation).devices.zipWith (fun device blanks => (blanks, device))
      [⟨[], List.forall_mem_nil _⟩, space, space]
    filled := rfl
    gap := space
    tail := " NUMA Affinity".toList
    unbroken := Text.forall_eq_false_of_any (by decide)
    namesNone := by
      intro kind digit decimal inside
      have none : " NUMA Affinity".toList.any Text.isDecimal = false := by decide
      rw [Text.forall_eq_false_of_any none digit (inside.subset (by simp))] at decimal
      cases decimal }
  body := .blank space :: (sampleTable relation).devices.reverse.map (fun source => .row (sampleRow relation source))
  complete := List.reverse_perm (sampleTable relation).devices
  legend := ["Legend:".toList, " X = Self".toList]
  legendUnbroken := by
    have none : ∀ line ∈ ["Legend:".toList, " X = Self".toList], line.any Text.isLineBreak = false := by decide
    exact fun line member => Text.forall_eq_false_of_any (none line member)
  legendStarts := by
    intro line first
    cases first
    exact ⟨[':'], rfl⟩

def sampleRelation (source target : Device) : Word :=
  if source = target then self else nearby

def sampleText : String :=
  "GPU10 NIC0 GPU3 CPU Affinity NUMA Affinity\n \nGPU3 NV4 NV4 X 0-47 \nNIC0 NV4 X NV4 0-47 \n" ++
    "GPU10 X NV4 NV4 0-47 \nLegend:\n X = Self"

theorem fromText_layout_sample :
    ∃ snapshot, GpuTopologySnapshot.fromText sampleText = .ok snapshot ∧
      snapshot.devices = ["GPU10", "GPU3"] ∧ snapshot.adjacencyMatrix = [[0, 0.01], [0.01, 0]] := by
  have same : (sampleLayout sampleRelation).text = sampleText := by decide +kernel
  obtain ⟨snapshot, parsed, reads, _⟩ := fromText_layout (sampleTable sampleRelation) (sampleLayout sampleRelation)
  rw [same] at parsed
  refine ⟨snapshot, parsed, ?_, ?_⟩
  · rw [reads.devices]
    rfl
  · rw [reads.adjacencyMatrix]
    decide +kernel

end Sample

end ProbeLayout

end Snapshot

end NimbusMesh
