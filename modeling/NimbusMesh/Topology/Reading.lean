import NimbusMesh.Topology.Layout

namespace NimbusMesh

open Foundation Foundation.Scanning

section Devices

theorem letters_solid (kind : DeviceKind) :
    ∀ c ∈ kind.letters, Text.isSpace c = false ∧ Text.isDecimal c = false := by
  have none : kind.letters.any (fun c => Text.isSpace c || Text.isDecimal c) = false := by
    cases kind with
    | gpu => decide
    | nic => decide
  intro c member
  exact Bool.or_eq_false_iff.mp (Text.forall_eq_false_of_any none c member)

namespace Device

theorem name_solid (device : Device) : device.name ≠ [] ∧ ∀ c ∈ device.name, Text.isSpace c = false := by
  constructor
  · exact fun empty => device.numbered.1 (List.append_eq_nil_iff.mp empty).2
  · intro c member
    rcases List.mem_append.mp member with letter | digit
    · exact (letters_solid device.kind c letter).1
    · by_contra space
      rw [Bool.not_eq_false] at space
      have decimal := device.numbered.2 c digit
      rw [Text.isDecimal_of_isSpace space] at decimal
      cases decimal

theorem startsWith_label (device : Device) :
    Text.startsWith device.label "GPU" = decide (device.kind = .gpu) := by
  unfold Text.startsWith label name
  rw [String.toList_ofList]
  cases device.kind with
  | gpu => simp [DeviceKind.letters]
  | nic => simp [DeviceKind.letters, List.isPrefixOf]

theorem label_injective_on {devices : List Device} (distinct : (devices.map name).Nodup) :
    (devices.map label).Nodup := by
  have labels : devices.map label = (devices.map name).map String.ofList := by
    rw [List.map_map]
    rfl
  rw [labels]
  exact distinct.map (fun _ _ same => String.ofList_inj.mp same)

end Device

namespace GpuTopologySnapshot

theorem numbered_append {letters digits rest : List Char} (nonempty : digits ≠ [])
    (decimal : ∀ c ∈ digits, Text.isDecimal c = true) (ends : ∀ c ∈ rest.head?, Text.isDecimal c = false) :
    numbered letters (letters ++ (digits ++ rest)) = some (letters ++ digits) := by
  have stops : rest.takeWhile Text.isDecimal = [] := by
    cases rest with
    | nil => rfl
    | cons c later => exact List.takeWhile_cons_of_neg (by simp [ends c rfl])
  have taken : (digits ++ rest).takeWhile Text.isDecimal = digits := by
    rw [List.takeWhile_append_of_pos decimal, stops, List.append_nil]
  have starts : letters.isPrefixOf (letters ++ (digits ++ rest)) = true := by
    rw [List.isPrefixOf_iff_prefix]
    exact List.prefix_append _ _
  simp only [numbered, List.drop_left, taken, starts, nonempty, ne_eq, not_false_eq_true, and_self, if_true]

theorem deviceAt_name (device : Device) {rest : List Char} (ends : ∀ c ∈ rest.head?, Text.isDecimal c = false) :
    deviceAt (device.name ++ rest) = some device.name := by
  have found := @numbered_append device.kind.letters _ _ device.numbered.1 device.numbered.2 ends
  unfold deviceAt Device.name
  rw [List.append_assoc]
  cases kind : device.kind with
  | gpu =>
    rw [kind] at found
    exact congrArg (Option.or · _) found
  | nic =>
    rw [kind] at found
    have other : numbered "GPU".toList (DeviceKind.nic.letters ++ (device.digits ++ rest)) = none := by
      simp only [numbered]
      exact if_neg (fun both => Bool.false_ne_true both.1)
    rw [other]
    exact found

theorem deviceAt_eq_some {text found : List Char} (matched : deviceAt text = some found) :
    ∃ (kind : DeviceKind) (digit : Char), Text.isDecimal digit = true ∧ kind.letters ++ [digit] <+: text := by
  have letters : ∀ kind : DeviceKind, numbered kind.letters text ≠ none →
      ∃ digit, Text.isDecimal digit = true ∧ kind.letters ++ [digit] <+: text := by
    intro kind present
    simp only [numbered] at present
    split at present
    · rename_i both
      obtain ⟨rest, rfl⟩ := List.isPrefixOf_iff_prefix.mp both.1
      rw [List.drop_left] at both
      obtain ⟨digit, digits, taken⟩ := List.exists_cons_of_ne_nil both.2
      obtain ⟨later, whole⟩ := List.takeWhile_prefix (l := rest) Text.isDecimal
      rw [taken] at whole
      refine ⟨digit, List.mem_takeWhile_imp (taken ▸ List.mem_cons_self), digits ++ later, ?_⟩
      rw [← whole]
      simp
    · exact absurd rfl present
  rcases Option.or_eq_some_iff.mp matched with gpu | ⟨_, nic⟩
  · exact ⟨.gpu, letters .gpu (fun absent => by cases absent.symm.trans gpu)⟩
  · exact ⟨.nic, letters .nic (fun absent => by cases absent.symm.trans nic)⟩

theorem deviceAt_of_other {c : Char} (other : c ≠ 'G' ∧ c ≠ 'N') (text : List Char) :
    deviceAt (c :: text) = none := by
  rw [Option.eq_none_iff_forall_ne_some]
  intro found matched
  obtain ⟨kind, digit, _, rest, starts⟩ := deviceAt_eq_some matched
  cases kind with
  | gpu => exact other.1 (List.cons.inj starts).1.symm
  | nic => exact other.2 (List.cons.inj starts).1.symm

theorem deviceAt_of_space {c : Char} (space : Text.isSpace c = true) (text : List Char) :
    deviceAt (c :: text) = none := by
  apply deviceAt_of_other
  constructor
  all_goals
    rintro rfl
    revert space
    decide

end GpuTopologySnapshot

end Devices

theorem startsWith_of_head {text : List Char} (first : ∀ c ∈ text.head?, c ≠ 'L') :
    Text.startsWith (String.ofList text) "Legend" = false := by
  have chars : (String.ofList text).toList = text := String.toList_ofList
  unfold Text.startsWith
  rw [chars]
  cases text with
  | nil => rfl
  | cons c later =>
    have other : ('L' == c) = false := by simpa using (first c rfl).symm
    change ('L' == c && _) = false
    rw [other, Bool.false_and]

section Header

variable {table : ProbeTable}

def deviceColumns (columns : List (Blanks × Device)) : List Char :=
  aligned (columns.map (fun column => (column.1.chars, column.2.name)))

theorem deviceColumns_cons (column : Blanks × Device) (rest : List (Blanks × Device)) (text : List Char) :
    deviceColumns (column :: rest) ++ text = column.1.chars ++ (column.2.name ++ (deviceColumns rest ++ text)) := by
  simp [deviceColumns, aligned]

section First

variable {property : Char → Prop} {text : List Char}

theorem Blanks.head_chars (blanks : Blanks) (spaces : ∀ c, Text.isSpace c = true → property c)
    (ends : ∀ c ∈ text.head?, property c) : ∀ c ∈ (blanks.chars ++ text).head?, property c := by
  intro c leads
  cases chars : blanks.chars with
  | nil =>
    rw [chars] at leads
    exact ends c leads
  | cons first later =>
    rw [chars] at leads
    cases leads
    exact spaces c (blanks.spaces c (chars ▸ List.mem_cons_self)).1

theorem Device.head_name (device : Device) (letters : property 'G' ∧ property 'N') :
    ∀ c ∈ (device.name ++ text).head?, property c := by
  intro c leads
  unfold name at leads
  cases kind : device.kind with
  | gpu =>
    rw [kind] at leads
    cases leads
    exact letters.1
  | nic =>
    rw [kind] at leads
    cases leads
    exact letters.2

theorem head_deviceColumns (columns : List (Blanks × Device)) (spaces : ∀ c, Text.isSpace c = true → property c)
    (letters : property 'G' ∧ property 'N') (ends : ∀ c ∈ text.head?, property c) :
    ∀ c ∈ (deviceColumns columns ++ text).head?, property c := by
  cases columns with
  | nil => exact ends
  | cons column rest =>
    rw [deviceColumns_cons]
    exact column.1.head_chars spaces (column.2.head_name letters)

end First

theorem occurrences_deviceColumns (columns : List (Blanks × Device)) {text : List Char}
    (ends : ∀ c ∈ text.head?, Text.isDecimal c = false) :
    occurrences GpuTopologySnapshot.deviceAt (deviceColumns columns ++ text) =
      columns.map (fun column => column.2.name) ++ occurrences GpuTopologySnapshot.deviceAt text := by
  induction columns with
  | nil => rfl
  | cons column rest ih =>
    have spaces : ∀ c ∈ column.1.chars, ∀ later, GpuTopologySnapshot.deviceAt (c :: later) = none :=
      fun c member later => GpuTopologySnapshot.deviceAt_of_space (column.1.spaces c member).1 later
    have later := head_deviceColumns rest (fun _ => Text.isDecimal_of_isSpace) (by decide) ends
    have matched := GpuTopologySnapshot.deviceAt_name column.2 later
    rw [deviceColumns_cons, occurrences_passed spaces, occurrences_found column.2.name_solid.1 matched, ih]
    rfl

namespace ProbeHeader

variable (header : ProbeHeader table)

def stripped : List Char := header.stem ++ header.tail.rdropWhile Text.isSpace

theorem rdropWhile_line : header.line.rdropWhile Text.isSpace = header.stripped := by
  have closed : Closed Text.isSpace header.stem := by
    refine ⟨deviceColumns header.columns ++ header.gap.chars ++ "CPU Affinit".toList, 'y', ?_, by decide⟩
    rw [List.append_assoc]
    rfl
  exact closed.rdropWhile_append header.tail

theorem stripped_eq : header.stripped = deviceColumns header.columns ++
    (header.gap.chars ++ ("CPU Affinity".toList ++ header.tail.rdropWhile Text.isSpace)) := by
  simp only [stripped, stem, deviceColumns, List.append_assoc]

theorem deviceNames_stripped :
    GpuTopologySnapshot.deviceNames (String.ofList header.stripped) = table.devices.map Device.label := by
  have spaces : ∀ c ∈ header.gap.chars, ∀ later, GpuTopologySnapshot.deviceAt (c :: later) = none :=
    fun c member later => GpuTopologySnapshot.deviceAt_of_space (header.gap.spaces c member).1 later
  have title : ∀ c ∈ "CPU Affinity".toList, ∀ later, GpuTopologySnapshot.deviceAt (c :: later) = none := by
    have others : "CPU Affinity".toList.any (fun c => c = 'G' ∨ c = 'N') = false := by decide
    intro c member
    apply GpuTopologySnapshot.deviceAt_of_other
    exact not_or.mp (of_decide_eq_false (Text.forall_eq_false_of_any others c member))
  have others : ∀ suffix, suffix <:+ header.tail.rdropWhile Text.isSpace →
      GpuTopologySnapshot.deviceAt suffix = none := by
    intro suffix ends
    rw [Option.eq_none_iff_forall_ne_some]
    intro found matched
    obtain ⟨kind, digit, decimal, starts⟩ := GpuTopologySnapshot.deviceAt_eq_some matched
    apply header.namesNone kind digit decimal
    exact (starts.isInfix.trans ends.isInfix).trans (List.rdropWhile_prefix _ _).isInfix
  have ends : ∀ c ∈ (header.gap.chars ++
      ("CPU Affinity".toList ++ header.tail.rdropWhile Text.isSpace)).head?, Text.isDecimal c = false := by
    apply header.gap.head_chars (fun _ => Text.isDecimal_of_isSpace)
    intro c leads
    cases leads
    decide
  unfold GpuTopologySnapshot.deviceNames
  rw [String.toList_ofList, stripped_eq, occurrences_deviceColumns _ ends, occurrences_passed spaces,
    occurrences_passed title, occurrences_none others, List.append_nil, ← header.filled, List.map_map, List.map_map]
  rfl

theorem isHeader_stripped : GpuTopologySnapshot.isHeader (String.ofList header.stripped) = true := by
  obtain ⟨device, member, kind⟩ := table.someGpu
  rw [← header.filled] at member
  obtain ⟨column, inside, rfl⟩ := List.mem_map.mp member
  obtain ⟨before, after, split⟩ := List.append_of_mem inside
  have named : "GPU".toList <:+: header.stripped := by
    refine ⟨aligned (before.map (fun column => (column.1.chars, column.2.name))) ++ column.1.chars,
      column.2.digits ++ (deviceColumns after ++
        (header.gap.chars ++ ("CPU Affinity".toList ++ header.tail.rdropWhile Text.isSpace))), ?_⟩
    have name : column.2.name = "GPU".toList ++ column.2.digits := by
      unfold Device.name
      rw [kind]
      rfl
    rw [stripped_eq, split]
    simp only [deviceColumns, aligned, List.map_append, List.map_cons, List.flatMap_append, List.flatMap_cons, name,
      List.append_assoc]
  have titled : "CPU Affinity".toList <:+: header.stripped := by
    refine ⟨deviceColumns header.columns ++ header.gap.chars, header.tail.rdropWhile Text.isSpace, ?_⟩
    rw [stripped_eq]
    simp only [List.append_assoc]
  have chars : (String.ofList header.stripped).toList = header.stripped := String.toList_ofList
  unfold GpuTopologySnapshot.isHeader Text.contains
  rw [chars, decide_eq_true named, decide_eq_true titled]
  rfl

theorem startsWith_stripped : Text.startsWith (String.ofList header.stripped) "Legend" = false := by
  have first : ∀ c ∈ header.stripped.head?, c ≠ 'L' := by
    have spaces : ∀ c, Text.isSpace c = true → c ≠ 'L' := by
      rintro c space rfl
      revert space
      decide
    rw [stripped_eq]
    apply head_deviceColumns _ spaces (by decide)
    apply header.gap.head_chars spaces
    intro c leads
    cases leads
    decide
  exact startsWith_of_head first

end ProbeHeader

end Header

section Rows

variable {table : ProbeTable}

def ProbeTable.edges (table : ProbeTable) (source : Device) : Dict String String :=
  Dict.ofList (table.devices.map (fun target => (target.label, (table.relation source target).text)))

namespace ProbeRow

variable (row : ProbeRow table)

theorem gaps_cells : ∀ cell ∈ row.cells, cell.1 ≠ [] ∧ ∀ c ∈ cell.1, Text.isSpace c = true := by
  intro cell member
  obtain ⟨column, _, rfl⟩ := List.mem_map.mp member
  exact ⟨column.1.nonempty, fun c inside => (column.1.spaces c inside).1⟩

theorem words_cells : ∀ cell ∈ row.cells, cell.2 ≠ [] ∧ ∀ c ∈ cell.2, Text.isSpace c = false := by
  intro cell member
  obtain ⟨column, _, rfl⟩ := List.mem_map.mp member
  exact column.2.solid

theorem rdropWhile_line : row.line.rdropWhile Text.isSpace = row.stem := by
  have named := row.source.name_solid
  have closed : Closed Text.isSpace row.stem := (closed_word [] named.1 named.2).aligned row.words_cells
  have blank : row.trailing.chars.rdropWhile Text.isSpace = [] := by
    rw [List.rdropWhile_eq_nil_iff]
    exact fun c member => (row.trailing.spaces c member).1
  rw [line, closed.rdropWhile_append, blank, List.append_nil]

theorem split_stem :
    Text.split (String.ofList row.stem) = row.source.label :: row.columns.map (fun column => column.2.text) := by
  have named := row.source.name_solid
  have ends : Separated Text.isSpace ([] : List Char) := fun c member => by cases member
  have separated := separated_aligned row.gaps_cells ends
  have cells := fields_aligned row.gaps_cells row.words_cells ends
  rw [List.append_nil] at separated cells
  have whole : fields Text.isSpace row.stem = row.source.name :: row.columns.map (fun column => column.2.chars) := by
    rw [stem, fields_word named.1 named.2 separated, cells, fields_nil, List.append_nil, ProbeRow.cells, List.map_map]
    rfl
  have chars : (String.ofList row.stem).toList = row.stem := String.toList_ofList
  unfold Text.split
  rw [chars]
  change (fields Text.isSpace row.stem).map String.ofList = _
  rw [whole, List.map_cons, List.map_map]
  rfl

theorem isRow_stem : GpuTopologySnapshot.isRow (String.ofList row.stem) = true := by
  have some : row.cells ≠ [] := by
    obtain ⟨device, member, _⟩ := table.someGpu
    have words : row.columns.map Prod.snd ≠ [] := by
      rw [row.filled]
      apply List.append_ne_nil_of_left_ne_nil
      exact List.ne_nil_of_mem (List.mem_map_of_mem member)
    intro none
    exact words (by rw [List.map_eq_nil_iff.mp none, List.map_nil])
  obtain ⟨cell, rest, starts⟩ := List.exists_cons_of_ne_nil some
  have gap := row.gaps_cells cell (starts ▸ List.mem_cons_self)
  obtain ⟨c, later, chars⟩ := List.exists_cons_of_ne_nil gap.1
  have space : Text.isSpace c = true := gap.2 c (chars ▸ List.mem_cons_self)
  have first : (aligned row.cells).head? = Option.some c := by
    rw [starts, aligned, List.flatMap_cons, chars]
    rfl
  have found : GpuTopologySnapshot.deviceAt row.stem = Option.some row.source.name := by
    apply GpuTopologySnapshot.deviceAt_name
    intro head leads
    rw [first] at leads
    cases leads
    exact Text.isDecimal_of_isSpace space
  have text : (String.ofList row.stem).toList = row.stem := String.toList_ofList
  unfold GpuTopologySnapshot.isRow
  rw [text, found]
  simp only [stem, List.drop_left, first, Option.any_some, space]

theorem readLine_stem (relations : Dict String (Dict String String)) :
    GpuTopologySnapshot.readLine (table.devices.map Device.label) relations (String.ofList row.stem) =
      if row.source.kind = .gpu then Dict.set relations row.source.label (table.edges row.source)
      else relations := by
  have parts : (row.columns.map (fun column => column.2.text)).take (table.devices.map Device.label).length =
      table.devices.map (fun target => (table.relation row.source target).text) := by
    have words : row.columns.map (fun column => column.2.text) = (row.columns.map Prod.snd).map Word.text := by
      rw [List.map_map]
      rfl
    rw [words, row.filled, List.map_append, List.map_map]
    apply List.take_left'
    simp
  unfold GpuTopologySnapshot.readLine
  rw [row.isRow_stem, if_pos rfl, row.split_stem]
  simp only [parts, List.zip_map', row.source.startsWith_label, decide_eq_true_eq]
  rfl

theorem startsWith_stem : Text.startsWith (String.ofList row.stem) "Legend" = false :=
  startsWith_of_head (row.source.head_name (by decide))

end ProbeRow

end Rows

end NimbusMesh
