import NimbusMesh.Topology.Probe

namespace NimbusMesh

open Foundation Foundation.Scanning

inductive DeviceKind where
  | gpu
  | nic
  deriving DecidableEq

def DeviceKind.letters : DeviceKind → List Char
  | .gpu => "GPU".toList
  | .nic => "NIC".toList

structure Device where
  kind : DeviceKind
  digits : List Char
  numbered : digits ≠ [] ∧ ∀ c ∈ digits, Text.isDecimal c = true
  deriving DecidableEq

namespace Device

def name (device : Device) : List Char := device.kind.letters ++ device.digits

def label (device : Device) : String := String.ofList device.name

end Device

/-- A token of a line: not empty and without whitespace. -/
structure Word where
  chars : List Char
  solid : chars ≠ [] ∧ ∀ c ∈ chars, Text.isSpace c = false

def Word.text (word : Word) : String := String.ofList word.chars

structure Blanks where
  chars : List Char
  spaces : ∀ c ∈ chars, Text.isSpace c = true ∧ Text.isLineBreak c = false

structure Gap extends Blanks where
  nonempty : chars ≠ []

/-- A square table of relations between distinct devices, at least one of them a GPU. -/
structure ProbeTable where
  devices : List Device
  distinct : (devices.map Device.name).Nodup
  someGpu : ∃ device ∈ devices, device.kind = .gpu
  relation : Device → Device → Word

namespace ProbeTable

variable (table : ProbeTable)

def gpus : List Device := table.devices.filter (fun device => device.kind = .gpu)

def matrix (value : String → ℚ) : List (List ℚ) :=
  table.gpus.map (fun source => table.gpus.map (fun target => value (table.relation source target).text))

end ProbeTable

section Rendering

variable (table : ProbeTable)

/-- The line that names the devices, followed by `CPU Affinity` and whatever other columns name no device. -/
structure ProbeHeader where
  columns : List (Blanks × Device)
  filled : columns.map Prod.snd = table.devices
  gap : Blanks
  tail : List Char
  unbroken : ∀ c ∈ tail, Text.isLineBreak c = false
  namesNone : ∀ (kind : DeviceKind) (digit : Char), Text.isDecimal digit = true → ¬ kind.letters ++ [digit] <:+: tail

structure ProbeRow where
  source : Device
  affinity : List Word
  columns : List (Gap × Word)
  filled : columns.map Prod.snd = table.devices.map (table.relation source) ++ affinity
  trailing : Blanks

inductive ProbeLine where
  | blank (blanks : Blanks)
  | row (printed : ProbeRow table)

variable {table}

namespace ProbeHeader

def stem (header : ProbeHeader table) : List Char :=
  aligned (header.columns.map (fun column => (column.1.chars, column.2.name))) ++ header.gap.chars ++
    "CPU Affinity".toList

def line (header : ProbeHeader table) : List Char := header.stem ++ header.tail

end ProbeHeader

namespace ProbeRow

def cells (row : ProbeRow table) : List (List Char × List Char) :=
  row.columns.map (fun column => (column.1.chars, column.2.chars))

def stem (row : ProbeRow table) : List Char := row.source.name ++ aligned row.cells

def line (row : ProbeRow table) : List Char := row.stem ++ row.trailing.chars

end ProbeRow

def ProbeLine.chars : ProbeLine table → List Char
  | .blank blanks => blanks.chars
  | .row printed => printed.line

def ProbeLine.row? : ProbeLine table → Option (ProbeRow table)
  | .blank _ => none
  | .row printed => some printed

variable (table)

/-- A table in the layout of `nvidia-smi topo -m`: the header, one line for each device in any order, blank
    lines anywhere and a legend at the end if there is one. -/
structure ProbeLayout where
  leading : List Blanks
  header : ProbeHeader table
  body : List (ProbeLine table)
  complete : ((body.filterMap ProbeLine.row?).map ProbeRow.source).Perm table.devices
  legend : List (List Char)
  legendUnbroken : ∀ line ∈ legend, ∀ c ∈ line, Text.isLineBreak c = false
  legendStarts : ∀ line ∈ legend.head?, "Legend".toList <+: line

variable {table}

namespace ProbeLayout

def rows (layout : ProbeLayout table) : List (ProbeRow table) := layout.body.filterMap ProbeLine.row?

def lines (layout : ProbeLayout table) : List (List Char) :=
  layout.leading.map Blanks.chars ++ layout.header.line :: (layout.body.map ProbeLine.chars ++ layout.legend)

def text (layout : ProbeLayout table) : String := String.ofList (['\n'].intercalate layout.lines)

end ProbeLayout

end Rendering

end NimbusMesh
