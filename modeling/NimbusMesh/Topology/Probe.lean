import NimbusMesh.Config
import NimbusMesh.Text

namespace NimbusMesh

open Foundation Foundation.Decimal Foundation.Scanning

def bandwidthTiers : List (String × ℚ) :=
  [("X", 0.0), ("NV1", 1.0), ("NV2", 1.2), ("NV4", 1.4), ("NV8", 1.8), ("NV12", 2.0), ("NV16", 2.2),
    ("NV18", 2.3), ("NVSW", 2.5), ("PIX", 0.65), ("PXB", 0.45), ("PHB", 0.35), ("NODE", 0.28), ("SYS", 0.18),
    ("SOC", 0.12)]

def latencyWeights : List (String × ℚ) :=
  [("X", 0.0), ("NV1", 0.15), ("NV2", 0.12), ("NV4", 0.1), ("NV8", 0.08), ("NV12", 0.07), ("NV16", 0.06),
    ("NV18", 0.05), ("NVSW", 0.04), ("PIX", 0.4), ("PXB", 0.55), ("PHB", 0.72), ("NODE", 0.88), ("SYS", 1.0),
    ("SOC", 1.1)]

def bandwidthTier (relation : String) : ℚ := (bandwidthTiers.lookup relation).getD 0.1

def latencyWeight (relation : String) : ℚ := (latencyWeights.lookup relation).getD 1.2

def adjacencyCost (relation : String) : ℚ :=
  roundTo 4 (if relation = "X" then 0.0 else max 0.01 (1.2 - bandwidthTier relation + latencyWeight relation))

theorem adjacencyCost_pos {relation : String} (other : relation ≠ "X") : 0 < adjacencyCost relation := by
  rw [adjacencyCost, if_neg other]
  calc (0 : ℚ) < roundTo 4 0.01 := by decide +kernel
    _ ≤ roundTo 4 (max 0.01 (1.2 - bandwidthTier relation + latencyWeight relation)) :=
      roundTo_mono 4 (le_max_left _ _)

theorem adjacencyCost_eq_zero_iff (relation : String) : adjacencyCost relation = 0 ↔ relation = "X" := by
  constructor
  · intro free
    by_contra other
    exact (adjacencyCost_pos other).ne' free
  · rintro rfl
    decide +kernel

namespace GpuTopologySnapshot

/-- One alternative of the pattern of a device: its letters and at least one digit. -/
def numbered (letters text : List Char) : Option (List Char) :=
  let digits := (text.drop letters.length).takeWhile Text.isDecimal
  if letters.isPrefixOf text ∧ digits ≠ [] then some (letters ++ digits) else none

/-- The pattern `GPU\d+|NIC\d+` at the start of a text. -/
def deviceAt (text : List Char) : Option (List Char) :=
  (numbered "GPU".toList text).or (numbered "NIC".toList text)

def deviceNames (line : String) : List String := (occurrences deviceAt line.toList).map String.ofList

/-- The match of a line with a device and a space after it. -/
def isRow (line : String) : Bool :=
  match deviceAt line.toList with
  | none => false
  | some device => (line.toList.drop device.length).head?.any Text.isSpace

def readLine (devices : List String) (relations : Dict String (Dict String String)) (line : String) :
    Dict String (Dict String String) :=
  if isRow line then
    match Text.split line with
    | [] => relations
    | source :: parts =>
      if Text.startsWith source "GPU" then
        Dict.set relations source (Dict.ofList (devices.zip (parts.take devices.length)))
      else relations
  else relations

def relationBetween (relations : Dict String (Dict String String)) (source target : String) :
    Except PyError String :=
  match Dict.lookup relations source with
  | none => .error (.keyError source)
  | some edges =>
    match Dict.lookup edges target with
    | none => .error (.keyError target)
    | some relation => .ok relation

def isHeader (line : String) : Bool := Text.contains line "GPU" && Text.contains line "CPU Affinity"

def headerLine (lines : List String) : Except PyError String :=
  match lines.find? isHeader with
  | none => .error .stopIteration
  | some line => .ok line

def restricted (gpuDevices : List String) (relations : Dict String (Dict String String)) :
    Dict String (Dict String String) :=
  (Dict.filter (fun source => gpuDevices.contains source) relations).map
    (fun entry => (entry.1, Dict.filter (fun target => gpuDevices.contains target) entry.2)) (fun _ => rfl)

def fromText (text : String) : Except PyError GpuTopologySnapshot := do
  let lines := ((Text.splitlines text).filter (fun line => Text.strip line ≠ "")).map Text.rstrip
  let header ← headerLine lines
  let devices := deviceNames header
  let relations := (lines.takeWhile (fun line => !Text.startsWith line "Legend")).foldl (readLine devices)
    KeyedList.empty
  let gpuDevices := devices.filter (fun device => Text.startsWith device "GPU")
  let table ← gpuDevices.mapM (fun source => gpuDevices.mapM (relationBetween relations source))
  return {
    devices := gpuDevices
    relations := restricted gpuDevices relations
    adjacencyMatrix := table.map (fun row => row.map adjacencyCost)
    latencyWeights := table.map (fun row => row.map latencyWeight)
    bandwidthTiers := table.map (fun row => row.map bandwidthTier) }

end GpuTopologySnapshot

end NimbusMesh
