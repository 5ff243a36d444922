import NimbusMesh.Foundation.Execution
import NimbusMesh.Foundation.Launch
import NimbusMesh.Policies.Accelerated
import NimbusMesh.Scheduler.Slots

namespace NimbusMesh

open Foundation Foundation.Decimal Foundation.Execution Foundation.Launch

namespace CudaScoringEngine

/-- The lists that `enrich_candidates` takes from the candidates, one number a candidate. -/
structure ScoringInputs where
  cacheHits : List ℚ
  savedTokens : List ℚ
  networkCosts : List ℚ
  topologyAffinity : List ℚ
  queueDelay : List ℚ
  congestion : List ℚ
  memoryHeadroom : List ℚ

def scoringInputs (candidates : List CandidatePlacement) : ScoringInputs where
  cacheHits := candidates.map CandidatePlacement.expectedCacheHitRatio
  savedTokens := candidates.map (fun candidate => candidate.expectedCacheSavedTokens)
  networkCosts := candidates.map CandidatePlacement.networkCost
  topologyAffinity := candidates.map CandidatePlacement.topologyAffinity
  queueDelay := candidates.map CandidatePlacement.queueDelayMs
  congestion := candidates.map CandidatePlacement.congestionScore
  memoryHeadroom := candidates.map CandidatePlacement.memoryHeadroomGb

section Cpu

def cpuCacheBonus (cacheHits savedTokens : List ℚ) : List ℚ :=
  List.zipWith (fun hit saved => roundTo 4 (hit * (1.0 + saved / 8192.0))) cacheHits savedTokens

def cpuTopologyPenalty (topologyAffinity networkCosts : List ℚ) : List ℚ :=
  List.zipWith (fun affinity net => roundTo 4 (max 0 (net - affinity))) topologyAffinity networkCosts

def cpuLoadPenalty (queueDelay congestion memoryHeadroom : List ℚ) : List ℚ :=
  List.zipWith (fun queue rest => roundTo 4 (queue / 1000.0 + rest.1 + max 0 (1.0 - rest.2 / 64.0))) queueDelay
    (congestion.zip memoryHeadroom)

end Cpu

section Kernels

def cacheScoreKernel (baseHits savedTokens : List ℚ) (count idx : ℤ) : Thread ℚ Unit :=
  if count ≤ idx then pure ()
  else do
    let normalizedSaved := (← Thread.load savedTokens idx) / 8192.0
    Thread.store idx ((← Thread.load baseHits idx) * (1.0 + normalizedSaved))

def topologyCostKernel (topologyAffinity networkCost : List ℚ) (count idx : ℤ) : Thread ℚ Unit :=
  if count ≤ idx then pure ()
  else do
    let penalty := (← Thread.load networkCost idx) - (← Thread.load topologyAffinity idx)
    Thread.store idx (if 0 < penalty then penalty else 0)

def loadBalanceKernel (queueDelayMs congestionScore memoryHeadroomGb : List ℚ) (count idx : ℤ) : Thread ℚ Unit :=
  if count ≤ idx then pure ()
  else do
    let queueComponent := (← Thread.load queueDelayMs idx) / 1000.0
    let congestionComponent ← Thread.load congestionScore idx
    let memoryComponent := 1.0 - (← Thread.load memoryHeadroomGb idx) / 64.0
    let clamped := if memoryComponent < 0 then 0 else memoryComponent
    Thread.store idx (queueComponent + congestionComponent + clamped)

end Kernels

section Launches

def blockDim : ℕ := 256

def gridDim (count : ℕ) : ℕ := (count + 255) / 256

/-- `blockIdx.x * blockDim.x + threadIdx.x` in an `int`, which has 32 bits. -/
def globalIndex (position : ℕ × ℕ) : ℤ := Int.bmod (position.1 * blockDim + position.2) (2 ^ 32)

/-- `np.int32`, which takes no number outside its range. -/
def int32 (value : ℤ) : Except PyError ℤ :=
  if -2 ^ 31 ≤ value ∧ value < 2 ^ 31 then .ok value
  else .error (.overflowError s!"Python integer {value} out of bounds for int32")

/-- A launch on an output of so many zeros, with its threads in some order. -/
def launch (kernel : ℤ → ℤ → Thread ℚ Unit) (count : ℕ) (order : List (ℕ × ℕ)) : Except PyError (List ℚ) := do
  let passed ← int32 count
  return execute (fun position => kernel passed (globalIndex position)) order (List.replicate count 0)

def gpuCacheBonus (order : List (ℕ × ℕ)) (cacheHits savedTokens : List ℚ) : Except PyError (List ℚ) :=
  launch (cacheScoreKernel cacheHits savedTokens) cacheHits.length order

def gpuTopologyPenalty (order : List (ℕ × ℕ)) (topologyAffinity networkCosts : List ℚ) : Except PyError (List ℚ) :=
  launch (topologyCostKernel topologyAffinity networkCosts) topologyAffinity.length order

def gpuLoadPenalty (order : List (ℕ × ℕ)) (queueDelay congestion memoryHeadroom : List ℚ) :
    Except PyError (List ℚ) :=
  launch (loadBalanceKernel queueDelay congestion memoryHeadroom) queueDelay.length order

/-- The last loop of `enrich_candidates`: a candidate that one of the lists does not reach keeps its scores. -/
def assignScores : List CandidatePlacement → List ℚ → List ℚ → List ℚ → List CandidatePlacement
  | candidate :: rest, cache :: caches, topology :: topologies, load :: loads =>
    { candidate with
      scoreBreakdown := { candidate.scoreBreakdown with
        cudaCacheBonus := some cache
        cudaTopologyPenalty := some topology
        cudaLoadPenalty := some load } } :: assignScores rest caches topologies loads
  | candidates, _, _, _ => candidates

theorem globalIndex_eq {count : ℕ} (fits : count < 2 ^ 31) {position : ℕ × ℕ}
    (member : position ∈ grid (gridDim count) blockDim) : globalIndex position = flatIndex blockDim position := by
  have below := flatIndex_lt member
  unfold flatIndex gridDim blockDim at below
  unfold globalIndex flatIndex blockDim
  rw [Int.bmod_eq_of_le (by omega) (by omega)]
  push_cast
  rfl

theorem covers_grid (count : ℕ) : count ≤ gridDim count * blockDim := by
  unfold gridDim blockDim
  omega

def WritesOnce (kernel : ℤ → ℤ → Thread ℚ Unit) (count : ℕ) : Prop :=
  (∀ index < count, ∃! position, position ∈ grid (gridDim count) blockDim ∧
    ∃ written, Access.store (index : ℤ) written ∈ (kernel count (globalIndex position)).accesses) ∧
  ∀ position ∈ grid (gridDim count) blockDim, ∀ access ∈ (kernel count (globalIndex position)).accesses,
    0 ≤ access.index ∧ access.index < count

/-- A kernel that serves one cell a thread, as seen from the index it computes. -/
structure ServesCells (count : ℕ) (value : ℕ → ℚ) (kernel : ℤ → ℤ → Thread ℚ Unit) : Prop where
  beyond : ∀ idx : ℕ, count ≤ idx → (kernel count idx).accesses = []
  within : ∀ idx : ℕ, idx < count → ∃ loads,
    (kernel count idx).accesses = List.replicate loads (.load idx) ++ [.store idx (value idx)]

variable {count : ℕ} {value : ℕ → ℚ} {kernel : ℤ → ℤ → Thread ℚ Unit}

theorem ServesCells.cellwise (serves : ServesCells count value kernel) (fits : count < 2 ^ 31) :
    Cellwise blockDim count value (fun position => kernel count (globalIndex position))
      (grid (gridDim count) blockDim) where
  beyond := by
    intro position member outside
    rw [globalIndex_eq fits member]
    exact serves.beyond _ outside
  within := by
    intro position member inside
    rw [globalIndex_eq fits member]
    exact serves.within _ inside

theorem ServesCells.writesOnce (serves : ServesCells count value kernel) (fits : count < 2 ^ 31) :
    WritesOnce kernel count := by
  have cellwise := serves.cellwise fits
  exact ⟨fun index inside => cellwise.written (covers_grid count) inside,
    fun position member => cellwise.inside member⟩

theorem ServesCells.launch (serves : ServesCells count value kernel) (fits : count < 2 ^ 31)
    {order : List (ℕ × ℕ)} (every : order.Perm (grid (gridDim count) blockDim)) :
    launch kernel count order = .ok ((List.range count).map value) := by
  have passed : int32 count = .ok (count : ℤ) := if_pos ⟨by omega, by omega⟩
  have zeros : (List.replicate count (0 : ℚ)).length = count := List.length_replicate
  rw [CudaScoringEngine.launch, passed, ← (serves.cellwise fits).execute_eq (covers_grid count) every zeros]
  rfl

end Launches

section Values

theorem servesCells_cacheScore (count : ℕ) (baseHits savedTokens : List ℚ) :
    ServesCells count (fun index => baseHits.getD index 0 * (1.0 + savedTokens.getD index 0 / 8192.0))
      (cacheScoreKernel baseHits savedTokens) where
  beyond := fun idx outside => by
    rw [cacheScoreKernel, if_pos (by exact_mod_cast outside)]
    rfl
  within := fun idx inside => by
    refine ⟨2, ?_⟩
    rw [cacheScoreKernel, if_neg (by exact_mod_cast not_le.mpr inside)]
    rfl

theorem servesCells_topologyCost (count : ℕ) (topologyAffinity networkCost : List ℚ) :
    ServesCells count (fun index => max 0 (networkCost.getD index 0 - topologyAffinity.getD index 0))
      (topologyCostKernel topologyAffinity networkCost) where
  beyond := fun idx outside => by
    rw [topologyCostKernel, if_pos (by exact_mod_cast outside)]
    rfl
  within := fun idx inside => by
    refine ⟨2, ?_⟩
    have clamped : max 0 (networkCost.getD idx 0 - topologyAffinity.getD idx 0) =
        if 0 < networkCost.getD idx 0 - topologyAffinity.getD idx 0 then
          networkCost.getD idx 0 - topologyAffinity.getD idx 0 else 0 := by
      split
      · exact max_eq_right (le_of_lt ‹_›)
      · exact max_eq_left (le_of_not_gt ‹_›)
    rw [topologyCostKernel, if_neg (by exact_mod_cast not_le.mpr inside), clamped]
    rfl

theorem servesCells_loadBalance (count : ℕ) (queueDelayMs congestionScore memoryHeadroomGb : List ℚ) :
    ServesCells count (fun index => queueDelayMs.getD index 0 / 1000.0 + congestionScore.getD index 0 +
      max 0 (1.0 - memoryHeadroomGb.getD index 0 / 64.0))
      (loadBalanceKernel queueDelayMs congestionScore memoryHeadroomGb) where
  beyond := fun idx outside => by
    rw [loadBalanceKernel, if_pos (by exact_mod_cast outside)]
    rfl
  within := fun idx inside => by
    refine ⟨3, ?_⟩
    have clamped : max 0 (1.0 - memoryHeadroomGb.getD idx 0 / 64.0) =
        if 1.0 - memoryHeadroomGb.getD idx 0 / 64.0 < 0 then 0 else 1.0 - memoryHeadroomGb.getD idx 0 / 64.0 := by
      split
      · exact max_eq_left (le_of_lt ‹_›)
      · exact max_eq_right (le_of_not_gt ‹_›)
    rw [loadBalanceKernel, if_neg (by exact_mod_cast not_le.mpr inside), clamped]
    rfl

end Values

section Agreement

variable {candidates : List CandidatePlacement} {order : List (ℕ × ℕ)}

theorem getD_map (field : CandidatePlacement → ℚ) {index : ℕ} (inside : index < candidates.length) :
    (candidates.map field).getD index 0 = field candidates[index] := by
  rw [List.getD_eq_getElem _ _ (by simpa using inside), List.getElem_map]

theorem ServesCells.launch_map {score : CandidatePlacement → ℚ} {value : ℕ → ℚ} {kernel : ℤ → ℤ → Thread ℚ Unit}
    (serves : ServesCells candidates.length value kernel) (fits : candidates.length < 2 ^ 31)
    (every : order.Perm (grid (gridDim candidates.length) blockDim))
    (own : ∀ index (inside : index < candidates.length), value index = score candidates[index]) :
    CudaScoringEngine.launch kernel candidates.length order = .ok (candidates.map score) := by
  have cells : (List.range candidates.length).map value = candidates.map score := by
    apply List.ext_getElem
    · simp
    · intro index left right
      simp only [List.getElem_map, List.getElem_range]
      exact own index (by simpa using right)
  rw [serves.launch fits every, cells]

theorem gpuCacheBonus_eq (fits : candidates.length < 2 ^ 31)
    (every : order.Perm (grid (gridDim candidates.length) blockDim)) :
    gpuCacheBonus order (scoringInputs candidates).cacheHits (scoringInputs candidates).savedTokens =
      .ok (candidates.map cacheScore) := by
  rw [gpuCacheBonus, scoringInputs, List.length_map]
  apply (servesCells_cacheScore _ _ _).launch_map fits every
  intro index inside
  simp only [getD_map _ inside]
  rfl

theorem gpuTopologyPenalty_eq (fits : candidates.length < 2 ^ 31)
    (every : order.Perm (grid (gridDim candidates.length) blockDim)) :
    gpuTopologyPenalty order (scoringInputs candidates).topologyAffinity (scoringInputs candidates).networkCosts =
      .ok (candidates.map topologyCost) := by
  rw [gpuTopologyPenalty, scoringInputs, List.length_map]
  apply (servesCells_topologyCost _ _ _).launch_map fits every
  intro index inside
  simp only [getD_map _ inside]
  rfl

theorem gpuLoadPenalty_eq (fits : candidates.length < 2 ^ 31)
    (every : order.Perm (grid (gridDim candidates.length) blockDim)) :
    gpuLoadPenalty order (scoringInputs candidates).queueDelay (scoringInputs candidates).congestion
        (scoringInputs candidates).memoryHeadroom = .ok (candidates.map loadBalance) := by
  rw [gpuLoadPenalty, scoringInputs, List.length_map]
  apply (servesCells_loadBalance _ _ _ _).launch_map fits every
  intro index inside
  simp only [getD_map _ inside]
  rfl

variable (candidates)

theorem cpuCacheBonus_eq :
    cpuCacheBonus (scoringInputs candidates).cacheHits (scoringInputs candidates).savedTokens =
      (candidates.map cacheScore).map (roundTo 4) := by
  simp only [cpuCacheBonus, scoringInputs, List.zipWith_map, List.zipWith_self, List.map_map]
  rfl

theorem cpuTopologyPenalty_eq :
    cpuTopologyPenalty (scoringInputs candidates).topologyAffinity (scoringInputs candidates).networkCosts =
      (candidates.map topologyCost).map (roundTo 4) := by
  simp only [cpuTopologyPenalty, scoringInputs, List.zipWith_map, List.zipWith_self, List.map_map]
  rfl

theorem cpuLoadPenalty_eq :
    cpuLoadPenalty (scoringInputs candidates).queueDelay (scoringInputs candidates).congestion
        (scoringInputs candidates).memoryHeadroom = (candidates.map loadBalance).map (roundTo 4) := by
  simp only [cpuLoadPenalty, scoringInputs, List.zip_map', List.zipWith_map, List.zipWith_self, List.map_map]
  rfl

theorem assignScores_map (cache topology load : CandidatePlacement → ℚ) :
    assignScores candidates (candidates.map cache) (candidates.map topology) (candidates.map load) =
      candidates.map (fun candidate => { candidate with
        scoreBreakdown := { candidate.scoreBreakdown with
          cudaCacheBonus := some (cache candidate)
          cudaTopologyPenalty := some (topology candidate)
          cudaLoadPenalty := some (load candidate) } }) := by
  induction candidates with
  | nil => rfl
  | cons candidate rest ih => simp only [List.map_cons, assignScores, ih]

/-- The launches return for every list whose length is an `int`, whatever the order of their threads, and the two paths
    score alike up to the rounding that only the CPU does. -/
theorem gpu_agrees_with_cpu (nonempty : candidates ≠ []) (fits : candidates.length < 2 ^ 31)
    (cacheOrder topologyOrder loadOrder : List (ℕ × ℕ))
    (everyCache : cacheOrder.Perm (grid (gridDim candidates.length) blockDim))
    (everyTopology : topologyOrder.Perm (grid (gridDim candidates.length) blockDim))
    (everyLoad : loadOrder.Perm (grid (gridDim candidates.length) blockDim)) :
    let inputs := scoringInputs candidates
    let cpuCache := cpuCacheBonus inputs.cacheHits inputs.savedTokens
    let cpuTopology := cpuTopologyPenalty inputs.topologyAffinity inputs.networkCosts
    let cpuLoad := cpuLoadPenalty inputs.queueDelay inputs.congestion inputs.memoryHeadroom
    0 < gridDim candidates.length ∧
    WritesOnce (cacheScoreKernel inputs.cacheHits inputs.savedTokens) candidates.length ∧
    WritesOnce (topologyCostKernel inputs.topologyAffinity inputs.networkCosts) candidates.length ∧
    WritesOnce (loadBalanceKernel inputs.queueDelay inputs.congestion inputs.memoryHeadroom) candidates.length ∧
    (∃ cacheBonus topologyPenalty loadPenalty,
      gpuCacheBonus cacheOrder inputs.cacheHits inputs.savedTokens = .ok cacheBonus ∧
      gpuTopologyPenalty topologyOrder inputs.topologyAffinity inputs.networkCosts = .ok topologyPenalty ∧
      gpuLoadPenalty loadOrder inputs.queueDelay inputs.congestion inputs.memoryHeadroom = .ok loadPenalty ∧
      cacheBonus.map (roundTo 4) = cpuCache ∧ topologyPenalty.map (roundTo 4) = cpuTopology ∧
      loadPenalty.map (roundTo 4) = cpuLoad ∧
      assignScores candidates cacheBonus topologyPenalty loadPenalty = enrichCandidates ⟨true⟩ candidates) ∧
    assignScores candidates cpuCache cpuTopology cpuLoad = enrichCandidates ⟨false⟩ candidates := by
  have some_thread : 0 < gridDim candidates.length := by
    have positive := List.length_pos_of_ne_nil nonempty
    unfold gridDim
    omega
  refine ⟨some_thread, (servesCells_cacheScore _ _ _).writesOnce fits, (servesCells_topologyCost _ _ _).writesOnce fits,
    (servesCells_loadBalance _ _ _ _).writesOnce fits, ⟨candidates.map cacheScore, candidates.map topologyCost,
      candidates.map loadBalance, gpuCacheBonus_eq fits everyCache, gpuTopologyPenalty_eq fits everyTopology,
      gpuLoadPenalty_eq fits everyLoad, (cpuCacheBonus_eq candidates).symm, (cpuTopologyPenalty_eq candidates).symm,
      (cpuLoadPenalty_eq candidates).symm, assignScores_map candidates _ _ _⟩, ?_⟩
  rw [cpuCacheBonus_eq, cpuTopologyPenalty_eq, cpuLoadPenalty_eq, List.map_map, List.map_map, List.map_map]
  exact assignScores_map candidates _ _ _

theorem gpu_agrees_with_cpu_backwards :
    let candidates := [(sessionCall 0).candidate, { (sessionCall 0).candidate with queueDelayMs := 12 }]
    let inputs := scoringInputs candidates
    let backwards := (grid (gridDim candidates.length) blockDim).reverse
    (∃ loadPenalty, gpuLoadPenalty backwards inputs.queueDelay inputs.congestion inputs.memoryHeadroom =
        .ok loadPenalty ∧
      loadPenalty.map (roundTo 4) = cpuLoadPenalty inputs.queueDelay inputs.congestion inputs.memoryHeadroom) ∧
    cpuLoadPenalty inputs.queueDelay inputs.congestion inputs.memoryHeadroom = [0, 0.012] := by
  intro candidates inputs backwards
  have agrees := gpu_agrees_with_cpu candidates (by simp [candidates]) (by simp [candidates]) backwards backwards
    backwards (List.reverse_perm _) (List.reverse_perm _) (List.reverse_perm _)
  obtain ⟨_, _, _, _, ⟨_, _, loadPenalty, _, _, returned, _, _, rounded, _⟩, _⟩ := agrees
  exact ⟨⟨loadPenalty, returned, rounded⟩, by decide +kernel⟩

theorem launch_refused {kernel : ℤ → ℤ → Thread ℚ Unit} {count : ℕ} (large : 2 ^ 31 ≤ count)
    (order : List (ℕ × ℕ)) : ∃ message, launch kernel count order = .error (.overflowError message) := by
  have refused : ¬ (-2 ^ 31 ≤ (count : ℤ) ∧ (count : ℤ) < 2 ^ 31) := by omega
  rw [launch, int32, if_neg refused]
  exact ⟨_, rfl⟩

theorem gpu_refuses_long_lists :
    let candidates := List.replicate (2 ^ 31) (sessionCall 0).candidate
    let inputs := scoringInputs candidates
    candidates ≠ [] ∧
    ∃ message, gpuCacheBonus (grid (gridDim candidates.length) blockDim) inputs.cacheHits inputs.savedTokens =
      .error (.overflowError message) := by
  intro candidates inputs
  have length : inputs.cacheHits.length = 2 ^ 31 := by
    simp only [inputs, candidates, scoringInputs, List.length_map, List.length_replicate]
  have nonempty : candidates ≠ [] := by
    intro empty
    have short : candidates.length = 2 ^ 31 := List.length_replicate
    rw [empty] at short
    cases short
  exact ⟨nonempty, launch_refused (by rw [length]) _⟩

end Agreement

end CudaScoringEngine

end NimbusMesh
