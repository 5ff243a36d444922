import Mathlib.Tactic.GCongr
import Mathlib.Tactic.NormNum
import NimbusMesh.Scheduler.Slots

namespace NimbusMesh

open Foundation.Decimal

structure LatencyArguments where
  request : InferenceRequest
  pool : PoolRuntime
  cacheHitRatio : ℚ
  topologyAffinity : ℚ
  networkCost : ℚ
  congestionScore : ℚ

def Backend.estimateLatencyMs (backend : Backend) (arguments : LatencyArguments) : ℚ × ℚ :=
  backend arguments.request arguments.pool arguments.cacheHitRatio arguments.topologyAffinity
    arguments.networkCost arguments.congestionScore

namespace LatencyArguments

structure InRange (arguments : LatencyArguments) : Prop where
  hit_nonneg : 0 ≤ arguments.cacheHitRatio
  hit_le_one : arguments.cacheHitRatio ≤ 1
  affinity : 0 ≤ arguments.topologyAffinity
  network : 0 ≤ arguments.networkCost
  congestion : 0 ≤ arguments.congestionScore

/-- The first arguments ask for no more prefill work, under no worse conditions, than the second. -/
structure LighterPrefill (light heavy : LatencyArguments) : Prop where
  prompt : light.request.promptTokens ≤ heavy.request.promptTokens
  speed : heavy.pool.prefillTps ≤ light.pool.prefillTps
  hit : heavy.cacheHitRatio ≤ light.cacheHitRatio
  affinity : heavy.topologyAffinity ≤ light.topologyAffinity
  network : light.networkCost ≤ heavy.networkCost
  congestion : light.congestionScore ≤ heavy.congestionScore

structure LighterDecode (light heavy : LatencyArguments) : Prop where
  generation : light.request.generationTokens ≤ heavy.request.generationTokens
  speed : heavy.pool.decodeTps ≤ light.pool.decodeTps
  affinity : heavy.topologyAffinity ≤ light.topologyAffinity
  congestion : light.congestionScore ≤ heavy.congestionScore

end LatencyArguments

structure MonotoneLatency (backend : Backend) : Prop where
  nonneg : ∀ arguments : LatencyArguments, arguments.InRange →
    0 ≤ (backend.estimateLatencyMs arguments).1 ∧ 0 ≤ (backend.estimateLatencyMs arguments).2
  prefill : ∀ light heavy : LatencyArguments, light.InRange → heavy.InRange → light.LighterPrefill heavy →
    (backend.estimateLatencyMs light).1 ≤ (backend.estimateLatencyMs heavy).1
  decode : ∀ light heavy : LatencyArguments, light.InRange → heavy.InRange → light.LighterDecode heavy →
    (backend.estimateLatencyMs light).2 ≤ (backend.estimateLatencyMs heavy).2

section Factors

theorem charged_le {prompt prompt' : ℤ} {hit hit' weight : ℚ} (nonneg : 0 ≤ prompt) (more : prompt ≤ prompt')
    (less : hit' ≤ hit) (most : hit ≤ 1) (positive : 0 ≤ weight) (share : weight ≤ 1) :
    max 1.0 (prompt * (1.0 - hit * weight)) ≤ max 1.0 (prompt' * (1.0 - hit' * weight)) := by
  have tokens : (prompt : ℚ) ≤ prompt' := by exact_mod_cast more
  have start : (0 : ℚ) ≤ prompt := by exact_mod_cast nonneg
  have credit : hit' * weight ≤ hit * weight := mul_le_mul_of_nonneg_right less positive
  have rest : 0 ≤ 1.0 - hit * weight := by
    have bounded : hit * weight ≤ 1 * 1 := mul_le_mul most share positive zero_le_one
    norm_num at bounded ⊢
    exact bounded
  apply max_le_max_left
  exact mul_le_mul tokens (by linarith) rest (start.trans tokens)

theorem serving_le {tokens tokens' speed speed' : ℚ} (nonneg : 0 ≤ tokens) (more : tokens ≤ tokens')
    (slower : speed' ≤ speed) :
    tokens / max speed 1.0 * 1000.0 ≤ tokens' / max speed' 1.0 * 1000.0 := by
  have floor : (0 : ℚ) < max speed' 1.0 := lt_of_lt_of_le (by norm_num) (le_max_right _ _)
  have faster : max speed' 1.0 ≤ max speed 1.0 := max_le_max_right _ slower
  apply mul_le_mul_of_nonneg_right _ (by norm_num)
  exact div_le_div₀ (nonneg.trans more) more floor faster

theorem serving_nonneg {tokens : ℚ} (nonneg : 0 ≤ tokens) (speed : ℚ) :
    0 ≤ tokens / max speed 1.0 * 1000.0 := by
  have floor : (0 : ℚ) < max speed 1.0 := lt_of_lt_of_le (by norm_num) (le_max_right _ _)
  exact mul_nonneg (div_nonneg nonneg floor.le) (by norm_num)

theorem charged_nonneg (prompt hit weight : ℚ) : 0 ≤ max 1.0 (prompt * (1.0 - hit * weight)) :=
  le_trans (by norm_num) (le_max_left _ _)

theorem congested_nonneg {congestion weight : ℚ} (nonneg : 0 ≤ congestion) (positive : 0 ≤ weight) :
    0 ≤ 1.0 + congestion * weight :=
  add_nonneg (by norm_num) (mul_nonneg nonneg positive)

theorem congested_le {congestion congestion' weight : ℚ} (more : congestion ≤ congestion') (positive : 0 ≤ weight) :
    1.0 + congestion * weight ≤ 1.0 + congestion' * weight := by
  have scaled := mul_le_mul_of_nonneg_right more positive
  linarith

theorem distant_nonneg {least : ℚ} (nonneg : 0 ≤ least) (base affinity weight : ℚ) :
    0 ≤ max least (base - affinity * weight) := nonneg.trans (le_max_left _ _)

theorem distant_le {affinity affinity' weight : ℚ} (closer : affinity' ≤ affinity) (positive : 0 ≤ weight)
    (least base : ℚ) : max least (base - affinity * weight) ≤ max least (base - affinity' * weight) := by
  have scaled := mul_le_mul_of_nonneg_right closer positive
  apply max_le_max_left
  linarith

theorem prompt_nonneg (request : InferenceRequest) : (0 : ℚ) ≤ request.promptTokens := by
  exact_mod_cast request.tokens_positive.1.le

theorem generation_nonneg (request : InferenceRequest) : (0 : ℚ) ≤ request.generationTokens := by
  exact_mod_cast request.tokens_positive.2.le

theorem transfer_nonneg {cost : ℚ} (nonneg : 0 ≤ cost) (request : InferenceRequest) :
    0 ≤ cost * (5.0 + request.promptTokens / 4096.0) :=
  mul_nonneg nonneg (add_nonneg (by norm_num) (div_nonneg (prompt_nonneg request) (by norm_num)))

theorem transfer_le {cost cost' : ℚ} (more : cost ≤ cost') (nonneg : 0 ≤ cost') {request request' : InferenceRequest}
    (longer : request.promptTokens ≤ request'.promptTokens) :
    cost * (5.0 + request.promptTokens / 4096.0) ≤ cost' * (5.0 + request'.promptTokens / 4096.0) := by
  have tokens : (request.promptTokens : ℚ) ≤ request'.promptTokens := by exact_mod_cast longer
  have start : (0 : ℚ) ≤ 5.0 + request.promptTokens / 4096.0 :=
    add_nonneg (by norm_num) (div_nonneg (prompt_nonneg request) (by norm_num))
  apply mul_le_mul more _ start nonneg
  gcongr

theorem generating_le {request request' : InferenceRequest} {speed speed' : ℚ}
    (longer : request.generationTokens ≤ request'.generationTokens) (slower : speed' ≤ speed) :
    request.generationTokens / max speed 1.0 * 1000.0 ≤ request'.generationTokens / max speed' 1.0 * 1000.0 :=
  serving_le (generation_nonneg request) (by exact_mod_cast longer) slower

end Factors

theorem monotoneLatency_mock : MonotoneLatency mockBackend where
  nonneg := by
    intro arguments range
    have congested := congested_nonneg range.congestion (show (0 : ℚ) ≤ 0.35 by norm_num)
    have distant := distant_nonneg (show (0 : ℚ) ≤ 0.72 by norm_num) 1.10 arguments.topologyAffinity 0.22
    have transfer := transfer_nonneg range.network arguments.request
    constructor
    · exact roundTo_nonneg 4 (add_nonneg (mul_nonneg (mul_nonneg
        (serving_nonneg (charged_nonneg _ _ _) _) distant) congested) transfer)
    · exact roundTo_nonneg 4 (mul_nonneg (serving_nonneg (generation_nonneg _) _) congested)
  prefill := by
    intro light heavy range range' lighter
    have charged := charged_le light.request.tokens_positive.1.le lighter.prompt lighter.hit range.hit_le_one
      (show (0 : ℚ) ≤ 0.8 by norm_num) (by norm_num)
    have served := serving_le (charged_nonneg _ _ _) charged lighter.speed
    have distant := distant_le lighter.affinity (show (0 : ℚ) ≤ 0.22 by norm_num) 0.72 1.10
    have congested := congested_le lighter.congestion (show (0 : ℚ) ≤ 0.35 by norm_num)
    have near := distant_nonneg (show (0 : ℚ) ≤ 0.72 by norm_num) 1.10
    have free := congested_nonneg range.congestion (show (0 : ℚ) ≤ 0.35 by norm_num)
    have work := serving_nonneg (charged_nonneg heavy.request.promptTokens heavy.cacheHitRatio 0.8)
      heavy.pool.prefillTps
    have placed := mul_le_mul served distant (near light.topologyAffinity 0.22) work
    have transfer := transfer_le lighter.network range'.network lighter.prompt
    exact roundTo_mono 4 (add_le_add
      (mul_le_mul placed congested free (mul_nonneg work (near heavy.topologyAffinity 0.22))) transfer)
  decode := by
    intro light heavy range _ lighter
    have served := generating_le lighter.generation lighter.speed
    have congested := congested_le lighter.congestion (show (0 : ℚ) ≤ 0.35 by norm_num)
    exact roundTo_mono 4 (mul_le_mul served congested
      (congested_nonneg range.congestion (show (0 : ℚ) ≤ 0.35 by norm_num))
      (serving_nonneg (generation_nonneg _) _))

structure AdapterConstants.Sound (constants : AdapterConstants) : Prop where
  cache_nonneg : 0 ≤ constants.cacheWeight
  cache_le_one : constants.cacheWeight ≤ 1
  prefill : 0 ≤ constants.prefillFactor
  decode : 0 ≤ constants.decodeFactor
  congestion : 0 ≤ constants.congestionWeight
  least : 0 ≤ constants.minimumMultiplier
  affinity : 0 ≤ constants.affinityWeight
  network : 0 ≤ constants.networkWeight

section Adapter

variable {constants : AdapterConstants} {light heavy : LatencyArguments}

def AdapterConstants.multiplier (constants : AdapterConstants) (arguments : LatencyArguments) : ℚ :=
  (1.0 + arguments.congestionScore * constants.congestionWeight) *
    max constants.minimumMultiplier (constants.baseMultiplier - arguments.topologyAffinity * constants.affinityWeight)

theorem multiplier_nonneg (sound : constants.Sound) (range : light.InRange) : 0 ≤ constants.multiplier light :=
  mul_nonneg (congested_nonneg range.congestion sound.congestion) (distant_nonneg sound.least _ _ _)

theorem multiplier_le (sound : constants.Sound) (range : heavy.InRange)
    (affinity : heavy.topologyAffinity ≤ light.topologyAffinity)
    (congestion : light.congestionScore ≤ heavy.congestionScore) :
    constants.multiplier light ≤ constants.multiplier heavy :=
  mul_le_mul (congested_le congestion sound.congestion) (distant_le affinity sound.affinity _ _)
    (distant_nonneg sound.least _ _ _) (congested_nonneg range.congestion sound.congestion)

theorem monotoneLatency_adapter (sound : constants.Sound) : MonotoneLatency (adapterBackend constants) where
  nonneg := by
    intro arguments range
    have factor := multiplier_nonneg sound range
    constructor
    · exact roundTo_nonneg 4 (add_nonneg (mul_nonneg (serving_nonneg (charged_nonneg _ _ _) _) factor)
        (mul_nonneg range.network sound.network))
    · exact roundTo_nonneg 4 (mul_nonneg (serving_nonneg (generation_nonneg _) _) factor)
  prefill := by
    intro light heavy range range' lighter
    have charged := charged_le light.request.tokens_positive.1.le lighter.prompt lighter.hit range.hit_le_one
      sound.cache_nonneg sound.cache_le_one
    have served := serving_le (charged_nonneg _ _ _) charged
      (mul_le_mul_of_nonneg_right lighter.speed sound.prefill)
    have factor := multiplier_le sound range' lighter.affinity lighter.congestion
    exact roundTo_mono 4 (add_le_add
      (mul_le_mul served factor (multiplier_nonneg sound range) (serving_nonneg (charged_nonneg _ _ _) _))
      (mul_le_mul_of_nonneg_right lighter.network sound.network))
  decode := by
    intro light heavy range range' lighter
    have served := generating_le lighter.generation (mul_le_mul_of_nonneg_right lighter.speed sound.decode)
    have factor := multiplier_le sound range' lighter.affinity lighter.congestion
    exact roundTo_mono 4 (mul_le_mul served factor (multiplier_nonneg sound range)
      (serving_nonneg (generation_nonneg _) _))

end Adapter

/-- The mock, vLLM and Triton models never estimate below zero, and each argument moves both estimates in its own
    direction only. -/
theorem latency_models_monotone (name : String) (backend : Backend) (listed : (name, backend) ∈ backends) :
    (∀ arguments : LatencyArguments, arguments.InRange →
      0 ≤ (backend.estimateLatencyMs arguments).1 ∧ 0 ≤ (backend.estimateLatencyMs arguments).2) ∧
    ∀ light heavy : LatencyArguments, light.InRange → heavy.InRange →
      (light.LighterPrefill heavy → (backend.estimateLatencyMs light).1 ≤ (backend.estimateLatencyMs heavy).1) ∧
      (light.LighterDecode heavy → (backend.estimateLatencyMs light).2 ≤ (backend.estimateLatencyMs heavy).2) := by
  have monotone : MonotoneLatency backend := by
    simp only [backends, List.mem_cons, Prod.mk.injEq, List.not_mem_nil, or_false] at listed
    rcases listed with ⟨_, rfl⟩ | ⟨_, rfl⟩ | ⟨_, rfl⟩
    · exact monotoneLatency_mock
    · exact monotoneLatency_adapter (by constructor <;> norm_num)
    · exact monotoneLatency_adapter (by constructor <;> norm_num)
  refine ⟨monotone.nonneg, fun light heavy range range' => ⟨?_, ?_⟩⟩
  · exact monotone.prefill light heavy range range'
  · exact monotone.decode light heavy range range'

def sessionArguments (cacheHitRatio : ℚ) : LatencyArguments where
  request := (sessionCall 0).request
  pool := sessionPool 1
  cacheHitRatio
  topologyAffinity := 0.5
  networkCost := 1
  congestionScore := 0

theorem latency_models_monotone_cached :
    (vllmBackend.estimateLatencyMs (sessionArguments 0)).1 = 920.6667 ∧
      (vllmBackend.estimateLatencyMs (sessionArguments 0.5)).1 = 544.8333 ∧
      (vllmBackend.estimateLatencyMs (sessionArguments 0.5)).1 ≤
        (vllmBackend.estimateLatencyMs (sessionArguments 0)).1 := by
  refine ⟨by decide +kernel, by decide +kernel, ?_⟩
  have monotone := latency_models_monotone "vllm" vllmBackend (by simp [backends])
  have cached : (sessionArguments 0.5).InRange := by constructor <;> norm_num [sessionArguments]
  have uncached : (sessionArguments 0).InRange := by constructor <;> norm_num [sessionArguments]
  exact (monotone.2 _ _ cached uncached).1 (by constructor <;> norm_num [sessionArguments])

end NimbusMesh
