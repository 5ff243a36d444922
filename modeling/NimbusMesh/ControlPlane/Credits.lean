import NimbusMesh.Cache.Documents
import NimbusMesh.ControlPlane.Turns

namespace NimbusMesh

open Foundation Foundation.Decimal Foundation.Execution Foundation.Doubles

def effectivePrompt (weight : ℚ) (request : InferenceRequest) (cacheHitRatio : ℚ) : ℚ :=
  max 1.0 (request.promptTokens * (1.0 - cacheHitRatio * weight))

def cacheWeights : List (String × ℚ) := [("mock", 0.8), ("vllm", 0.82), ("triton", 0.75)]

/-- The hit ratio enters the prefill of a backend through the effective prompt alone. -/
def ChargesPrompt (backend : Backend) (weight : ℚ) : Prop :=
  ∀ request pool topologyAffinity networkCost congestionScore, ∃ msPerToken penaltyMs, ∀ cacheHitRatio,
    (backend request pool cacheHitRatio topologyAffinity networkCost congestionScore).1 =
      roundTo 4 (effectivePrompt weight request cacheHitRatio * msPerToken + penaltyMs)

theorem chargesPrompt_mock : ChargesPrompt mockBackend 0.8 := by
  intro request pool topologyAffinity networkCost congestionScore
  refine ⟨(max pool.prefillTps 1.0)⁻¹ * 1000.0 * max 0.72 (1.10 - topologyAffinity * 0.22) *
    (1.0 + congestionScore * 0.35), networkCost * (5.0 + request.promptTokens / 4096.0), ?_⟩
  intro cacheHitRatio
  simp only [mockBackend, effectivePrompt, div_eq_mul_inv, mul_assoc]

theorem chargesPrompt_adapter (constants : AdapterConstants) :
    ChargesPrompt (adapterBackend constants) constants.cacheWeight := by
  intro request pool topologyAffinity networkCost congestionScore
  refine ⟨(max (pool.prefillTps * constants.prefillFactor) 1.0)⁻¹ * 1000.0 *
    ((1.0 + congestionScore * constants.congestionWeight) *
      max constants.minimumMultiplier (constants.baseMultiplier - topologyAffinity * constants.affinityWeight)),
    networkCost * constants.networkWeight, ?_⟩
  intro cacheHitRatio
  simp only [adapterBackend, effectivePrompt, div_eq_mul_inv, mul_assoc]

theorem chargesPrompt_named {name : String} {weight : ℚ} (listed : (name, weight) ∈ cacheWeights) :
    ∃ backend, backendNamed name = .ok backend ∧ ChargesPrompt backend weight := by
  simp only [cacheWeights, List.mem_cons, Prod.mk.injEq, List.not_mem_nil, or_false] at listed
  rcases listed with ⟨rfl, rfl⟩ | ⟨rfl, rfl⟩ | ⟨rfl, rfl⟩
  · exact ⟨mockBackend, rfl, chargesPrompt_mock⟩
  · exact ⟨vllmBackend, rfl, chargesPrompt_adapter _⟩
  · exact ⟨tritonBackend, rfl, chargesPrompt_adapter _⟩

theorem cacheWeights_bounds {name : String} {weight : ℚ} (listed : (name, weight) ∈ cacheWeights) :
    0 ≤ weight ∧ weight ≤ 0.82 := by
  have all : ∀ entry ∈ cacheWeights, 0 ≤ entry.2 ∧ entry.2 ≤ 0.82 := by decide +kernel
  exact all _ listed

namespace InDoubles

section Charges

variable (arithmetic : Arithmetic)

def effectivePrompt (weight : ℚ) (request : InferenceRequest) (cacheHitRatio : Double) : Except PyError Double := do
  let promptTokens ← ofInt arithmetic request.promptTokens
  return (arithmetic.literal 1.0).max (arithmetic.mul promptTokens
    (arithmetic.sub (arithmetic.literal 1.0) (arithmetic.mul cacheHitRatio (arithmetic.literal weight))))

def tokensRemoved (weight : ℚ) (request : InferenceRequest) (cacheHitRatio : Double) : Except PyError Double := do
  let promptTokens ← ofInt arithmetic request.promptTokens
  return arithmetic.sub promptTokens (← effectivePrompt arithmetic weight request cacheHitRatio)

/-- The tokens removed where nothing overflows. -/
def removedTokens (weight : ℚ) (promptTokens : ℤ) (cacheHitRatio : ℚ) : ℚ :=
  let prompt := arithmetic.nearest promptTokens
  let share := arithmetic.nearest (1 - arithmetic.nearest (cacheHitRatio * arithmetic.nearest weight))
  arithmetic.nearest (prompt - max 1 (arithmetic.nearest (prompt * share)))

end Charges

theorem effectivePrompt_exact (weight : ℚ) (request : InferenceRequest) (cacheHitRatio : ℚ) :
    effectivePrompt .exact weight request (.finite cacheHitRatio) =
      .ok (.finite (NimbusMesh.effectivePrompt weight request cacheHitRatio)) := by
  simp only [effectivePrompt, ofInt, Arithmetic.ofInt_exact]
  refine except_bind_eq_ok.mpr ⟨_, rfl, ?_⟩
  simp only [Arithmetic.literal_exact, Arithmetic.mul, Arithmetic.sub, Arithmetic.round_exact, Double.max_finite,
    NimbusMesh.effectivePrompt]
  rfl

section Bounds

variable {arithmetic : Arithmetic} (accurate : arithmetic.Accurate) {weight ratio : ℚ} {promptTokens : ℤ}

include accurate

theorem one_le_prompt (prompt : 1 ≤ promptTokens) : 1 ≤ arithmetic.nearest promptTokens := by
  have rounded := accurate.mono (show (1 : ℚ) ≤ promptTokens by exact_mod_cast prompt)
  rwa [accurate.one] at rounded

theorem not_overflows_of_le_one (prompt : 1 ≤ promptTokens)
    (fits : ¬ arithmetic.Overflows (arithmetic.nearest promptTokens)) {x : ℚ} (nonneg : 0 ≤ x) (most : x ≤ 1) :
    ¬ arithmetic.Overflows (arithmetic.nearest x) := by
  intro overflows
  apply fits (overflows.mono _)
  have above := one_le_prompt accurate prompt
  rw [abs_of_nonneg (accurate.nonneg nonneg), abs_of_nonneg (le_trans zero_le_one above)]
  exact (accurate.le_one most).trans above

theorem share_bounds (light : 0 ≤ weight) (most : weight ≤ 1) (nonneg : 0 ≤ ratio) (small : ratio ≤ 1) :
    0 ≤ ratio * arithmetic.nearest weight ∧ ratio * arithmetic.nearest weight ≤ 1 ∧
      0 ≤ 1 - arithmetic.nearest (ratio * arithmetic.nearest weight) ∧
      1 - arithmetic.nearest (ratio * arithmetic.nearest weight) ≤ 1 := by
  have weighted := accurate.nonneg light
  have product := mul_nonneg nonneg weighted
  have below := mul_le_one₀ small weighted (accurate.le_one most)
  refine ⟨product, below, ?_, ?_⟩
  · linarith [accurate.le_one below]
  · linarith [accurate.nonneg product]

theorem tokensRemoved_returns {request : InferenceRequest} (light : 0 ≤ weight) (most : weight ≤ 1)
    (nonneg : 0 ≤ ratio) (small : ratio ≤ 1) {removed : Double}
    (estimated : tokensRemoved arithmetic weight request (.finite ratio) = .ok removed) :
    ¬ arithmetic.Overflows (arithmetic.nearest request.promptTokens) ∧
      removed = .finite (removedTokens arithmetic weight request.promptTokens ratio) ∧
      0 ≤ removedTokens arithmetic weight request.promptTokens ratio := by
  obtain ⟨prompt, counted, estimated⟩ := except_bind_eq_ok.mp estimated
  obtain ⟨effective, charged, same⟩ := except_bind_eq_ok.mp estimated
  obtain ⟨again, countedToo, found⟩ := except_bind_eq_ok.mp charged
  rw [counted] at countedToo
  cases countedToo
  cases found
  cases same
  have tokens := request.tokens_positive.1
  simp only [ofInt, Arithmetic.ofInt] at counted
  by_cases overflows : arithmetic.Overflows (arithmetic.nearest request.promptTokens)
  · rw [if_pos overflows] at counted
    cases counted
  · rw [if_neg overflows] at counted
    cases counted
    have within : ∀ x : ℚ, 0 ≤ x → x ≤ 1 → arithmetic.round x = .finite (arithmetic.nearest x) := fun x least top =>
      Arithmetic.round_of_not_overflows (not_overflows_of_le_one accurate tokens overflows least top)
    obtain ⟨low, high, lower, upper⟩ := share_bounds accurate light most nonneg small
    have above := one_le_prompt accurate tokens
    have one : arithmetic.literal 1.0 = .finite 1 := by
      rw [Arithmetic.literal, show (1.0 : ℚ) = 1 by norm_num, accurate.one]
    have share := accurate.mul_share overflows (accurate.nonneg lower) (accurate.le_one upper)
    have atMost : max 1 (arithmetic.nearest (arithmetic.nearest request.promptTokens * arithmetic.nearest
        (1 - arithmetic.nearest (ratio * arithmetic.nearest weight)))) ≤ arithmetic.nearest request.promptTokens := by
      apply max_le above
      have product := accurate.mono (mul_le_of_le_one_right (le_trans zero_le_one above) (accurate.le_one upper))
      rwa [accurate.idempotent] at product
    have kept := accurate.nonneg (sub_nonneg.mpr atMost)
    have fits : ¬ arithmetic.Overflows (removedTokens arithmetic weight request.promptTokens ratio) := by
      intro beyond
      apply overflows (beyond.mono _)
      have less := accurate.mono (sub_le_self (arithmetic.nearest request.promptTokens)
        (le_trans zero_le_one (le_max_left 1 (arithmetic.nearest (arithmetic.nearest request.promptTokens *
          arithmetic.nearest (1 - arithmetic.nearest (ratio * arithmetic.nearest weight)))))))
      rw [accurate.idempotent] at less
      rw [removedTokens, abs_of_nonneg kept, abs_of_nonneg (le_trans zero_le_one above)]
      exact less
    refine ⟨overflows, ?_, kept⟩
    simp only [Arithmetic.literal, Arithmetic.mul] at one share ⊢
    simp only [one, within _ low high, Arithmetic.sub, within _ lower upper, share, Double.max_finite]
    exact Arithmetic.round_of_not_overflows fits

theorem removed_share_le (light : 0 ≤ weight) (most : weight ≤ 0.82) (least : 0.02 ≤ ratio) (small : ratio ≤ 0.96) :
    1 - arithmetic.nearest (1 - arithmetic.nearest (arithmetic.nearest (roundTo 4 ratio) * arithmetic.nearest weight)) +
      1 / 10 ^ 15 ≤ ratio := by
  have rounded := abs_le.mp (abs_roundTo_sub_le 4 ratio)
  have nonneg := roundTo_nonneg 4 (le_trans (by norm_num) least : (0 : ℚ) ≤ ratio)
  have below : roundTo 4 ratio ≤ 1 := by
    norm_num at rounded small
    linarith
  have first := (accurate.near_of_le_one nonneg below).2
  have heavier := (accurate.near_of_le_one light (most.trans (by norm_num))).2
  obtain ⟨low, high, lower, upper⟩ := share_bounds accurate light (most.trans (by norm_num)) (accurate.nonneg nonneg)
    (accurate.le_one below)
  have second := (accurate.near_of_le_one low high).2
  have third := (accurate.near_of_le_one lower upper).1
  have product : arithmetic.nearest (roundTo 4 ratio) * arithmetic.nearest weight ≤
      (ratio + 0.00006) * 0.83 := by
    apply mul_le_mul _ _ (accurate.nonneg light) (by linarith)
    · norm_num at first rounded ⊢
      linarith
    · norm_num at heavier most ⊢
      linarith
  norm_num at second third product least ⊢
  linarith

theorem removedTokens_le (prompt : 1 ≤ promptTokens) (light : 0 ≤ weight) (most : weight ≤ 0.82)
    (least : 0.02 ≤ ratio) (small : ratio ≤ 0.96) :
    removedTokens arithmetic weight promptTokens (arithmetic.nearest (roundTo 4 ratio)) ≤
      arithmetic.nearest (arithmetic.nearest promptTokens * ratio) := by
  apply accurate.mono
  have above := one_le_prompt accurate prompt
  have share := removed_share_le accurate light most least small
  have whole : roundTo 4 ratio ≤ 1 := by
    have rounded := abs_le.mp (abs_roundTo_sub_le 4 ratio)
    norm_num at rounded small
    linarith
  have nonneg := roundTo_nonneg 4 (le_trans (by norm_num) least : (0 : ℚ) ≤ ratio)
  obtain ⟨_, _, lower, upper⟩ := share_bounds accurate light (most.trans (by norm_num)) (accurate.nonneg nonneg)
    (accurate.le_one whole)
  have kept := accurate.nonneg lower
  have full := accurate.le_one upper
  generalize arithmetic.nearest (1 - arithmetic.nearest
    (arithmetic.nearest (roundTo 4 ratio) * arithmetic.nearest weight)) = q at share kept full
  generalize arithmetic.nearest promptTokens = tokens at above
  have error := (abs_le.mp (accurate.error (tokens * q))).1
  rw [abs_of_nonneg (mul_nonneg (by linarith) kept)] at error
  have product : tokens * q ≤ tokens := mul_le_of_le_one_right (by linarith) full
  have lost : tokens * q - tokens / 10 ^ 15 ≤ arithmetic.nearest (tokens * q) := by
    norm_num at error ⊢
    linarith
  calc tokens - max 1 (arithmetic.nearest (tokens * q)) ≤ tokens - arithmetic.nearest (tokens * q) :=
        sub_le_sub_left (le_max_right _ _) _
    _ ≤ tokens * (1 - q + 1 / 10 ^ 15) := by linarith
    _ ≤ tokens * ratio := mul_le_mul_of_nonneg_left share (by linarith)

theorem removedTokens_zero (prompt : 1 ≤ promptTokens) : removedTokens arithmetic weight promptTokens 0 = 0 := by
  have above := one_le_prompt accurate prompt
  rw [removedTokens, zero_mul, accurate.zero, sub_zero, accurate.one, mul_one, accurate.idempotent, max_eq_right above,
    sub_self, accurate.zero]

end Bounds

theorem lt_truncate_add_one_iff {removed held : ℚ} (nonneg : 0 ≤ removed) :
    removed < truncate held + 1 ↔ (⌊removed⌋ : ℚ) ≤ held ∨ (removed < 1 ∧ -1 < held) := by
  have whole : removed < truncate held + 1 ↔ ⌊removed⌋ ≤ truncate held := by
    rw [← Int.lt_add_one_iff, Int.floor_lt]
    push_cast
    rfl
  have least : 0 ≤ ⌊removed⌋ := Int.floor_nonneg.mpr nonneg
  have first : removed < 1 ↔ ⌊removed⌋ ≤ 0 := by
    rw [← Int.lt_add_one_iff, Int.floor_lt]
    norm_num
  rw [whole, first, ← truncate_nonneg_iff]
  by_cases above : 0 ≤ held
  · rw [truncate, if_pos above, Int.le_floor]
    have kept := Int.floor_nonneg.mpr above
    constructor
    · exact .inl
    · rintro (below | ⟨none, _⟩)
      · exact below
      · exact le_trans (by exact_mod_cast none) above
  · have negative : ¬ ((⌊removed⌋ : ℚ) ≤ held) := by
      have floor : (0 : ℚ) ≤ ⌊removed⌋ := by exact_mod_cast least
      linarith
    have cut : truncate held ≤ 0 := by
      rw [truncate, if_neg above, Int.ceil_le]
      push_cast
      linarith
    constructor
    · intro below
      exact .inr ⟨below.trans cut, least.trans below⟩
    · rintro (below | ⟨none, kept⟩)
      · exact absurd below negative
      · exact none.trans kept

namespace KVCacheDirectory

section Credit

variable (arithmetic : Arithmetic)

def consulted (directory : KVCacheDirectory) (request : InferenceRequest) (now : Double) : List CacheEntry :=
  (stateAfter (prepareScore arithmetic request now) directory).bucket (cacheKey request)

/-- The entry that is credited to a pool, if there is one, is as long as the prompt, or the product of its tokens
    and its hit ratio reaches the whole tokens that a backend takes off the prompt on its account. A length below
    zero, which only a foreign document brings, may cost the product up to one token. -/
def LongEnough (directory : KVCacheDirectory) (weight : ℚ) (request : InferenceRequest) (clusterId poolId : String)
    (now : Double) : Prop :=
  ∀ entry ∈ credited arithmetic directory.ttlS clusterId poolId now (directory.consulted arithmetic request now),
    let ratio := entry.ratio arithmetic directory.ttlS clusterId poolId now
    let removed := removedTokens arithmetic weight request.promptTokens (arithmetic.nearest (roundTo 4 ratio))
    let held := arithmetic.nearest (arithmetic.nearest entry.sizeTokens * ratio)
    request.promptTokens ≤ entry.sizeTokens ∨ (⌊removed⌋ : ℚ) ≤ held ∨ (removed < 1 ∧ -1 < held)

instance (directory : KVCacheDirectory) (weight : ℚ) (request : InferenceRequest) (clusterId poolId : String)
    (now : Double) : Decidable (directory.LongEnough arithmetic weight request clusterId poolId now) :=
  inferInstanceAs (Decidable (∀ entry ∈ credited arithmetic directory.ttlS clusterId poolId now
    (directory.consulted arithmetic request now), _ ∨ _ ∨ _))

/-- The cache credits that `build_candidates` asks for, pool after pool. -/
def cacheCredits (request : InferenceRequest) (now : Double) (places : List (String × String)) :
    EStateM PyError KVCacheDirectory (List (Double × ℤ)) :=
  places.mapM (fun place => score arithmetic request place.1 place.2 now)

def atTurn (directory : KVCacheDirectory) (request : InferenceRequest) (now : Double)
    (places : List (String × String)) (index : ℕ) : KVCacheDirectory :=
  stateAfter (cacheCredits arithmetic request now (places.take index)) directory

variable {arithmetic} {directory final : KVCacheDirectory} {request : InferenceRequest} {now : Double}

theorem cacheCredits_scored {places : List (String × String)} {credits : List (Double × ℤ)}
    (asked : cacheCredits arithmetic request now places directory = .ok credits final) {index : ℕ}
    {place : String × String} (place_at : places[index]? = some place) {credit : Double × ℤ}
    (credit_at : credits[index]? = some credit) :
    ∃ scored, score arithmetic request place.1 place.2 now (directory.atTurn arithmetic request now places index) =
      .ok credit scored := by
  induction places generalizing directory credits index with
  | nil => cases place_at
  | cons first rest ih =>
    obtain ⟨head, between, others, scored, later, rfl⟩ := mapM_cons_eq_ok.mp asked
    cases index with
    | zero =>
      cases place_at
      cases credit_at
      exact ⟨between, scored⟩
    | succ index =>
      obtain ⟨reached, answer⟩ := ih later place_at credit_at
      refine ⟨reached, ?_⟩
      have turn : directory.atTurn arithmetic request now (first :: rest) (index + 1) =
          between.atTurn arithmetic request now rest index := by
        rw [atTurn, atTurn, cacheCredits, cacheCredits, List.take_succ_cons]
        exact stateAfter_mapM_cons scored
      rw [turn]
      exact answer

theorem score_credited (accurate : arithmetic.Accurate) {clusterId poolId : String} {cache : Double × ℤ}
    (scored : score arithmetic request clusterId poolId now directory = .ok cache final) :
    let bucket := directory.consulted arithmetic request now
    let best := hitOf arithmetic directory.ttlS clusterId poolId request.promptTokens now
      (credited arithmetic directory.ttlS clusterId poolId now bucket)
    cache = (arithmetic.roundTo 4 (.finite best.1), best.2) ∧
      ∀ entry ∈ visible now bucket, directory.ttlS ≠ .finite 0 ∧ entry.Counts arithmetic request.promptTokens := by
  intro bucket best
  cases ready : prepareScore arithmetic request now directory with
  | error raised prepared =>
    simp only [score, ready] at scored
    cases scored
  | ok _ prepared =>
    obtain ⟨found, returned, same, _⟩ := (score_prepared_eq_ok ready).mp scored
    have read : prepared.bucket (cacheKey request) = bucket := by
      simp only [bucket, consulted, stateAfter, ready]
    rw [read] at returned
    refine ⟨?_, (bestHit_returns_iff accurate _ _).mp ⟨found, returned⟩⟩
    rw [same, bestHit_credited accurate returned]

theorem removed_lt_iff {clusterId poolId : String} {ratio : Double} {saved : ℤ}
    (scored : score .binary64 request clusterId poolId now directory = .ok (ratio, saved) final) {weight : ℚ}
    (light : 0 ≤ weight) (most : weight ≤ 0.82) {removed : Double}
    (estimated : tokensRemoved .binary64 weight request ratio = .ok removed) :
    removed.Lt (.finite (saved + 1)) ↔ directory.LongEnough .binary64 weight request clusterId poolId now := by
  have accurate := Arithmetic.accurate_binary64
  have prompt := request.tokens_positive.1
  obtain ⟨found, counts⟩ := score_credited accurate scored
  have whole := most.trans (show (0.82 : ℚ) ≤ 1 by norm_num)
  unfold LongEnough
  cases leads : credited .binary64 directory.ttlS clusterId poolId now (directory.consulted .binary64 request now) with
  | none =>
    rw [leads] at found
    have zero : Arithmetic.binary64.roundTo 4 (.finite 0) = .finite 0 := by decide +kernel
    simp only [hitOf, zero, Prod.mk.injEq] at found
    obtain ⟨rfl, rfl⟩ := found
    obtain ⟨_, rfl, _⟩ := tokensRemoved_returns accurate light whole (le_refl 0) zero_le_one estimated
    rw [removedTokens_zero accurate prompt]
    simp
  | some entry =>
    rw [leads] at found
    have divides := (counts entry (List.argmax_mem leads)).1
    obtain ⟨_, least, cap⟩ := credited_bounds accurate divides leads
    have small : entry.ratio .binary64 directory.ttlS clusterId poolId now ≤ 0.96 :=
      cap.trans (by decide +kernel)
    have nonneg : 0 ≤ entry.ratio .binary64 directory.ttlS clusterId poolId now := le_trans (by norm_num) least
    simp only [hitOf, CacheEntry.savedProduct, Prod.mk.injEq] at found
    simp only [Option.mem_def, Option.some.injEq, forall_eq']
    generalize entry.ratio .binary64 directory.ttlS clusterId poolId now = hit at found least small nonneg ⊢
    have above := roundTo_nonneg 4 nonneg
    have below : roundTo 4 hit ≤ 1 := by
      have rounded := abs_le.mp (abs_roundTo_sub_le 4 hit)
      norm_num at rounded small
      linarith
    obtain ⟨rfl, rfl⟩ := found
    rw [Arithmetic.roundTo_binary64 4 above below] at estimated
    obtain ⟨_, rfl, kept⟩ := tokensRemoved_returns accurate light whole (nearestDouble_nonneg above)
      (accurate.le_one below) estimated
    have covered := removedTokens_le accurate prompt light most least small
    rw [Double.finite_lt, lt_truncate_add_one_iff kept]
    rcases le_or_gt request.promptTokens entry.sizeTokens with long | short
    · rw [min_eq_right long]
      constructor
      · intro _
        exact .inl long
      · intro _
        exact .inl ((Int.floor_le _).trans covered)
    · rw [min_eq_left short.le, or_iff_right (not_le_of_gt short)]
      rfl

end Credit

/-- In exact arithmetic, the candidates of a plane carry the answers to its turns. -/
theorem candidate_credit_exact {plane reached : ControlPlane} {request : InferenceRequest} {now : ℚ}
    {candidates : List CandidatePlacement}
    (built : ControlPlane.buildCandidates request now plane = .ok candidates reached)
    {candidate : CandidatePlacement} (member : candidate ∈ candidates) :
    ∃ scored, score .exact request candidate.clusterId candidate.poolId (.finite now)
      (.ofExact .exact (plane.directoryAt request now candidate.clusterId candidate.poolId)) =
        .ok (.finite candidate.expectedCacheHitRatio, candidate.expectedCacheSavedTokens) scored := by
  obtain ⟨scored, answer⟩ := ControlPlane.buildCandidates_scored built member
  exact ⟨_, score_exact answer⟩

section Turns

def afterCalls (calls : List ControlPlane.PlaneCall) (plane : ControlPlane) : KVCacheDirectory :=
  .ofExact .binary64 (calls.foldl ControlPlane.attempt (plane, [])).1.cacheDirectory

def places (plane : ControlPlane) : List (String × String) :=
  plane.placements.map (fun place => (place.1.clusterId, place.2.poolId))

-- Sixty-three of a hundred and thirteen tokens are seven tenths of ninety, but not in doubles.
example :
    let directory := ofExact .binary64 ((NimbusMesh.KVCacheDirectory.create 180 20000 (emptyStore false)).afterAll
      [.observe (sessionResult (sessionRequest 90) "c1" "p1" 5)])
    valueOf (score .binary64 (sessionRequest 113) "c1" "p2" (.finite 5) directory) =
        some (Arithmetic.binary64.literal 0.7, 62) ∧
      ¬ directory.LongEnough .binary64 0.8 (sessionRequest 113) "c1" "p2" (.finite 5) := by
  decide +kernel

end Turns

end KVCacheDirectory

end InDoubles

end NimbusMesh
