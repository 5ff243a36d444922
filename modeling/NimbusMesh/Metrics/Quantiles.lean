import NimbusMesh.Foundation.OrderStatistics
import NimbusMesh.Foundation.Simulation
import NimbusMesh.Metrics.Jain
import Mathlib.Data.List.MinMax
import Mathlib.Data.Rat.Floor
import Mathlib.Tactic.NormNum.OfScientific

namespace NimbusMesh

open Foundation Foundation.Decimal Foundation.Execution Foundation.OrderStatistics

section Quantiles

variable {values others : List ℚ} {q r : ℚ}

/-- `ordered[i]`, where a negative index counts from the end. -/
def item (ordered : List ℚ) (i : ℤ) : Except PyError ℚ :=
  let position := if i < 0 then i + ordered.length else i
  if position < 0 then .error (.indexError "list index out of range")
  else
    match ordered[position.toNat]? with
    | some value => .ok value
    | none => .error (.indexError "list index out of range")

def checkedQuantile (values : List ℚ) (q : ℚ) : Except PyError ℚ :=
  if values = [] then .ok 0
  else
    let ordered := values.insertionSort (· ≤ ·)
    let index : ℚ := (ordered.length - 1) * q
    let lower := index.floor
    let upper := index.ceil
    if lower = upper then item ordered lower
    else do
      let first ← item ordered lower
      let last ← item ordered upper
      let again ← item ordered lower
      return first + (last - again) * (index - lower)

def quantileIndex (values : List ℚ) (q : ℚ) : ℚ := (values.length - 1) * q

def ranked (values : List ℚ) (i : ℤ) : ℚ := (values.insertionSort (· ≤ ·)).getD i.toNat 0

theorem rat_ceil_eq (x : ℚ) : x.ceil = ⌈x⌉ := Rat.ceil_eq_neg_floor_neg x

theorem quantile_eq_interpolate (nonempty : values ≠ []) :
    quantile values q = interpolate (ranked values) (quantileIndex values q) := by
  have floor : (quantileIndex values q).floor = ⌊quantileIndex values q⌋ := rfl
  have ceil := rat_ceil_eq (quantileIndex values q)
  simp only [quantile, if_neg nonempty, List.length_insertionSort]
  split
  · rename_i whole
    have same : ⌊quantileIndex values q⌋ = ⌈quantileIndex values q⌉ := by
      rw [← floor, ← ceil]
      exact whole
    rw [interpolate, ← same, sub_self, zero_mul, add_zero]
    rfl
  · rw [interpolate, ← ceil]
    rfl

theorem length_pos (nonempty : values ≠ []) : (1 : ℚ) ≤ values.length := by
  have positive := List.length_pos_iff.mpr nonempty
  exact_mod_cast positive

theorem quantileIndex_floor_nonneg (nonempty : values ≠ []) (nonneg : 0 ≤ q) :
    0 ≤ ⌊quantileIndex values q⌋ := by
  have room := length_pos nonempty
  exact Int.floor_nonneg.mpr (mul_nonneg (by linarith) nonneg)

theorem quantileIndex_ceil_le (nonempty : values ≠ []) (most : q ≤ 1) :
    ⌈quantileIndex values q⌉ ≤ (values.length : ℤ) - 1 := by
  have room := length_pos nonempty
  have scaled : quantileIndex values q ≤ values.length - 1 :=
    mul_le_of_le_one_right (by linarith) most
  apply Int.ceil_le.mpr
  push_cast
  exact scaled

theorem quantileIndex_mono (nonempty : values ≠ []) (le : q ≤ r) :
    quantileIndex values q ≤ quantileIndex values r := by
  have room := length_pos nonempty
  exact mul_le_mul_of_nonneg_left le (by linarith)

theorem ranked_getElem {i : ℤ} (nonneg : 0 ≤ i) (bound : i < values.length) :
    ∃ inside : i.toNat < (values.insertionSort (· ≤ ·)).length,
      ranked values i = (values.insertionSort (· ≤ ·)).get ⟨i.toNat, inside⟩ := by
  have inside : i.toNat < (values.insertionSort (· ≤ ·)).length := by
    rw [List.length_insertionSort]
    omega
  exact ⟨inside, List.getD_eq_getElem _ _ inside⟩

theorem ranked_rising (values : List ℚ) : RisingWithin (ranked values) 0 ((values.length : ℤ) - 1) := by
  intro i j nonneg le most
  obtain ⟨below, left⟩ := @ranked_getElem values _ nonneg (Int.lt_of_le_sub_one (le.trans most))
  obtain ⟨inside, right⟩ := @ranked_getElem values _ (nonneg.trans le) (Int.lt_of_le_sub_one most)
  rw [left, right]
  have sorted : (values.insertionSort (· ≤ ·)).Pairwise (· ≤ ·) := List.pairwise_insertionSort _ values
  exact sorted.rel_get_of_le (by
    simp only [Fin.mk_le_mk]
    omega)

theorem ranked_mem {i : ℤ} (nonneg : 0 ≤ i) (bound : i < values.length) : ranked values i ∈ values := by
  obtain ⟨inside, read⟩ := ranked_getElem nonneg bound
  rw [read]
  exact (List.mem_insertionSort _).mp (List.get_mem _ _)

theorem item_eq_ranked {i : ℤ} (nonneg : 0 ≤ i) (bound : i < values.length) :
    item (values.insertionSort (· ≤ ·)) i = .ok (ranked values i) := by
  obtain ⟨inside, read⟩ := ranked_getElem nonneg bound
  have front : ¬ i < 0 := not_lt_of_ge nonneg
  simp only [item, front, if_false, List.getElem?_eq_getElem inside, read]
  rfl

theorem checkedQuantile_eq (nonneg : 0 ≤ q) (most : q ≤ 1) :
    checkedQuantile values q = .ok (quantile values q) := by
  by_cases empty : values = []
  · simp [checkedQuantile, quantile, empty]
  · have floor := quantileIndex_floor_nonneg empty nonneg
    have ceil := quantileIndex_ceil_le empty most
    have between := Int.floor_le_ceil (quantileIndex values q)
    have first : item (values.insertionSort (· ≤ ·)) (quantileIndex values q).floor =
        .ok (ranked values (quantileIndex values q).floor) :=
      item_eq_ranked floor (Int.lt_of_le_sub_one (between.trans ceil))
    have last : item (values.insertionSort (· ≤ ·)) (quantileIndex values q).ceil =
        .ok (ranked values (quantileIndex values q).ceil) := by
      rw [rat_ceil_eq]
      exact item_eq_ranked (floor.trans between) (Int.lt_of_le_sub_one ceil)
    simp only [checkedQuantile, quantile, if_neg empty, List.length_insertionSort]
    unfold quantileIndex at first last
    split
    · exact first
    · rw [first, last]
      rfl

theorem quantile_mono (nonneg : 0 ≤ q) (le : q ≤ r) (most : r ≤ 1) :
    quantile values q ≤ quantile values r := by
  by_cases empty : values = []
  · simp [quantile, empty]
  · rw [quantile_eq_interpolate empty, quantile_eq_interpolate empty]
    apply interpolate_mono (quantileIndex_mono empty le)
    intro i j least between greatest
    have floor := quantileIndex_floor_nonneg empty nonneg
    have ceil := quantileIndex_ceil_le empty most
    exact ranked_rising values i j (floor.trans least) between (greatest.trans ceil)

theorem quantile_bounds (nonempty : values ≠ []) (nonneg : 0 ≤ q) (most : q ≤ 1) {least greatest : ℚ}
    (below : ∀ value ∈ values, least ≤ value) (above : ∀ value ∈ values, value ≤ greatest) :
    least ≤ quantile values q ∧ quantile values q ≤ greatest := by
  have floor := quantileIndex_floor_nonneg nonempty nonneg
  have ceil := quantileIndex_ceil_le nonempty most
  have between := Int.floor_le_ceil (quantileIndex values q)
  have rising : ranked values ⌊quantileIndex values q⌋ ≤ ranked values ⌈quantileIndex values q⌉ :=
    ranked_rising values _ _ floor between ceil
  rw [quantile_eq_interpolate nonempty]
  constructor
  · exact (below _ (ranked_mem floor (by omega))).trans (floor_le_interpolate rising)
  · exact (interpolate_le_ceil rising).trans (above _ (ranked_mem (by omega) (by omega)))

theorem quantile_perm (perm : values.Perm others) (q : ℚ) : quantile values q = quantile others q := by
  have empty : values = [] ↔ others = [] := by
    rw [← List.length_eq_zero_iff, ← List.length_eq_zero_iff, perm.length_eq]
  simp only [quantile, empty, insertionSort_eq_of_perm perm]

theorem ranked_le (below : List.Forall₂ (· ≤ ·) values others) (i : ℤ) : ranked values i ≤ ranked others i := by
  have sorted := insertionSort_le below
  have lengths := sorted.length_eq
  unfold ranked
  by_cases inside : i.toNat < (values.insertionSort (· ≤ ·)).length
  · rw [List.getD_eq_getElem _ _ inside, List.getD_eq_getElem _ _ (lengths ▸ inside)]
    exact sorted.get inside (lengths ▸ inside)
  · have outside : (others.insertionSort (· ≤ ·)).length ≤ i.toNat := by omega
    rw [List.getD_eq_default _ _ (le_of_not_gt inside), List.getD_eq_default _ _ outside]

theorem quantile_le (below : List.Forall₂ (· ≤ ·) values others) (q : ℚ) :
    quantile values q ≤ quantile others q := by
  have lengths := below.length_eq
  by_cases empty : values = []
  · have emptyToo : others = [] := by
      rw [← List.length_eq_zero_iff, ← lengths, empty]
      rfl
    rw [empty, emptyToo]
  · have nonemptyToo : others ≠ [] := by
      intro none
      apply empty
      rw [← List.length_eq_zero_iff, lengths, none]
      rfl
    have sameIndex : quantileIndex values q = quantileIndex others q := by
      simp only [quantileIndex, lengths]
    rw [quantile_eq_interpolate empty, quantile_eq_interpolate nonemptyToo, sameIndex]
    exact interpolate_le (ranked_le below _) (ranked_le below _)

end Quantiles

inductive MetricsCall where
  | noteSubmission (tenantId : String)
  | record (result : RequestResult)

namespace MetricsCollector

def perform (metrics : MetricsCollector) : MetricsCall → MetricsCollector
  | .noteSubmission tenantId => metrics.noteSubmission tenantId
  | .record result => metrics.record result

theorem record_completed (metrics : MetricsCollector) (result : RequestResult) (tenantId : String) :
    (Dict.lookup (metrics.record result).tenantCompleted tenantId).getD 0 =
      (Dict.lookup metrics.tenantCompleted tenantId).getD 0 +
        if result.request.tenantId = tenantId then if result.admitted then 1 else 0 else 0 :=
  Dict.lookup_add metrics.tenantCompleted result.request.tenantId tenantId _

/-- Two collectors that hold the same records, in whatever order. -/
structure SameRecords (first second : MetricsCollector) : Prop where
  results : first.results.Perm second.results
  completed : ∀ tenantId, (Dict.lookup first.tenantCompleted tenantId).getD 0 =
    (Dict.lookup second.tenantCompleted tenantId).getD 0
  submitted : ∀ tenantId, Dict.lookup first.tenantSubmitted tenantId =
    Dict.lookup second.tenantSubmitted tenantId

theorem SameRecords.refl (metrics : MetricsCollector) : SameRecords metrics metrics :=
  ⟨List.Perm.refl _, fun _ => rfl, fun _ => rfl⟩

theorem SameRecords.trans {first second third : MetricsCollector} (left : SameRecords first second)
    (right : SameRecords second third) : SameRecords first third :=
  ⟨left.results.trans right.results, fun tenantId => (left.completed tenantId).trans (right.completed tenantId),
    fun tenantId => (left.submitted tenantId).trans (right.submitted tenantId)⟩

theorem SameRecords.perform {first second : MetricsCollector} (same : SameRecords first second)
    (call : MetricsCall) : SameRecords (first.perform call) (second.perform call) := by
  cases call with
  | noteSubmission tenantId =>
    constructor
    · exact same.results
    · exact same.completed
    · intro other
      simp only [MetricsCollector.perform, noteSubmission, Dict.lookup_set, same.submitted]
  | record result =>
    constructor
    · exact same.results.append_right [result]
    · intro other
      simp only [MetricsCollector.perform, record_completed, same.completed]
    · exact same.submitted

theorem perform_commutes (metrics : MetricsCollector) (call other : MetricsCall) :
    SameRecords ((metrics.perform call).perform other) ((metrics.perform other).perform call) := by
  cases call with
  | noteSubmission tenantId =>
    cases other with
    | noteSubmission otherId =>
      constructor
      · exact List.Perm.refl _
      · exact fun _ => rfl
      intro third
      simp only [perform, noteSubmission, Dict.lookup_set]
      by_cases same : tenantId = otherId
      · rw [same]
      · have flipped : ¬ otherId = tenantId := fun equal => same equal.symm
        by_cases left : tenantId = third
        · subst left
          simp [flipped]
        · simp [left, same]
    | record result => exact SameRecords.refl _
  | record result =>
    cases other with
    | noteSubmission otherId => exact SameRecords.refl _
    | record second =>
      constructor
      · simp only [perform, record, List.append_assoc]
        exact (List.Perm.swap second result []).append_left _
      · intro third
        simp only [perform, record_completed]
        exact Nat.add_right_comm _ _ _
      · exact fun _ => rfl

theorem SameRecords.fairnessValues {first second : MetricsCollector} (same : SameRecords first second) :
    (first.tenantSubmitted.toList.map (fun tenant =>
        ((Dict.lookup first.tenantCompleted tenant.1).getD 0 : ℚ) / max 1 tenant.2)).Perm
      (second.tenantSubmitted.toList.map (fun tenant =>
        ((Dict.lookup second.tenantCompleted tenant.1).getD 0 : ℚ) / max 1 tenant.2)) := by
  simp only [same.completed]
  exact (Dict.perm_of_lookup same.submitted).map _

theorem SameRecords.summary_eq {first second : MetricsCollector} (same : SameRecords first second)
    (durationS : ℚ) (policyName configName : String) (totalSlots : ℤ) (totalMemoryGb : ℚ) :
    first.summary durationS policyName configName totalSlots totalMemoryGb =
      second.summary durationS policyName configName totalSlots totalMemoryGb := by
  have admitted := same.results.filter RequestResult.admitted
  have sums {M : Type} [AddCommMonoid M] (field : RequestResult → M) := (admitted.map field).sum_eq
  have quantiles (field : RequestResult → ℚ) (q : ℚ) := quantile_perm (admitted.map field) q
  simp only [summary, same.results.length_eq, admitted.length_eq, admitted.countP_eq, sums, quantiles,
    List.length_map, jainsIndex_perm same.fairnessValues.symm]

theorem summary_percentiles (metrics : MetricsCollector) (durationS : ℚ) (policyName configName : String)
    (totalSlots : ℤ) (totalMemoryGb : ℚ) :
    let report := metrics.summary durationS policyName configName totalSlots totalMemoryGb
    report.p50LatencyMs ≤ report.p95LatencyMs ∧ report.p95LatencyMs ≤ report.p99LatencyMs := by
  constructor
  · exact roundTo_mono 2 (quantile_mono (by norm_num) (by norm_num) (by norm_num))
  · exact roundTo_mono 2 (quantile_mono (by norm_num) (by norm_num) (by norm_num))

end MetricsCollector

/-- Quantiles read inside the list, lie between its least and greatest value in the order of their
    levels, ignore the order of the values and grow with them; so every report has ordered
    percentiles and does not tell in which order results were recorded. -/
theorem quantiles_ordered_and_order_independent :
    (∀ (values : List ℚ) (q₁ q₂ : ℚ), 0 ≤ q₁ → q₁ ≤ q₂ → q₂ ≤ 1 →
      (∀ q, q = q₁ ∨ q = q₂ → checkedQuantile values q = .ok (quantile values q) ∧
        (values ≠ [] → 0 ≤ (quantileIndex values q).floor ∧
          (quantileIndex values q).floor ≤ (quantileIndex values q).ceil ∧
          (quantileIndex values q).ceil < values.length)) ∧
      (values ≠ [] → ∃ least greatest, values.min? = some least ∧ values.max? = some greatest ∧
        least ≤ quantile values q₁ ∧ quantile values q₁ ≤ quantile values q₂ ∧
        quantile values q₂ ≤ greatest) ∧
      (∀ others : List ℚ, values.Perm others → quantile values q₁ = quantile others q₁) ∧
      ∀ others : List ℚ, List.Forall₂ (· ≤ ·) values others → quantile values q₁ ≤ quantile others q₁) ∧
    ∀ (metrics : MetricsCollector) (calls : List MetricsCall) (durationS : ℚ) (policyName configName : String)
      (totalSlots : ℤ) (totalMemoryGb : ℚ),
      let report := (calls.foldl MetricsCollector.perform metrics).summary durationS policyName configName
        totalSlots totalMemoryGb
      report.p50LatencyMs ≤ report.p95LatencyMs ∧ report.p95LatencyMs ≤ report.p99LatencyMs ∧
      ∀ others : List MetricsCall, calls.Perm others →
        (others.foldl MetricsCollector.perform metrics).summary durationS policyName configName totalSlots
          totalMemoryGb = report := by
  constructor
  · intro values q₁ q₂ nonneg le most
    constructor
    · intro q either
      have low : 0 ≤ q := by rcases either with rfl | rfl <;> linarith
      have high : q ≤ 1 := by rcases either with rfl | rfl <;> linarith
      constructor
      · exact checkedQuantile_eq low high
      · intro nonempty
        have ceil := quantileIndex_ceil_le nonempty high
        rw [rat_ceil_eq]
        exact ⟨quantileIndex_floor_nonneg nonempty low, Int.floor_le_ceil _, Int.lt_of_le_sub_one ceil⟩
    constructor
    · intro nonempty
      obtain ⟨least, minimum⟩ := Option.isSome_iff_exists.mp (List.isSome_min?_of_ne_nil nonempty)
      obtain ⟨greatest, maximum⟩ := Option.isSome_iff_exists.mp (List.isSome_max?_of_ne_nil nonempty)
      have below := (List.min?_eq_some_iff.mp minimum).2
      have above := (List.max?_eq_some_iff.mp maximum).2
      have first := quantile_bounds nonempty nonneg (le.trans most) below above
      have last := quantile_bounds nonempty (nonneg.trans le) most below above
      exact ⟨least, greatest, minimum, maximum, first.1, quantile_mono nonneg le most, last.2⟩
    constructor
    · exact fun others perm => quantile_perm perm q₁
    · exact fun others below => quantile_le below q₁
  · intro metrics calls durationS policyName configName totalSlots totalMemoryGb report
    have ordered := MetricsCollector.summary_percentiles (calls.foldl MetricsCollector.perform metrics) durationS
      policyName configName totalSlots totalMemoryGb
    apply And.intro ordered.1
    apply And.intro ordered.2
    intro others perm
    have same := foldl_related_of_perm MetricsCollector.SameRecords.refl
      (fun left right => left.trans right) (fun same call => same.perform call)
      MetricsCollector.perform_commutes metrics perm.symm
    exact same.summary_eq durationS policyName configName totalSlots totalMemoryGb

theorem quantiles_of_three_latencies :
    quantile [4, 1, 3] 0.5 = 3 ∧ checkedQuantile [4, 1, 3] 0.95 = .ok 3.9 ∧
      quantile [4, 1, 3] 0.5 ≤ quantile [4, 1, 3] 0.95 ∧ quantile [4, 1, 3] 0.5 ≤ quantile [4, 2, 3] 0.5 := by
  obtain ⟨read, bounded, _, mono⟩ := quantiles_ordered_and_order_independent.1 [4, 1, 3] 0.5 0.95
    (by norm_num) (by norm_num) (by norm_num)
  obtain ⟨_, _, _, _, _, ordered, _⟩ := bounded (by simp)
  have value : quantile [4, 1, 3] 0.95 = 3.9 := by decide +kernel
  constructor
  · decide +kernel
  constructor
  · rw [(read 0.95 (.inr rfl)).1, value]
  constructor
  · exact ordered
  · exact mono [4, 2, 3] (by norm_num)

end NimbusMesh
