import NimbusMesh.ControlPlane.Attribution
import NimbusMesh.ControlPlane.Queue
import NimbusMesh.Foundation.Ranking

namespace NimbusMesh

open Foundation Foundation.Execution

namespace Policy

def charge (poolCounts : Dict (String × String) ℤ) (clusterId poolId : String) : ℤ :=
  (Dict.lookup poolCounts (clusterId, poolId)).getD 0

-- the order of ℤ in the keys of the policy
local instance : PartialOrder ℤ := Int.instLinearOrder.toPartialOrder

theorem choose_spread {poolCounts : Dict (String × String) ℤ} {request : InferenceRequest}
    {candidates : List CandidatePlacement} {choice : CandidatePlacement} {next : Policy} :
    (Policy.spread poolCounts).choose request candidates = .ok (choice, next) ↔
      (availableCandidates candidates).argmin (spreadKey poolCounts) = some choice ∧
      next = .spread (Dict.set poolCounts (choice.clusterId, choice.poolId)
        (charge poolCounts choice.clusterId choice.poolId + 1)) := by
  constructor
  · intro returned
    obtain ⟨picked, found, same⟩ := except_bind_eq_ok.mp returned
    cases same
    exact ⟨required_eq_ok found, rfl⟩
  · rintro ⟨found, rfl⟩
    refine except_bind_eq_ok.mpr ⟨choice, ?_, rfl⟩
    rw [found]
    rfl

theorem charge_chosen (poolCounts : Dict (String × String) ℤ) (named : String × String) (clusterId poolId : String) :
    charge (Dict.set poolCounts named (charge poolCounts named.1 named.2 + 1)) clusterId poolId =
      charge poolCounts clusterId poolId + if named = (clusterId, poolId) then 1 else 0 :=
  Dict.lookup_add poolCounts named (clusterId, poolId) 1

theorem charge_observed (poolCounts : Dict (String × String) ℤ) (named : String × String) (clusterId poolId : String)
    (nonneg : 0 ≤ charge poolCounts named.1 named.2) :
    charge (Dict.set (Dict.set poolCounts named (charge poolCounts named.1 named.2 + 1)) named
      (max 0 (charge (Dict.set poolCounts named (charge poolCounts named.1 named.2 + 1)) named.1 named.2 - 1)))
      clusterId poolId = charge poolCounts clusterId poolId := by
  have charged := charge_chosen poolCounts named named.1 named.2
  rw [if_pos rfl] at charged
  have released : max 0 (charge poolCounts named.1 named.2 + 1 - 1) = charge poolCounts named.1 named.2 := by omega
  rw [charged, released, charge, Dict.lookup_set, Dict.lookup_set]
  split
  · rename_i same
    rw [same]
    rfl
  · rfl

end Policy

namespace ControlPlane

open Policy

def rejections (log : List (Arrival × RequestResult)) (clusterId poolId : String) : ℕ :=
  log.countP (fun entry => entry.2.admitted = false ∧ entry.2.decision.clusterId = clusterId ∧
    entry.2.decision.poolId = poolId)

theorem rejections_snoc (log : List (Arrival × RequestResult)) (arrival : Arrival) (result : RequestResult)
    (clusterId poolId : String) :
    rejections (log ++ [(arrival, result)]) clusterId poolId = rejections log clusterId poolId +
      if result.admitted = false ∧ result.decision.clusterId = clusterId ∧ result.decision.poolId = poolId then 1
      else 0 := by
  simp [rejections, List.countP_append, List.countP_cons]

def SelectorsOff (plane : ControlPlane) : Prop :=
  plane.grpcClient.available = false ∧ plane.cppCore.available = false

theorem chooseCandidate_selectors_off {plane final : ControlPlane} {request : InferenceRequest}
    {candidates : List CandidatePlacement} {choice : CandidatePlacement} (off : SelectorsOff plane)
    (returned : chooseCandidate request candidates plane = .ok choice final) :
    ∃ policy, plane.policy.choose request candidates = .ok (choice, policy) ∧ final = { plane with policy } := by
  obtain ⟨remote, asked, ⟨index, named, _⟩ | ⟨_, _, chosen⟩⟩ := chooseCandidate_answered returned
  · rw [GrpcSchedulerClient.choose_off off.1] at asked
    cases asked
    rw [Option.orElse_none, CppSchedulerCore.choose, if_pos (by simp [off.2])] at named
    cases named
  · exact chosen

/-- The policy of a run is still the spread policy, and with no selector before it its table counts the
    rejected requests. -/
structure SpreadHeld (start : ControlPlane) (plane : ControlPlane) (log : List (Arrival × RequestResult)) : Prop where
  grpcClient : plane.grpcClient = start.grpcClient
  cppCore : plane.cppCore = start.cppCore
  table : ∃ poolCounts, plane.policy = .spread poolCounts ∧
    (SelectorsOff start → ∀ clusterId poolId, charge poolCounts clusterId poolId = rejections log clusterId poolId)

theorem SpreadHeld.create {config : ExperimentConfig} {environment : Environment} {plane : ControlPlane}
    (created : create config environment = .ok plane) (named : config.policy = "spread") :
    SpreadHeld plane plane [] := by
  obtain ⟨policy, built, same⟩ := except_bind_eq_ok.mp created
  rw [named] at built
  cases built
  cases same
  exact ⟨rfl, rfl, KeyedList.empty, rfl, fun _ _ _ => rfl⟩

theorem SpreadHeld.refresh {start plane : ControlPlane} {log : List (Arrival × RequestResult)}
    (held : SpreadHeld start plane log) (now : ℚ) : SpreadHeld start (plane.refresh now) log := by
  obtain ⟨_, _, refreshed⟩ := refresh_eq plane now
  rw [refreshed]
  exact ⟨held.grpcClient, held.cppCore, held.table⟩

theorem chooseCandidate_spread {plane final : ControlPlane} {request : InferenceRequest}
    {candidates : List CandidatePlacement} {choice : CandidatePlacement} {poolCounts : Dict (String × String) ℤ}
    (returned : chooseCandidate request candidates plane = .ok choice final)
    (spread : plane.policy = .spread poolCounts) :
    ∃ charged, final.policy = .spread charged ∧ (SelectorsOff plane → charged = Dict.set poolCounts
      (choice.clusterId, choice.poolId) (charge poolCounts choice.clusterId choice.poolId + 1)) := by
  by_cases off : SelectorsOff plane
  · obtain ⟨next, chosen, same⟩ := chooseCandidate_selectors_off off returned
    rw [spread, choose_spread] at chosen
    exact ⟨_, (congrArg ControlPlane.policy same).trans chosen.2, fun _ => rfl⟩
  · obtain ⟨_, _, ⟨_, _, _, same⟩ | ⟨_, _, next, chosen, same⟩⟩ := chooseCandidate_answered returned
    · exact ⟨poolCounts, (congrArg ControlPlane.policy same).trans spread, fun on => absurd on off⟩
    · rw [spread, choose_spread] at chosen
      exact ⟨_, (congrArg ControlPlane.policy same).trans chosen.2, fun on => absurd on off⟩

theorem SpreadHeld.execute {start plane final : ControlPlane} {log : List (Arrival × RequestResult)}
    (held : SpreadHeld start plane log) {arrival : Arrival} {result : RequestResult}
    (returned : ControlPlane.execute arrival.request arrival.now plane = .ok result final) :
    SpreadHeld start final (log ++ [(arrival, result)]) := by
  obtain ⟨candidates, directory, choice, cluster, pool, policy, backend, _, choosing, _, _, outcome⟩ :=
    execute_returned returned
  obtain ⟨poolCounts, spread, counted⟩ := held.table
  have off : SelectorsOff start → SelectorsOff { plane with cacheDirectory := directory } := by
    intro off
    rw [SelectorsOff, ← held.grpcClient, ← held.cppCore] at off
    exact off
  obtain ⟨charged, same, table⟩ := chooseCandidate_spread choosing spread
  cases same
  rcases outcome with ⟨_, rfl, rfl⟩ | ⟨_, scheduler, placing, rfl⟩
  · refine ⟨held.grpcClient, held.cppCore, charged, rfl, ?_⟩
    intro unselected clusterId poolId
    have named : (choice.clusterId, choice.poolId) = (clusterId, poolId) ↔
        choice.clusterId = clusterId ∧ choice.poolId = poolId := Prod.mk.injEq _ _ _ _ ▸ Iff.rfl
    rw [table (off unselected), charge_chosen poolCounts (choice.clusterId, choice.poolId), counted unselected,
      rejections_snoc]
    simp only [rejected, decisionFor, true_and, named]
    push_cast
    rfl
  · obtain ⟨slotIndex, _, rfl, _, _⟩ := placeRequest_eq_ok placing
    refine ⟨held.grpcClient, held.cppCore, _, rfl, ?_⟩
    intro unselected clusterId poolId
    have nonneg : 0 ≤ charge poolCounts choice.clusterId choice.poolId := by
      rw [counted unselected]
      exact Int.natCast_nonneg _
    rw [rejections_snoc, if_neg (by simp [PlacementCall.result]), add_zero, ← counted unselected,
      table (off unselected)]
    exact charge_observed poolCounts (choice.clusterId, choice.poolId) clusterId poolId nonneg

theorem SpreadHeld.run {config : ExperimentConfig} {environment : Environment} {plane reached : ControlPlane}
    (created : ControlPlane.create config environment = .ok plane) (named : config.policy = "spread")
    {arrivals : List Arrival} {results : List RequestResult}
    (returned : ControlPlane.run arrivals plane = .ok results reached) :
    SpreadHeld plane reached (arrivals.zip results) := by
  have ordered : arrivals.Pairwise (fun _ _ => True) := List.pairwise_of_forall (fun _ _ => True.intro)
  apply run_invariant (SpreadHeld plane) ?_ (SpreadHeld.create created named) (by simp) ordered
    (along_true _ _ _) returned
  intro state log arrival result final held _ _ stepped
  exact (held.refresh arrival.now).execute stepped

def loadOf (log : List (Arrival × RequestResult)) (now : ℚ) (candidate : CandidatePlacement) : ℕ :=
  outstanding log candidate.clusterId candidate.poolId now

/-- Some pool is available, and every available pool that is more loaded than another one comes after some
    available pool by its charge, its queue delay, its network cost and its place in the list. -/
def Spreads (log : List (Arrival × RequestResult)) (now : ℚ) (poolCounts : Dict (String × String) ℤ)
    (candidates : List CandidatePlacement) : Prop :=
  let usable := candidates.filter (fun candidate => candidate.available)
  usable ≠ [] ∧ ∀ heavy ∈ usable, ∀ light ∈ usable, loadOf log now light < loadOf log now heavy →
    ∃ ahead ∈ usable, Ranking.Precedes (spreadKey poolCounts) usable ahead heavy

theorem choose_spreads_iff (log : List (Arrival × RequestResult)) (now : ℚ) (poolCounts : Dict (String × String) ℤ)
    (request : InferenceRequest) (candidates : List CandidatePlacement) :
    (∃ choice next, (Policy.spread poolCounts).choose request candidates = .ok (choice, next) ∧
      choice.available = true ∧ ∀ other ∈ candidates, other.available = true →
        loadOf log now choice ≤ loadOf log now other) ↔ Spreads log now poolCounts candidates := by
  simp only [choose_spread]
  by_cases full : candidates.filter (fun candidate => candidate.available) = []
  · have none : ∀ candidate ∈ candidates, candidate.available ≠ true := List.filter_eq_nil_iff.mp full
    constructor
    · rintro ⟨choice, _, ⟨found, _⟩, available, _⟩
      have inside := (selects_of_mem_availableCandidates (List.argmin_mem found)).1
      exact absurd available (none choice inside)
    · intro spreads
      exact absurd full spreads.1
  · rw [availableCandidates, if_neg full]
    cases found : (candidates.filter (fun candidate => candidate.available)).argmin (spreadKey poolCounts) with
    | none => exact absurd (List.argmin_eq_none.mp found) full
    | some choice =>
      have least := Ranking.argmin_least_iff (loadOf log now) found
      have available : choice.available = true := (List.mem_filter.mp (List.argmin_mem found)).2
      constructor
      · rintro ⟨_, _, ⟨⟨⟩, _⟩, _, lowest⟩
        refine ⟨full, least.mp ?_⟩
        intro light member
        obtain ⟨inside, usable⟩ := List.mem_filter.mp member
        exact lowest light inside usable
      · intro spreads
        refine ⟨choice, _, ⟨rfl, rfl⟩, available, ?_⟩
        intro other inside usable
        exact least.mpr spreads.2 other (List.mem_filter.mpr ⟨inside, usable⟩)

/-- After any run, the spread policy takes an available pool with the fewest outstanding requests exactly
    when its order of the pools happens to put one first: its table says nothing of the outstanding
    requests, and with no selector before it counts the rejected ones. -/
theorem spread_least_outstanding_iff (config : ExperimentConfig) (environment : Environment)
    (plane reached built : ControlPlane) (created : create config environment = .ok plane)
    (named : config.policy = "spread") (arrivals : List Arrival) (results : List RequestResult)
    (returned : run arrivals plane = .ok results reached) (request : InferenceRequest) (now : ℚ)
    (candidates : List CandidatePlacement)
    (listed : buildCandidates request now (reached.refresh now) = .ok candidates built) :
    ∃ poolCounts, built.policy = .spread poolCounts ∧
      (SelectorsOff plane → ∀ clusterId poolId,
        charge poolCounts clusterId poolId = rejections (arrivals.zip results) clusterId poolId) ∧
      ((∃ choice next, built.policy.choose request candidates = .ok (choice, next) ∧ choice.available = true ∧
        ∀ other ∈ candidates, other.available = true →
          loadOf (arrivals.zip results) now choice ≤ loadOf (arrivals.zip results) now other) ↔
        Spreads (arrivals.zip results) now poolCounts candidates) := by
  obtain ⟨_, _, _, _, rfl⟩ := buildCandidates_eq_ok listed
  obtain ⟨poolCounts, spread, counted⟩ := ((SpreadHeld.run created named returned).refresh now).table
  refine ⟨poolCounts, spread, counted, ?_⟩
  dsimp only
  rw [spread]
  exact choose_spreads_iff (arrivals.zip results) now poolCounts request candidates

section Choices

def chooseAfter (arrivals : List Arrival) (request : InferenceRequest) (now : ℚ) :
    EStateM PyError ControlPlane (List RequestResult × List CandidatePlacement × CandidatePlacement) := do
  let results ← run arrivals
  modify (fun plane => plane.refresh now)
  let candidates ← buildCandidates request now
  let plane ← get
  match plane.policy.choose request candidates with
  | .error raised => throw raised
  | .ok (choice, _) => return (results, candidates, choice)

theorem chooseAfter_eq_ok {arrivals : List Arrival} {request : InferenceRequest} {now : ℚ}
    {plane final : ControlPlane} {results : List RequestResult} {candidates : List CandidatePlacement}
    {choice : CandidatePlacement}
    (returned : chooseAfter arrivals request now plane = .ok (results, candidates, choice) final) :
    ∃ reached built next, run arrivals plane = .ok results reached ∧
      buildCandidates request now (reached.refresh now) = .ok candidates built ∧
      built.policy.choose request candidates = .ok (choice, next) := by
  obtain ⟨_, reached, ran, returned⟩ := bind_eq_ok.mp returned
  obtain ⟨_, _, refreshed, returned⟩ := bind_eq_ok.mp returned
  cases refreshed
  obtain ⟨listing, built, listed, returned⟩ := bind_eq_ok.mp returned
  obtain ⟨_, _, reading, returned⟩ := bind_eq_ok.mp returned
  cases reading
  cases chosen : built.policy.choose request listing with
  | error raised =>
    rw [chosen] at returned
    cases returned
  | ok answer =>
    rw [chosen] at returned
    cases returned
    exact ⟨reached, _, answer.2, ran, listed, chosen⟩

/-- A request too large for either pool is charged to the first, and the second then takes one request after
    another while the first is idle. -/
theorem spread_charges_rejected :
    let arrivals : List Arrival := [⟨sessionRequest 300000, 0⟩, ⟨sessionRequest 1000, 0⟩]
    ∃ plane results reached candidates built choice next other,
      create (pairConfig "spread" 4) (sessionEnvironment (emptyStore false)) = .ok plane ∧
      arrivals.Pairwise (fun first second => first.now ≤ second.now) ∧
      run arrivals plane = .ok results reached ∧
      buildCandidates (sessionRequest 1000) 0 (reached.refresh 0) = .ok candidates built ∧
      built.policy.choose (sessionRequest 1000) candidates = .ok (choice, next) ∧
      other ∈ candidates ∧ other.available = true ∧
      outstanding (arrivals.zip results) other.clusterId other.poolId 0 <
        outstanding (arrivals.zip results) choice.clusterId choice.poolId 0 := by
  intro arrivals
  have evaluated : ∃ plane, create (pairConfig "spread" 4) (sessionEnvironment (emptyStore false)) = .ok plane ∧
      (valueOf (chooseAfter arrivals (sessionRequest 1000) 0 plane)).map (fun (results, candidates, choice) =>
        decide (∃ other ∈ candidates, other.available = true ∧
          loadOf (arrivals.zip results) 0 other < loadOf (arrivals.zip results) 0 choice)) = some true :=
    ⟨_, rfl, by decide +kernel⟩
  obtain ⟨plane, created, outcome⟩ := evaluated
  obtain ⟨⟨results, candidates, choice⟩, value, lighter⟩ := Option.map_eq_some_iff.mp outcome
  obtain ⟨_, returned⟩ := valueOf_eq_some.mp value
  obtain ⟨reached, built, next, ran, listed, chosen⟩ := chooseAfter_eq_ok returned
  obtain ⟨other, member, available, fewer⟩ := of_decide_eq_true lighter
  exact ⟨plane, results, reached, candidates, built, choice, next, other, created, by decide +kernel, ran, listed,
    chosen, member, available, fewer⟩

theorem spread_least_outstanding_iff_second :
    let arrivals : List Arrival := [⟨sessionRequest 1000, 0⟩]
    ∃ plane results reached candidates built poolCounts,
      create (pairConfig "spread" 4) (sessionEnvironment (emptyStore false)) = .ok plane ∧
      run arrivals plane = .ok results reached ∧
      buildCandidates (sessionRequest 1000) 0 (reached.refresh 0) = .ok candidates built ∧
      built.policy = .spread poolCounts ∧ Spreads (arrivals.zip results) 0 poolCounts candidates := by
  intro arrivals
  have evaluated : ∃ plane, create (pairConfig "spread" 4) (sessionEnvironment (emptyStore false)) = .ok plane ∧
      (valueOf (chooseAfter arrivals (sessionRequest 1000) 0 plane)).map (fun (results, candidates, choice) =>
        decide (choice.available = true ∧ ∀ other ∈ candidates, other.available = true →
          loadOf (arrivals.zip results) 0 choice ≤ loadOf (arrivals.zip results) 0 other)) = some true :=
    ⟨_, rfl, by decide +kernel⟩
  obtain ⟨plane, created, outcome⟩ := evaluated
  obtain ⟨⟨results, candidates, choice⟩, value, least⟩ := Option.map_eq_some_iff.mp outcome
  obtain ⟨_, returned⟩ := valueOf_eq_some.mp value
  obtain ⟨reached, built, next, ran, listed, chosen⟩ := chooseAfter_eq_ok returned
  obtain ⟨available, fewest⟩ := of_decide_eq_true least
  obtain ⟨poolCounts, spread, _, spreads⟩ := spread_least_outstanding_iff (pairConfig "spread" 4)
    (sessionEnvironment (emptyStore false)) plane reached built created rfl arrivals results ran (sessionRequest 1000) 0
    candidates listed
  exact ⟨plane, results, reached, candidates, built, poolCounts, created, ran, listed, spread,
    spreads.mp ⟨choice, next, chosen, available, fewest⟩⟩

end Choices

end ControlPlane

end NimbusMesh
