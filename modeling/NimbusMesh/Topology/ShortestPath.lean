import NimbusMesh.Foundation.Paths
import NimbusMesh.Topology.Routes

namespace NimbusMesh

open Foundation Foundation.Execution Foundation.Paths

namespace TopologyService

def Linked (topology : TopologyService) (u v : String) (weight : ℚ) : Prop :=
  ∃ edge ∈ topology.links u, edge.target = v ∧ edge.cost = weight

section Relaxation

variable (cost : ℚ) (search : Search) (edge : TopologyLink)

/-- A link is either offered, below the label its end has, or passed over for a label as good. -/
theorem relax_spec :
    (relax cost search edge = search ∧
      ∃ known, Dict.lookup search.distances edge.target = some known ∧ known ≤ cost + edge.cost) ∨
    (relax cost search edge = offered cost search edge ∧
      ∀ known, Dict.lookup search.distances edge.target = some known → cost + edge.cost < known) := by
  unfold relax
  cases held : Dict.lookup search.distances edge.target with
  | none => exact .inr ⟨rfl, by simp⟩
  | some known =>
    by_cases improves : cost + edge.cost < known
    · refine .inr ⟨by simp [improves, offered], ?_⟩
      rintro _ ⟨⟩
      exact improves
    · exact .inl ⟨by simp [improves], known, rfl, not_lt.mp improves⟩

theorem relax_reaches : ∃ known, Dict.lookup (relax cost search edge).distances edge.target = some known ∧
    known ≤ cost + edge.cost := by
  rcases relax_spec cost search edge with ⟨same, within⟩ | ⟨same, _⟩ <;> rw [same]
  · exact within
  · exact ⟨cost + edge.cost, by rw [offered, Dict.lookup_set, if_pos rfl], le_refl _⟩

theorem relax_lowers {nodeId : String} {bound : ℚ}
    (labelled : ∃ known, Dict.lookup search.distances nodeId = some known ∧ known ≤ bound) :
    ∃ known, Dict.lookup (relax cost search edge).distances nodeId = some known ∧ known ≤ bound := by
  rcases relax_spec cost search edge with ⟨same, _⟩ | ⟨same, lower⟩ <;> rw [same]
  · exact labelled
  · obtain ⟨known, held, within⟩ := labelled
    rw [offered, Dict.lookup_set]
    split
    · rename_i aimed
      exact ⟨cost + edge.cost, rfl, (lower known (aimed ▸ held)).le.trans within⟩
    · exact ⟨known, held, within⟩

theorem expand_reaches (topology : TopologyService) {nodeId : String} {rest : List (ℚ × String)}
    (member : edge ∈ topology.links nodeId) :
    ∃ known, Dict.lookup (search.expand topology cost nodeId rest).distances edge.target = some known ∧
      known ≤ cost + edge.cost :=
  foldl_establishes (fun (edge : TopologyLink) (search : Search) =>
      ∃ known, Dict.lookup search.distances edge.target = some known ∧ known ≤ cost + edge.cost)
    (fun edge search => relax_reaches cost search edge)
    (fun _ search other labelled => relax_lowers cost search other labelled) _ member

end Relaxation

section Optimality

/-- Between rounds: the labels of visited nodes are final, every other label waits on the frontier, and
    what waits there is no better than the label. -/
structure Explored (topology : TopologyService) (source : String) (search : Search) : Prop where
  labelled : Labelled topology.Linked source (· ∈ search.visited) (Dict.lookup search.distances)
  queued : ∀ v cost, Dict.lookup search.distances v = some cost → v ∉ search.visited → (cost, v) ∈ search.frontier
  covered : ∀ item ∈ search.frontier, ∃ known, Dict.lookup search.distances item.2 = some known ∧ known ≤ item.1

/-- Within a round: the links of a node popped at its final cost are being relaxed. -/
structure Expanding (topology : TopologyService) (source : String) (visited : List String) (nodeId : String)
    (cost : ℚ) (search : Search) : Prop where
  labelled : Labelled topology.Linked source (· ∈ visited) (Dict.lookup search.distances)
  known : Dict.lookup search.distances nodeId = some cost
  least : ∀ other, Path topology.Linked source nodeId other → cost ≤ other
  queued : ∀ v cost, Dict.lookup search.distances v = some cost → v ∉ nodeId :: visited → (cost, v) ∈ search.frontier
  covered : ∀ item ∈ search.frontier, ∃ known, Dict.lookup search.distances item.2 = some known ∧ known ≤ item.1

variable {topology : TopologyService} {source target nodeId : String} {cost : ℚ} {search : Search}
  {rest : List (ℚ × String)} {visited : List String}

theorem popLeast_least {frontier : List (ℚ × String)} (popped : popLeast frontier = some ((cost, nodeId), rest))
    {item : ℚ × String} (member : item ∈ frontier) : cost ≤ item.1 := by
  obtain ⟨found, chosen, same⟩ := Option.map_eq_some_iff.mp popped
  cases same
  have lowest := List.le_of_mem_argmin member chosen
  rcases Prod.Lex.toLex_le_toLex.mp lowest with lower | ⟨equal, _⟩
  · exact lower.le
  · exact equal.le

theorem explored_start (topology : TopologyService) (source : String) :
    Explored topology source (.start source) := by
  have label : ∀ v cost, Dict.lookup (Search.start source).distances v = some cost → source = v ∧ 0 = cost := by
    intro v cost held
    rw [Search.start, Dict.lookup_set] at held
    split at held
    · rename_i here
      exact ⟨here, Option.some.inj held⟩
    · cases held
  have origin : Dict.lookup (Search.start source).distances source = some 0 := by
    rw [Search.start, Dict.lookup_set, if_pos rfl]
  refine ⟨⟨⟨0, origin, le_refl 0⟩, ?_, ?_, ?_⟩, ?_, ?_⟩
  · intro v cost held
    obtain ⟨rfl, rfl⟩ := label v cost held
    exact .start
  · intro v seen
    cases seen
  · intro u seen
    cases seen
  · intro v cost held _
    obtain ⟨rfl, rfl⟩ := label v cost held
    exact List.mem_singleton_self _
  · intro item member
    cases List.mem_singleton.mp member
    exact ⟨0, origin, le_refl 0⟩

theorem Explored.stale (explored : Explored topology source search)
    (popped : popLeast search.frontier = some ((cost, nodeId), rest)) (seen : nodeId ∈ search.visited) :
    Explored topology source { search with frontier := rest } := by
  obtain ⟨_, remaining⟩ := popLeast_eq_some popped
  refine ⟨explored.labelled, ?_, ?_⟩
  · intro v other held unseen
    have waiting := explored.queued v other held unseen
    have apart : (other, v) ≠ (cost, nodeId) := by
      rintro ⟨⟩
      exact unseen seen
    rw [remaining]
    exact (List.mem_erase_of_ne apart).mpr waiting
  · intro item member
    rw [remaining] at member
    exact explored.covered item (List.mem_of_mem_erase member)

theorem Explored.popped (explored : Explored topology source search)
    (popped : popLeast search.frontier = some ((cost, nodeId), rest)) (unseen : nodeId ∉ search.visited) :
    Dict.lookup search.distances nodeId = some cost := by
  obtain ⟨member, _⟩ := popLeast_eq_some popped
  obtain ⟨known, held, within⟩ := explored.covered _ member
  have lowest := popLeast_least popped (explored.queued nodeId known held unseen)
  rw [held, le_antisymm within lowest]

theorem Explored.least (explored : Explored topology source search)
    (costs : ∀ nodeId, ∀ edge ∈ topology.links nodeId, 0 ≤ edge.cost)
    (popped : popLeast search.frontier = some ((cost, nodeId), rest)) (unseen : nodeId ∉ search.visited)
    {other : ℚ} (path : Path topology.Linked source nodeId other) : cost ≤ other := by
  apply explored.labelled.greedy (fun u v w step => ?_) unseen (fun u tentative outside held => ?_) path
  · obtain ⟨edge, member, _, rfl⟩ := step
    exact costs u edge member
  · exact popLeast_least popped (explored.queued u tentative held outside)

theorem Expanding.relaxed (costs : ∀ nodeId, ∀ edge ∈ topology.links nodeId, 0 ≤ edge.cost)
    (expanding : Expanding topology source visited nodeId cost search) {edge : TopologyLink}
    (member : edge ∈ topology.links nodeId) :
    Expanding topology source visited nodeId cost (relax cost search edge) := by
  rcases relax_spec cost search edge with ⟨same, _⟩ | ⟨same, lower⟩ <;> rw [same]
  · exact expanding
  have path : Path topology.Linked source edge.target (cost + edge.cost) :=
    (expanding.labelled.real nodeId cost expanding.known).follow ⟨edge, member, rfl, rfl⟩
  have elsewhere : edge.target ≠ nodeId := by
    intro loop
    have below := lower cost (loop ▸ expanding.known)
    linarith [costs nodeId edge member]
  have outside : edge.target ∉ visited := by
    intro final
    obtain ⟨known, held, least⟩ := expanding.labelled.least edge.target final
    linarith [lower known held, least _ path]
  have labels : Dict.lookup (offered cost search edge).distances = fun v =>
      if edge.target = v then some (cost + edge.cost) else Dict.lookup search.distances v :=
    funext (fun v => Dict.lookup_set search.distances edge.target v (cost + edge.cost))
  refine ⟨?_, ?_, expanding.least, ?_, ?_⟩
  · rw [labels]
    exact expanding.labelled.lower outside path (fun known held => (lower known held).le)
  · rw [labels]
    exact (if_neg elsewhere).trans expanding.known
  · intro v other held unseen
    rw [labels] at held
    dsimp only at held
    split at held
    · rename_i here
      cases held
      exact List.mem_append_right _ (here ▸ List.mem_singleton_self _)
    · exact List.mem_append_left _ (expanding.queued v other held unseen)
  · intro item waiting
    rcases List.mem_append.mp waiting with earlier | new
    · have below := relax_lowers cost search edge (expanding.covered item earlier)
      rw [same] at below
      exact below
    · cases List.mem_singleton.mp new
      exact ⟨cost + edge.cost, by rw [labels]; exact if_pos rfl, le_refl _⟩

theorem Explored.expanding (explored : Explored topology source search)
    (costs : ∀ nodeId, ∀ edge ∈ topology.links nodeId, 0 ≤ edge.cost)
    (popped : popLeast search.frontier = some ((cost, nodeId), rest)) (unseen : nodeId ∉ search.visited) :
    Expanding topology source search.visited nodeId cost
      { search with frontier := rest, visited := nodeId :: search.visited } := by
  obtain ⟨_, remaining⟩ := popLeast_eq_some popped
  refine ⟨explored.labelled, explored.popped popped unseen,
    fun other path => explored.least costs popped unseen path, ?_, ?_⟩
  · intro v other held outside
    obtain ⟨apart, elsewhere⟩ := not_or.mp (mt List.mem_cons.mpr outside)
    have differ : (other, v) ≠ (cost, nodeId) := fun same => apart (congrArg Prod.snd same)
    dsimp only
    rw [remaining]
    exact (List.mem_erase_of_ne differ).mpr (explored.queued v other held elsewhere)
  · intro item member
    dsimp only at member
    rw [remaining] at member
    exact explored.covered item (List.mem_of_mem_erase member)

theorem Explored.expand (explored : Explored topology source search)
    (costs : ∀ nodeId, ∀ edge ∈ topology.links nodeId, 0 ≤ edge.cost)
    (popped : popLeast search.frontier = some ((cost, nodeId), rest)) (unseen : nodeId ∉ search.visited) :
    Explored topology source (search.expand topology cost nodeId rest) := by
  have done : Expanding topology source search.visited nodeId cost (search.expand topology cost nodeId rest) :=
    List.foldlRecOn (topology.links nodeId) (relax cost) (explored.expanding costs popped unseen)
      (fun _ expanding _ member => expanding.relaxed costs member)
  have visited : (search.expand topology cost nodeId rest).visited = nodeId :: search.visited :=
    foldl_relax_visited cost (topology.links nodeId) _
  refine ⟨?_, ?_, done.covered⟩
  · have settled := done.labelled.settle done.known done.least (fun v weight step => by
      obtain ⟨edge, member, rfl, rfl⟩ := step
      exact expand_reaches cost search edge topology member)
    rw [visited]
    simpa only [List.mem_cons] using settled
  · rw [visited]
    exact done.queued

/-- What the search must answer: the least cost of a path, or nothing where there is none. -/
def Answers (topology : TopologyService) (source target : String) : Option ℚ → Prop
  | some cost => IsLeast { other | Path topology.Linked source target other } cost
  | none => ∀ cost, ¬ Path topology.Linked source target cost

theorem Finishes.answers (costs : ∀ nodeId, ∀ edge ∈ topology.links nodeId, 0 ≤ edge.cost) {result : Option ℚ}
    (finishes : Finishes topology target search result) (explored : Explored topology source search)
    (unvisited : target ∉ search.visited) : Answers topology source target result := by
  induction finishes with
  | empty popped =>
    intro cost path
    have none := popLeast_eq_none.mp popped
    apply unvisited
    apply explored.labelled.exhausted (fun v known held => ?_) path
    by_contra unseen
    have waiting := explored.queued v known held unseen
    rw [none] at waiting
    cases waiting
  | stale popped seen _ ih => exact ih (explored.stale popped seen) unvisited
  | @found search cost nodeId rest popped unseen here =>
    subst here
    exact ⟨explored.labelled.real nodeId cost (explored.popped popped unseen),
      fun other path => explored.least costs popped unseen path⟩
  | @expand search cost nodeId rest result popped unseen other _ ih =>
    apply ih (explored.expand costs popped unseen)
    unfold Search.expand
    rw [foldl_relax_visited]
    intro member
    rcases List.mem_cons.mp member with here | earlier
    · exact other here.symm
    · exact unvisited earlier

end Optimality

/-- The loop ends on every graph; with no negative cost its result is the least cost of a path,
    and infinite (`none`) exactly where there is no path. -/
theorem shortestPathCost_correct (topology : TopologyService) (source target : String) :
    Finishes topology target (.start source) (topology.shortestPathCost source target) ∧
    ((∀ nodeId, ∀ edge ∈ topology.links nodeId, 0 ≤ edge.cost) →
      (∀ cost, topology.shortestPathCost source target = some cost ↔
        IsLeast { other | Path topology.Linked source target other } cost) ∧
      (topology.shortestPathCost source target = none ↔
        ¬ ∃ cost, Path topology.Linked source target cost) ∧
      (source = target → topology.shortestPathCost source target = some 0)) := by
  have finishes := topology.shortestPathCost_finishes target source
  refine ⟨finishes, fun costs => ?_⟩
  have answers := finishes.answers costs (explored_start topology source) List.not_mem_nil
  cases result : topology.shortestPathCost source target with
  | none =>
    rw [result] at answers
    refine ⟨fun cost => ⟨nofun, fun least => absurd least.1 (answers cost)⟩, ?_, ?_⟩
    · exact ⟨fun _ ⟨cost, path⟩ => answers cost path, fun _ => rfl⟩
    · rintro rfl
      exact absurd .start (answers 0)
  | some known =>
    rw [result] at answers
    have least : ∀ cost, some known = some cost ↔
        IsLeast { other | Path topology.Linked source target other } cost := by
      intro cost
      constructor
      · rintro ⟨⟩
        exact answers
      · intro least
        rw [answers.unique least]
    refine ⟨least, ?_, ?_⟩
    · exact ⟨nofun, fun unreachable => absurd ⟨known, answers.1⟩ unreachable⟩
    · rintro rfl
      apply (least 0).mpr
      refine ⟨.start, fun other path => path.nonneg (fun u v w step => ?_)⟩
      obtain ⟨edge, member, _, rfl⟩ := step
      exact costs u edge member

def detour : TopologyService :=
  ((((({} : TopologyService).addEdge "a" "c" 400 25 5).addEdge "a" "b" 400 25 3).addEdge "a" "b" 400 25 1).addEdge
    "b" "b" 400 25 0).addEdge "b" "c" 400 25 1

theorem shortestPathCost_detour :
    detour.shortestPathCost "a" "c" = some 2 ∧
    IsLeast { other | Path detour.Linked "a" "c" other } 2 ∧
    detour.shortestPathCost "c" "a" = none ∧ ¬ ∃ cost, Path detour.Linked "c" "a" cost := by
  have costs : ∀ nodeId, ∀ edge ∈ detour.links nodeId, 0 ≤ edge.cost := by
    intro nodeId edge member
    simp only [detour, mem_links_addEdge] at member
    rcases member with ((((member | ⟨_, rfl⟩) | ⟨_, rfl⟩) | ⟨_, rfl⟩) | ⟨_, rfl⟩) | ⟨_, rfl⟩
    · cases member
    all_goals norm_num
  have forward : detour.shortestPathCost "a" "c" = some 2 := by decide +kernel
  have back : detour.shortestPathCost "c" "a" = none := by decide +kernel
  exact ⟨forward, (((shortestPathCost_correct detour "a" "c").2 costs).1 2).mp forward, back,
    ((shortestPathCost_correct detour "c" "a").2 costs).2.1.mp back⟩

end TopologyService

end NimbusMesh
