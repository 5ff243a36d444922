import Mathlib.Data.List.Forall2
import NimbusMesh.Topology.Graph
import NimbusMesh.Topology.RoundTrip

namespace NimbusMesh

open Foundation Foundation.Decimal

section Widths

def bonded (links : ℕ) : String := "NV" ++ toString links

def listedWidths : List ℕ := [1, 2, 4, 8, 12, 16, 18]

def pcieRelations : List String := ["PIX", "PXB", "PHB", "NODE", "SYS"]

/-- The number of links that a relation stands for, if it is one of bonded links. -/
def linksOf (relation : String) : Option ℕ :=
  match relation.toList with
  | 'N' :: 'V' :: digits => if digits.all Char.isDigit then some (Nat.ofDigitChars 10 digits 0) else none
  | _ => none

theorem toList_bonded (links : ℕ) : (bonded links).toList = 'N' :: 'V' :: Nat.toDigits 10 links := by
  unfold bonded
  rw [String.toList_append, Nat.toString_eq_repr, Nat.toList_repr]
  rfl

theorem linksOf_bonded (links : ℕ) : linksOf (bonded links) = some links := by
  have digits : (Nat.toDigits 10 links).all Char.isDigit = true := by
    rw [List.all_eq_true]
    exact fun c member => Nat.isDigit_of_mem_toDigits (by decide) (by decide) member
  unfold linksOf
  rw [toList_bonded]
  simp only [digits, if_true, Nat.ofDigitChars_ten_toDigits]

theorem lookup_unlisted {table : List (String × ℚ)} {links : ℕ}
    (keys : ∀ entry ∈ table, ∀ width ∈ linksOf entry.1, width ∈ listedWidths) (unlisted : links ∉ listedWidths) :
    table.lookup (bonded links) = none := by
  rw [List.lookup_eq_none_iff]
  intro entry member
  rw [bne_iff_ne]
  intro same
  apply unlisted
  apply keys entry member
  rw [← same, linksOf_bonded]
  rfl

theorem bandwidthTier_unlisted {links : ℕ} (unlisted : links ∉ listedWidths) : bandwidthTier (bonded links) = 0.1 := by
  rw [bandwidthTier, lookup_unlisted (by decide +kernel) unlisted]
  rfl

theorem latencyWeight_unlisted {links : ℕ} (unlisted : links ∉ listedWidths) : latencyWeight (bonded links) = 1.2 := by
  rw [latencyWeight, lookup_unlisted (by decide +kernel) unlisted]
  rfl

theorem bonded_ne_self (links : ℕ) : bonded links ≠ "X" := by
  intro same
  have read := linksOf_bonded links
  rw [same] at read
  cases read

theorem adjacencyCost_unlisted {links : ℕ} (unlisted : links ∉ listedWidths) : adjacencyCost (bonded links) = 2.3 := by
  rw [adjacencyCost, if_neg (bonded_ne_self links), bandwidthTier_unlisted unlisted, latencyWeight_unlisted unlisted]
  decide +kernel

end Widths

section Upgrades

/-- A relation that more NVLinks replace: fewer of them, or one over PCIe. -/
def Upgrades (old : String) (links : ℕ) : Prop :=
  (∃ fewer, 1 ≤ fewer ∧ fewer < links ∧ old = bonded fewer) ∨ (1 ≤ links ∧ old ∈ pcieRelations)

/-- The tables know the number of links, or they did not know the smaller one either. -/
def Known (old : String) (links : ℕ) : Prop :=
  links ∈ listedWidths ∨ ∃ fewer, old = bonded fewer ∧ fewer ∉ listedWidths

def PairNoWorse (old new : String) : Prop :=
  adjacencyCost new ≤ adjacencyCost old ∧ bandwidthTier old ≤ bandwidthTier new

theorem pairNoWorse_listed : ∀ fewer ∈ listedWidths, ∀ links ∈ listedWidths, fewer < links →
    PairNoWorse (bonded fewer) (bonded links) := by
  unfold PairNoWorse
  decide +kernel

theorem pairNoWorse_pcie : ∀ old ∈ pcieRelations, ∀ links ∈ listedWidths, PairNoWorse old (bonded links) := by
  unfold PairNoWorse
  decide +kernel

theorem least_listed : ∀ links ∈ listedWidths,
    adjacencyCost (bonded links) ≤ 2.3 ∧ 0.1 < bandwidthTier (bonded links) := by decide +kernel

theorem least_pcie : ∀ old ∈ pcieRelations, 0.1 < bandwidthTier old := by decide +kernel

theorem pairNoWorse_iff {old : String} {links : ℕ} (upgrade : Upgrades old links) :
    PairNoWorse old (bonded links) ↔ Known old links := by
  by_cases listed : links ∈ listedWidths
  · have better : PairNoWorse old (bonded links) := by
      rcases upgrade with ⟨fewer, _, less, rfl⟩ | ⟨_, pcie⟩
      · by_cases both : fewer ∈ listedWidths
        · exact pairNoWorse_listed fewer both links listed less
        · have least := least_listed links listed
          rw [PairNoWorse, adjacencyCost_unlisted both, bandwidthTier_unlisted both]
          exact ⟨least.1, least.2.le⟩
      · exact pairNoWorse_pcie old pcie links listed
    exact ⟨fun _ => .inl listed, fun _ => better⟩
  · rcases upgrade with ⟨fewer, _, _, rfl⟩ | ⟨_, pcie⟩
    · by_cases both : fewer ∈ listedWidths
      · constructor
        · intro better
          have tier := better.2
          rw [bandwidthTier_unlisted listed] at tier
          exact absurd tier (not_le_of_gt (least_listed fewer both).2)
        · rintro (known | ⟨other, same, unlisted⟩)
          · exact absurd known listed
          · have read := linksOf_bonded fewer
            rw [same, linksOf_bonded] at read
            cases read
            exact absurd both unlisted
      · constructor
        · exact fun _ => .inr ⟨fewer, rfl, both⟩
        · intro _
          rw [PairNoWorse, adjacencyCost_unlisted both, adjacencyCost_unlisted listed, bandwidthTier_unlisted both,
            bandwidthTier_unlisted listed]
          exact ⟨le_rfl, le_rfl⟩
    · constructor
      · intro better
        have tier := better.2
        rw [bandwidthTier_unlisted listed] at tier
        exact absurd tier (not_le_of_gt (least_pcie old pcie))
      · rintro (known | ⟨other, rfl, _⟩)
        · exact absurd known listed
        · have apart : ∀ relation ∈ pcieRelations, linksOf relation = none := by decide +kernel
          have read := apart _ pcie
          rw [linksOf_bonded] at read
          cases read

theorem Upgrades.bandwidthTier_pos {old : String} {links : ℕ} (upgrade : Upgrades old links) :
    0 < bandwidthTier old := by
  rcases upgrade with ⟨fewer, _, _, rfl⟩ | ⟨_, pcie⟩
  · by_cases listed : fewer ∈ listedWidths
    · exact lt_trans (by norm_num) (least_listed fewer listed).2
    · rw [bandwidthTier_unlisted listed]
      norm_num
  · exact lt_trans (by norm_num) (least_pcie old pcie)

theorem Upgrades.ne_self {old : String} {links : ℕ} (upgrade : Upgrades old links) : old ≠ "X" := by
  rcases upgrade with ⟨fewer, _, _, rfl⟩ | ⟨_, pcie⟩
  · exact bonded_ne_self fewer
  · rintro rfl
    revert pcie
    decide

end Upgrades

section Averages

def Lowered (old new : ℚ) : Prop := (0 < old ↔ 0 < new) ∧ new ≤ old

theorem positiveValues_lowered {before after : List (List ℚ)}
    (lowered : List.Forall₂ (List.Forall₂ Lowered) before after) :
    List.Forall₂ Lowered (GpuTopologySnapshot.positiveValues before) (GpuTopologySnapshot.positiveValues after) := by
  apply List.rel_flatMap lowered
  apply List.rel_filter
  intro old new lower
  simp only [decide_eq_true_eq]
  exact lower.1

theorem mean_lowered {old new : List ℚ} (lowered : List.Forall₂ Lowered old new) :
    (old = [] ↔ new = []) ∧ new.sum / new.length ≤ old.sum / old.length := by
  have length := lowered.length_eq
  have sums : new.sum ≤ old.sum := by
    apply List.Forall₂.sum_le_sum
    apply List.Forall₂.flip
    exact lowered.imp (fun _ _ lower => lower.2)
  constructor
  · rw [← List.length_eq_zero_iff, ← List.length_eq_zero_iff, length]
  · rw [length]
    exact div_le_div_of_nonneg_right sums (Nat.cast_nonneg _)

namespace GpuTopologySnapshot

theorem averageCost_le {before after : GpuTopologySnapshot}
    (lowered : List.Forall₂ (List.Forall₂ Lowered) before.adjacencyMatrix after.adjacencyMatrix) :
    after.averageCost ≤ before.averageCost := by
  obtain ⟨empty, mean⟩ := mean_lowered (positiveValues_lowered lowered)
  simp only [averageCost, empty]
  split
  · exact le_rfl
  · exact roundTo_mono 4 mean

theorem overallAffinity_le {before after : GpuTopologySnapshot}
    (lowered : List.Forall₂ (List.Forall₂ Lowered) after.bandwidthTiers before.bandwidthTiers) :
    before.overallAffinity ≤ after.overallAffinity := by
  obtain ⟨empty, mean⟩ := mean_lowered (positiveValues_lowered lowered)
  simp only [overallAffinity, empty]
  split
  · exact le_rfl
  · exact roundTo_mono 4 (div_le_div_of_nonneg_right mean (by norm_num))

def entry (matrix : List (List ℚ)) (i j : ℕ) : ℚ := (matrix.getD i []).getD j 0

/-- A snapshot after a change at one pair of GPUs costs no more and offers no less. -/
structure NoWorse (before after : GpuTopologySnapshot) (i j : ℕ) : Prop where
  adjacencyCost : entry after.adjacencyMatrix i j ≤ entry before.adjacencyMatrix i j
  bandwidthTier : entry before.bandwidthTiers i j ≤ entry after.bandwidthTiers i j
  averageCost : after.averageCost ≤ before.averageCost
  overallAffinity : before.overallAffinity ≤ after.overallAffinity

end GpuTopologySnapshot

end Averages

section Replacement

def bondedWord (links : ℕ) : Word where
  chars := (bonded links).toList
  solid := by
    constructor
    · rw [toList_bonded]
      exact List.cons_ne_nil _ _
    · intro c member
      rw [toList_bonded, List.mem_cons, List.mem_cons] at member
      rcases member with rfl | rfl | digit
      · decide
      · decide
      · have decimal := Nat.isDigit_of_mem_toDigits (by decide) (by decide) digit
        exact Text.isSpace_of_isDigit decimal

theorem text_bondedWord (links : ℕ) : (bondedWord links).text = bonded links := String.ofList_toList

namespace ProbeTable

variable (table : ProbeTable)

def replace (source target : Device) (word : Word) : ProbeTable :=
  { table with
    relation := fun first second =>
      if first = source ∧ second = target then word else table.relation first second }

theorem matrix_replace {related : ℚ → ℚ → Prop} (same : ∀ x, related x x) {source target : Device} {word : Word}
    {value : String → ℚ} (changed : related (value (table.relation source target).text) (value word.text)) :
    List.Forall₂ (List.Forall₂ related) (table.matrix value) ((table.replace source target word).matrix value) := by
  have gpus : (table.replace source target word).gpus = table.gpus := rfl
  unfold matrix
  rw [gpus, List.forall₂_map_left_iff, List.forall₂_map_right_iff, List.forall₂_same]
  intro first _
  rw [List.forall₂_map_left_iff, List.forall₂_map_right_iff, List.forall₂_same]
  intro second _
  simp only [replace]
  split
  · rename_i pair
    rw [pair.1, pair.2]
    exact changed
  · exact same _

section Entries

variable {i j : ℕ} {source target : Device} (row : table.gpus[i]? = some source)
  (column : table.gpus[j]? = some target) (value : String → ℚ)

include row column

theorem entry_matrix :
    GpuTopologySnapshot.entry (table.matrix value) i j = value (table.relation source target).text := by
  simp [GpuTopologySnapshot.entry, matrix, row, column]

theorem entry_replace (word : Word) :
    GpuTopologySnapshot.entry ((table.replace source target word).matrix value) i j = value word.text := by
  have replaced : (table.replace source target word).relation source target = word := if_pos ⟨rfl, rfl⟩
  have read := (table.replace source target word).entry_matrix row column value
  rw [replaced] at read
  exact read

end Entries

end ProbeTable

theorem averages_no_worse {table : ProbeTable} {source target : Device} {links : ℕ}
    (upgrade : Upgrades (table.relation source target).text links)
    (better : PairNoWorse (table.relation source target).text (bonded links)) (layout : ProbeLayout table)
    (relaid : ProbeLayout (table.replace source target (bondedWord links))) :
    relaid.snapshot.averageCost ≤ layout.snapshot.averageCost ∧
      layout.snapshot.overallAffinity ≤ relaid.snapshot.overallAffinity := by
  have text := text_bondedWord links
  have tier := upgrade.bandwidthTier_pos
  have lowered : Lowered (adjacencyCost (table.relation source target).text)
      (adjacencyCost (bondedWord links).text) := by
    rw [text]
    exact ⟨iff_of_true (adjacencyCost_pos upgrade.ne_self) (adjacencyCost_pos (bonded_ne_self links)), better.1⟩
  have raised : flip Lowered (bandwidthTier (table.relation source target).text)
      (bandwidthTier (bondedWord links).text) := by
    rw [text]
    exact ⟨iff_of_true (tier.trans_le better.2) tier, better.2⟩
  have same : ∀ x, Lowered x x := fun _ => ⟨Iff.rfl, le_rfl⟩
  have costs := @ProbeTable.matrix_replace table Lowered same _ _ _ _ lowered
  have tiers := @ProbeTable.matrix_replace table (flip Lowered) same _ _ _ _ raised
  constructor
  · exact GpuTopologySnapshot.averageCost_le costs
  · apply GpuTopologySnapshot.overallAffinity_le
    apply List.Forall₂.flip
    exact tiers.imp (fun _ _ rows => rows.flip)

/-- More NVLinks between two GPUs are no worse for the pair and for the cluster exactly when the tables list
    their number or did not list the smaller one either: any other number is taken for an unknown relation. -/
theorem more_links_no_worse_iff (table : ProbeTable) (layout : ProbeLayout table) (i j : ℕ) (source target : Device)
    (row : table.gpus[i]? = some source) (column : table.gpus[j]? = some target) (links : ℕ)
    (upgrade : Upgrades (table.relation source target).text links)
    (relaid : ProbeLayout (table.replace source target (bondedWord links))) :
    ∃ before after, GpuTopologySnapshot.fromText layout.text = .ok before ∧
      GpuTopologySnapshot.fromText relaid.text = .ok after ∧
      (before.NoWorse after i j ↔ Known (table.relation source target).text links) := by
  refine ⟨layout.snapshot, relaid.snapshot, layout.fromText_text, relaid.fromText_text, ?_⟩
  have old : ∀ value, GpuTopologySnapshot.entry (table.matrix value) i j = value (table.relation source target).text :=
    table.entry_matrix row column
  have new : ∀ value, GpuTopologySnapshot.entry
      ((table.replace source target (bondedWord links)).matrix value) i j = value (bonded links) := by
    intro value
    rw [table.entry_replace row column, text_bondedWord]
  rw [← pairNoWorse_iff upgrade]
  constructor
  · intro noWorse
    constructor
    · exact (new adjacencyCost).ge.trans (noWorse.adjacencyCost.trans (old adjacencyCost).le)
    · exact (old bandwidthTier).ge.trans (noWorse.bandwidthTier.trans (new bandwidthTier).le)
  · intro better
    obtain ⟨average, affinity⟩ := averages_no_worse upgrade better layout relaid
    constructor
    · exact (new adjacencyCost).le.trans (better.1.trans (old adjacencyCost).ge)
    · exact (old bandwidthTier).le.trans (better.2.trans (new bandwidthTier).ge)
    · exact average
    · exact affinity

section Pair

open ProbeLayout

def relinked (links : ℕ) (source target : Device) : Word :=
  if source = firstGpu ∧ target = secondGpu then bondedWord links else sampleRelation source target

/-- Six links in place of four are taken for an unknown relation, the slowest of all. -/
theorem six_links_worse_than_four :
    ¬ ∀ (table : ProbeTable) (layout : ProbeLayout table) (i j : ℕ) (source target : Device) (links : ℕ)
      (relaid : ProbeLayout (table.replace source target (bondedWord links)))
      (before after : GpuTopologySnapshot),
      i ≠ j → table.gpus[i]? = some source → table.gpus[j]? = some target →
      Upgrades (table.relation source target).text links →
      GpuTopologySnapshot.fromText layout.text = .ok before →
      GpuTopologySnapshot.fromText relaid.text = .ok after → before.NoWorse after i j := by
  intro claimed
  have upgrade : Upgrades (sampleRelation firstGpu secondGpu).text 6 :=
    .inl ⟨4, by decide, by decide, by decide +kernel⟩
  have noWorse := claimed (sampleTable sampleRelation) (sampleLayout sampleRelation) 0 1 firstGpu secondGpu 6
    (sampleLayout (relinked 6)) _ _ (by decide) rfl rfl upgrade (sampleLayout sampleRelation).fromText_text
    (sampleLayout (relinked 6)).fromText_text
  have less : GpuTopologySnapshot.entry ((sampleTable (relinked 6)).matrix bandwidthTier) 0 1 <
      GpuTopologySnapshot.entry ((sampleTable sampleRelation).matrix bandwidthTier) 0 1 := by decide +kernel
  exact absurd noWorse.bandwidthTier (not_le_of_gt less)

theorem more_links_no_worse_iff_eight :
    ∃ before after, GpuTopologySnapshot.fromText sampleText = .ok before ∧
      GpuTopologySnapshot.fromText (sampleLayout (relinked 8)).text = .ok after ∧ before.NoWorse after 0 1 := by
  have same : (sampleLayout sampleRelation).text = sampleText := by decide +kernel
  obtain ⟨before, after, first, second, exactly⟩ := more_links_no_worse_iff (sampleTable sampleRelation)
    (sampleLayout sampleRelation) 0 1 firstGpu secondGpu rfl rfl 8
    (.inl ⟨4, by decide, by decide, by decide +kernel⟩) (sampleLayout (relinked 8))
  rw [same] at first
  exact ⟨before, after, first, second, exactly.mpr (.inl (by decide))⟩

end Pair

end Replacement

end NimbusMesh
