import NimbusMesh.Pipeline.Normalizers

namespace NimbusMesh

open Foundation Foundation.Execution

/-- The conversations that the ShareGPT loop keeps, each with the index of its record. What it raises on the
    way, it raises here. -/
def keepConversation (index : ℕ) (record : Json) : Except PyError (Option (ℕ × Conversation)) := do
  match ← readConversation index record with
  | none => return none
  | some conversation =>
    match conversation.convId with
    | .arr _ => throw (.typeError "unhashable type: 'list'")
    | .obj _ => throw (.typeError "unhashable type: 'dict'")
    | _ => return some (index, conversation)

def keptConversations (input : DatasetFile) (limit : Option ℤ) : Except PyError (List (ℕ × Conversation)) := do
  let document ← input.json
  let records ← document.records
  normalizeRecords limit keepConversation 0 0 records

section Loop

variable {ρ β γ : Type} {limit : Option ℤ} {normalize : ℕ → ρ → Except PyError (Option β)}

theorem normalizeRecords_map (image : β → γ) (index taken : ℕ) (records : List ρ) :
    normalizeRecords limit (fun position record => Option.map image <$> normalize position record) index taken records =
      List.map image <$> normalizeRecords limit normalize index taken records := by
  induction records generalizing index taken with
  | nil => rfl
  | cons record rest ih =>
    unfold normalizeRecords
    split
    · rfl
    · cases normalize index record with
      | error raised => rfl
      | ok made =>
        cases made with
        | none => exact ih (index + 1) taken
        | some row =>
          have later := ih (index + 1) (taken + 1)
          simp only [Functor.map, Except.map, Bind.bind, Except.bind, Option.map_some] at later ⊢
          rw [later]
          cases normalizeRecords limit normalize (index + 1) (taken + 1) rest <;> rfl

end Loop

section Sharegpt

variable (environment : PipelineEnvironment) (defaultModel : String)

def hashValue (index : ℕ) : Json → ℤ
  | .str value => environment.hashes.text value
  | .null => environment.hashes.null
  | .nonFinite .nan => environment.hashes.nan index
  | scalar => environment.scalarHash scalar

def keptRow (item : ℕ × Conversation) : NormalizedWorkloadRow :=
  hashedRow environment defaultModel item.1 item.2 (hashValue environment item.1 item.2.convId)

theorem sharegptRow_kept (index : ℕ) (record : Json) :
    (do
      match ← readConversation index record with
      | none => return none
      | some conversation => some <$> sharegptRow environment defaultModel index conversation) =
      Option.map (keptRow environment defaultModel) <$> keepConversation index record := by
  unfold keepConversation
  cases readConversation index record with
  | error raised => rfl
  | ok read =>
    cases read with
    | none => rfl
    | some conversation =>
      obtain ⟨promptLength, outputLength, convId⟩ := conversation
      cases convId with
      | nonFinite value => cases value <;> rfl
      | _ => rfl

theorem normalizeSharegptDataset_eq (input : DatasetFile) (limit : Option ℤ) :
    normalizeSharegptDataset environment input limit defaultModel =
      List.map (keptRow environment defaultModel) <$> keptConversations input limit := by
  unfold normalizeSharegptDataset keptConversations
  cases input.json with
  | error raised => rfl
  | ok document =>
    cases listed : document.records with
    | error raised => simp [listed, Bind.bind, Except.bind, Functor.map, Except.map]
    | ok records =>
      simp only [listed, Bind.bind, Except.bind]
      rw [← normalizeRecords_map]
      congr 1
      funext index record
      exact sharegptRow_kept environment defaultModel index record

end Sharegpt

def PipelineEnvironment.inProcess (environment : PipelineEnvironment) (hashes : ProcessHashes) : PipelineEnvironment :=
  { environment with hashes }

/-- The scalars whose hash differs from process to process. -/
def Json.HashedByProcess : Json → Prop
  | .str _ | .null | .nonFinite .nan => True
  | _ => False

section Processes

variable (environment : PipelineEnvironment) (defaultModel : String)

theorem hashValue_inProcess {convId : Json} (fixed : ¬ convId.HashedByProcess) (index : ℕ)
    (left right : ProcessHashes) :
    hashValue (environment.inProcess left) index convId = hashValue (environment.inProcess right) index convId := by
  cases convId with
  | str text => exact absurd trivial fixed
  | null => exact absurd trivial fixed
  | nonFinite value =>
    cases value with
    | nan => exact absurd trivial fixed
    | inf => rfl
    | negInf => rfl
  | _ => rfl

theorem hashValue_everywhere {convId : Json} (varies : convId.HashedByProcess) (index : ℕ) (hashed : ℤ) :
    hashValue (environment.inProcess ⟨fun _ => hashed, hashed, fun _ => hashed⟩) index convId = hashed := by
  cases convId with
  | str text => rfl
  | null => rfl
  | nonFinite value =>
    cases value with
    | nan => rfl
    | inf => exact absurd varies id
    | negInf => exact absurd varies id
  | _ => exact absurd varies id

theorem keptRow_inProcess_iff (item : ℕ × Conversation) :
    (∀ left right, keptRow (environment.inProcess left) defaultModel item =
      keptRow (environment.inProcess right) defaultModel item) ↔ ¬ item.2.convId.HashedByProcess := by
  constructor
  · intro same varies
    have tenants := congrArg NormalizedWorkloadRow.tenantId
      (same ⟨fun _ => 0, 0, fun _ => 0⟩ ⟨fun _ => 1, 1, fun _ => 1⟩)
    have differ : "sharegpt-" ++ zeroPadded 3 ((0 : ℤ) % 1000).toNat ≠
        "sharegpt-" ++ zeroPadded 3 ((1 : ℤ) % 1000).toNat := by
      decide +kernel
    simp only [keptRow, hashValue_everywhere environment varies] at tenants
    exact differ (Option.some.inj tenants)
  · intro fixed left right
    have hashed := hashValue_inProcess environment fixed item.1 left right
    unfold keptRow
    rw [hashed]
    rfl

theorem sharegpt_reproducible_iff (input : DatasetFile) (limit : Option ℤ) :
    (∀ left right, normalizeSharegptDataset (environment.inProcess left) input limit defaultModel =
      normalizeSharegptDataset (environment.inProcess right) input limit defaultModel) ↔
    ∀ kept, keptConversations input limit = .ok kept → ∀ item ∈ kept, ¬ item.2.convId.HashedByProcess := by
  simp only [normalizeSharegptDataset_eq]
  cases keptConversations input limit with
  | error raised => simp [Functor.map, Except.map]
  | ok kept =>
    constructor
    · rintro same _ ⟨⟩ item member
      apply (keptRow_inProcess_iff environment defaultModel item).mp
      intro left right
      have rows := Except.ok.inj (same left right)
      exact List.map_inj_left.mp rows item member
    · intro fixed left right
      apply congrArg Except.ok
      apply List.map_congr_left
      intro item member
      exact (keptRow_inProcess_iff environment defaultModel item).mpr (fixed kept rfl item member) left right

theorem normalizedRows_inProcess {name : String} (other : name ≠ "sharegpt") (input : DatasetFile) (limit : Option ℤ)
    (left right : ProcessHashes) :
    normalizedRows (environment.inProcess left) name input limit defaultModel =
      normalizedRows (environment.inProcess right) name input limit defaultModel := by
  have away : (name == "sharegpt") = false := by simp [other]
  unfold normalizedRows normalizerRegistry
  simp only [List.lookup_cons, away]
  rfl

end Processes

/-- Any two processes normalize a dataset to the same rows exactly when they hash the same on the way: the ShareGPT
    normalizer hashes the identifier of every conversation that it keeps. -/
theorem normalization_reproducible_iff (environment : PipelineEnvironment) (name : String) (input : DatasetFile)
    (limit : Option ℤ) (defaultModel : String) :
    (∀ left right, normalizedRows (environment.inProcess left) name input limit defaultModel =
      normalizedRows (environment.inProcess right) name input limit defaultModel) ↔
    (name = "sharegpt" → ∀ kept, keptConversations input limit = .ok kept →
      ∀ item ∈ kept, ¬ item.2.convId.HashedByProcess) := by
  by_cases chosen : name = "sharegpt"
  · subst chosen
    rw [← sharegpt_reproducible_iff environment defaultModel]
    exact ⟨fun same _ => same, fun same => same rfl⟩
  · constructor
    · exact fun _ same => absurd same chosen
    · exact fun _ => normalizedRows_inProcess environment defaultModel chosen input limit

section Samples

def conversationFile (convId : Json) : DatasetFile where
  csv := .error (.valueError "no columns")
  json := .ok (.arr [.obj [("id", convId), ("conversations", .arr [
    .obj [("from", .str "human"), ("value", .str "How do I sort a list?")],
    .obj [("from", .str "gpt"), ("value", .str "Call sorted on it.")]])]])
  suffix := ".json"

def conversationRow (convId tenantId : String) : NormalizedWorkloadRow where
  timestamp := 0
  requestId := some convId
  promptLength := 7
  expectedOutputLength := 16
  tenantId := some tenantId
  priorityClass := "interactive"
  modelId := some "llama-3-8b"
  sessionId := some (tenantId ++ "-session-0")

/-- One conversation, two processes and two tenants. -/
theorem normalization_differs :
    let environment : PipelineEnvironment := {
      conversions := { render := fun _ => "", parseInt := String.toInt?, parseFloat := fun _ => none }
      encodes := fun _ => true
      hashes := ⟨fun _ => 0, 0, fun _ => 0⟩
      scalarHash := fun _ => 0 }
    let input := conversationFile (.str "QWJhYvA_0")
    normalizedRows (environment.inProcess ⟨fun _ => 17, 17, fun _ => 17⟩) "sharegpt" input none "llama-3-8b" =
        .ok [conversationRow "QWJhYvA_0" "sharegpt-017"] ∧
      normalizedRows (environment.inProcess ⟨fun _ => -4, -4, fun _ => -4⟩) "sharegpt" input none "llama-3-8b" =
        .ok [conversationRow "QWJhYvA_0" "sharegpt-996"] ∧
      conversationRow "QWJhYvA_0" "sharegpt-017" ≠ conversationRow "QWJhYvA_0" "sharegpt-996" := by
  decide +kernel

end Samples

end NimbusMesh
