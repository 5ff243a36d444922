import NimbusMesh.Cache.Calls
import NimbusMesh.Cache.Persistence
import NimbusMesh.Storage.RedisText

namespace NimbusMesh

open Foundation Foundation.Execution

def entriesIn (conversions : TextConversions) (key : String) : Option Json → Except PyError (List CacheEntry)
  | none => .ok []
  | some payload =>
    if payload.truthy then
      match payload with
      | .obj fields =>
        match (fields.lookup "entries").getD (.arr []) with
        | .arr items => hydratedEntries conversions key items
        | _ => .ok []
      | other => .error (.attributeError s!"'{other.typeName}' object has no attribute 'get'")
    else .ok []

theorem RedisStore.storedEntries_eq (store : RedisStore) (key : String) :
    store.storedEntries key = (store.fetchCacheAffinity key).bind (entriesIn store.conversions key) := by
  unfold RedisStore.storedEntries
  cases store.fetchCacheAffinity key with
  | error raised => rfl
  | ok payload =>
    cases payload with
    | none => rfl
    | some payload => cases payload <;> rfl

def RedisTexts.storedEntries (floats : FloatText) (texts : RedisTexts) (key : String) :
    Except PyError (List CacheEntry) :=
  (texts.fetchCacheAffinity floats key).bind (entriesIn texts.conversions key)

/-- A cache directory beside the texts of the server. Its tables are a directory without a store. -/
structure TextDirectory where
  memory : KVCacheDirectory
  server : RedisTexts

namespace TextDirectory

section Operations

variable (floats : FloatText)

def hydrateFromRedis (request : InferenceRequest) : EStateM PyError TextDirectory Unit :=
  fun directory =>
    match directory.server.storedEntries floats (cacheKey request) with
    | .error raised => .error raised directory
    | .ok [] => .ok () directory
    | .ok (entry :: rest) =>
      .ok () { directory with memory := directory.memory.setBucket (cacheKey request) (entry :: rest) }

def prepareScore (request : InferenceRequest) (now : ℚ) : EStateM PyError TextDirectory Unit :=
  fun directory =>
    let evicted := { directory with memory := directory.memory.evictStale now }
    if evicted.memory.bucket (cacheKey request) = [] then hydrateFromRedis floats request evicted
    else .ok () evicted

def score (request : InferenceRequest) (clusterId poolId : String) (now : ℚ) :
    EStateM PyError TextDirectory (ℚ × ℤ) :=
  fun directory =>
    match prepareScore floats request now directory with
    | .error raised prepared => .error raised prepared
    | .ok _ prepared =>
      match KVCacheDirectory.bestHit prepared.memory.ttlS clusterId poolId request.promptTokens now
          (prepared.memory.bucket (cacheKey request)) (0, 0) with
      | .error raised => .error raised prepared
      | .ok best => .ok (Decimal.roundTo 4 best.1, best.2) prepared

def persistToRedis (key : String) : EStateM PyError TextDirectory Unit :=
  fun directory =>
    match RedisTexts.writeCacheAffinity floats key (document (directory.memory.bucket key)) directory.server with
    | .error raised server => .error raised { directory with server }
    | .ok _ server => .ok () { directory with server }

def trim : EStateM PyError TextDirectory Unit :=
  fun directory =>
    match KVCacheDirectory.trim directory.memory with
    | .error raised memory => .error raised { directory with memory }
    | .ok _ memory => .ok () { directory with memory }

def observe (result : RequestResult) : EStateM PyError TextDirectory Unit :=
  fun directory =>
    if result.admitted then
      match persistToRedis floats (cacheKey result.request)
          { directory with memory := directory.memory.recorded result } with
      | .error raised persisted => .error raised persisted
      | .ok _ persisted => trim persisted
    else .ok () directory

end Operations

def decoded (floats : FloatText) (directory : TextDirectory) : KVCacheDirectory :=
  { directory.memory with redisStore := directory.server.decoded floats }

end TextDirectory

section Numbers

variable (floats : FloatText)

structure CacheEntry.Representable (entry : CacheEntry) : Prop where
  sizeGb : floats.IsFloat entry.sizeGb
  availableTs : floats.IsFloat entry.availableTs
  lastTouched : floats.IsFloat entry.lastTouched

def Admissible (conversions : TextConversions) (payload : Json) : Prop :=
  ∀ key entries, entriesIn conversions key (some payload) = .ok entries →
    ∀ entry ∈ entries, entry.Representable floats

variable {floats}

theorem CacheEntry.Representable.writable {entry : CacheEntry} (representable : entry.Representable floats) :
    entry.payload.Writable floats := by
  have names : ["cluster_id", "pool_id", "size_tokens", "size_gb", "available_ts", "last_touched", "hit_count"].Nodup := by
    decide
  unfold CacheEntry.payload Json.Writable
  refine ⟨names, ?_⟩
  simp only [Json.WritableFields, Json.Writable, true_and, and_true]
  exact ⟨representable.sizeGb, representable.availableTs, representable.lastTouched⟩

theorem writable_document {entries : List CacheEntry} (representable : ∀ entry ∈ entries, entry.Representable floats) :
    (document entries).Writable floats := by
  unfold document Json.Writable
  refine ⟨List.nodup_singleton "entries", ?_⟩
  simp only [Json.WritableFields, Json.Writable, and_true]
  apply (Json.writableItems_iff floats).mpr
  intro payload member
  obtain ⟨entry, inside, rfl⟩ := List.mem_map.mp member
  exact (representable entry inside).writable

theorem admissible_document (conversions : TextConversions) {entries : List CacheEntry}
    (representable : ∀ entry ∈ entries, entry.Representable floats) :
    Admissible floats conversions (document entries) := by
  intro key loaded read entry member
  have hydrated : entriesIn conversions key (some (document entries)) =
      .ok (entries.map (fun entry => { entry with key })) := hydratedEntries_payload conversions key entries
  rw [hydrated] at read
  cases read
  obtain ⟨held, inside, rfl⟩ := List.mem_map.mp member
  have numbers := representable held inside
  exact ⟨numbers.sizeGb, numbers.availableTs, numbers.lastTouched⟩

end Numbers

namespace KVCacheDirectory

/-- The directory after a trimming whose items can be sorted. -/
def trimmed (directory : KVCacheDirectory) : KVCacheDirectory :=
  { directory with
    entries := trimLoop directory.maxEntries
      (directory.trimItems.insertionSort (fun a b => trimRank a ≤ trimRank b)) directory.totalEntries
      directory.entries }

theorem trim_of_comparable {directory : KVCacheDirectory}
    (full : ¬ (directory.totalEntries : ℤ) ≤ directory.maxEntries) (comparable : Comparable directory.trimItems) :
    trim directory = .ok () directory.trimmed := by
  unfold trim
  rw [if_neg full, if_pos comparable]
  rfl

theorem persistToRedis_of_error {directory : KVCacheDirectory} {key : String} {raised : PyError} {store : RedisStore}
    (failed : RedisStore.writeCacheAffinity key (document (directory.bucket key)) directory.redisStore =
      .error raised store) :
    persistToRedis key directory = .error raised { directory with redisStore := store } := by
  unfold document at failed
  simp only [persistToRedis, failed]

theorem persistToRedis_of_ok {directory : KVCacheDirectory} {key : String} {store : RedisStore}
    (stored : RedisStore.writeCacheAffinity key (document (directory.bucket key)) directory.redisStore =
      .ok () store) :
    persistToRedis key directory = .ok () { directory with redisStore := store } := by
  unfold document at stored
  simp only [persistToRedis, stored]

theorem observe_of_error {directory left : KVCacheDirectory} {result : RequestResult} {raised : PyError}
    (admitted : result.admitted = true)
    (failed : persistToRedis (cacheKey result.request) (directory.recorded result) = .error raised left) :
    observe result directory = .error raised left := by
  simp only [observe, admitted, if_true, failed]

theorem observe_of_ok {directory persisted : KVCacheDirectory} {result : RequestResult}
    (admitted : result.admitted = true)
    (stored : persistToRedis (cacheKey result.request) (directory.recorded result) = .ok () persisted) :
    observe result directory = trim persisted := by
  simp only [observe, admitted, if_true, stored]

end KVCacheDirectory

namespace TextDirectory

section Mirroring

variable {floats : FloatText} {conversions : TextConversions}

structure Sound (floats : FloatText) (conversions : TextConversions) (directory : TextDirectory) : Prop where
  converts : directory.server.conversions = conversions
  texts : directory.server.Hold floats (Admissible floats conversions)
  entries : ∀ key, ∀ entry ∈ directory.memory.bucket key, entry.Representable floats

theorem Sound.shrunk {directory : TextDirectory} (sound : directory.Sound floats conversions)
    {memory : KVCacheDirectory} (shrinks : KVCacheDirectory.Shrinks directory.memory memory) :
    { directory with memory }.Sound floats conversions :=
  ⟨sound.converts, sound.texts, fun key entry member =>
    sound.entries key entry ((shrinks.buckets key).subset member)⟩

theorem storedEntries_decoded {directory : TextDirectory} (sound : directory.Sound floats conversions) (key : String) :
    (directory.decoded floats).redisStore.storedEntries key = directory.server.storedEntries floats key := by
  have fetched := RedisTexts.fetchCacheAffinity_decoded sound.texts key
  rw [RedisStore.storedEntries_eq]
  exact congrArg (fun payload => payload.bind (entriesIn directory.server.conversions key)) fetched

theorem storedEntries_representable {directory : TextDirectory} (sound : directory.Sound floats conversions)
    {key : String} {entries : List CacheEntry} (read : directory.server.storedEntries floats key = .ok entries) :
    ∀ entry ∈ entries, entry.Representable floats := by
  unfold RedisTexts.storedEntries at read
  rw [sound.converts] at read
  cases fetched : directory.server.fetchCacheAffinity floats key with
  | error raised =>
    rw [fetched] at read
    cases read
  | ok payload =>
    rw [fetched] at read
    cases payload with
    | none =>
      cases read
      exact fun _ member => absurd member List.not_mem_nil
    | some payload => exact RedisTexts.fetched_holds sound.texts fetched key entries read

theorem mirrors_hydrateFromRedis (request : InferenceRequest) :
    Mirrors (Sound floats conversions) (decoded floats) id (hydrateFromRedis floats request)
      (KVCacheDirectory.hydrateFromRedis request) := by
  intro directory sound
  have stored := storedEntries_decoded sound (cacheKey request)
  cases read : directory.server.storedEntries floats (cacheKey request) with
  | error raised =>
    rw [read] at stored
    have text : hydrateFromRedis floats request directory = .error raised directory := by
      simp only [hydrateFromRedis, read]
    have held : KVCacheDirectory.hydrateFromRedis request (directory.decoded floats) =
        .error raised (directory.decoded floats) := by
      simp only [KVCacheDirectory.hydrateFromRedis, stored]
    exact mirrored_error text held sound
  | ok entries =>
    rw [read] at stored
    cases entries with
    | nil =>
      have text : hydrateFromRedis floats request directory = .ok () directory := by
        simp only [hydrateFromRedis, read]
      have held : KVCacheDirectory.hydrateFromRedis request (directory.decoded floats) =
          .ok () (directory.decoded floats) := by
        simp only [KVCacheDirectory.hydrateFromRedis, stored]
      exact mirrored_ok text held sound
    | cons first rest =>
      have loaded := storedEntries_representable sound read
      have text : hydrateFromRedis floats request directory =
          .ok () { directory with memory := directory.memory.setBucket (cacheKey request) (first :: rest) } := by
        simp only [hydrateFromRedis, read]
      have held : KVCacheDirectory.hydrateFromRedis request (directory.decoded floats) =
          .ok () ((directory.decoded floats).setBucket (cacheKey request) (first :: rest)) := by
        simp only [KVCacheDirectory.hydrateFromRedis, stored]
      apply mirrored_ok text held
      refine ⟨sound.converts, sound.texts, ?_⟩
      intro key entry member
      rw [KVCacheDirectory.bucket_setBucket] at member
      split at member
      · exact loaded entry member
      · exact sound.entries key entry member

theorem mirrors_prepareScore (request : InferenceRequest) (now : ℚ) :
    Mirrors (Sound floats conversions) (decoded floats) id (prepareScore floats request now)
      (KVCacheDirectory.prepareScore request now) := by
  intro directory sound
  have evicted := sound.shrunk (KVCacheDirectory.shrinks_evictStale directory.memory now)
  by_cases empty : (directory.memory.evictStale now).bucket (cacheKey request) = []
  · have text : prepareScore floats request now directory = hydrateFromRedis floats request
        { directory with memory := directory.memory.evictStale now } := if_pos empty
    have held : KVCacheDirectory.prepareScore request now (directory.decoded floats) =
        KVCacheDirectory.hydrateFromRedis request
          (decoded floats { directory with memory := directory.memory.evictStale now }) := if_pos empty
    rcases (mirrors_hydrateFromRedis request).cases evicted with ⟨raised, left, first, second, kept⟩ |
      ⟨_, left, first, second, kept⟩
    · exact mirrored_error (text.trans first) (held.trans second) kept
    · exact mirrored_ok (text.trans first) (held.trans second) kept
  · exact mirrored_ok (if_neg empty) (if_neg empty) evicted

theorem mirrors_score (request : InferenceRequest) (clusterId poolId : String) (now : ℚ) :
    Mirrors (Sound floats conversions) (decoded floats) id (score floats request clusterId poolId now)
      (KVCacheDirectory.score request clusterId poolId now) := by
  intro directory sound
  rcases (mirrors_prepareScore request now).cases sound with ⟨raised, left, first, second, kept⟩ |
    ⟨_, ready, first, second, kept⟩
  · have text : score floats request clusterId poolId now directory = .error raised left := by
      simp only [score, first]
    have held : KVCacheDirectory.score request clusterId poolId now (directory.decoded floats) =
        .error raised (left.decoded floats) := by
      simp only [KVCacheDirectory.score, second]
    exact mirrored_error text held kept
  · cases best : KVCacheDirectory.bestHit ready.memory.ttlS clusterId poolId request.promptTokens now
      (ready.memory.bucket (cacheKey request)) (0, 0) with
    | error raised =>
      have read : KVCacheDirectory.bestHit (ready.decoded floats).ttlS clusterId poolId request.promptTokens now
        ((ready.decoded floats).bucket (cacheKey request)) (0, 0) = .error raised := best
      have text : score floats request clusterId poolId now directory = .error raised ready := by
        simp only [score, first, best]
      have held : KVCacheDirectory.score request clusterId poolId now (directory.decoded floats) =
          .error raised (ready.decoded floats) := by
        simp only [KVCacheDirectory.score, second, read]
      exact mirrored_error text held kept
    | ok hit =>
      have read : KVCacheDirectory.bestHit (ready.decoded floats).ttlS clusterId poolId request.promptTokens now
        ((ready.decoded floats).bucket (cacheKey request)) (0, 0) = .ok hit := best
      have text : score floats request clusterId poolId now directory =
          .ok (Decimal.roundTo 4 hit.1, hit.2) ready := by
        simp only [score, first, best]
      have held : KVCacheDirectory.score request clusterId poolId now (directory.decoded floats) =
          .ok (Decimal.roundTo 4 hit.1, hit.2) (ready.decoded floats) := by
        simp only [KVCacheDirectory.score, second, read]
      exact mirrored_ok text held kept

theorem writeCacheAffinity_conversions (key : String) (payload : Json) (server : RedisTexts) :
    (stateAfter (RedisTexts.writeCacheAffinity floats key payload) server).conversions = server.conversions := by
  obtain ⟨enabled, cacheAffinity, conversions, hgetFault, hsetFault⟩ := server
  cases enabled with
  | false => rfl
  | true => cases hsetFault <;> rfl

theorem Sound.served {directory : TextDirectory} (sound : directory.Sound floats conversions) {key : String}
    {payload : Json} {server : RedisTexts}
    (reached : stateAfter (RedisTexts.writeCacheAffinity floats key payload) directory.server = server)
    (hold : server.Hold floats (Admissible floats conversions)) :
    { directory with server }.Sound floats conversions := by
  have converts := @writeCacheAffinity_conversions floats key payload directory.server
  rw [reached] at converts
  exact ⟨converts.trans sound.converts, hold, sound.entries⟩

theorem mirrors_persistToRedis (key : String) :
    Mirrors (Sound floats conversions) (decoded floats) id (persistToRedis floats key)
      (KVCacheDirectory.persistToRedis key) := by
  intro directory sound
  have entries := sound.entries key
  have written := RedisTexts.mirrors_writeCacheAffinity key (writable_document entries)
    (admissible_document conversions entries)
  rcases written.cases sound.texts with ⟨raised, server, first, second, hold⟩ | ⟨_, server, first, second, hold⟩
  · have text : persistToRedis floats key directory = .error raised { directory with server } := by
      simp only [persistToRedis, first]
    have held := @KVCacheDirectory.persistToRedis_of_error (directory.decoded floats) key raised _ second
    exact mirrored_error text held (sound.served (stateAfter_error first) hold)
  · have text : persistToRedis floats key directory = .ok () { directory with server } := by
      simp only [persistToRedis, first]
    have held := @KVCacheDirectory.persistToRedis_of_ok (directory.decoded floats) key _ second
    exact mirrored_ok text held (sound.served (stateAfter_ok first) hold)

theorem mirrors_trim : Mirrors (Sound floats conversions) (decoded floats) id trim KVCacheDirectory.trim := by
  intro directory sound
  have shrunk := sound.shrunk (KVCacheDirectory.shrinks_trim directory.memory)
  by_cases room : (directory.memory.totalEntries : ℤ) ≤ directory.memory.maxEntries
  · have trimmed : KVCacheDirectory.trim directory.memory = .ok () directory.memory := if_pos room
    have text : trim directory = .ok () directory := by simp only [trim, trimmed]
    exact mirrored_ok text (if_pos room) sound
  · by_cases comparable : KVCacheDirectory.Comparable directory.memory.trimItems
    · have trimmed := KVCacheDirectory.trim_of_comparable room comparable
      have held := @KVCacheDirectory.trim_of_comparable (directory.decoded floats) room comparable
      have text : trim directory = .ok () { directory with memory := directory.memory.trimmed } := by
        simp only [trim, trimmed]
      rw [stateAfter_ok trimmed] at shrunk
      exact mirrored_ok text held shrunk
    · have trimmed : KVCacheDirectory.trim directory.memory = .error
          (.typeError "'<' not supported between instances of 'CacheEntry' and 'CacheEntry'") directory.memory :=
        (if_neg room).trans (if_neg comparable)
      have text : trim directory = .error
          (.typeError "'<' not supported between instances of 'CacheEntry' and 'CacheEntry'") directory := by
        simp only [trim, trimmed]
      exact mirrored_error text ((if_neg room).trans (if_neg comparable)) sound

theorem Sound.recorded {directory : TextDirectory} (sound : directory.Sound floats conversions) {result : RequestResult}
    (size : floats.IsFloat (result.memoryGb * 0.55)) (time : floats.IsFloat result.completionTs) :
    { directory with memory := directory.memory.recorded result }.Sound floats conversions := by
  refine ⟨sound.converts, sound.texts, ?_⟩
  intro key entry member
  rw [KVCacheDirectory.bucket_recorded] at member
  split at member
  · rcases KVCacheDirectory.mem_mergeResult (KVCacheDirectory.mem_capBucket member) with old | rfl | ⟨old, found, rfl⟩
    · exact sound.entries key entry old
    · exact ⟨size, time, time⟩
    · have held := sound.entries key old (List.mem_of_find?_eq_some found)
      refine ⟨?_, time, time⟩
      change floats.IsFloat (max old.sizeGb (result.memoryGb * 0.55))
      rcases max_choice old.sizeGb (result.memoryGb * 0.55) with kept | grown
      · rw [kept]
        exact held.sizeGb
      · rw [grown]
        exact size
  · exact sound.entries key entry member

theorem mirrors_observe {result : RequestResult}
    (numbers : result.admitted = true →
      floats.IsFloat (result.memoryGb * 0.55) ∧ floats.IsFloat result.completionTs) :
    Mirrors (Sound floats conversions) (decoded floats) id (observe floats result)
      (KVCacheDirectory.observe result) := by
  intro directory sound
  cases admitted : result.admitted with
  | false =>
    have text : observe floats result directory = .ok () directory := by simp [observe, admitted]
    exact mirrored_ok text (KVCacheDirectory.observe_rejected _ result admitted) sound
  | true =>
    have recorded := sound.recorded (numbers admitted).1 (numbers admitted).2
    rcases (mirrors_persistToRedis (cacheKey result.request)).cases recorded with
      ⟨raised, left, first, second, kept⟩ | ⟨_, persisted, first, second, kept⟩
    · have text : observe floats result directory = .error raised left := by
        simp only [observe, admitted, if_true, first]
      exact mirrored_error text (KVCacheDirectory.observe_of_error admitted second) kept
    · have text : observe floats result directory = trim persisted := by
        simp only [observe, admitted, if_true, first]
      have held := @KVCacheDirectory.observe_of_ok (directory.decoded floats) _ result admitted second
      rcases mirrors_trim.cases kept with ⟨raised, left, trimmed, mirrored, last⟩ | ⟨_, left, trimmed, mirrored, last⟩
      · exact mirrored_error (text.trans trimmed) (held.trans mirrored) last
      · exact mirrored_ok (text.trans trimmed) (held.trans mirrored) last

end Mirroring

end TextDirectory

/-- What happens on a server that several directories share: a call of this directory, or a document
    that another one writes. -/
inductive SharedCall where
  | own (call : DirectoryCall)
  | peer (key : String) (payload : Json)

inductive DirectoryReply where
  | done
  | scored (hitRatio : ℚ) (savedTokens : ℤ)
  | reserved (sizeGb : ℚ)
  | entries (buckets : List (String × List CacheEntry))
  deriving DecidableEq

def KVCacheDirectory.answer : SharedCall → EStateM PyError KVCacheDirectory DirectoryReply
  | .own (.observe result) => do
    observe result
    return .done
  | .own (.score request clusterId poolId now) => do
    let hit ← score request clusterId poolId now
    return .scored hit.1 hit.2
  | .own (.reservedGb clusterId poolId now) => fun directory =>
    .ok (.reserved (directory.reservedGb clusterId poolId now).2) (directory.reservedGb clusterId poolId now).1
  | .own (.snapshot now) => fun directory => .ok (.entries (directory.snapshot now).2) (directory.snapshot now).1
  | .own (.evictStale now) => fun directory => .ok .done (directory.evictStale now)
  | .peer key payload => fun directory =>
    .ok .done { directory with
      redisStore := { directory.redisStore with
        cacheAffinity := Dict.set directory.redisStore.cacheAffinity key payload } }

namespace TextDirectory

variable {floats : FloatText} {conversions : TextConversions}

def answer (floats : FloatText) : SharedCall → EStateM PyError TextDirectory DirectoryReply
  | .own (.observe result) => do
    observe floats result
    return .done
  | .own (.score request clusterId poolId now) => do
    let hit ← score floats request clusterId poolId now
    return .scored hit.1 hit.2
  | .own (.reservedGb clusterId poolId now) => fun directory =>
    .ok (.reserved (directory.memory.reservedGb clusterId poolId now).2)
      { directory with memory := (directory.memory.reservedGb clusterId poolId now).1 }
  | .own (.snapshot now) => fun directory =>
    .ok (.entries (directory.memory.snapshot now).2) { directory with memory := (directory.memory.snapshot now).1 }
  | .own (.evictStale now) => fun directory =>
    .ok .done { directory with memory := directory.memory.evictStale now }
  | .peer key payload => fun directory =>
    .ok .done { directory with
      server := { directory.server with
        cacheAffinity := Dict.set directory.server.cacheAffinity key (payload.dumps floats) } }

def Numeric (floats : FloatText) (conversions : TextConversions) : SharedCall → Prop
  | .own (.observe result) =>
    result.admitted = true → floats.IsFloat (result.memoryGb * 0.55) ∧ floats.IsFloat result.completionTs
  | .own _ => True
  | .peer _ payload => payload.Writable floats ∧ Admissible floats conversions payload

theorem mirrors_answer {call : SharedCall} (numeric : Numeric floats conversions call) :
    Mirrors (Sound floats conversions) (decoded floats) id (answer floats call) (KVCacheDirectory.answer call) := by
  cases call with
  | own call =>
    cases call with
    | observe result => exact (mirrors_observe numeric).bind (fun _ => mirrors_pure id DirectoryReply.done)
    | score request clusterId poolId now =>
      exact (mirrors_score request clusterId poolId now).bind (fun hit => mirrors_pure id (DirectoryReply.scored hit.1 hit.2))
    | reservedGb clusterId poolId now =>
      exact fun directory sound => ⟨rfl, sound.shrunk (KVCacheDirectory.shrinks_evictStale directory.memory now)⟩
    | snapshot now =>
      exact fun directory sound => ⟨rfl, sound.shrunk (KVCacheDirectory.shrinks_evictStale directory.memory now)⟩
    | evictStale now =>
      exact fun directory sound => ⟨rfl, sound.shrunk (KVCacheDirectory.shrinks_evictStale directory.memory now)⟩
  | peer key payload =>
    intro directory sound
    obtain ⟨writable, admissible⟩ := numeric
    have stored := Dict.mapValues_set (RedisTexts.document floats) directory.server.cacheAffinity key
      (payload.dumps floats)
    rw [RedisTexts.document_dumps writable] at stored
    refine ⟨?_, sound.converts, sound.texts.set key writable admissible, sound.entries⟩
    simp only [KVCacheDirectory.answer, answer, mapResult, decoded, RedisTexts.decoded, stored, id]

/-- Over the texts of the server the directory answers what it answers over their documents, exceptions
    included, and it leaves the texts of the documents it leaves there. -/
theorem texts_refine_documents {directory : TextDirectory} (sound : directory.Sound floats conversions)
    {calls : List SharedCall} (numeric : ∀ call ∈ calls, Numeric floats conversions call) :
    transcript KVCacheDirectory.answer calls (directory.decoded floats) = transcript (answer floats) calls directory ∧
      finalState KVCacheDirectory.answer calls (directory.decoded floats) =
        (finalState (answer floats) calls directory).decoded floats :=
  Mirrors.transcript_eq (fun call member => mirrors_answer (numeric call member)) sound

def started (conversions : TextConversions) : TextDirectory where
  memory := KVCacheDirectory.create 180 20000 (emptyStore false)
  server := { enabled := true, cacheAffinity := KeyedList.empty, conversions }

theorem sound_started (floats : FloatText) (conversions : TextConversions) :
    (started conversions).Sound floats conversions := by
  refine ⟨rfl, ?_, ?_⟩
  · intro key text found
    cases found
  · intro key entry member
    cases member

theorem texts_refine_documents_forgotten :
    let directory := started (emptyStore true).conversions
    let request := sessionRequest 1000
    let calls := [SharedCall.own (.observe (sessionResult request "c1" "p1" 10)), .own (.evictStale 500),
      .own (.score request "c1" "p1" 501)]
    transcript KVCacheDirectory.answer calls (directory.decoded tenthFloats) =
        transcript (answer tenthFloats) calls directory ∧
      finalState KVCacheDirectory.answer calls (directory.decoded tenthFloats) =
        (finalState (answer tenthFloats) calls directory).decoded tenthFloats := by
  intro directory request calls
  apply texts_refine_documents (sound_started tenthFloats (emptyStore true).conversions)
  intro call member
  simp only [calls, List.mem_cons, List.not_mem_nil, or_false] at member
  rcases member with rfl | rfl | rfl
  · intro admitted
    exact ⟨⟨22, by decide, by norm_num [sessionResult]⟩, ⟨100, by decide, by norm_num [sessionResult]⟩⟩
  · trivial
  · trivial

end TextDirectory

end NimbusMesh
