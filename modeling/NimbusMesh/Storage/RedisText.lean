import NimbusMesh.Foundation.Simulation
import NimbusMesh.Storage.JsonText

namespace NimbusMesh

open Foundation Foundation.Execution

/-- The Redis client and the hash `nimbusmesh:cache_affinity` as the server holds it: a text for each key. -/
structure RedisTexts where
  enabled : Bool
  cacheAffinity : Dict String String
  conversions : TextConversions
  hgetFault : Option PyError := none
  hsetFault : Option PyError := none

namespace RedisTexts

variable (floats : FloatText)

def writeCacheAffinity (cacheKey : String) (payload : Json) : EStateM PyError RedisTexts Unit :=
  fun texts =>
    if texts.enabled then
      match texts.hsetFault with
      | some fault => .error fault texts
      | none => .ok () { texts with cacheAffinity := Dict.set texts.cacheAffinity cacheKey (payload.dumps floats) }
    else .ok () texts

def fetchCacheAffinity (texts : RedisTexts) (cacheKey : String) : Except PyError (Option Json) :=
  if texts.enabled then
    match texts.hgetFault with
    | some fault => .error fault
    | none =>
      match Dict.lookup texts.cacheAffinity cacheKey with
      | none => .ok none
      | some text =>
        match Json.loads floats text with
        | some document => .ok (some document)
        | none => .error (.valueError "Expecting value")
  else .ok none

/-- What the texts say. A text that is no document stands for none. -/
def document (text : String) : Json := (Json.loads floats text).getD .null

def decoded (texts : RedisTexts) : RedisStore where
  enabled := texts.enabled
  cacheAffinity := Dict.mapValues (document floats) texts.cacheAffinity
  conversions := texts.conversions
  hgetFault := texts.hgetFault
  hsetFault := texts.hsetFault

def Hold (property : Json → Prop) (texts : RedisTexts) : Prop :=
  ∀ key text, Dict.lookup texts.cacheAffinity key = some text →
    ∃ held, Json.loads floats text = some held ∧ property held

variable {floats} {property : Json → Prop}

theorem document_dumps {value : Json} (writable : value.Writable floats) :
    document floats (value.dumps floats) = value := by
  rw [document, Json.loads_dumps floats writable]
  rfl

theorem fetchCacheAffinity_decoded {texts : RedisTexts} (hold : texts.Hold floats property) (cacheKey : String) :
    (texts.decoded floats).fetchCacheAffinity cacheKey = texts.fetchCacheAffinity floats cacheKey := by
  unfold fetchCacheAffinity RedisStore.fetchCacheAffinity
  simp only [decoded, Dict.lookup_mapValues]
  cases texts.enabled with
  | false => rfl
  | true =>
    cases texts.hgetFault with
    | some fault => rfl
    | none =>
      cases found : Dict.lookup texts.cacheAffinity cacheKey with
      | none => rfl
      | some text =>
        obtain ⟨held, read, _⟩ := hold cacheKey text found
        simp only [if_true, Option.map_some, document, read, Option.getD_some]

theorem fetched_holds {texts : RedisTexts} (hold : texts.Hold floats property) {cacheKey : String} {held : Json}
    (fetched : texts.fetchCacheAffinity floats cacheKey = .ok (some held)) : property held := by
  unfold fetchCacheAffinity at fetched
  split at fetched
  · split at fetched
    · cases fetched
    · cases found : Dict.lookup texts.cacheAffinity cacheKey with
      | none =>
        rw [found] at fetched
        cases fetched
      | some text =>
        obtain ⟨read, loaded, holds⟩ := hold cacheKey text found
        simp only [found, loaded] at fetched
        cases fetched
        exact holds
  · cases fetched

theorem Hold.set {texts : RedisTexts} (hold : texts.Hold floats property) (cacheKey : String) {payload : Json}
    (writable : payload.Writable floats) (holds : property payload) :
    { texts with
      cacheAffinity := Dict.set texts.cacheAffinity cacheKey (payload.dumps floats) }.Hold floats property := by
  intro key text found
  rw [Dict.lookup_set] at found
  split at found
  · cases found
    exact ⟨payload, Json.loads_dumps floats writable, holds⟩
  · exact hold key text found

theorem mirrors_writeCacheAffinity (cacheKey : String) {payload : Json} (writable : payload.Writable floats)
    (holds : property payload) :
    Mirrors (Hold floats property) (decoded floats) id (writeCacheAffinity floats cacheKey payload)
      (RedisStore.writeCacheAffinity cacheKey payload) := by
  rintro ⟨enabled, cacheAffinity, conversions, hgetFault, hsetFault⟩ hold
  cases enabled with
  | false => exact ⟨rfl, hold⟩
  | true =>
    cases hsetFault with
    | some raised => exact ⟨rfl, hold⟩
    | none =>
      have stored := Dict.mapValues_set (document floats) cacheAffinity cacheKey (payload.dumps floats)
      rw [document_dumps writable] at stored
      refine ⟨?_, hold.set cacheKey writable holds⟩
      simp only [writeCacheAffinity, RedisStore.writeCacheAffinity, decoded, if_true, mapResult, stored, id]

end RedisTexts

end NimbusMesh
