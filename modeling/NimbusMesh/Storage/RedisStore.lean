import NimbusMesh.Types

namespace NimbusMesh

open Foundation Foundation.Decimal

/-- The floats that are no rationals. -/
inductive NonFinite where
  | inf
  | negInf
  | nan
  deriving DecidableEq, Repr

/-- A decoded JSON document. A decoded object holds each of its keys once. -/
inductive Json where
  | null
  | bool (value : Bool)
  | int (value : ℤ)
  | float (value : ℚ)
  | nonFinite (value : NonFinite)
  | str (value : String)
  | arr (items : List Json)
  | obj (fields : List (String × Json))

def Json.truthy : Json → Bool
  | .null => false
  | .bool value => value
  | .int value => value ≠ 0
  | .float value => value ≠ 0
  | .nonFinite _ => true
  | .str value => value ≠ ""
  | .arr items => !items.isEmpty
  | .obj fields => !fields.isEmpty

def Json.typeName : Json → String
  | .null => "NoneType"
  | .bool _ => "bool"
  | .int _ => "int"
  | .float _ => "float"
  | .nonFinite _ => "float"
  | .str _ => "str"
  | .arr _ => "list"
  | .obj _ => "dict"

/-- Python's conversions to and from text: `str` of a value that is not a string, and `int` and
    `float` of a string. The cache metadata written by this program never uses them. -/
structure TextConversions where
  render : Json → String
  parseInt : String → Option ℤ
  parseFloat : String → Option ℚ

/-- The integers from which on `float` finds an integer too large: what is nearest to them is no longer a double. -/
def floatLimit : ℤ := 2 ^ 1024 - 2 ^ 970

def asFloat (value : ℤ) : Except PyError ℚ :=
  if |value| < floatLimit then .ok value else .error (.overflowError "int too large to convert to float")

namespace TextConversions

def toStr (conversions : TextConversions) : Json → String
  | .str value => value
  | value => conversions.render value

def toInt (conversions : TextConversions) : Json → Except PyError ℤ
  | .int value => .ok value
  | .float value => .ok (truncate value)
  | .nonFinite .nan => .error (.valueError "cannot convert float NaN to integer")
  | .nonFinite _ => .error (.overflowError "cannot convert float infinity to integer")
  | .bool value => .ok (if value then 1 else 0)
  | .str text =>
    match conversions.parseInt text with
    | some value => .ok value
    | none => .error (.valueError "invalid literal for int() with base 10")
  | _ => .error (.typeError "int() argument must be a string, a bytes-like object or a real number")

/-- An infinity or a `nan` is no rational. -/
def toFloat (conversions : TextConversions) : Json → Except PyError ℚ
  | .float value => .ok value
  | .nonFinite _ => .error .nonFinite
  | .int value => asFloat value
  | .bool value => .ok (if value then 1 else 0)
  | .str text =>
    match conversions.parseFloat text with
    | some value => .ok value
    | none => .error (.valueError "could not convert string to float")
  | _ => .error (.typeError "float() argument must be a string or a real number")

end TextConversions

/-- The Redis client and the hash `nimbusmesh:cache_affinity`, with the documents decoded. A
    fault is what the client raises when a call to the server fails. -/
structure RedisStore where
  enabled : Bool
  cacheAffinity : Dict String Json
  conversions : TextConversions
  hgetFault : Option PyError := none
  hsetFault : Option PyError := none

namespace RedisStore

def writeCacheAffinity (cacheKey : String) (payload : Json) : EStateM PyError RedisStore Unit :=
  fun store =>
    if store.enabled then
      match store.hsetFault with
      | some fault => .error fault store
      | none => .ok () { store with cacheAffinity := Dict.set store.cacheAffinity cacheKey payload }
    else .ok () store

/-- Decisions go to a hash of their own, which nothing in the program reads. -/
def writeDecision (requestId : Option String) : EStateM PyError RedisStore Unit :=
  fun store =>
    if store.enabled ∧ requestId.isSome then
      match store.hsetFault with
      | some fault => .error fault store
      | none => .ok () store
    else .ok () store

def fetchCacheAffinity (store : RedisStore) (cacheKey : String) : Except PyError (Option Json) :=
  if store.enabled then
    match store.hgetFault with
    | some fault => .error fault
    | none => .ok (Dict.lookup store.cacheAffinity cacheKey)
  else .ok none

end RedisStore

end NimbusMesh
