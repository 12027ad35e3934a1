import AgenticRag.Lib.Json

/-!
# The State of a Canvas

How the state of a canvas is saved and restored. Four of its fields are
sensitive and are encrypted one by one. The state is then cut to a size and
written: as JSON for the running workflow, and packed and compressed for a
checkpoint. Restoring goes the other way, and at the end the state is brought
up to the current schema: missing fields get their defaults, and a field of
another type than the schema has is converted, or reset where that fails.

A string is encrypted as it is and any other value as its JSON. The decrypted
text does not say which it was, so it is read as JSON, and taken as a string
where that fails.

What is not in the repository is in `CryptoEnv`: the cipher with its key, the
packer, the compression, and the built-in `float`.

The shared state is kept in the globals of the canvas, each field under a key of
its own. Old canvases have the fields under their plain names. The upgrade of
the globals takes each field from its key, or from its plain name where the key
is not there, brings them up to the schema and writes them under their keys.

The upgrade of a state works on a copy, and that of the globals in place. To
say so, dictionaries are also taken as the source has them, by reference
(`Heap`): what a call returns is then a reference, and what it changes are
cells. Only whole dictionaries are assigned to here, so what they hold is kept
as values.

## Main definitions

* `standardStateFields`, `defaultStateValues`: The schema.
* `Heap`, `upgradeStateAt`, `upgradeCanvasGlobalsAt`: The same by reference.
-/

namespace AgenticRag

namespace StateCrypto

open Py Ordered

section Schema

/-- The types of the fields. -/
inductive FieldType where
  | str
  | list
  | int
  | bool
  | float
  deriving DecidableEq, Repr

/-- The version of the schema. -/
def stateSchemaVersion : String := "1.0"

/-- The key the version is under. -/
def schemaVersionKey : String := "state_schema_version"

/-- The fields and their types. -/
def standardStateFields : List (String × FieldType) :=
  [("query", .str), ("messages", .list), ("thread_id", .str), ("retrieved_docs", .list),
   ("graded_docs", .list), ("rewritten_query", .str), ("sub_queries", .list),
   ("hypothetical_answer", .str), ("hyde_retrieval_query", .str), ("retry_count", .int),
   ("max_retries", .int), ("retry_history", .list), ("accumulated_retry_tokens", .int),
   ("should_retry", .bool), ("retry_exceeded", .bool), ("trigger_web_search_fallback", .bool),
   ("web_search_fallback_triggered", .bool), ("is_chitchat", .bool), ("selected_strategy", .str),
   ("final_answer", .str), ("answer_with_citations", .str), ("is_hallucination", .bool),
   ("faithfulness_score", .float), ("hallucination_retry_count", .int), ("tool_calls", .list)]

/-- The defaults of the fields. -/
def defaultStateValues : Dict :=
  [("query", .str ""), ("messages", .list []), ("thread_id", .str ""),
   ("retrieved_docs", .list []), ("graded_docs", .list []), ("rewritten_query", .str ""),
   ("sub_queries", .list []), ("hypothetical_answer", .str ""), ("hyde_retrieval_query", .str ""),
   ("retry_count", .int 0), ("max_retries", .int 3), ("retry_history", .list []),
   ("accumulated_retry_tokens", .int 0), ("should_retry", .bool false),
   ("retry_exceeded", .bool false), ("trigger_web_search_fallback", .bool false),
   ("web_search_fallback_triggered", .bool false), ("is_chitchat", .bool false),
   ("selected_strategy", .str ""), ("final_answer", .str ""), ("answer_with_citations", .str ""),
   ("is_hallucination", .bool false), ("faithfulness_score", .float 0 "0.0"),
   ("hallucination_retry_count", .int 0), ("tool_calls", .list [])]

/-- The fields that are encrypted. -/
def sensitiveStateFields : List String :=
  ["messages", "retrieved_docs", "final_answer", "graded_docs"]

/-- What the source imports: the JSON reader's floats and its depth, the
    built-in `float`, the cipher under the key, the packer, and the compression
    with its text encoding. The cipher takes an initialization vector, and what
    it cannot decrypt raises. -/
structure CryptoEnv (ι β : Type) where
  unicode : Unicode
  readFloat : String → Option (ℚ × String)
  decodeDepth : Nat
  toFloat : Val → Except Exc Val
  hasAes : Bool
  encryptText : ι → String → String
  decryptText : String → Option String
  packb : Val → Option β
  unpackb : β → Option Val
  archive : β → String
  unarchive : String → Option β

variable {ι β : Type} (env : CryptoEnv ι β)

/-- Whether a value is of a type. -/
def isInstance : FieldType → Val → Bool
  | .str, .str _ => true
  | .list, .list _ => true
  | .int, .int _ => true
  -- A boolean is an integer too.
  | .int, .bool _ => true
  | .bool, .bool _ => true
  | .float, .float _ _ => true
  -- The floats that are no numbers are objects here.
  | .float, .object text _ => ["nan", "inf", "-inf"].contains text
  | _, _ => false

/-- The conversion of a value to the type of a field. -/
def convert (expected : FieldType) (value : Val) : Except Exc Val :=
  match expected with
  | .list =>
      match value with
      -- `None` is the one value other than what can be iterated that does not fail.
      | .none => .ok (.list [])
      | _ => (pyIter value).map .list
  | .bool => .ok (.bool value.truthy)
  | .str => .ok (.str (value.toStr env.unicode))
  | .int => value.toInt.map .int
  | .float => env.toFloat value

/-- The value of a field after the upgrade, given its type and default. -/
def upgradeValue (expected : FieldType) (default value : Val) : Val :=
  if isInstance expected value then value
  else
    match convert env expected value with
    | .ok converted => converted
    -- A conversion that raises is logged, and the default is taken.
    | .error _ => default

/-- Bring one field up to the schema. -/
def upgradeField (state : Dict) (field : String × Val) : Dict :=
  match state.lookup field.1 with
  | none => dictSet field.1 field.2 state
  | some value =>
      match standardStateFields.lookup field.1 with
      | none => state
      | some expected => dictSet field.1 (upgradeValue env expected field.2 value) state

/-- A state brought to the schema. -/
def upgradeState (state : Val) : Dict :=
  let upgraded := match state with
    | .dict kvs => kvs
    -- What is no dictionary is taken for an empty one.
    | _ => []
  dictSet schemaVersionKey (.str stateSchemaVersion)
    (defaultStateValues.foldl (upgradeField env) upgraded)

end Schema

section Size

/-- The fields that are cut. -/
def largeStateFields : List String :=
  sensitiveStateFields ++ ["answer_with_citations", "rewritten_query"]

/-- The bytes of a value as JSON. -/
def estimateSize (obj : Val) : Nat := obj.dumps.utf8ByteSize

/-- How many characters fit, by bisection. -/
def fittingLength (text : List Char) (maxBytes lo hi : Nat) : Nat :=
  if lo < hi then
    let mid := (lo + hi + 1) / 2
    if (String.ofList (text.take mid)).utf8ByteSize ≤ maxBytes then
      fittingLength text maxBytes mid hi
    else fittingLength text maxBytes lo (mid - 1)
  else lo
termination_by hi - lo

/-- A text cut to so many bytes. -/
def truncateText (text : String) (maxBytes : Nat) : String :=
  if text.utf8ByteSize ≤ maxBytes then text
  else
    let cut := take text (fittingLength text.toList maxBytes 0 text.length)
    let room := maxBytes - cut.utf8ByteSize
    let mark := "...[truncated]"
    -- The mark is cut to the room that is left, unless there is none.
    cut ++ (if 0 < room then take mark room else mark)

/-- The keys of an item that hold text. -/
def contentKeys : List String := ["content", "text", "answer", "value", "reason", "evidence"]

/-- Cut the text under a key of a mapping. -/
def truncateKey (maxBytes : Nat) (item : Dict) (key : String) : Dict :=
  match item.lookup key with
  | some (.str text) => dictSet key (.str (truncateText text maxBytes)) item
  | _ => item

/-- An item of a list, cut. -/
def clampItem (maxBytes : Nat) : Val → Val
  | .dict item => .dict (contentKeys.foldl (truncateKey maxBytes) item)
  | .str text => .str (truncateText text maxBytes)
  | item => item

/-- The items are cut one by one until the list is large enough. -/
def clampItems (perItem maxBytes : Nat) : List Val → List Val → List Val
  | clamped, [] => clamped
  | clamped, item :: rest =>
      -- The item that reaches the bound is still kept.
      if maxBytes ≤ estimateSize (.list (clamped ++ [clampItem perItem item])) then
        clamped ++ [clampItem perItem item]
      else clampItems perItem maxBytes (clamped ++ [clampItem perItem item]) rest

mutual

/-- A value, cut. -/
def clampValue (maxBytes : Nat) : Val → Val
  | .str text => .str (truncateText text maxBytes)
  | .list xs => .list (clampItems (max 256 (maxBytes / max 1 xs.length)) maxBytes [] xs)
  | .dict kvs => .dict (clampPairs (maxBytes / max 1 kvs.length) kvs)
  | value => value

/-- The values of a dictionary, cut. -/
def clampPairs (maxBytes : Nat) : List (String × Val) → List (String × Val)
  | [] => []
  | (key, value) :: rest => (key, clampValue maxBytes value) :: clampPairs maxBytes rest

end

/-- Cut the fields one by one until the state is small enough, if it gets
    so. -/
def clampFields (perField maxBytes : Nat) : Dict → List String → Dict × Bool
  | state, [] => (state, false)
  | state, field :: rest =>
      match state.lookup field with
      | none => clampFields perField maxBytes state rest
      | some value =>
          let reduced := dictSet field (clampValue perField value) state
          if estimateSize (.dict reduced) ≤ maxBytes then (reduced, true)
          else clampFields perField maxBytes reduced rest

/-- The texts that are kept when all else is dropped. -/
def keptTexts : List String := ["final_answer", "answer_with_citations", "rewritten_query"]

/-- What is left when cutting was not enough. -/
def dropCollections (maxBytes : Nat) (state : Dict) : Dict :=
  let dropped := ["retrieved_docs", "graded_docs", "messages"].foldl
    (fun d field => dictSet field (.list []) d) state
  keptTexts.foldl (truncateKey (max 256 (maxBytes / 10))) dropped

/-- A state cut to so many bytes. -/
def clampStateSize (maxBytes : Nat) (state : Dict) : Dict :=
  if estimateSize (.dict state) ≤ maxBytes then state
  else
    let perField := max 1024 (maxBytes / max 1 largeStateFields.length)
    let (reduced, fits) := clampFields perField maxBytes state largeStateFields
    if fits then reduced else dropCollections maxBytes reduced

end Size

section Encryption

variable {ι β : Type} (env : CryptoEnv ι β)

/-- What is encrypted for a value: a string as it is, and anything else as its
    JSON. -/
def plaintextOf : Val → String
  | .str s => s
  | value => value.dumps

/-- A value, encrypted. -/
def encryptValue (iv : ι) (value : Val) : String := env.encryptText iv (plaintextOf value)

/-- What a decrypted text is taken for. -/
def valueOfPlaintext (plaintext : String) : Val :=
  match Json.loads env.readFloat env.decodeDepth plaintext with
  | .ok value => value
  -- Whatever `json.loads` raises, the text itself is taken.
  | .error _ => .str plaintext

/-- A value, decrypted. -/
def decryptValue (ciphertext : String) : Option Val :=
  (env.decryptText ciphertext).map (valueOfPlaintext env)

/-- Encrypt a field, if it is there. Each has its own initialization
    vector. -/
def encryptField (ivs : String → ι) (state : Dict) (field : String) : Dict :=
  match state.lookup field with
  | none => state
  | some .none => state
  | some value => dictSet field (.str (encryptValue env (ivs field) value)) state

/-- A state with its fields encrypted. -/
def encryptSensitiveFields (ivs : String → ι) (state : Dict) : Dict :=
  sensitiveStateFields.foldl (encryptField env ivs) state

/-- Decrypt a field. What cannot be decrypted stays. -/
def decryptField (state : Dict) (field : String) : Dict :=
  match state.lookup field with
  | some (.str ciphertext) =>
      match decryptValue env ciphertext with
      | some value => dictSet field value state
      | none => state
  | _ => state

/-- A state with its fields decrypted. -/
def decryptSensitiveFields (state : Dict) : Dict :=
  sensitiveStateFields.foldl (decryptField env) state

end Encryption

section Serialization

variable {ι β : Type} (env : CryptoEnv ι β) (ivs : String → ι) (maxBytes : Nat)

/-- The state that is written. -/
def protectedState (state : Dict) : Dict :=
  clampStateSize maxBytes (if env.hasAes then encryptSensitiveFields env ivs state else state)

/-- Set the version, if it is another. -/
def ensureVersion (state : Dict) : Dict :=
  match state.lookup schemaVersionKey with
  | some (.str version) =>
      if version = stateSchemaVersion then state
      else dictSet schemaVersionKey (.str stateSchemaVersion) state
  | _ => dictSet schemaVersionKey (.str stateSchemaVersion) state

/-- The state that was read, decrypted and brought up to the schema. -/
def restoredState (state : Val) : Option Dict := do
  let state ← if env.hasAes then
      (pyDict state).toOption.map (fun d => Val.dict (decryptSensitiveFields env d))
    else some state
  return ensureVersion (upgradeState env state)

/-- A state as protected JSON. -/
def secureSerializeRuntime (state : Dict) : String :=
  (Val.dict (protectedState env ivs maxBytes state)).dumps

/-- A state read from protected JSON. -/
def secureDeserializeRuntime (payload : String) : Option Dict := do
  restoredState env (← (Json.loads env.readFloat env.decodeDepth payload).toOption)

/-- A state as a protected archive. -/
def secureSerializePersistent (state : Dict) : Option String := do
  return env.archive (← env.packb (.dict (protectedState env ivs maxBytes state)))

/-- A state read from a protected archive. -/
def secureDeserializePersistent (payload : String) : Option Dict := do
  restoredState env (← env.unpackb (← env.unarchive payload))

end Serialization

variable {ι β : Type} (env : CryptoEnv ι β)

section Globals

/-- The key of a field among the globals. -/
def canvasStateKey (field : String) : String := "sys." ++ field

/-- Take a field of the globals into a state. -/
def collectField (globals : Dict) (state : Dict) (field : String × FieldType) : Dict :=
  match globals.lookup (canvasStateKey field.1) with
  | some value => dictSet field.1 value state
  | none =>
      match globals.lookup field.1 with
      | some value => dictSet field.1 value state
      | none => state

/-- The fields among the globals. -/
def collectFields (globals : Dict) : Dict :=
  standardStateFields.foldl (collectField globals) []

/-- Write the fields of a state under their keys. -/
def writeFields (globals : Dict) (state : Dict) : Dict :=
  state.foldl (fun globals p => dictSet (canvasStateKey p.1) p.2 globals) globals

/-- The globals with their fields upgraded. -/
def upgradeCanvasGlobals (globals : Dict) : Dict :=
  writeFields globals (upgradeState env (.dict (collectFields globals)))

end Globals

section References

/-- The dictionaries there are, each at its reference. -/
abbrev Heap := List Dict

/-- A new dictionary. -/
def Heap.alloc (d : Dict) (h : Heap) : Nat × Heap := (h.length, h ++ [d])

/-- The dictionary at a place. -/
def Heap.get (h : Heap) (r : Nat) : Dict := h.getD r []

/-- What a call is given: a dictionary, or a value that is none. -/
inductive Argument where
  | ref (r : Nat)
  | other (v : Val) (no_dict : ∀ kvs, v ≠ .dict kvs)

/-- The value that was given. -/
def Argument.value (h : Heap) : Argument → Val
  | .ref r => .dict (h.get r)
  | .other v _ => v

/-- The upgrade of a state by reference. -/
def upgradeStateAt (state : Argument) (h : Heap) : Nat × Heap :=
  let (state, h) := match state with
    | .ref r => (r, h)
    -- What is no dictionary is replaced by an empty one.
    | .other _ _ => h.alloc []
  let (upgraded, h) := h.alloc (h.get state)
  let h := defaultStateValues.foldl
    (fun h field => h.modify upgraded (fun d => upgradeField env d field)) h
  (upgraded, h.modify upgraded (dictSet schemaVersionKey (.str stateSchemaVersion)))

/-- The upgrade of the globals by reference. -/
def upgradeCanvasGlobalsAt (globals : Nat) (h : Heap) : Nat × Heap :=
  let (state, h) := h.alloc (collectFields (h.get globals))
  let (state, h) := upgradeStateAt env (.ref state) h
  let h := (h.get state).foldl
    (fun h p => h.modify globals (dictSet (canvasStateKey p.1) p.2)) h
  (globals, h)

end References

end StateCrypto

end AgenticRag
