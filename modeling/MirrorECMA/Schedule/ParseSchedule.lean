import MirrorECMA.ECMA.ParseExact
import MirrorECMA.ECMA.Throws
import MirrorECMA.Schedule.Data

namespace Mirror.Schedule

open ECMA ECMA.Grammar

variable [NumberText] [NumberConversion]

/-- `JSON.parse`, whose message is the engine's own. -/
def parsed (text : JsString) : Except JsString Json :=
  match jsonParse text with
  | some value => .ok value
  | none => .error (js "SyntaxError")

/-! ### Inert data -/

section

mutual

/-- `nodes` counts the values that have been visited. -/
def visitData (depth nodes : Nat) (v : Json) : Except JsString Nat :=
  if depth > 28 ∨ nodes + 1 > 100000 then .error (js "schedule data structure exceeds bound")
  else match v with
    | .null | .string _ | .bool _ => .ok (nodes + 1)
    | .number d => if d.isFinite then .ok (nodes + 1) else .error (js "schedule data must be plain JSON")
    | .array items => visitItems (depth + 1) (nodes + 1) items
    | .object fields => visitFields (depth + 1) (nodes + 1) fields

def visitItems (depth nodes : Nat) : List Json → Except JsString Nat
  | [] => .ok nodes
  | item :: rest => do
    let nodes ← visitData depth nodes item
    visitItems depth nodes rest

def visitFields (depth nodes : Nat) : List (JsString × Json) → Except JsString Nat
  | [] => .ok nodes
  | (_, value) :: rest => do
    let nodes ← visitData depth nodes value
    visitFields depth nodes rest

end

end

def scheduleData (value : Json) (maxBytes : Nat) : Except JsString Json := do
  let _ ← visitData 0 0 value
  let text := jsonStringify value
  if utf8Length text > maxBytes then throw (js "schedule data exceeds byte bound")
  parsed text

/-- The bound of inputs. -/
def inputBytes : Nat := 65535

/-! ### The scanner -/

/-- The units up to and with the closing quote, and what follows it. -/
def tokenEnd : JsString → Option (JsString × JsString)
  | [] => none
  | [u] => if u = quote then some ([u], []) else none
  | u :: v :: rest =>
    if u = backslash then (tokenEnd rest).map fun found => (u :: v :: found.1, found.2)
    else if u = quote then some ([u], v :: rest)
    else (tokenEnd (v :: rest)).map fun found => (u :: found.1, found.2)

/-- The text is at the opening quote. -/
def token (rest : JsString) : Except JsString (JsString × JsString) :=
  match rest with
  | [] => .error (js "unterminated JSON string")
  | first :: tail =>
    match tokenEnd tail with
    | none => .error (js "unterminated JSON string")
    | some (units, rest) => match jsonParse (first :: units) with
      | some (.string text) => .ok (text, rest)
      | _ => .error (js "SyntaxError")

/-- The regular expression of literals and numbers, at the start of a text. -/
def literalPrefix (rest : JsString) : Option (JsString × JsString) :=
  if (js "true").isPrefixOf rest then some (js "true", rest.drop 4)
  else if (js "false").isPrefixOf rest then some (js "false", rest.drop 5)
  else if (js "null").isPrefixOf rest then some (js "null", rest.drop 4)
  else numberPrefix rest

/-- The key of a member and its colon. -/
def memberKey (keys : List JsString) (rest : JsString) : Except JsString (List JsString × JsString) := do
  if rest.head? ≠ some quote then throw (js "invalid JSON object")
  let (key, rest) ← token rest
  if key ∈ keys then throw (js "duplicate schedule JSON key")
  let rest := skipWhitespace rest
  if rest.head? ≠ some colon then throw (js "missing JSON colon")
  return (keys ++ [key], rest.tail)

/-- What precedes the value of a member or an element. -/
def memberStart (object : Bool) (keys : List JsString) (rest : JsString) : Except JsString (List JsString × JsString) :=
  if object then memberKey keys rest else .ok (keys, rest)

/-- The loop over the members of an object or the elements of an array. -/
def scanMembers (scan : Nat → JsString → Except JsString (Nat × JsString)) (object : Bool) :
    Nat → List JsString → Nat → JsString → Except JsString (Nat × JsString)
  | 0, _, _, _ => .error (js "unterminated JSON structure")
  | fuel + 1, keys, nodes, rest => do
    if rest = [] then throw (js "unterminated JSON structure")
    let (keys, rest) ← memberStart object keys rest
    let (nodes, rest) ← scan nodes rest
    let rest := skipWhitespace rest
    if rest.head? = some (if object then closeBrace else closeBracket) then return (nodes, rest.tail)
    if rest.head? ≠ some comma then throw (js "invalid JSON separator")
    scanMembers scan object fuel keys nodes (skipWhitespace rest.tail)

/-- `scan` at the depth that leaves `levels = 33 - depth` levels. -/
def scan : Nat → Nat → JsString → Except JsString (Nat × JsString)
  | 0, _, _ => .error (js "schedule JSON structure limit")
  | levels + 1, nodes, rest =>
    if nodes + 1 > 600000 then .error (js "schedule JSON structure limit")
    else
      let rest := skipWhitespace rest
      if rest.head? = some quote then do
        let (_, rest) ← token rest
        return (nodes + 1, rest)
      else if rest.head? = some openBrace ∨ rest.head? = some openBracket then
        let object := decide (rest.head? = some openBrace)
        let inner := skipWhitespace rest.tail
        if inner.head? = some (if object then closeBrace else closeBracket) then .ok (nodes + 1, inner.tail)
        else scanMembers (scan levels) object inner.length [] (nodes + 1) inner
      else match literalPrefix rest with
        | none => .error (js "invalid JSON value")
        | some (_, rest) => .ok (nodes + 1, rest)

/-! ### Schedules -/

def scheduleExact (v : Json) (keys : List JsString) : Except JsString (Fields Json) :=
  match v with
  | .object fields =>
    if fields.length ≠ keys.length ∨ keys.any (fun key => !Fields.has fields key) then
      .error (js "unknown or missing schedule fields")
    else .ok fields
  | _ => .error (js "unknown or missing schedule fields")

/-- The text of a value that is a string. -/
def stringValue : Json → Option JsString
  | .string text => some text
  | _ => none

/-- A value that has passed `scheduleExact` and the test of its fields. -/
def identityOf (fields : Fields Json) : Option ScheduleIdentity := do
  let digest (key : String) : Option JsString := do
    let text ← (Fields.get fields (js key)) >>= stringValue
    if scheduleDigest text then some text else none
  return ⟨← digest "modelSemanticDigest", ← digest "mappingSha256", ← digest "implementationSha256"⟩

def scheduleStep (step : Json) : Except JsString ScheduleStep := do
  let fields ← scheduleExact step [js "actor", js "checkpoint"]
  match (Fields.get fields (js "actor")) >>= stringValue, (Fields.get fields (js "checkpoint")) >>= stringValue with
  | some actor, some checkpoint =>
    if scheduleIdentifier actor && (scheduleIdentifier checkpoint || decide (checkpoint = SCHEDULE_COMPLETION)) then
      .ok ⟨actor, checkpoint⟩
    else .error (js "invalid schedule identifier")
  | _, _ => .error (js "invalid schedule identifier")

def invalidSchedule {α : Type} : Except JsString α := .error (js "invalid schedule schema/profile/identity/steps")

def scheduleOf (v : Json) : Except JsString CheckpointSchedule := do
  let fields ← scheduleExact v [js "schema", js "profile", js "identity", js "inputs", js "steps"]
  let identityFields ← scheduleExact ((Fields.get fields (js "identity")).getD .null)
    [js "modelSemanticDigest", js "mappingSha256", js "implementationSha256"]
  match Fields.get fields (js "steps"), identityOf identityFields with
  | some (.array items), some identity =>
    if Fields.get fields (js "schema") ≠ some (.string SCHEDULE_SCHEMA) ∨
        Fields.get fields (js "profile") ≠ some (.string WORKER_SCHEDULE_PROFILE) ∨ items.length > 65536 then invalidSchedule
    else
      let steps ← items.mapM scheduleStep
      let inputs := (Fields.get fields (js "inputs")).getD .null
      let _ ← scheduleData inputs inputBytes
      return ⟨identity, inputs, steps⟩
  | _, _ => invalidSchedule

def parseCheckpointSchedule (text : JsString) : Except JsString CheckpointSchedule := do
  if utf8Length text > 8 * 1048576 then throw (js "schedule artifact exceeds byte bound")
  let (_, rest) ← scan 33 0 text
  if skipWhitespace rest ≠ [] then throw (js "trailing JSON data")
  let v ← parsed text
  scheduleOf v

/-- The tree that `parseCheckpointSchedule` returns, which is the parsed one. -/
def parsedSchedule (text : JsString) : Except JsString Json := do
  if utf8Length text > 8 * 1048576 then throw (js "schedule artifact exceeds byte bound")
  let (_, rest) ← scan 33 0 text
  if skipWhitespace rest ≠ [] then throw (js "trailing JSON data")
  let v ← parsed text
  let _ ← scheduleOf v
  return v

end Mirror.Schedule
