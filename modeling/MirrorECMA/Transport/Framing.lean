import MirrorECMA.ECMA.Text

namespace Mirror.Transport

open ECMA

abbrev Byte := BitVec 8
abbrev Bytes := List Byte

def LF : Byte := 0x0A
def CR : Byte := 0x0D

def MAX_PROTOCOL_LINE_BYTES : Nat := 65535

/-! ### The line iterator -/

inductive Outcome where
  | value (line : JsString)
  | done
  | rejected (err : JsString)
  deriving DecidableEq

/-- The state behind `lineIterator`; a promise is known by the number of its pull. -/
structure Sink where
  buffer : List JsString := []
  waiters : List Nat := []
  closed : Bool := false
  failure : Option JsString := none
  settled : List (Nat × Outcome) := []

namespace Sink

def emit (sink : Sink) (line : JsString) : Sink :=
  match sink.waiters with
  | w :: waiters => { sink with waiters, settled := sink.settled ++ [(w, .value line)] }
  | [] => { sink with buffer := sink.buffer ++ [line] }

def finish (sink : Sink) : Sink :=
  if sink.closed then sink
  else { sink with closed := true, waiters := [], settled := sink.settled ++ sink.waiters.map fun w => (w, .done) }

def fail (sink : Sink) (err : JsString) : Sink :=
  if sink.closed then sink
  else { sink with
    closed := true, failure := some err, buffer := [], waiters := []
    settled := sink.settled ++ sink.waiters.map fun w => (w, .rejected err) }

def pull (sink : Sink) (id : Nat) : Sink :=
  match sink.failure, sink.buffer with
  | some err, _ => { sink with settled := sink.settled ++ [(id, .rejected err)] }
  | none, line :: buffer => { sink with buffer, settled := sink.settled ++ [(id, .value line)] }
  | none, [] =>
    if sink.closed then { sink with settled := sink.settled ++ [(id, .done)] }
    else { sink with waiters := sink.waiters ++ [id] }

end Sink

/-! ### Framing -/

def framingError (message : JsString) : JsString := js "protocol framing error: " ++ message

def tooLong (bytes : Nat) : JsString :=
  framingError (js "protocol line is " ++ decimal bytes ++ js " UTF-8 bytes; maximum is " ++
    decimal MAX_PROTOCOL_LINE_BYTES)

/-- A raw line without one trailing carriage return. -/
def stripCR (raw : Bytes) : Bytes := if raw.getLast? = some CR then raw.dropLast else raw

section

-- `TextDecoder.decode` with `fatal: true`
variable (decode : Bytes → Option JsString)

def decodePayload (rawPayload : Bytes) : Except JsString JsString :=
  let payload := stripCR rawPayload
  if payload.length > MAX_PROTOCOL_LINE_BYTES then .error (tooLong payload.length)
  else
    match decode payload with
    | some text => .ok text
    | none => .error (framingError (js "protocol line is not valid UTF-8"))

def appendPrefix (pending part : Bytes) : Except JsString Bytes :=
  let total := pending.length + part.length
  let last := if part.length > 0 then part.getLast? else pending.getLast?
  if total > MAX_PROTOCOL_LINE_BYTES + 1 ∨ (total > MAX_PROTOCOL_LINE_BYTES ∧ last ≠ some CR) then
    .error (framingError (js "protocol line exceeds " ++ decimal MAX_PROTOCOL_LINE_BYTES ++ js " UTF-8 bytes"))
  else .ok (pending ++ part)

/-- What `onData` does at a newline, `part` being the bytes of the chunk before it. -/
def completeLine (pending part : Bytes) : Except JsString JsString :=
  let rawLength := pending.length + part.length
  let endsInCr := if part.length > 0 then part.getLast? = some CR else pending.getLast? = some CR
  let payloadLength := rawLength - (if endsInCr then 1 else 0)
  if payloadLength > MAX_PROTOCOL_LINE_BYTES then .error (tooLong payloadLength)
  else decodePayload decode (pending ++ part)

/-- The loop of `onData`: `part` is what it has passed of the chunk since the last newline. The lines it completed and
the bytes left pending. -/
def scanChunk (pending part : Bytes) : Bytes → Except JsString (List JsString × Bytes)
  | [] => do return ([], ← appendPrefix pending part)
  | byte :: rest =>
    if byte = LF then do
      let line ← completeLine decode pending part
      if rest = [] then return ([line], [])
      let (completed, pending) ← scanChunk [] [] rest
      return (line :: completed, pending)
    else scanChunk pending (part ++ [byte]) rest

/-- A readable with the framing attached, and its consumer. -/
structure Reader where
  pending : Bytes := []
  terminal : Bool := false
  fatal : Nat := 0
  sink : Sink := {}
  pulls : Nat := 0

namespace Reader

def stop (reader : Reader) (err : JsString) : Reader :=
  if reader.terminal then reader
  else { reader with terminal := true, sink := reader.sink.fail err, fatal := reader.fatal + 1 }

def onData (reader : Reader) (chunk : Bytes) : Reader :=
  if reader.terminal then reader
  else
    match scanChunk decode reader.pending [] chunk with
    | .ok (completed, pending) => { reader with pending, sink := completed.foldl Sink.emit reader.sink }
    | .error err => reader.stop err

def onEnd (reader : Reader) : Reader :=
  if reader.terminal then reader
  else if reader.pending.length > 0 then
    reader.stop (framingError (js "protocol line is not terminated by LF before EOF"))
  else { reader with terminal := true, sink := reader.sink.finish }

def onClose (reader : Reader) : Reader :=
  if reader.terminal then reader
  else { reader with terminal := true, pending := [], sink := reader.sink.finish }

/-- `next` of the iterator. -/
def next (reader : Reader) : Reader :=
  { reader with sink := reader.sink.pull reader.pulls, pulls := reader.pulls + 1 }

end Reader

inductive Event where
  | data (chunk : Bytes)
  | end
  | close
  | error
  | next

def step (reader : Reader) : Event → Reader
  | .data chunk => reader.onData decode chunk
  | .end => reader.onEnd
  | .close | .error => reader.onClose
  | .next => reader.next

def run (events : List Event) : Reader := events.foldl (step decode) {}

end

end Mirror.Transport
