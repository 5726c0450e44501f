import FusionRouter.Types.StreamChunk

/-!
# Event streams of providers

The text of a streamed reply is buffered and drained event by event.  An event
ends at the first empty line, with either kind of line ending; a buffer without
one must not grow beyond a cap.
-/

namespace FusionRouter

namespace Sse

def maxSseScanBufferBytes : Nat :=
  1024 * 1024

/-- `str::len`. -/
def byteSize (text : List Char) : Nat :=
  (text.map Char.utf8Size).sum

/-- `str::find`, as a number of characters. -/
def find (pattern : List Char) : List Char → Option Nat
  | [] => if pattern.isEmpty then some 0 else none
  | letter :: letters =>
    if pattern.isPrefixOf (letter :: letters) then some 0
    else (find pattern letters).map (· + 1)

def lf : List Char :=
  ['\n', '\n']

def crlf : List Char :=
  ['\r', '\n', '\r', '\n']

/-- The start of the earliest delimiter and its length. -/
def findSseBoundary (buf : List Char) : Option (Nat × Nat) :=
  match (find lf buf).map (fun start => (start, 2)),
    (find crlf buf).map (fun start => (start, 4)) with
  | some first, none => some first
  | none, some second => some second
  | some first, some second =>
    if first.1 ≤ second.1 then some first else some second
  | none, none => none

def stripReturn (line : List Char) : List Char :=
  if line.getLast? = some '\r' then line.dropLast else line

/-- `str::lines`, with the letters of the line that has begun. -/
def linesFrom (line : List Char) : List Char → List (List Char)
  | [] => if line.isEmpty then [] else [line]
  | letter :: letters =>
    if letter = '\n' then stripReturn line :: linesFrom [] letters
    else linesFrom (line ++ [letter]) letters

def lines (text : List Char) : List (List Char) :=
  linesFrom [] text

/-- The payload of a line, if it carries one. -/
def payload (line : List Char) : Option (List Char) :=
  (stripPrefix "data:".toList line).bind (fun rest =>
    let data := (stripPrefix [' '] rest).getD rest
    if !(trim data).isEmpty && data != "[DONE]".toList then some data
    else none)

def parseEventPayloads (raw : List Char) : List (List Char) :=
  (lines raw).filterMap payload

inductive SseError where
  | malformed (error : PayloadError)
  | message (text : String)
deriving DecidableEq

abbrev SseItem := Except SseError ChatStreamChunk

def chunkOf (data : List Char) : Option SseItem :=
  match ChatStreamChunk.fromSseData data with
  | .ok (some chunk) => some (.ok chunk)
  | .ok none => none
  | .error error => some (.error (.malformed error))

def eventChunks (raw : List Char) : List SseItem :=
  (parseEventPayloads (trim raw)).filterMap chunkOf

/-- The loop of `drain_sse_events`. -/
def drainLoop : Nat → List Char → List SseItem × List Char
  | 0, buf => ([], buf)
  | fuel + 1, buf =>
    match findSseBoundary buf with
    | some (pos, delimLen) =>
      let rest := drainLoop fuel (buf.drop (pos + delimLen))
      (eventChunks (buf.take pos) ++ rest.1, rest.2)
    | none =>
      if maxSseScanBufferBytes < byteSize buf then
        ([.error (.message "streamed SSE frame exceeded maximum buffered size")], [])
      else ([], buf)

/-- Every round but the last takes an event off the buffer. -/
def drainSseEvents (buf : List Char) : List SseItem × List Char :=
  drainLoop (buf.length + 1) buf

/-- The pieces are appended one by one, and the buffer is drained after
each. -/
def drainPieces (buf : List Char) :
    List (List Char) → List SseItem × List Char
  | [] => ([], buf)
  | piece :: pieces =>
    let drained := drainSseEvents (buf ++ piece)
    let rest := drainPieces drained.2 pieces
    (drained.1 ++ rest.1, rest.2)

/-- `chat_stream`: the events of the transport, with the buffer between them. -/
def chatStream (buf : List Char) :
    List (Except String (List Char)) → List SseItem
  | [] => []
  | .ok data :: events =>
    let drained := drainSseEvents (buf ++ data)
    drained.1 ++ chatStream drained.2 events
  | .error message :: events =>
    .error (.message ("Transport error: " ++ message)) :: chatStream buf events

/-- Without transport errors the stream yields what its pieces do. -/
theorem chatStream_pieces (buf : List Char) (pieces : List (List Char)) :
    chatStream buf (pieces.map .ok) = (drainPieces buf pieces).1 := by
  induction pieces generalizing buf with
  | nil => rfl
  | cons piece pieces ih => simp [chatStream, drainPieces, ih]

end Sse

end FusionRouter
