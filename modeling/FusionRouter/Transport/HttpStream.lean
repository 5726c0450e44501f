import FusionRouter.Lib.Utf8Decode

/-!
# The text of a streamed body

A streamed body arrives in chunks of bytes, which need not end between
characters.  What `drain_utf8` leaves is read together with the next chunk, so
the text does not depend on how the body is cut.
-/

namespace FusionRouter

namespace HttpTransport

structure TransportEvent where
  data : String

inductive TransportError where
  | network (message : String)

/-- `drain_utf8`: the text that can be decoded and the bytes that stay. -/
def drainUtf8 (carry : List UInt8) : String × List UInt8 :=
  if carry.isEmpty then ("", carry)
  else
    match Utf8.fromUtf8 carry with
    | .ok letters => (String.ofList letters, [])
    | .error error =>
      match error.errorLen with
      | some errorLen =>
        (Utf8.lossy (carry.take (error.validUpTo + errorLen)),
          carry.drop (error.validUpTo + errorLen))
      | none =>
        if 0 < error.validUpTo then
          (Utf8.lossy (carry.take error.validUpTo), carry.drop error.validUpTo)
        else ("", carry)

/-- One chunk of the body, or the error in its place. -/
def onChunk (pending : List UInt8) :
    Except String (List UInt8) → Except TransportError TransportEvent × List UInt8
  | .ok bytes =>
    (.ok ⟨(drainUtf8 (pending ++ bytes)).1⟩, (drainUtf8 (pending ++ bytes)).2)
  | .error message => (.error (.network message), pending)

/-- The events of the body, and the flush of what is held back at its end. -/
def streamFrom (pending : List UInt8) :
    List (Except String (List UInt8)) → List (Except TransportError TransportEvent)
  | [] => if pending.isEmpty then [] else [.ok ⟨Utf8.lossy pending⟩]
  | chunk :: chunks =>
    (onChunk pending chunk).1 :: streamFrom (onChunk pending chunk).2 chunks

def stream (chunks : List (Except String (List UInt8))) :
    List (Except TransportError TransportEvent) :=
  streamFrom [] chunks

def texts : List (Except TransportError TransportEvent) → String
  | [] => ""
  | .ok event :: events => event.data ++ texts events
  | .error _ :: events => texts events

def received : List (Except String (List UInt8)) → List UInt8
  | [] => []
  | .ok bytes :: chunks => bytes ++ received chunks
  | .error _ :: chunks => received chunks

/-- What is decoded and what stays, with whatever follows. -/
theorem lossy_drainUtf8 (carry more : List UInt8) :
    Utf8.lossy (carry ++ more) =
      (drainUtf8 carry).1 ++ Utf8.lossy ((drainUtf8 carry).2 ++ more) := by
  obtain ⟨whole, stops⟩ := Utf8.fromUtf8Loop_spec carry.length carry le_rfl
  unfold drainUtf8
  split
  · exact (String.empty_append).symm
  · split
    next letters result =>
      rw [Utf8.lossy_of_takes ((whole letters result).append more), Utf8.render_letters]
    next error result =>
      obtain ⟨letters, stopsAt⟩ := stops error result
      split
      next errorLen invalid =>
        have stops := stopsAt.stops
        rw [invalid, Option.map_some] at stops
        have taken : Utf8.framer.Takes carry (letters.map some ++ [none])
            (carry.drop (error.validUpTo + errorLen)) := by
          refine stopsAt.takes.trans (.more stops ?_)
          rw [List.drop_drop]
          exact .done _
        rw [Utf8.lossy_of_takes (taken.append more), Utf8.render_append,
          List.take_add, stopsAt.lossy_valid, Utf8.lossy_take_of_invalid stops]
      · split
        · have valid := stopsAt.lossy_valid []
          rw [List.append_nil, Utf8.lossy_nil, String.append_empty] at valid
          rw [Utf8.lossy_of_takes (stopsAt.takes.append more), valid]
        · exact (String.empty_append).symm

theorem texts_streamFrom (pending : List UInt8) (chunks : List (Except String (List UInt8))) :
    texts (streamFrom pending chunks) = Utf8.lossy (pending ++ received chunks) := by
  induction chunks generalizing pending with
  | nil =>
    rw [streamFrom, received, List.append_nil]
    cases pending with
    | nil => rfl
    | cons byte bytes => exact String.append_empty
  | cons chunk chunks induction =>
    cases chunk with
    | error message => exact induction pending
    | ok bytes =>
      rw [streamFrom, onChunk, texts, induction, received, ← List.append_assoc]
      exact (lossy_drainUtf8 (pending ++ bytes) (received chunks)).symm

/-- The text of a body is the lossy decoding of its bytes, however they are
cut. -/
theorem texts_stream (chunks : List (Except String (List UInt8))) :
    texts (stream chunks) = Utf8.lossy (received chunks) :=
  texts_streamFrom [] chunks

end HttpTransport

end FusionRouter
