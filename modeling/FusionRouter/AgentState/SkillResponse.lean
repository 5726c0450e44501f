import Mathlib.Data.List.Infix
import Mathlib.Data.List.TakeWhile
import FusionRouter.AgentState.Runner
import FusionRouter.Types.StreamChunk

/-!
# Replies of a skill

A reply holds its patch and its action in a fenced block of JSON.  The end of
the block is the next fence in the text, whether it closes the block or stands
inside a string of the JSON.
-/

namespace FusionRouter

open List
open JsonText (place place_dropWhile)

theorem Json.WellFormed.get {value : Json} (wellFormed : value.WellFormed)
    (found : value.get key = some field) : field.WellFormed := by
  cases value with
  | object fields => exact wellFormed.lookup found
  | _ => cases found

def JsonValue.get (key : String) (value : JsonValue) : Option JsonValue :=
  (value.json.get key).pbind (fun field found => some ⟨field, value.wellFormed.get found⟩)

namespace AgentState

def AgentAction.new (raw : String) : AgentAction :=
  ⟨raw, none, ⟨.null, .null⟩⟩

end AgentState

end FusionRouter
