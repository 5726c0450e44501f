import FusionRouter.Types.Budget
import FusionRouter.Types.StreamChunk

/-!
# The meter of a stream

Tokens are estimated from the text of the chunks until a chunk reports the
usage, which is final.  Sums are `u64` sums of a release build: they wrap.
-/

namespace FusionRouter

/-- Prices in nano-USD per thousand tokens. -/
structure ModelPricing where
  inputCostPer1k : Nat
  outputCostPer1k : Nat

/-- `+` of `u64`. -/
def wrappingAdd (left right : Nat) : Nat :=
  (left + right) % 2 ^ 64

/-- What is measured, in nano-USD and tokens. -/
structure Totals where
  cost : Nat
  tokens : Nat
deriving DecidableEq

structure StreamMeterReport where
  promptTokens : Nat
  completionTokens : Nat
  totalTokens : Nat
  cost : Nat
  ttfbMs : Option Nat
  totalDurationMs : Option Nat
deriving DecidableEq

/-- Instants are nanoseconds of a monotonic clock. -/
structure StreamMeter where
  promptTokens : Nat
  completionTokens : Nat
  firstChunkAt : Option Nat
  lastChunkAt : Option Nat
  streamStartedAt : Nat
  cost : Nat
  finalized : Bool
deriving DecidableEq

def nanosForTokens (tokens nanosPer1kTokens : Nat) : Nat :=
  min ((tokens * nanosPer1kTokens + 500) / 1000) u64Max

namespace StreamMeter

def estimateTokens (text : String) : Nat :=
  (text.utf8ByteSize + 3) / 4

def new (now : Nat) : StreamMeter :=
  { promptTokens := 0
    completionTokens := 0
    firstChunkAt := none
    lastChunkAt := none
    streamStartedAt := now
    cost := 0
    finalized := false }

section

variable (meter : StreamMeter)

def updateCost (pricing : Option ModelPricing) : StreamMeter :=
  match pricing with
  | none => meter
  | some pricing =>
    { meter with
      cost := wrappingAdd (nanosForTokens meter.promptTokens pricing.inputCostPer1k)
        (nanosForTokens meter.completionTokens pricing.outputCostPer1k) }

def count (chunk : ChatStreamChunk) : StreamMeter :=
  match chunk.usage with
  | some usage =>
    { meter with
      promptTokens := usage.promptTokens
      completionTokens := usage.completionTokens
      finalized := true }
  | none =>
    match chunk.content with
    | some content =>
      { meter with
        completionTokens := wrappingAdd meter.completionTokens (estimateTokens content) }
    | none => meter

def recordChunk (now : Nat) (chunk : ChatStreamChunk) (pricing : Option ModelPricing) :
    StreamMeter :=
  if meter.finalized then meter
  else
    let counted := meter.count chunk
    { counted with
      firstChunkAt := some (counted.firstChunkAt.getD now)
      lastChunkAt := some now }.updateCost pricing

/-- Whole milliseconds since the stream has started. -/
def elapsedMs (instant : Nat) : Nat :=
  (instant - meter.streamStartedAt) / 1000000 % 2 ^ 64

def finalize (pricing : Option ModelPricing) : StreamMeterReport × StreamMeter :=
  let final :=
    if meter.finalized then meter
    else { meter.updateCost pricing with finalized := true }
  ({ promptTokens := final.promptTokens
     completionTokens := final.completionTokens
     totalTokens := wrappingAdd final.promptTokens final.completionTokens
     cost := final.cost
     ttfbMs := final.firstChunkAt.map final.elapsedMs
     totalDurationMs := final.lastChunkAt.map final.elapsedMs }, final)

def totals : Totals :=
  { cost := meter.cost
    tokens := wrappingAdd meter.promptTokens meter.completionTokens }

/-- The cost is that of the tokens. -/
def Priced (pricing : Option ModelPricing) : Prop :=
  meter.updateCost pricing = meter

end

theorem priced_new (now : Nat) (pricing : Option ModelPricing) : (new now).Priced pricing := by
  cases pricing with
  | none => rfl
  | some pricing =>
    simp [Priced, updateCost, new, nanosForTokens, wrappingAdd]

variable {meter : StreamMeter}

theorem Priced.recordChunk (priced : meter.Priced pricing) (now : Nat) (chunk : ChatStreamChunk) :
    (meter.recordChunk now chunk pricing).Priced pricing := by
  unfold StreamMeter.recordChunk
  split
  · exact priced
  · cases pricing <;> rfl

theorem Priced.finalize (priced : meter.Priced pricing) :
    (meter.finalize pricing).1.cost = meter.totals.cost ∧
      (meter.finalize pricing).1.totalTokens = meter.totals.tokens ∧
      (meter.finalize pricing).2.totals = meter.totals ∧
      (meter.finalize pricing).2.finalized = true := by
  unfold Priced at priced
  unfold StreamMeter.finalize
  rw [priced]
  cases finalized : meter.finalized with
  | false => exact ⟨rfl, rfl, rfl, rfl⟩
  | true => exact ⟨rfl, rfl, rfl, finalized⟩

end StreamMeter

end FusionRouter
