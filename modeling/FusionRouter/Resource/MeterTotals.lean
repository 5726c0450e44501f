import FusionRouter.Resource.StreamMeter

/-!
# The totals of a metered stream

What a meter reports after any sequence of chunks.  The first usage report fixes
the tokens; without one they are estimated.  The cost is that of the tokens at
the given price, unless the sum of its two parts wraps.
-/

namespace FusionRouter

namespace StreamMeter

/-- The chunks of a stream with the instants at which they are recorded. -/
abbrev Chunks := List (Nat × ChatStreamChunk)

def recordAll (meter : StreamMeter) (pricing : Option ModelPricing)
    (chunks : Chunks) : StreamMeter :=
  chunks.foldl (fun meter chunk => meter.recordChunk chunk.1 chunk.2 pricing) meter

def firstUsage (chunks : Chunks) : Option Usage :=
  chunks.findSome? (fun chunk => chunk.2.usage)

def estimates (chunks : Chunks) : Nat :=
  (chunks.map (fun chunk => (chunk.2.content.map estimateTokens).getD 0)).sum

def meteredPrompt (chunks : Chunks) : Nat :=
  ((firstUsage chunks).map Usage.promptTokens).getD 0

def meteredCompletion (chunks : Chunks) : Nat :=
  ((firstUsage chunks).map Usage.completionTokens).getD (estimates chunks)

/-- What the meter shows of these chunks; the estimates wrap. -/
structure Counts (chunks : Chunks) (meter : StreamMeter) : Prop where
  final : meter.finalized = (firstUsage chunks).isSome
  prompt : meter.promptTokens = meteredPrompt chunks
  completion : meter.completionTokens = ((firstUsage chunks).map Usage.completionTokens).getD
      (estimates chunks % 2 ^ 64)

theorem Counts.recordChunk (counts : Counts chunks meter) (now : Nat)
    (chunk : ChatStreamChunk) (pricing : Option ModelPricing) :
    Counts (chunks ++ [(now, chunk)]) (meter.recordChunk now chunk pricing) := by
  obtain ⟨final, prompt, completion⟩ := counts
  have first : firstUsage (chunks ++ [(now, chunk)]) = (firstUsage chunks).or chunk.usage := by
    simp [firstUsage, List.findSome?_append]
  unfold meteredPrompt at prompt
  cases reported : firstUsage chunks with
  | some usage =>
    rw [reported] at final prompt completion
    have closed : meter.finalized = true := final
    rw [StreamMeter.recordChunk, if_pos closed]
    refine ⟨?_, ?_, ?_⟩ <;> simp [final, prompt, completion, first, meteredPrompt, reported]
  | none =>
    rw [reported] at final prompt completion
    have same : ∀ held : StreamMeter, (held.updateCost pricing).finalized = held.finalized ∧
        (held.updateCost pricing).promptTokens = held.promptTokens ∧
        (held.updateCost pricing).completionTokens =
          held.completionTokens := by
      intro held
      cases pricing <;> exact ⟨rfl, rfl, rfl⟩
    rw [StreamMeter.recordChunk, final]
    constructor <;> cases usage : chunk.usage <;> cases content : chunk.content <;>
      simp_all [count, meteredPrompt, estimates, wrappingAdd]

theorem counts_recordAll (start : Nat) (pricing : Option ModelPricing) (chunks : Chunks) :
    Counts chunks ((new start).recordAll pricing chunks) ∧
      ((new start).recordAll pricing chunks).Priced pricing := by
  induction chunks using List.reverseRecOn with
  | nil => exact ⟨⟨rfl, rfl, rfl⟩, priced_new start pricing⟩
  | append_singleton chunks chunk ih =>
    rw [recordAll, List.foldl_append]
    exact ⟨ih.1.recordChunk chunk.1 chunk.2 pricing, ih.2.recordChunk chunk.1 chunk.2⟩

/-- The tokens are those of the first usage report or else estimates, the cost
is their saturating cost, and finalizing changes nothing that a report has
fixed. -/
structure TotalsExact (meter : StreamMeter) (price : ModelPricing) (chunks : Chunks) : Prop where
  prompt : (meter.finalize (some price)).1.promptTokens = meteredPrompt chunks
  completion : (meter.finalize (some price)).1.completionTokens = meteredCompletion chunks
  cost : (meter.finalize (some price)).1.cost = saturatingAdd
    (nanosForTokens (meteredPrompt chunks) price.inputCostPer1k)
    (nanosForTokens (meteredCompletion chunks) price.outputCostPer1k)
  fixed : firstUsage chunks ≠ none → (meter.finalize (some price)).2 = meter

/-- Exact unless a sum wraps: that of the estimates, where no usage is
reported, or that of the two parts of the cost. -/
theorem stream_totals_exact_iff (start : Nat) (price : ModelPricing) (chunks : Chunks) :
    TotalsExact ((new start).recordAll (some price) chunks) price chunks ↔
      (firstUsage chunks = none → estimates chunks ≤ u64Max) ∧
      nanosForTokens (meteredPrompt chunks) price.inputCostPer1k +
        nanosForTokens (meteredCompletion chunks) price.outputCostPer1k ≤ u64Max := by
  obtain ⟨⟨final, prompt, completion⟩, priced⟩ := counts_recordAll start (some price) chunks
  generalize (new start).recordAll (some price) chunks = last at *
  have report : (last.finalize (some price)).1.promptTokens =
      last.promptTokens ∧ (last.finalize (some price)).1.completionTokens =
        last.completionTokens := by
    unfold finalize
    rw [priced]
    cases last.finalized <;> exact ⟨rfl, rfl⟩
  have cost : (last.finalize (some price)).1.cost = wrappingAdd
      (nanosForTokens last.promptTokens price.inputCostPer1k)
      (nanosForTokens last.completionTokens price.outputCostPer1k) :=
    priced.finalize.1.trans (congrArg StreamMeter.cost priced.symm)
  have counted : last.completionTokens = meteredCompletion chunks ↔
      (firstUsage chunks = none → estimates chunks ≤ u64Max) := by
    rw [completion, meteredCompletion]
    cases firstUsage chunks with
    | some usage => simp
    | none =>
      simp only [u64Max, Option.map_none, Option.getD_none, true_implies]
      omega
  -- the wrapped sum of two `u64` is never the largest one
  have sums : ∀ tokens price others otherPrice, wrappingAdd (nanosForTokens tokens price)
        (nanosForTokens others otherPrice) = saturatingAdd (nanosForTokens tokens price)
            (nanosForTokens others otherPrice) ↔ nanosForTokens tokens price +
          nanosForTokens others otherPrice ≤ u64Max := by
    intro tokens price others otherPrice
    simp only [wrappingAdd, saturatingAdd, nanosForTokens, u64Max]
    omega
  rw [← sums]
  constructor
  · intro totals
    have same := report.2.symm.trans totals.completion
    refine ⟨counted.mp same, ?_⟩
    rw [← totals.cost, cost, same, prompt]
  · rintro ⟨fits, sum⟩
    have same := counted.mpr fits
    refine ⟨report.1.trans prompt, report.2.trans same, ?_, ?_⟩
    · rw [cost, same, prompt, sum]
    · intro reported
      unfold finalize
      rw [final, Option.isSome_iff_ne_none.mpr reported]
      rfl

/-- Two costs of the largest amount. -/
theorem stream_cost_wraps :
    ¬ TotalsExact ((new 0).recordAll (some ⟨u64Max, u64Max⟩)
      [(0, ⟨none, none, some ⟨1000, 1000, 2000⟩⟩)]) ⟨u64Max, u64Max⟩
      [(0, ⟨none, none, some ⟨1000, 1000, 2000⟩⟩)] := by
  intro totals
  exact absurd totals.cost (by decide)

end StreamMeter

end FusionRouter
