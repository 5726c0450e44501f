import Mathlib.Algebra.Order.BigOperators.Group.List
import Mathlib.Data.List.TakeWhile
import FusionRouter.Host.ContextAssembler

/-!
# The recent part of a conversation

What trimming keeps besides the system messages, and what it costs.  The loop
goes from the newest message to the oldest; a message that is too long is cut,
or passed over when little of the budget is left, and then an older and shorter
one may still be kept.
-/

namespace FusionRouter

open List

namespace DefaultContextAssembler

section

variable (messages : List ChatMessage)

def tokens : Nat :=
  (messages.map (fun message => estimateTokens message.content)).sum

abbrev others : List ChatMessage :=
  messages.filter (fun message => !message.isSystem)

/-- The last of these messages, the oldest of which may be cut short. -/
def KeepsRecent (kept messages : List ChatMessage) : Prop :=
  kept <:+ messages ∨ ∃ part message recent, kept = part :: recent ∧
    message :: recent <:+ messages ∧ part.role = message.role ∧
    part.content.toList <+: message.content.toList

def spent : Nat :=
  (messages.map price).sum

/-- Of the older messages, those from the newest one on that fits. -/
abbrev fitting (left : Nat) (older : List ChatMessage) : List ChatMessage :=
  older.dropWhile (fun message => left < price message)

/-- Passed over, the message is not missed: one older message is kept, and its
text is the beginning of the message. -/
def PassesForCut (left : Nat) (message : ChatMessage) (older : List ChatMessage) : Prop :=
  ∃ other oldest, fitting left older = other :: oldest ∧
    (∀ long ∈ oldest, left - price other < price long) ∧
    other.role = message.role ∧ other.content.toList <+: message.content.toList

/-- Of the messages, the newest first: all fit, or at the one where the budget
runs out more than ten tokens are left for a part of it, or no older message
fits. -/
def RunsOutClean (room : Nat) (messages : List ChatMessage) : Prop :=
  spent messages ≤ room ∨ ∃ newer message older, messages = newer ++ message :: older ∧
    spent newer ≤ room ∧ room < spent newer + price message ∧
    (10 < room - spent newer ∨ (∀ other ∈ older, room - spent newer < price other) ∨
      PassesForCut (room - spent newer) message older)

/-- The system messages come first where nothing is trimmed, and else the budget
runs out cleanly. -/
def Orderly (maxTokens : Nat) : Prop :=
  if totalTokens messages ≤ maxTokens then
    messages.filter ChatMessage.isSystem ++ others messages = messages
  else RunsOutClean (budget messages maxTokens) (others messages).reverse

end

theorem trimOthers_append (rest : List ChatMessage) (fits : spent newer ≤ remaining) :
    trimOthers remaining (newer ++ rest) = newer ++ trimOthers (remaining - spent newer) rest := by
  induction newer generalizing remaining with
  | nil => simp [spent]
  | cons message newer ih =>
    simp only [spent, map_cons, sum_cons] at fits ⊢
    have later := @ih (remaining - price message) (Nat.le_sub_of_add_le' fits)
    rw [spent, Nat.sub_sub] at later
    rw [cons_append, trimOthers, if_pos (by omega), later, cons_append]

theorem exists_runsOut {room : Nat} (exceeds : room < spent messages) :
    ∃ newer message older, messages = newer ++ message :: older ∧
      spent newer ≤ room ∧ room < spent newer + price message := by
  induction messages using reverseRecOn with
  | nil => simp [spent] at exceeds
  | append_singleton newer message ih =>
    by_cases before : room < spent newer
    · obtain ⟨first, middle, last, rfl, bounds⟩ := ih before
      exact ⟨first, middle, last ++ [message], by simp, bounds⟩
    · exact ⟨newer, message, [], rfl, Nat.not_lt.mp before, by simpa [spent] using exceeds⟩

/-- With little left, what is kept starts with the newest message that fits. -/
theorem trimOthers_few (few : left ≤ 10) (older : List ChatMessage) :
    trimOthers left older = trimOthers left (fitting left older) := by
  induction older with
  | nil => rfl
  | cons message older ih =>
    by_cases long : left < price message
    · rw [trimOthers, if_neg (Nat.not_le.mpr long), if_neg (Nat.not_lt.mpr few), ih,
        fitting, fitting, dropWhile_cons_of_pos (by simpa using long)]
    · rw [fitting, dropWhile_cons_of_neg (by simpa using long)]

theorem fits_of_fitting (found : fitting left older = other :: oldest) : price other ≤ left := by
  have some : fitting left older ≠ [] := by simp [found]
  simpa [found] using head_dropWhile_not _ some

theorem trimOthers_eq_nil_iff (few : left ≤ 10) :
    trimOthers left older = [] ↔ ∀ other ∈ older, left < price other := by
  have all : fitting left older = [] ↔ ∀ other ∈ older, left < price other := by
    simp [dropWhile_eq_nil_iff]
  rw [trimOthers_few few, ← all]
  cases found : fitting left older with
  | nil => simp [trimOthers]
  | cons other oldest => simp [trimOthers, fits_of_fitting found]

theorem trimOthers_zero (messages : List ChatMessage) : trimOthers 0 messages = [] :=
  (trimOthers_eq_nil_iff (Nat.zero_le _)).mpr (fun _ _ => Nat.succ_pos _)

/-- The newest of these messages, the oldest of which may be cut short. -/
def Heads (kept messages : List ChatMessage) : Prop :=
  kept <+: messages ∨ ∃ part message recent, kept = recent ++ [part] ∧
    recent ++ [message] <+: messages ∧ part.role = message.role ∧
    part.content.toList <+: message.content.toList

theorem keepsRecent_reverse : KeepsRecent kept.reverse messages ↔ Heads kept messages.reverse := by
  unfold KeepsRecent Heads
  refine or_congr (by rw [← reverse_prefix, reverse_reverse]) ?_
  refine exists_congr fun part => exists_congr fun message => ?_
  constructor
  · rintro ⟨recent, same, within, cut⟩
    refine ⟨recent.reverse, ?_, ?_, cut⟩
    · simpa using congrArg reverse same
    · simpa using reverse_prefix.mpr within
  · rintro ⟨recent, rfl, within, cut⟩
    exact ⟨recent.reverse, by simp, by simpa using reverse_suffix.mpr within, cut⟩

/-- Where another message is kept in place of one, it has to look like a part
of it. -/
theorem heads_append_iff (different : other ≠ message) :
    Heads (newer ++ other :: rest) (newer ++ message :: older) ↔ rest = [] ∧
      other.role = message.role ∧ other.content.toList <+: message.content.toList := by
  constructor
  · rintro (whole | ⟨part, cut, recent, same, within, looks⟩)
    · have first := (prefix_append_right_inj newer).mp whole
      exact (different (by simpa using (cons_prefix_cons.mp first).1)).elim
    · rcases eq_nil_or_concat rest with rfl | ⟨front, last, rfl⟩
      · obtain ⟨rfl, rfl⟩ : newer = recent ∧ other = part := by simpa using same
        have first := (prefix_append_right_inj newer).mp within
        obtain rfl : cut = message := (cons_prefix_cons.mp first).1
        exact ⟨rfl, looks⟩
      · rw [concat_eq_append, ← cons_append, ← append_assoc] at same
        obtain ⟨rfl, -⟩ := append_inj' same rfl
        rw [append_assoc] at within
        have first := (prefix_append_right_inj newer).mp within
        exact (different (cons_prefix_cons.mp first).1).elim
  · rintro ⟨rfl, looks⟩
    exact Or.inr ⟨other, message, newer, rfl, (prefix_append_right_inj newer).mpr
      (prefix_append [message] older), looks⟩

/-- What the loop keeps behind the messages that fit. -/
theorem heads_runsOut_iff (long : left < price message) :
    Heads (newer ++ trimOthers left (message :: older)) (newer ++ message :: older) ↔
      10 < left ∨ (∀ other ∈ older, left < price other) ∨ PassesForCut left message older := by
  rw [trimOthers, if_neg (Nat.not_le.mpr long)]
  split
  next room =>
    refine iff_of_true (Or.inr ⟨truncate left message, message, newer, by rw [trimOthers_zero],
      ?_, rfl, ?_⟩) (Or.inl room)
    · exact (prefix_append_right_inj newer).mpr (prefix_append [message] older)
    · rw [truncate, String.toList_ofList]
      exact Utf8.takeBytes_prefix _ _
  next few =>
    have few := Nat.not_lt.mp few
    rw [or_iff_right (Nat.not_lt.mpr few), ← trimOthers_eq_nil_iff few]
    rw [trimOthers_few few]
    unfold PassesForCut
    cases found : fitting left older with
    | nil => exact iff_of_true (Or.inl (by simp [trimOthers])) (Or.inl rfl)
    | cons other oldest =>
      have fits := fits_of_fitting found
      have different : other ≠ message := by
        rintro rfl
        omega
      rw [trimOthers, if_pos fits, heads_append_iff different,
        trimOthers_eq_nil_iff ((Nat.sub_le _ _).trans few), or_iff_right (by simp)]
      constructor
      · exact fun looks => ⟨other, oldest, rfl, looks⟩
      · rintro ⟨_, _, ⟨⟩, looks⟩
        exact looks

/-- The loop keeps the newest messages exactly if the budget runs out
cleanly. -/
theorem heads_trimOthers_iff {room : Nat} :
    Heads (trimOthers room messages) messages ↔ RunsOutClean room messages := by
  constructor
  · intro heads
    by_cases exceeds : room < spent messages
    · obtain ⟨newer, message, older, rfl, fits, long⟩ := exists_runsOut exceeds
      rw [trimOthers_append _ fits, heads_runsOut_iff (by omega)] at heads
      exact Or.inr ⟨newer, message, older, rfl, fits, long, heads⟩
    · exact Or.inl (Nat.not_lt.mp exceeds)
  · rintro (all | ⟨newer, message, older, rfl, fits, long, clean⟩)
    · have kept := trimOthers_append [] all
      rw [append_nil, trimOthers, append_nil] at kept
      rw [kept]
      exact Or.inl prefix_rfl
    · rw [trimOthers_append _ fits, heads_runsOut_iff (by omega)]
      exact clean

theorem estimateTokens_truncate (remaining : Nat) (message : ChatMessage) :
    estimateTokens (truncate remaining message).content ≤ remaining := by
  have bytes := Utf8.utf8Len_takeBytes (byteLimit remaining) message.content.toList
  simp only [estimateTokens, truncate, String.utf8ByteSize_ofList]
  unfold byteLimit at *
  omega

theorem tokens_trimOthers (remaining : Nat) (messages : List ChatMessage) :
    tokens (trimOthers remaining messages) ≤ remaining := by
  induction messages generalizing remaining with
  | nil => exact Nat.zero_le _
  | cons message older ih =>
    rw [trimOthers]
    split
    next fits =>
      have rest := ih (remaining - price message)
      simp only [tokens, map_cons, sum_cons, price] at *
      omega
    next tight =>
      split
      · rw [trimOthers_zero]
        exact estimateTokens_truncate remaining message
      · exact ih remaining

theorem tokens_append_reverse (left right : List ChatMessage) :
    tokens (left ++ right.reverse) = tokens left + tokens right := by
  simp [tokens]

theorem trim_keeps_recent (messages : List ChatMessage) (maxTokens : Nat)
    (sums : tokens messages + 5 < 2 ^ 32) :
    ((∃ kept, trimMessages messages maxTokens = messages.filter ChatMessage.isSystem ++ kept ∧
        KeepsRecent kept (others messages)) ↔ Orderly messages maxTokens) ∧
    (tokens (messages.filter ChatMessage.isSystem) ≤ maxTokens →
      tokens (trimMessages messages maxTokens) ≤ maxTokens) := by
  have total : totalTokens messages = tokens messages :=
    Nat.mod_eq_of_lt (Nat.lt_of_add_right_lt sums)
  unfold Orderly trimMessages
  split
  next fits =>
    refine ⟨⟨?_, fun first => ⟨_, first.symm, Or.inl suffix_rfl⟩⟩, fun _ => by rwa [← total]⟩
    rintro ⟨kept, first, -⟩
    have systems := congrArg (filter ChatMessage.isSystem) first
    have none : ∀ message ∈ kept, message.isSystem = false := by simpa using systems
    have rest := congrArg others first
    have whole : others kept = kept := filter_eq_self.mpr (by simpa using none)
    have same : others messages = kept := by simpa [others] using rest.trans (by simp [whole])
    rw [same, ← first]
  next exceeds =>
    refine ⟨?_, fun system => ?_⟩
    · rw [← heads_trimOthers_iff, ← keepsRecent_reverse]
      constructor
      · rintro ⟨kept, same, recent⟩
        rwa [append_cancel_left same]
      · exact fun recent => ⟨_, rfl, recent⟩
    · have part : tokens (messages.filter ChatMessage.isSystem) ≤ tokens messages :=
        (filter_sublist.map _).sum_le_sum (fun _ _ => Nat.zero_le _)
      have reserved : totalTokens (messages.filter ChatMessage.isSystem) =
          tokens (messages.filter ChatMessage.isSystem) :=
        Nat.mod_eq_of_lt (part.trans_lt (Nat.lt_of_add_right_lt sums))
      have room : budget messages maxTokens = maxTokens -
          (tokens (messages.filter ChatMessage.isSystem) + 5) := by
        rw [budget, reserved, Nat.mod_eq_of_lt (by omega)]
      rw [tokens_append_reverse]
      refine (Nat.add_le_add_left (tokens_trimOthers _ _) _).trans ?_
      omega

/-- A short message and a long one after it. -/
def talk : List ChatMessage :=
  [⟨"user", "hi"⟩, ⟨"user", "".pushn 'x' 100⟩]

/-- The long message is cut to the fifteen tokens that are left. -/
theorem talk_cut :
    (∃ kept, trimMessages talk 20 = talk.filter ChatMessage.isSystem ++ kept ∧
      KeepsRecent kept (others talk)) ∧ tokens (trimMessages talk 20) ≤ 20 := by
  obtain ⟨recent, bounded⟩ := trim_keeps_recent talk 20 (by decide +kernel)
  refine ⟨recent.mpr ?_, bounded (by decide +kernel)⟩
  rw [Orderly, if_neg (by decide +kernel)]
  exact Or.inr ⟨[], ⟨"user", "".pushn 'x' 100⟩, [⟨"user", "hi"⟩], by decide +kernel,
    by decide +kernel, by decide +kernel, Or.inl (by decide +kernel)⟩

/-- With ten tokens left the long message is passed over and the older one
kept. -/
theorem trim_leaves_gap :
    trimMessages talk 15 = talk.filter ChatMessage.isSystem ++ [⟨"user", "hi"⟩] ∧
      ¬ KeepsRecent [⟨"user", "hi"⟩] (others talk) := by
  refine ⟨by decide +kernel, ?_⟩
  rintro (whole | ⟨part, message, recent, same, within, -, cut⟩)
  · revert whole
    decide +kernel
  · cases same
    obtain ⟨older, joined⟩ := within
    have last := congrArg getLast? joined
    rw [getLast?_concat] at last
    cases last
    revert cut
    decide +kernel

end DefaultContextAssembler

end FusionRouter
