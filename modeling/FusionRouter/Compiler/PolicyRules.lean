import FusionRouter.Compiler.Policy

/-!
# Which rules match and which one wins

A pattern stands for the texts that it becomes when its stars are replaced by
texts.  The matcher finds these for patterns with one star and for those that
end with a star; any other pattern is compared with its stars as letters.  Of
the rules that match, one with the highest key wins, whatever their order.
-/

namespace FusionRouter

open List hiding head

namespace PolicyPrecedence

/-- The text is the pattern with each star replaced by some text. -/
inductive Glob : List Char → List Char → Prop where
  | nil : Glob [] []
  | letter {letter : Char} (plain : letter ≠ '*') {pattern text : List Char}
      (rest : Glob pattern text) : Glob (letter :: pattern) (letter :: text)
  | star (filler : List Char) {pattern text : List Char}
      (rest : Glob pattern text) : Glob ('*' :: pattern) (filler ++ text)

theorem glob_star_iff : Glob ('*' :: pattern) text ↔ ∃ rest, rest <:+ text ∧ Glob pattern rest := by
  constructor
  · intro glob
    cases glob with
    | letter plain => exact (plain rfl).elim
    | star filler rest => exact ⟨_, suffix_append filler _, rest⟩
  · rintro ⟨rest, ⟨filler, rfl⟩, glob⟩
    exact .star filler glob

theorem glob_append_iff (plain : '*' ∉ head) :
    Glob (head ++ pattern) text ↔ ∃ rest, head ++ rest = text ∧ Glob pattern rest := by
  induction head generalizing text with
  | nil => simp
  | cons letter head induction =>
    obtain ⟨first, plain⟩ := not_or.mp (mt mem_cons.mpr plain)
    constructor
    · intro glob
      cases glob with
      | letter _ glob =>
        obtain ⟨rest, rfl, tail⟩ := (induction plain).mp glob
        exact ⟨rest, rfl, tail⟩
      | star => exact (first rfl).elim
    · rintro ⟨rest, rfl, glob⟩
      exact .letter (Ne.symm first) ((induction plain).mpr ⟨rest, rfl, glob⟩)

theorem glob_plain_iff (plain : '*' ∉ pattern) : Glob pattern text ↔ pattern = text := by
  have split : Glob (pattern ++ []) text ↔ _ := glob_append_iff plain
  rw [append_nil] at split
  rw [split]
  constructor
  · rintro ⟨rest, rfl, glob⟩
    cases glob
    exact (append_nil _).symm
  · rintro rfl
    exact ⟨[], append_nil _, .nil⟩

/-- Every star may be replaced by nothing. -/
theorem glob_filter (pattern : List Char) : Glob pattern (pattern.filter (· ≠ '*')) := by
  induction pattern with
  | nil => exact .nil
  | cons letter pattern induction =>
    by_cases star : letter = '*'
    · subst star
      exact .star [] induction
    · rw [filter_cons_of_pos (by simpa using star)]
      exact .letter star induction

theorem splitOnce_spec (pattern : List Char) :
    (splitOnce '*' pattern = none → '*' ∉ pattern) ∧
      ∀ head suffix, splitOnce '*' pattern = some (head, suffix) →
        pattern = head ++ '*' :: suffix ∧ '*' ∉ head := by
  induction pattern with
  | nil => simp [splitOnce]
  | cons letter pattern induction =>
    unfold splitOnce
    split
    next star => simp [star]
    next plain =>
      refine ⟨?_, ?_⟩
      · intro none
        simpa [Ne.symm plain] using induction.1 (Option.map_eq_none_iff.mp none)
      · intro head suffix found
        obtain ⟨⟨first, rest⟩, split, same⟩ := Option.map_eq_some_iff.mp found
        cases same
        obtain ⟨rfl, free⟩ := induction.2 first rest split
        exact ⟨rfl, by simpa [Ne.symm plain] using free⟩

def starred (segments : List (List Char)) : List Char :=
  segments.flatMap ('*' :: ·)

theorem splitAll_spec (pattern : List Char) :
    starred (splitAll '*' pattern) = '*' :: pattern ∧
      ∀ segment ∈ splitAll '*' pattern, '*' ∉ segment := by
  induction pattern with
  | nil => simp [splitAll, starred]
  | cons letter pattern induction =>
    unfold splitAll
    split
    next star => simpa [star, starred] using induction
    next plain =>
      revert induction
      cases splitAll '*' pattern with
      | nil => simp [starred]
      | cons segment segments => simp [starred, Ne.symm plain]

/-- The first occurrence leaves the most. -/
theorem afterFirst_spec (segment text : List Char) :
    (afterFirst segment text = none → ∀ rest, ¬ segment ++ rest <:+ text) ∧
      ∀ most, afterFirst segment text = some most → segment ++ most <:+ text ∧
          ∀ rest, segment ++ rest <:+ text → rest <:+ most := by
  induction text with
  | nil => simp [afterFirst]
  | cons letter text induction =>
    unfold afterFirst
    split
    next occurs =>
      obtain ⟨most, whole⟩ := isPrefixOf_iff_prefix.mp occurs
      refine ⟨by simp, ?_⟩
      rw [← whole, drop_left]
      rintro _ ⟨⟩
      refine ⟨suffix_rfl, ?_⟩
      intro rest suffix
      refine suffix_of_suffix_length_le ((suffix_append _ _).trans suffix) (suffix_append _ _) ?_
      simpa using suffix.length_le
    next absent =>
      have later : ∀ rest, segment ++ rest <:+ letter :: text → segment ++ rest <:+ text := by
        intro rest suffix
        refine (suffix_cons_iff.mp suffix).resolve_left ?_
        intro whole
        exact absent ( isPrefixOf_iff_prefix.mpr ⟨rest, whole⟩)
      refine ⟨fun none rest suffix => induction.1 none rest (later rest suffix), ?_⟩
      intro most found
      obtain ⟨occurs, leaves⟩ := induction.2 most found
      exact ⟨occurs.trans (suffix_cons _ _), fun rest suffix => leaves rest (later rest suffix)⟩

/-- Segments that are found in order are those of a pattern with stars around
them. -/
theorem containsInOrder_iff (plain : ∀ segment ∈ segments, '*' ∉ segment) :
    containsInOrder segments text = true ↔ Glob (starred segments ++ ['*']) text := by
  induction segments generalizing text with
  | nil => exact iff_of_true rfl (glob_star_iff.mpr ⟨[], nil_suffix, .nil⟩)
  | cons segment segments induction =>
    obtain ⟨first, plain⟩ := forall_mem_cons.mp plain
    have again : Glob (starred (segment :: segments) ++ ['*']) text ↔
        ∃ rest, segment ++ rest <:+ text ∧ Glob (starred segments ++ ['*']) rest := by
      simp only [starred, flatMap_cons, cons_append,
        append_assoc, glob_star_iff, glob_append_iff first]
      constructor
      · rintro ⟨_, suffix, rest, rfl, glob⟩
        exact ⟨rest, suffix, glob⟩
      · rintro ⟨rest, suffix, glob⟩
        exact ⟨_, suffix, rest, rfl, glob⟩
    rw [again, containsInOrder]
    obtain ⟨absent, occurs⟩ := afterFirst_spec segment text
    cases found : afterFirst segment text with
    | none =>
      refine iff_of_false Bool.false_ne_true ?_
      rintro ⟨rest, suffix, -⟩
      exact absent found rest suffix
    | some most =>
      obtain ⟨here, leaves⟩ := occurs most found
      rw [induction plain]
      constructor
      · exact fun glob => ⟨most, here, glob⟩
      · rintro ⟨rest, suffix, glob⟩
        -- the pattern starts with a star, which takes what lies in between
        have opened : ∃ tail, starred segments ++ ['*'] = '*' :: tail := by
          cases segments with
          | nil => exact ⟨[], rfl⟩
          | cons => exact ⟨_, rfl⟩
        obtain ⟨tail, opened⟩ := opened
        rw [opened, glob_star_iff] at glob ⊢
        obtain ⟨last, inside, glob⟩ := glob
        exact ⟨last, inside.trans (leaves rest suffix), glob⟩

theorem stripStar_spec (suffix : List Char) :
    (stripStar suffix = none → suffix.getLast? ≠ some '*') ∧
      ∀ middle, stripStar suffix = some middle → suffix = middle ++ ['*'] := by
  unfold stripStar
  split
  next last =>
    obtain ⟨middle, rfl⟩ := getLast?_eq_some_iff.mp last
    simp
  next other => exact ⟨fun _ => other, by simp⟩

/-- What the matcher does behind the first star. -/
def tailMatches (suffix rest : List Char) : Bool :=
  suffix.isEmpty || (stripStar suffix).elim (suffix.isSuffixOf rest)
    (fun middle => containsInOrder (splitAll '*' middle) rest)

theorem tailMatches_iff (supported : '*' ∉ suffix ∨ suffix.getLast? = some '*') :
    tailMatches suffix rest = true ↔ Glob ('*' :: suffix) rest := by
  obtain ⟨other, closed⟩ := stripStar_spec suffix
  unfold tailMatches
  cases found : stripStar suffix with
  | some middle =>
    obtain ⟨joined, plain⟩ := splitAll_spec middle
    obtain rfl := closed middle found
    simp [containsInOrder_iff plain, joined]
  | none =>
    have plain := supported.resolve_right (other found)
    rw [glob_star_iff]
    simp only [glob_plain_iff plain, exists_eq_right', Option.elim_none,
      Bool.or_eq_true, List.isEmpty_iff, List.isSuffixOf_iff_suffix]
    constructor
    · rintro (rfl | suffix)
      · exact List.nil_suffix
      · exact suffix
    · exact Or.inr

theorem patternMatches_eq {pattern : String}
    (found : splitOnce '*' pattern.toList = some (head, suffix)) (candidate : String) :
    patternMatches pattern candidate = (head.isPrefixOf candidate.toList &&
        tailMatches suffix (candidate.toList.drop head.length)) := by
  unfold patternMatches tailMatches
  rw [found]
  dsimp only
  cases head.isPrefixOf candidate.toList with
  | false => rfl
  | true =>
    cases suffix with
    | nil => rfl
    | cons => cases stripStar _ <;> rfl

/-- The matcher reads exactly the patterns with at most one star and those that
end with a star as globs. -/
theorem patternMatches_glob_iff (pattern : String) :
    (∀ candidate : String, patternMatches pattern candidate = true ↔
      Glob pattern.toList candidate.toList) ↔
    pattern.toList.count '*' ≤ 1 ∨ pattern.toList.getLast? = some '*' := by
  obtain ⟨absent, parts⟩ := splitOnce_spec pattern.toList
  cases found : splitOnce '*' pattern.toList with
  | none =>
    have plain := absent found
    refine iff_of_true ?_ (Or.inl (by simp [count_eq_zero.mpr plain]))
    intro candidate
    simp only [patternMatches, found, glob_plain_iff plain, beq_iff_eq, String.toList_inj]
  | some split =>
    obtain ⟨head, suffix⟩ := split
    obtain ⟨whole, plain⟩ := parts head suffix found
    have supported : pattern.toList.count '*' ≤ 1 ∨ pattern.toList.getLast? = some '*' ↔
          '*' ∉ suffix ∨ suffix.getLast? = some '*' := by
      rw [whole, count_append, count_cons_self,
        count_eq_zero.mpr plain, Nat.zero_add, Nat.succ_le_succ_iff, Nat.le_zero, count_eq_zero]
      cases suffix <;> simp
    rw [supported]
    constructor
    · intro exactly
      by_contra unsupported
      obtain ⟨inside, ends⟩ := not_or.mp unsupported
      have kept : pattern.toList.filter (· ≠ '*') = head ++ suffix.filter (· ≠ '*') := by
        rw [whole, filter_append, filter_cons_of_neg (by simp), filter_eq_self.mpr]
        intro letter member
        simpa using ne_of_mem_of_not_mem member plain
      have hit := (exactly (String.ofList (pattern.toList.filter
        (· ≠ '*')))).mpr (by simpa using glob_filter pattern.toList)
      rw [patternMatches_eq found, Bool.and_eq_true, String.toList_ofList, kept, drop_left] at hit
      -- without its stars the suffix is shorter than with them as letters
      have shorter : (suffix.filter (· ≠ '*')).length < suffix.length :=
        length_filter_lt_length_iff_exists.mpr ⟨'*', not_not.mp inside, by simp⟩
      have tail : suffix = [] ∨ suffix <:+ suffix.filter (· ≠ '*') := by
        simpa [tailMatches, stripStar, ends] using hit.2
      rcases tail with rfl | fits
      · exact inside not_mem_nil
      · exact absurd fits.length_le (Nat.not_le.mpr shorter)
    · intro supported candidate
      rw [patternMatches_eq found, Bool.and_eq_true, tailMatches_iff supported,
        isPrefixOf_iff_prefix, whole, glob_append_iff plain]
      constructor
      · rintro ⟨⟨rest, same⟩, glob⟩
        rw [← same, drop_left] at glob
        exact ⟨rest, same, glob⟩
      · rintro ⟨rest, same, glob⟩
        rw [← same, drop_left]
        exact ⟨prefix_append _ _, glob⟩

/-- The last segment is looked for together with the star in front of it. -/
theorem inner_star_missed :
    patternMatches "a*b*c" "axbyc" = false ∧ Glob "a*b*c".toList "axbyc".toList := by
  refine ⟨by decide, ?_⟩
  exact .letter (by decide) (.star ['x'] (.letter (by decide)
    (.star ['y'] (.letter (by decide) .nil))))

theorem keyLe_iff :
    keyLe left right = true ↔ effectRank left.effect < effectRank right.effect ∨
        effectRank left.effect = effectRank right.effect ∧ left.priority ≤ right.priority := by
  simp [keyLe]

/-- `max_by_key` finds a rule that is at least as high as every other. -/
theorem exists_maxByKey (given : rules ≠ []) :
    ∃ best ∈ rules, maxByKey rules = some best ∧ ∀ rule ∈ rules, keyLe rule best = true := by
  induction rules using reverseRecOn with
  | nil => exact absurd rfl given
  | append_singleton rules last induction =>
    by_cases first : rules = []
    · subst first
      exact ⟨last, by simp, rfl, by simp [keyLe]⟩
    · obtain ⟨best, member, found, above⟩ := induction first
      have grown : maxByKey (rules ++ [last]) =
          if keyLe best last then some last else some best := by
        unfold maxByKey at found ⊢
        rw [foldl_append, found]
        rfl
      simp only [forall_mem_append, forall_mem_singleton, keyLe_iff] at above ⊢
      rw [grown]
      split
      next higher =>
        rw [keyLe_iff] at higher
        refine ⟨last, by simp, rfl, ?_, Or.inr ⟨rfl, le_rfl⟩⟩
        intro rule inside
        have below := above rule inside
        omega
      next lower =>
        rw [keyLe_iff] at lower
        exact ⟨best, by simp [member], rfl, above, by omega⟩

/-- Nothing wins, or a matching rule that is as high as every other. -/
theorem evaluateMatchingRule_cases (externals : Externals) (policy : PolicyIR)
    (symbol : String) (facts : PolicyFacts) :
    evaluateMatchingRule externals policy symbol facts = none ∧
        (∀ rule ∈ policy.rules, ruleMatches externals symbol facts rule = false) ∨
      ∃ best ∈ policy.rules, evaluateMatchingRule externals policy symbol facts = some best ∧
        ruleMatches externals symbol facts best = true ∧
        ∀ rule ∈ policy.rules, ruleMatches externals symbol facts rule = true →
          keyLe rule best = true := by
  unfold evaluateMatchingRule
  by_cases none : policy.rules.filter (ruleMatches externals symbol facts) = []
  · rw [none]
    exact Or.inl ⟨rfl, by simpa [filter_eq_nil_iff] using none⟩
  · obtain ⟨best, member, wins, above⟩ := exists_maxByKey none
    obtain ⟨listed, hit⟩ := mem_filter.mp member
    exact Or.inr ⟨best, listed, wins, hit, fun rule inside hits =>
      above rule (mem_filter.mpr ⟨inside, hits⟩)⟩

theorem effectRank_injective : Function.Injective effectRank := by
  intro left right
  cases left <;> cases right <;> simp [effectRank]

/-- No rule wins exactly when none matches.  Otherwise a matching rule of the
most restrictive effect wins, with the highest priority of that effect, and its
effect and priority do not depend on the order of the rules. -/
theorem policy_precedence (externals : Externals) (policy : PolicyIR)
    (symbol : String) (facts : PolicyFacts) :
    (evaluateMatchingRule externals policy symbol facts = none ↔ ∀ rule ∈ policy.rules,
        ruleMatches externals symbol facts rule = false) ∧
    (∀ best, evaluateMatchingRule externals policy symbol facts = some best →
      best ∈ policy.rules ∧ ruleMatches externals symbol facts best = true ∧
      ∀ rule ∈ policy.rules, ruleMatches externals symbol facts rule = true →
        effectRank rule.effect ≤ effectRank best.effect ∧
          (rule.effect = best.effect → rule.priority ≤ best.priority)) ∧
    ∀ other : PolicyIR, other.rules.Perm policy.rules →
      (evaluateMatchingRule externals other symbol facts).map
          (fun rule => (rule.effect, rule.priority)) =
        (evaluateMatchingRule externals policy symbol facts).map
          (fun rule => (rule.effect, rule.priority)) := by
  have cases := fun policy =>
    evaluateMatchingRule_cases externals policy symbol facts
  rcases cases policy with ⟨found, none⟩ | ⟨best, listed, found, hit, above⟩
  · refine ⟨iff_of_true found none, by simp [found], ?_⟩
    intro other order
    rcases cases other with ⟨again, -⟩ | ⟨winner, inside, -, hits, -⟩
    · rw [again, found]
    · simp [none winner (order.mem_iff.mp inside)] at hits
  · refine ⟨iff_of_false (by simp [found]) ?_, ?_, ?_⟩
    · intro none
      simp [none best listed] at hit
    · intro winner wins
      cases found.symm.trans wins
      refine ⟨listed, hit, ?_⟩
      intro rule inside hits
      have key := keyLe_iff.mp (above rule inside hits)
      refine ⟨by omega, ?_⟩
      intro same
      rw [same] at key
      omega
    · intro other order
      rcases cases other with ⟨-, none⟩ | ⟨winner, inside, again, hits, higher⟩
      · simp [none best (order.mem_iff.mpr listed)] at hit
      · have below := keyLe_iff.mp (above winner (order.mem_iff.mp inside) hits)
        have beyond := keyLe_iff.mp (higher best (order.mem_iff.mpr listed) hit)
        have effect : winner.effect = best.effect := effectRank_injective (by omega)
        have priority : winner.priority = best.priority := by omega
        rw [found, again, Option.map_some, Option.map_some, effect, priority]

end PolicyPrecedence

end FusionRouter
