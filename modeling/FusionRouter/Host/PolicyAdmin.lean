import FusionRouter.AgentState.Store
import FusionRouter.Host.PolicyRegistry
import FusionRouter.Lib.Interleaving

/-!
# Policy administration by several threads

Every call of the facade asks the registry whether a policy exists, and changes
the registry in a second step.  The policy may have come or gone in between.
-/

namespace FusionRouter

open Interleaving List

def PolicyRegistry.hasPolicy (registry : PolicyRegistry) (id : String) : Bool :=
  registry.policies.any (fun stored => stored.id = id)

namespace PolicyAdmin

inductive AdminCall where
  | create (decl : PolicyDeclaration)
  | update (name : String) (decl : PolicyDeclaration)
  | delete (name : String)

abbrev AdminResult := Except String Unit

def isBlank (text : String) : Bool :=
  text.toList.all AgentState.isWhiteSpace

def validateDeclaration (decl : PolicyDeclaration) : AdminResult :=
  if isBlank decl.name then .error "policy name must not be empty"
  else if isBlank decl.matchTarget then
    .error "policy match_target must not be empty"
  else if PolicyIR.effectNamed decl.effect = none then
    .error ("invalid effect '" ++ decl.effect ++ "' (expected one of: deny, approval, allow)")
  else .ok ()

def notFound (name : String) : AdminResult :=
  .error ("Policy '" ++ name ++ "' not found")

/-- What a call does before it changes the registry. -/
def check (registry : PolicyRegistry) : AdminCall → AdminResult
  | .create decl => do
      validateDeclaration decl
      if registry.hasPolicy decl.name then
        .error ("Policy '" ++ decl.name ++ "' already exists")
      else .ok ()
  | .update name decl => do
      validateDeclaration decl
      if !registry.hasPolicy name then notFound name
      else if decl.name ≠ name then
        .error "policy name is immutable; delete and recreate to rename"
      else .ok ()
  | .delete name =>
    if !registry.hasPolicy name then notFound name else .ok ()

/-- What the check asks of the call alone. -/
def AdminCall.Valid : AdminCall → Prop
  | create decl => validateDeclaration decl = .ok ()
  | update name decl => validateDeclaration decl = .ok () ∧ decl.name = name
  | delete _ => True

/-- A create finds no policy of its name, an update or a delete finds one. -/
def AdminCall.Applies (registry : PolicyRegistry) : AdminCall → Prop
  | create decl => registry.hasPolicy decl.name = false
  | update name _ | delete name => registry.hasPolicy name = true

theorem check_eq_ok_iff (registry : PolicyRegistry) (call : AdminCall) :
    check registry call = .ok () ↔ call.Valid ∧ call.Applies registry := by
  cases call with
  | create decl | update name decl =>
    cases valid : validateDeclaration decl <;>
      simp [check, AdminCall.Valid, AdminCall.Applies, valid, notFound, Except.bind, bind] <;> grind
  | delete name =>
    simp [check, AdminCall.Valid, AdminCall.Applies, notFound]

section

variable (encode : PolicyDeclaration → String) (registry : PolicyRegistry)

def change : AdminCall → PolicyRegistry
  | .create decl | .update _ decl =>
    registry.applyPolicy decl.name decl.name (encode decl)
  | .delete name => registry.removePolicy name

def execute (call : AdminCall) : AdminResult × PolicyRegistry :=
  match check registry call with
  | .error error => (.error error, registry)
  | .ok () => (.ok (), change encode registry call)

inductive AdminThread where
  | ready (call : AdminCall)
  | checked (call : AdminCall)
  | finished (call : AdminCall) (result : AdminResult)

def AdminThread.advance : AdminThread → Option (PolicyRegistry × AdminThread)
  | ready call =>
    match check registry call with
    | .error error => some (registry, finished call (.error error))
    | .ok () => some (registry, checked call)
  | checked call => some (change encode registry call, finished call (.ok ()))
  | finished _ _ => none

def AdminAction (here : AdminThread) (registry' : PolicyRegistry) (here' : AdminThread) : Prop :=
  here.advance encode registry = some (registry', here')

/-- The runs in which a call still applies when it changes the registry. -/
def UndisturbedRun : System PolicyRegistry AdminThread → System PolicyRegistry AdminThread → Prop :=
  Watched fun _ registry here registry' here' =>
    (∀ call, here = .checked call → call.Applies registry) ∧
      AdminAction encode registry here registry' here'

end

def AdminThread.call : AdminThread → AdminCall
  | ready call | checked call | finished call _ => call

def AdminThread.outcome : AdminThread → Option (AdminCall × AdminResult)
  | finished call result => some (call, result)
  | _ => none

/-- One at a time, the calls give these results and this registry. -/
def OneAtATime (encode : PolicyDeclaration → String)
    (start : PolicyRegistry) (order : List (AdminCall × AdminResult))
    (registry : PolicyRegistry) : Prop :=
  Runs.replies (execute encode) start (order.map Prod.fst) = order.map Prod.snd ∧
    Runs.after (execute encode) start (order.map Prod.fst) = registry

theorem OneAtATime.concat (earlier : OneAtATime encode start order registry)
    (last : execute encode registry call = (result, registry')) :
    OneAtATime encode start (order ++ [(call, result)]) registry' := by
  obtain ⟨replies, rfl⟩ := earlier
  constructor
  · rw [map_append, map_append, ← replies]
    simp [Runs.replies_append, Runs.replies, last]
  · rw [map_append]
    exact (Runs.after_concat _ _ _ _).trans (congrArg Prod.snd last)

/-- Some order of the finished calls explains their results, and only valid
calls have passed the check. -/
def Linearized (encode : PolicyDeclaration → String) (start : PolicyRegistry)
    (registry : PolicyRegistry) (threads : List AdminThread) : Prop :=
  (∀ call, .checked call ∈ threads → call.Valid) ∧
    ∃ order, order.Perm (threads.filterMap AdminThread.outcome) ∧
    OneAtATime encode start order registry

/-- A call takes its place in the order where it ends. -/
theorem Linearized.step (linearized : Linearized encode start registry (here :: others))
    (undisturbed : ∀ call, here = .checked call → call.Applies registry)
    (moves : AdminAction encode registry here registry' here') :
    Linearized encode start registry' (here' :: others) := by
  obtain ⟨valid, order, listed, explained⟩ := linearized
  have finish : ∀ {call result}, here.outcome = none → here' = .finished call result →
      execute encode registry call = (result, registry') →
      Linearized encode start registry' (here' :: others) := by
    rintro call result running rfl last
    constructor
    · intro other member
      rcases mem_cons.mp member with same | member
      · cases same
      · exact valid other (mem_cons_of_mem _ member)
    · refine ⟨order ++ [(call, result)], ?_, explained.concat last⟩
      rw [filterMap_cons_none running] at listed
      exact (perm_append_singleton _ _).trans (listed.cons _)
  cases here with
  | ready call =>
    cases passed : check registry call with
    | error error =>
      simp only [AdminAction, AdminThread.advance, passed,
        Option.some.injEq, Prod.mk.injEq] at moves
      obtain ⟨rfl, rfl⟩ := moves
      exact finish rfl rfl (by simp [execute, passed])
    | ok =>
      simp only [AdminAction, AdminThread.advance, passed,
        Option.some.injEq, Prod.mk.injEq] at moves
      obtain ⟨rfl, rfl⟩ := moves
      refine ⟨?_, order, listed, explained⟩
      intro other member
      rcases mem_cons.mp member with same | member
      · cases same
        exact ((check_eq_ok_iff registry call).mp passed).1
      · exact valid other (mem_cons_of_mem _ member)
  | checked call =>
    have passed := (check_eq_ok_iff registry call).mpr
      ⟨valid call mem_cons_self, undisturbed call rfl⟩
    cases moves
    exact finish rfl rfl (by simp [execute, passed])
  | finished call result => cases moves

theorem Linearized.run (run : UndisturbedRun encode system final)
    (initially : Linearized encode start system.shared system.threads) :
    Linearized encode start final.shared final.threads := by
  refine run.symmetric (Linearized encode start) ?_ ?_ initially
  · rintro registry threads threads' permuted ⟨valid, order, listed, explained⟩
    exact ⟨fun call member => valid call (permuted.mem_iff.mpr member),
      order, listed.trans (permuted.filterMap _), explained⟩
  · intro others registry here registry' here' moves linearized
    exact linearized.step moves.1 moves.2

theorem AdminAction.call_eq (moves : AdminAction encode registry here registry' here') :
    here'.call = here.call := by
  unfold AdminAction AdminThread.advance at moves
  grind [AdminThread.call]

/-- In a run that no policy disturbs, the finished calls have the results, and
leave the registry, of some order in which they run one at a time. -/
theorem administration_linearizable (encode : PolicyDeclaration → String)
    (start : PolicyRegistry) (calls : List AdminCall) (final : System PolicyRegistry AdminThread)
    (run : UndisturbedRun encode ⟨start, calls.map .ready⟩ final) :
    final.threads.map AdminThread.call = calls ∧
      ∃ order, order.Perm (final.threads.filterMap AdminThread.outcome) ∧
        OneAtATime encode start order final.shared := by
  constructor
  · have kept := (run.reaches fun moves => moves.2).map_eq AdminThread.call AdminAction.call_eq
    rw [kept, map_map]
    exact map_id _
  · refine (Linearized.run run ⟨?_, [], ?_, rfl, rfl⟩).2
    · simp
    · simp [filterMap_map, AdminThread.outcome, Function.comp_def]

/-! ### A name that two threads create -/

def sampleCall : AdminCall :=
  .create
    { name := "rule"
      priority := 10
      matchTarget := "shell.exec"
      effect := "deny"
      conditions := [] }

def sampleEncode (_ : PolicyDeclaration) : String := ""

def sampleRegistry : PolicyRegistry :=
  change sampleEncode .new sampleCall

def sampleRefusal : AdminResult :=
  .error "Policy 'rule' already exists"

theorem sample_passes :
    AdminAction sampleEncode .new (.ready sampleCall) .new (.checked sampleCall) := rfl

theorem sample_stores (registry : PolicyRegistry) :
    AdminAction sampleEncode registry (.checked sampleCall)
      (change sampleEncode registry sampleCall) (.finished sampleCall (.ok ())) := rfl

theorem sample_refused :
    AdminAction sampleEncode sampleRegistry (.ready sampleCall) sampleRegistry
      (.finished sampleCall sampleRefusal) := rfl

/-- The second create looks after the first has stored its policy. -/
theorem later_create_refused :
    UndisturbedRun sampleEncode ⟨.new, [.ready sampleCall, .ready sampleCall]⟩
        ⟨sampleRegistry, [.finished sampleCall (.ok ()), .finished sampleCall sampleRefusal]⟩ ∧
      ∃ order, order.Perm [(sampleCall, .ok ()), (sampleCall, sampleRefusal)] ∧
        OneAtATime sampleEncode .new order sampleRegistry := by
  have run : UndisturbedRun sampleEncode ⟨.new, [.ready sampleCall, .ready sampleCall]⟩
      ⟨sampleRegistry, [.finished sampleCall (.ok ()), .finished sampleCall sampleRefusal]⟩ := by
    refine .head (.turn [] [_] ⟨?_, sample_passes⟩)
      (.head (.turn [] [_] ⟨?_, sample_stores _⟩) (.single (.turn [_] [] ⟨?_, sample_refused⟩)))
    · rintro call ⟨⟩
    · rintro call ⟨⟩
      rfl
    · rintro call ⟨⟩
  exact ⟨run, (administration_linearizable sampleEncode .new [sampleCall, sampleCall] _ run).2⟩

/-- Both threads look before either stores its policy, and both succeed. -/
theorem both_creates_succeed :
    (∃ registry, Reaches (AdminAction sampleEncode) ⟨.new, [.ready sampleCall, .ready sampleCall]⟩
        ⟨registry, [.finished sampleCall (.ok ()), .finished sampleCall (.ok ())]⟩) ∧
      ¬ ∃ order last, order.Perm [(sampleCall, .ok ()), (sampleCall, .ok ())] ∧
        OneAtATime sampleEncode .new order last := by
  constructor
  · exact ⟨_, .head (.turn [] [_] sample_passes) (.head (.turn [_] [] sample_passes)
        (.head (.turn [] [_] (sample_stores _)) (.single (.turn [_] [] (sample_stores _)))))⟩
  · rintro ⟨order, last, listed, replies, -⟩
    have same : order = replicate 2 (sampleCall, .ok ()) := perm_replicate.mp listed
    subst same
    revert replies
    decide

end PolicyAdmin

end FusionRouter
