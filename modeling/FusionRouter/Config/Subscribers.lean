import Mathlib.Data.List.DropRight
import Mathlib.Data.List.Sort
import Mathlib.Data.String.Basic
import FusionRouter.Types.StreamChunk

/-!
# Subscribers of the configuration

The providers, the keys and the rate limit change with the configuration.  Each
of them stages its part of it in cells of its own when it is prepared, and moves
it to where requests read it when it is committed.  Nothing takes back what a
reload has staged before it failed.
-/

namespace FusionRouter.Reload

open List

/-- A `ConfigSubscriber`, with what it reads from a configuration.  What its
cells have staged is overwritten by `prepare` and taken by `commit`. -/
structure Subscriber (Config Error : Type) where
  Cells : Type
  Value : Type
  Setting : Type
  priority : Nat
  prepare : Config → Cells → Except Error Unit × Cells
  commit : Cells → Cells
  read : Config → Except Error Value
  staged : Cells → Option Value
  applied : Cells → Setting
  install : Value → Setting → Setting
  prepare_result : ∀ config cells, (prepare config cells).1 = (read config).map fun _ => ()
  prepare_staged : ∀ config cells value, read config = .ok value →
    staged (prepare config cells).2 = some value
  prepare_applied : ∀ config cells, applied (prepare config cells).2 = applied cells
  commit_staged : ∀ cells, staged (commit cells) = none
  commit_applied : ∀ cells, applied (commit cells) =
    (staged cells).elim (applied cells) fun value => install value (applied cells)

inductive ReloadError where
  | parse (message : String)
  | validation (errors : List String)
  | subscriber (name reason : String)
  | connectorError (message : String)

structure AuthConfig where
  enabled : Bool
  apiKeys : List String

structure RateLimitingConfig where
  enabled : Bool
  requestsPerMinute : Nat
  burstSize : Nat
  cleanupIntervalSecs : Nat

/-- The parts of the configuration that are staged.  A hash map is the list of
its entries as they are walked. -/
structure AppConfig (π : Type) where
  providers : List (String × π)
  auth : AuthConfig
  rateLimiting : RateLimitingConfig
  /-- `resolve_api_key`, in the environment that the reload finds. -/
  resolveApiKey : π → String → Except String String

-- What is only handed on: the configuration of a provider, the capabilities and
-- the prices of its models.
variable {π κ μ : Type}

/-! ### Keys and the rate limit -/

/-- A value that is read by requests, and the one that is staged for it. -/
structure Reloader (α : Type) where
  current : α
  staged : Option α

/-- The subscriber that stages what it reads. -/
def Reloader.asSubscriber {Config Error α : Type} (priority : Nat)
    (read : Config → Except Error α) : Subscriber Config Error where
  Cells := Reloader α
  Value := α
  Setting := α
  priority := priority
  prepare config cells :=
    match read config with
    | .error error => (.error error, cells)
    | .ok value => (.ok (), { cells with staged := some value })
  commit cells :=
    match cells.staged with
    | none => cells
    | some value => { current := value, staged := none }
  read := read
  staged := staged
  applied := current
  install value _ := value
  prepare_result config cells := by cases read config <;> rfl
  prepare_staged config cells value found := by rw [found]
  prepare_applied config cells := by cases read config <;> rfl
  commit_staged cells := by cases found : cells.staged <;> simp [found]
  commit_applied cells := by cases found : cells.staged <;> rfl

structure KeyGrants where
  operator : Bool

/-- The keys are held by their digest. -/
structure AuthSnapshot where
  enabled : Bool
  keys : List (String × KeyGrants)

def maxApiKeyBytes : Nat := 1024

/-- `rsplit_once`. -/
def rsplitOnce (mark : Char) (text : List Char) : Option (List Char × List Char) :=
  if mark ∈ text then
    some ((text.rdropWhile (· ≠ mark)).dropLast, text.rtakeWhile (· ≠ mark))
  else none

/-- The key and its grants.  An unknown scope makes an entry invalid. -/
def parseKeyEntry (entry : List Char) : Option (List Char × KeyGrants) :=
  if trim entry = [] then none
  else
    match rsplitOnce ':' (trim entry) with
    | none => some (trim entry, ⟨false⟩)
    | some (raw, scope) =>
      if scope = "operator".toList then some (trim raw, ⟨true⟩)
      else if scope = "chat".toList then some (trim raw, ⟨false⟩)
      else none

/-- `AuthHandle::from_config`; `digest` is the hexadecimal SHA-256. -/
def AuthSnapshot.fromConfig (digest : String → String) (config : AuthConfig) : AuthSnapshot where
  enabled := config.enabled
  keys := config.apiKeys.foldl (fun keys entry =>
    match parseKeyEntry entry.toList with
    | none => keys
    | some (raw, grants) =>
      if maxApiKeyBytes < (String.ofList raw).utf8ByteSize then keys
      else OrderedMap.insert (digest (String.ofList raw)) grants keys) []

def authReloader (digest : String → String) : Subscriber (AppConfig π) ReloadError :=
  Reloader.asSubscriber 1 fun config =>
    let snapshot := AuthSnapshot.fromConfig digest config.auth
    if snapshot.enabled && snapshot.keys.isEmpty then
      .error (.subscriber "auth" "auth enabled but no valid api_keys entries")
    else .ok snapshot

def rateLimitReloader : Subscriber (AppConfig π) ReloadError :=
  Reloader.asSubscriber 2 fun config => .ok config.rateLimiting

/-! ### Providers -/

/-- A target is made anew from the configuration of its provider. -/
structure ProviderTarget (π : Type) where
  name : String
  config : π
  apiKey : String

def selectDefaultProviderName (names : List String) : Option String :=
  (names.insertionSort (· ≤ ·)).head?

/-- The two staging cells are `candidates` and `pendingDefault`. -/
structure ProviderRegistry (π κ μ : Type) where
  targets : List (String × ProviderTarget π)
  prefixes : List (List String × ProviderTarget π)
  capabilities : List (String × κ)
  pricing : List (String × μ)
  defaultTarget : ProviderTarget π
  pendingDefault : Option (ProviderTarget π)
  version : Nat
  candidates : Option (List (String × ProviderTarget π))

namespace ProviderRegistry

variable (registry : ProviderRegistry π κ μ)

def candidatesOf (config : AppConfig π) :
    Except ReloadError (List (String × ProviderTarget π)) :=
  config.providers.mapM fun (name, provider) =>
    match config.resolveApiKey provider name with
    | .error reason => .error (.subscriber "ProviderRegistry" reason)
    | .ok apiKey => .ok (name, ⟨name, provider, apiKey⟩)

/-- The default among the candidates. -/
def defaultOf (config : AppConfig π)
    (candidates : List (String × ProviderTarget π)) :
    Option (ProviderTarget π) :=
  (selectDefaultProviderName (config.providers.map Prod.fst)).bind fun name => candidates.lookup name

def prepare (config : AppConfig π) :
    Except ReloadError Unit × ProviderRegistry π κ μ :=
  match candidatesOf config with
  | .error error => (.error error, registry)
  | .ok candidates =>
    (.ok (), { registry with
      pendingDefault := defaultOf config candidates
      candidates := some candidates })

/-- Without a new default the old one stays. -/
def commit : ProviderRegistry π κ μ :=
  match registry.candidates with
  | none => registry
  | some candidates =>
    let removed := (registry.targets.map Prod.fst).filter (· ∉ candidates.map Prod.fst)
    { targets := candidates
      prefixes := candidates.map fun (name, target) => ([name ++ "/"], target)
      capabilities := registry.capabilities.filter (·.1 ∉ removed)
      pricing := registry.pricing.filter (·.1 ∉ removed)
      defaultTarget := registry.pendingDefault.getD registry.defaultTarget
      pendingDefault := none
      version := registry.version + 1
      candidates := none }

def asSubscriber : Subscriber (AppConfig π) ReloadError where
  Cells := ProviderRegistry π κ μ
  Value := List (String × ProviderTarget π) × Option (ProviderTarget π)
  Setting := ProviderRegistry π κ μ
  priority := 10
  prepare config registry := registry.prepare config
  commit := commit
  read config := (candidatesOf config).map fun candidates => (candidates, defaultOf config candidates)
  staged registry := registry.candidates.map fun candidates => (candidates, registry.pendingDefault)
  applied registry := { registry with candidates := none, pendingDefault := none }
  install value registry :=
    commit { registry with candidates := some value.1, pendingDefault := value.2 }
  prepare_result config registry := by
    unfold prepare
    cases candidatesOf config <;> rfl
  prepare_staged config registry value found := by
    unfold prepare
    cases read : candidatesOf config with
    | error error =>
      rw [read] at found
      cases found
    | ok candidates =>
      rw [read] at found
      cases found
      rfl
  prepare_applied config registry := by
    unfold prepare
    cases candidatesOf config <;> rfl
  commit_staged registry := by
    unfold commit
    cases found : registry.candidates <;> simp [found]
  commit_applied registry := by
    unfold commit
    cases found : registry.candidates <;> rfl

end ProviderRegistry

end FusionRouter.Reload
