import FusionRouter.Connectors.Filesystem

/-!
# Registration of capability plugins

The contracts of a plugin enter the registry one at a time.  Those in front of
a contract that is refused stay.
-/

namespace FusionRouter

inductive RegistryError where
  | duplicateId (id : String)
  | frozen
  | invalidContract (message : String)
deriving Repr, DecidableEq

def RegistryError.text : RegistryError → String
  | .duplicateId id => "Duplicate capability ID: " ++ id
  | .frozen => "Registry is frozen"
  | .invalidContract message => "Invalid contract: " ++ message

def Permission.validate : Permission → Except String Unit
  | .network => .ok ()
  | .filesystem path => refuse (path = "")
  | .http argument | .secrets argument | .environment argument =>
    refuse (argument = "" ∨ argument = "*")
where
  refuse (empty : Prop) [Decidable empty] : Except String Unit :=
    if empty then .error "permission argument must not be empty" else .ok ()

structure CapabilityContract where
  id : String
  permissions : List Permission
deriving Repr, DecidableEq

structure InMemoryCapabilityRegistry where
  contracts : String → Option CapabilityContract
  frozen : Bool

namespace InMemoryCapabilityRegistry

def new : InMemoryCapabilityRegistry := ⟨fun _ => none, false⟩

def register (registry : InMemoryCapabilityRegistry) (contract : CapabilityContract) :
    Except RegistryError InMemoryCapabilityRegistry :=
  if registry.frozen then .error .frozen
  else if (registry.contracts contract.id).isSome then
    .error (.duplicateId contract.id)
  else
    match contract.permissions.mapM Permission.validate with
    | .error error => .error (.invalidContract ("invalid permission: " ++ error))
    | .ok _ => .ok { registry with
        contracts := Function.update registry.contracts contract.id contract }

/-- The contracts in the registry, each under its own id. -/
def Holds (registry : InMemoryCapabilityRegistry) (contract : CapabilityContract) : Prop :=
  registry.contracts contract.id = some contract

theorem holds_of_register {registry : InMemoryCapabilityRegistry}
    (registered : registry.register contract = .ok next) :
    ¬ registry.Holds contract ∧
      ∀ other, next.Holds other ↔ other = contract ∨ registry.Holds other := by
  unfold register at registered
  split at registered
  · cases registered
  · split at registered
    · cases registered
    · rename_i fresh
      split at registered <;> cases registered
      simp only [Option.not_isSome_iff_eq_none] at fresh
      constructor
      · simp [Holds, fresh]
      · intro other
        by_cases same : other.id = contract.id
        · simp only [Holds, same, Function.update_self, fresh]
          grind
        · have different : other ≠ contract := fun equal => same (equal ▸ rfl)
          simp [Holds, Function.update_of_ne same, different]

end InMemoryCapabilityRegistry

open InMemoryCapabilityRegistry

structure PluginMetadata (Version : Type) where
  name : String
  apiVersion : Version
  minCompilerVersion : Version

structure CapabilityPlugin (Version : Type) where
  metadata : PluginMetadata Version
  capabilities : List CapabilityContract

namespace PluginManager

/-- The loop over the contracts of a plugin. -/
def registerAll (registry : InMemoryCapabilityRegistry) :
    List CapabilityContract → InMemoryCapabilityRegistry × Except String Unit
  | [] => (registry, .ok ())
  | contract :: rest =>
    match registry.register contract with
    | .error error => (registry, .error error.text)
    | .ok next => registerAll next rest

theorem registerAll_stays : ∀ {contracts : List CapabilityContract}
    {registry : InMemoryCapabilityRegistry}, registry.Holds held →
    (registerAll registry contracts).1.Holds held
  | [], _, before => before
  | contract :: _, registry, before => by
    unfold registerAll
    cases registered : registry.register contract with
    | error error => exact before
    | ok next =>
      exact registerAll_stays (((holds_of_register registered).2 held).mpr (Or.inr before))

theorem registerAll_exact : ∀ {contracts : List CapabilityContract}
    {registry : InMemoryCapabilityRegistry}, (registerAll registry contracts).2 = .ok () →
    ((registerAll registry contracts).1.Holds held ↔ held ∈ contracts ∨ registry.Holds held)
  | [], _, _ => by simp [registerAll]
  | contract :: rest, registry, succeeded => by
    unfold registerAll at succeeded ⊢
    cases registered : registry.register contract with
    | error error => simp [registered] at succeeded
    | ok next =>
      rw [registered] at succeeded
      rw [registerAll_exact succeeded, (holds_of_register registered).2, List.mem_cons]
      exact or_left_comm.trans or_assoc.symm

variable {Version : Type} [LinearOrder Version] [ToString Version]
  (major : Version → Nat) (currentApi currentCompiler : Version)

def validate (metadata : PluginMetadata Version) : Except String Unit :=
  if major metadata.apiVersion ≠ major currentApi then
    .error ("Incompatible API major version for plugin '" ++ metadata.name ++
      "': requires " ++ toString metadata.apiVersion ++ ", engine supports " ++ toString currentApi)
  else if metadata.minCompilerVersion > currentCompiler then
    .error ("Plugin '" ++ metadata.name ++ "' requires compiler version >= " ++
      toString metadata.minCompilerVersion ++ ", but engine runs " ++ toString currentCompiler)
  else .ok ()

variable (registry : InMemoryCapabilityRegistry)

def registerCapabilityPlugin (plugin : CapabilityPlugin Version) :
    InMemoryCapabilityRegistry × Except String Unit :=
  match validate major currentApi currentCompiler plugin.metadata with
  | .error error => (registry, .error error)
  | .ok _ => registerAll registry plugin.capabilities

/-- The metadata are refused, or the first contract. -/
def RefusedAtOnce (plugin : CapabilityPlugin Version) : Prop :=
  validate major currentApi currentCompiler plugin.metadata ≠ .ok () ∨
    ∀ contract ∈ plugin.capabilities.head?, ∀ next, registry.register contract ≠ .ok next

/-- A call that succeeds adds exactly the contracts of the plugin.  One that
fails changes nothing exactly if it fails before a contract is taken in. -/
theorem registration_exact (registry : InMemoryCapabilityRegistry)
    (plugin : CapabilityPlugin Version) :
    let outcome := registerCapabilityPlugin major currentApi currentCompiler registry plugin
    (outcome.2 = .ok () → ∀ contract, outcome.1.Holds contract ↔
      contract ∈ plugin.capabilities ∨ registry.Holds contract) ∧
    (outcome.2 ≠ .ok () → (outcome.1 = registry ↔
      RefusedAtOnce major currentApi currentCompiler registry plugin)) := by
  unfold registerCapabilityPlugin RefusedAtOnce
  cases validate major currentApi currentCompiler plugin.metadata with
  | error error => simp
  | ok _ =>
    refine ⟨fun succeeded contract => registerAll_exact succeeded, ?_⟩
    cases plugin.capabilities with
    | nil => simp [registerAll]
    | cons contract rest =>
      cases registered : registry.register contract with
      | error error => simp [registerAll, registered]
      | ok next =>
        intro _
        obtain ⟨absent, holds⟩ := holds_of_register registered
        have taken : (registerAll registry (contract :: rest)).1.Holds
            contract := by
          simp only [registerAll, registered]
          exact registerAll_stays ((holds contract).mpr (Or.inl rfl))
        have changed : (registerAll registry (contract :: rest)).1 ≠
            registry := fun same => absent (same ▸ taken)
        simp [changed, registered]

/-- The second contract repeats the id of the first, which stays. -/
theorem refused_plugin_stays :
    let outcome := registerCapabilityPlugin id 0 9 new
      ⟨⟨"twice", 0, 9⟩, [⟨"echo.text", []⟩, ⟨"echo.text", [.network]⟩]⟩
    outcome.2 = .error "Duplicate capability ID: echo.text" ∧
      outcome.1.contracts "echo.text" = some ⟨"echo.text", []⟩ := ⟨rfl, rfl⟩

end PluginManager

end FusionRouter
