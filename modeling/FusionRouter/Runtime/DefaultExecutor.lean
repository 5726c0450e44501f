import FusionRouter.Runtime.Provider

/-!
# The executor of the host

`DefaultExecutor` narrows the `tool_allowlist` of a node to the tools the
operator permits and hands the node to the provider-backed executor.
-/

namespace FusionRouter

/-- The settings of the operator; `toolRegistry` are the registered names. -/
structure DefaultExecutor where
  toolRegistry : Option (Finset String)
  allowAutoExec : Bool
  permittedTools : Option (List String)
  pricing : Option (String → TokenPricing)

namespace DefaultExecutor

variable (executor : DefaultExecutor)

def registered (name : String) : Bool :=
  match executor.toolRegistry with
  | some names => decide (name ∈ names)
  | none => false

def keeps (entry : Json) : Bool :=
  match entry.asStr with
  | some name =>
    match executor.permittedTools with
    | some permitted =>
      executor.registered name && decide (name ∈ permitted)
    | none => executor.registered name
  | none => false

def sanitizeToolAllowlist (node : ExecutionNode) : ExecutionNode :=
  match (node.config "tool_allowlist").bind Json.asArray with
  | none => node
  | some names =>
    let filtered := names.filter executor.keeps
    if filtered.length = names.length then node
    else
      { node with
        config := node.config.insert "tool_allowlist" (.array filtered) }

/-- The executor a node is delegated to: the registered tools, no resource
manager and no approval store. -/
def providerExecutor : ProviderExecutor :=
  { tools := executor.toolRegistry.getD ∅
    allowAutoExec := executor.allowAutoExec
    resourceManager := false
    pricing := executor.pricing
    approvals := false }

/-- The output of an LLM node in the form the host expects. -/
def hostOutput (kind : ExecutionNodeKind) (output : Option Json) : Option Json :=
  match kind with
  | .llmGenerate | .llmReview | .llmJudge =>
    match (output.bind (Json.get "content")).bind Json.asStr with
    | none => output
    | some content =>
      match output.bind (Json.get "tool_calls") with
      | some toolCalls =>
        some (.object [("content", .string content), ("tool_calls", toolCalls)])
      | none => some (.string content)
  | _ => output

def executeRuntime (runtime : RuntimeExternals) (environment : Environment)
    (node : ExecutionNode) (ctx : NodeExecContext) :
    Action NodeExecutionResult := do
  let result ← executor.providerExecutor.executeNode runtime environment node ctx
  pure { result with output := hostOutput node.kind result.output }

def executeNode (runtime : RuntimeExternals) (environment : Environment)
    (node : ExecutionNode) : Runner :=
  executor.executeRuntime runtime environment (executor.sanitizeToolAllowlist node)

end DefaultExecutor

end FusionRouter
