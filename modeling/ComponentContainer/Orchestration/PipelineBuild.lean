import ComponentContainer.Orchestration.Invoker

/-! The build of the pipeline: an eligibility checker, then the hooks that the registry declares,
tier by tier, and at last the merge-aware ones once more, which moves them to the tail. -/

namespace ComponentContainer

def eligibilityCheckerName : String := "internal.eligibility_checker"

structure BuiltPipeline where
  pipeline : Pipeline
  target : Nat
  checker : Nat
  registered : List String
  deriving DecidableEq

def Surface.arm {σ : Type} (S : Surface σ) (target : Nat) : Act σ RegistryError Extension := do
  let checker : Extension := ⟨← S.fresh, .eligibilityChecker target⟩
  S.addToPipeline eligibilityCheckerName checker
  return checker

namespace Orchestration

variable {σ : Type} (S : Surface σ)

def instantiateHook (name : String) : Act (Orchestration σ) BootstrapError Candidate := do
  let c ← instantiate S .pipelineRegistration name
  if .instanceHook ∈ c.extension.behaviour.capabilities then return c
  throw (.registry name .pipelineRegistration (.capabilityMismatch name .instanceHook))

def addToPipeline (name : String) (e : Extension) : Act (Orchestration σ) BootstrapError Unit :=
  (attempt (S.addToPipeline name e)).adapt (.registry name .pipelineRegistration)

def enlist : List Candidate → Act (Orchestration σ) BootstrapError Unit
  | [] => return
  | c :: rest => do
    addToPipeline S c.name c.extension
    record S .debug <| s!"event=pipeline_register module=bootstrap status=ok name={c.name} " ++
      s!"tier={c.precedence.tier.text}"
    enlist rest

def buildWith (names : List String) : Act (Orchestration σ) BootstrapError BuiltPipeline := do
  let target := (S.pipeline (← get).registry).length + 1 + names.length
  let checker ← (attempt (S.arm target)).adapt
    (.registry eligibilityCheckerName .pipelineRegistration)
  let (found, orderedNames, untaggedNames) ←
    classify S (fun _ => return true) (instantiateHook S) names
  let priority := sortByPrecedence (·.precedence) found
  enlist S priority
  let ordered := sortByPrecedence (·.precedence) (← instantiateAll (instantiateHook S) orderedNames)
  enlist S ordered
  let untagged ← instantiateAll (instantiateHook S) untaggedNames
  enlist S untagged
  let hooks := priority ++ ordered ++ untagged
  let merging := sortByPrecedence (·.precedence)
    (hooks.filter (·.extension.behaviour.merge.isSome))
  enlist S merging
  let o ← get
  let pipeline := S.pipeline o.registry
  record S .info <| s!"event=pipeline_build module=bootstrap status=ok run_id={o.invoker.run} " ++
    s!"hooks={hooks.length} merge_aware={merging.length} pipeline_len={pipeline.length} " ++
    s!"target={target}"
  return ⟨pipeline, target, checker.stamp, (hooks ++ merging).map (·.name)⟩

/-- Builds the pipeline, once for each invoker, whether or not the build succeeds. -/
def buildPipeline : Act (Orchestration σ) BootstrapError BuiltPipeline := do
  let invoker := (← get).invoker
  if invoker.pipelineBuilt then
    record S .warn <| s!"event=pipeline_build module=bootstrap status=error " ++
      s!"run_id={invoker.run} reason=already_built"
    throw (.pipelineAlreadyBuilt invoker.run)
  modify fun o => { o with invoker := { o.invoker with pipelineBuilt := true } }
  let names ← ask (S.find .instanceHook)
  buildWith S (names.filter (· ∉ invoker.processed))

end Orchestration

end ComponentContainer
