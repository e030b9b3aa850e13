import ComponentContainer.Orchestration.Invoker

/-! The mutation phase: supplied mutators, then the mutators of the first two tiers, then rounds of
discovery until one finds nothing new; after that all finalize hooks. Log lines show a duration as
`*`, for no clock is read. -/

namespace ComponentContainer

structure MutationSummary where
  run : String
  mutated : List String
  finalized : List String
  rounds : Nat
  degraded : Bool
  deriving DecidableEq

namespace Orchestration

variable {σ : Type} (S : Surface σ) (hooks : Hooks σ)

def collectFrom (tier : Option Tier) (phase : Phase) :
    List String → Act (Orchestration σ) BootstrapError (List Candidate)
  | [] => return []
  | name :: rest => do
    let o ← get
    if name ∈ o.invoker.processed || !tier.all (S.isTagged name · o.registry) then
      collectFrom tier phase rest
    else
      let c ← instantiate S phase name
      mark name
      return c :: (← collectFrom tier phase rest)

def collect (tier : Option Tier) (phase : Phase) :
    Act (Orchestration σ) BootstrapError (List Candidate) := do
  let batch ← collectFrom S tier phase (← ask (S.find .registryMutator))
  return sortByPrecedence (·.precedence) batch

def mutate (phase : Phase) (c : Candidate) : Act (Orchestration σ) BootstrapError Bool := do
  if c.extension.behaviour.mutator.isNone then
    throw (.registry c.name phase (.capabilityMismatch c.name .registryMutator))
  if !(← ask S.editable) then return false
  (attempt (hooks.mutate c.name c.extension)).adapt (.hook c.name phase)
  let run := (← get).invoker.run
  record S .debug <| s!"event=extension_invoke module=bootstrap status=ok run_id={run} " ++
    s!"phase={phase.text} name={c.name} tier={c.precedence.tier.text}"
  return true

def mutateAll (phase : Phase) : List Candidate → Act (Orchestration σ) BootstrapError (List String)
  | [] => return []
  | c :: rest => do
    let ran ← mutate S hooks phase c
    let names ← mutateAll phase rest
    return if ran then c.name :: names else names

structure SuppliedOutcome where
  invoked : List Candidate
  mutated : List String
  others : List Supplied

def mutateSupplied : List Supplied → Act (Orchestration σ) BootstrapError SuppliedOutcome
  | [] => return ⟨[], [], []⟩
  | item :: rest => do
    if !(← markNew item.name) then
      let run := (← get).invoker.run
      record S .debug <| s!"event=extension_skip module=bootstrap status=ok run_id={run} " ++
        s!"name={item.name} reason=already_processed"
      mutateSupplied rest
    else if item.extension.behaviour.mutator.isSome then
      let c : Candidate := ⟨item.name, .untagged, item.extension⟩
      let ran ← mutate S hooks .suppliedMutation c
      let out ← mutateSupplied rest
      return ⟨c :: out.invoked, if ran then c.name :: out.mutated else out.mutated, out.others⟩
    else
      let out ← mutateSupplied rest
      return { out with others := item :: out.others }

structure Discovery where
  rounds : Nat
  invoked : List Candidate
  mutated : List String

/-- Collects and runs all that is not processed, round after round, until a round is empty. The
budget bounds the rounds; `before` counts the rounds that went before. -/
def discover (before : Nat) : Nat → Act (Orchestration σ) BootstrapError Discovery
  | 0 => return ⟨0, [], []⟩
  | budget + 1 => do
    let batch ← collect S none .discoveryMutation
    if batch.isEmpty then return ⟨0, [], []⟩
    let run := (← get).invoker.run
    record S .debug <| s!"event=discovery_round module=bootstrap status=ok run_id={run} " ++
      s!"round={before + 1} found={batch.length}"
    let names ← mutateAll S hooks .discoveryMutation batch
    let later ← discover (before + 1) budget
    return ⟨later.rounds + 1, batch ++ later.invoked, names ++ later.mutated⟩

def finalize (name : String) (e : Extension) :
    Act (Orchestration σ) BootstrapError (List String) := do
  let run := (← get).invoker.run
  if e.behaviour.hasFinalize then
    (attempt (hooks.finalize name e)).adapt (.hook name .finalization)
    record S .debug s!"event=extension_finalize module=bootstrap status=ok run_id={run} name={name}"
    return [name]
  else
    record S .warn <| s!"event=extension_finalize module=bootstrap status=skipped run_id={run} " ++
      s!"name={name} reason=no_finalize_hook"
    return []

def finalizeAll : List (String × Extension) → Act (Orchestration σ) BootstrapError (List String)
  | [] => return []
  | (name, e) :: rest => do
    let ran ← finalize S hooks name e
    return ran ++ (← finalizeAll rest)

def finalizeEach : List String → Act (Orchestration σ) BootstrapError (List String)
  | [] => return []
  | name :: rest => do
    let c ← instantiate S .finalization name
    let ran ← finalize S hooks c.name c.extension
    return ran ++ (← finalizeEach rest)

def finalizeDiscovered : Act (Orchestration σ) BootstrapError (List String) := do
  let names ← ask (S.find .finalizer)
  let (priority, ordered, untagged) ← classify S markNew (instantiate S .finalization) names
  let first ← finalizeAll S hooks
    ((sortByPrecedence (·.precedence) priority).map fun c => (c.name, c.extension))
  let created ← instantiateAll (instantiate S .finalization) ordered
  let second ← finalizeAll S hooks
    ((sortByPrecedence (·.precedence) created).map fun c => (c.name, c.extension))
  let third ← finalizeEach S hooks untagged
  return first ++ second ++ third

def mutateDeclared : Act (Orchestration σ) BootstrapError Discovery := do
  let priority ← collect S (some .priority) .priorityMutation
  let priorityNames ← mutateAll S hooks .priorityMutation priority
  let ordered ← collect S (some .ordered) .orderedMutation
  let orderedNames ← mutateAll S hooks .orderedMutation ordered
  let budget := (S.roster (← get).registry).length + 1
  let found ← discover S hooks 0 budget
  return ⟨found.rounds, priority ++ ordered ++ found.invoked,
    priorityNames ++ orderedNames ++ found.mutated⟩

structure Settlement where
  invoked : List Candidate
  mutated : List String
  others : List Supplied
  rounds : Nat

def settle (supplied : List Supplied) : Act (Orchestration σ) BootstrapError Settlement := do
  let given ← mutateSupplied S hooks supplied
  let found ← mutateDeclared S hooks
  return {
    invoked := given.invoked ++ found.invoked
    mutated := given.mutated ++ found.mutated
    others := given.others
    rounds := found.rounds }

def finalizeSettled (settled : Settlement) :
    Act (Orchestration σ) BootstrapError (List String) := do
  let own ← finalizeAll S hooks (settled.invoked.map fun c => (c.name, c.extension))
  let others ← finalizeAll S hooks (settled.others.map fun i => (i.name, i.extension))
  return own ++ others

def mutateRegistry (supplied : List Supplied) :
    Act (Orchestration σ) BootstrapError MutationSummary := do
  let settled ← settle S hooks supplied
  let handled ← finalizeSettled S hooks settled
  let discovered ← finalizeDiscovered S hooks
  return {
    run := (← get).invoker.run
    mutated := settled.mutated
    finalized := handled ++ discovered
    rounds := settled.rounds
    degraded := false }

def finalizeSupplied : List Supplied → Act (Orchestration σ) BootstrapError (List String)
  | [] => return []
  | item :: rest => do
    if !(← markNew item.name) then
      finalizeSupplied rest
    else
      let ran ← finalize S hooks item.name item.extension
      return ran ++ (← finalizeSupplied rest)

def mutateDegraded (supplied : List Supplied) :
    Act (Orchestration σ) BootstrapError MutationSummary := do
  let run := (← get).invoker.run
  record S .warn <| s!"event=mutation_phase module=bootstrap status=degraded run_id={run} " ++
    s!"reason=registry_not_mutable"
  let finalized ← finalizeSupplied S hooks supplied
  return { run, mutated := [], finalized, rounds := 0, degraded := true }

/-- Runs mutators and finalizers; only a phase that succeeds invalidates the snapshots. -/
def mutationPhase (supplied : List Supplied) :
    Act (Orchestration σ) BootstrapError MutationSummary := do
  let run := (← get).invoker.run
  record S .info <| s!"event=mutation_phase module=bootstrap status=start run_id={run} " ++
    s!"supplied={supplied.length}"
  let phase :=
    if ← ask S.editable then mutateRegistry S hooks supplied else mutateDegraded S hooks supplied
  let summary ← tryCatch phase fun e => do
    record S .error <| s!"event=mutation_phase module=bootstrap status=error run_id={run} " ++
      s!"duration_ms=* error={e.message}"
    throw e
  ask S.invalidate
  record S .info <| s!"event=mutation_phase module=bootstrap status=ok run_id={run} " ++
    s!"mutated={summary.mutated.length} finalized={summary.finalized.length} " ++
    s!"rounds={summary.rounds} degraded={summary.degraded} duration_ms=*"
  return summary

end Orchestration

end ComponentContainer
