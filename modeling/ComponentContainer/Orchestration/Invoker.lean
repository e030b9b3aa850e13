import ComponentContainer.Surface

/-! The orchestrator's state, and how it reaches a registry and the hooks of extensions. -/

namespace ComponentContainer

structure ProcessedSet where
  names : List String
  nodup : names.Nodup
  deriving DecidableEq

namespace ProcessedSet

def empty : ProcessedSet := ⟨[], .nil⟩

instance : EmptyCollection ProcessedSet := ⟨empty⟩

instance : Membership String ProcessedSet := ⟨fun p name => name ∈ p.names⟩

instance (name : String) (p : ProcessedSet) : Decidable (name ∈ p) :=
  inferInstanceAs (Decidable (name ∈ p.names))

def mark (p : ProcessedSet) (name : String) : ProcessedSet :=
  if h : name ∈ p.names then p else ⟨name :: p.names, List.nodup_cons.2 ⟨h, p.nodup⟩⟩

def size (p : ProcessedSet) : Nat := p.names.length

@[simp] theorem not_mem_empty (name : String) : name ∉ (∅ : ProcessedSet) := List.not_mem_nil

@[simp] theorem mem_mark {p : ProcessedSet} {m n : String} : m ∈ p.mark n ↔ m ∈ p ∨ m = n := by
  by_cases h : n ∈ p.names
  · simp only [mark, dif_pos h]
    exact ⟨.inl, fun | .inl hm => hm | .inr e => e ▸ h⟩
  · simp only [mark, dif_neg h]
    exact List.mem_cons.trans or_comm

end ProcessedSet

/-- How the hooks of extensions act on a registry kept in states `σ`; the text is the name under
which the extension is processed. -/
structure Hooks (σ : Type) where
  mutate : String → Extension → Act σ HookError Unit
  finalize : String → Extension → Act σ HookError Unit

def Hooks.scripted {σ : Type} (lib : Catalog) (S : Surface σ) : Hooks σ where
  mutate _ e :=
    match e.behaviour with
    | .scripted id { mutator := some script, .. } => do
      S.note (.mutate id)
      (Script.run S.note (Script.performEdits S) id script.mutate).adapt (·.toHookError)
    | _ => return
  finalize _ e :=
    match e.behaviour with
    | .scripted id { mutator := some script, .. } => do
      S.note (.finalizeMutator id)
      (Script.run S.note (Script.performOn lib S) id script.finalize).adapt (·.toHookError)
    | .scripted id { finalizer := some steps, .. } => do
      S.note (.finalize id)
      (Script.run S.note (Script.performOn lib S) id steps).adapt (·.toHookError)
    | _ => return

structure Supplied where
  name : String
  extension : Extension
  deriving DecidableEq

def Supplied.describe (s : Supplied) : String :=
  "SuppliedExtension \x7b name: " ++ Text.quoted s.name ++ ", .. \x7d"

structure Candidate where
  name : String
  precedence : Precedence
  extension : Extension
  deriving DecidableEq

structure Invoker where
  run : String
  processed : ProcessedSet
  pipelineBuilt : Bool
  deriving DecidableEq

def Invoker.new (run : String) : Invoker := ⟨run, ∅, false⟩

structure Orchestration (σ : Type) where
  registry : σ
  invoker : Invoker

namespace Orchestration

variable {σ ε α : Type}

def ask (m : StateM σ α) : Act (Orchestration σ) ε α := fun o =>
  let (a, s) := m o.registry
  (.ok a, { o with registry := s })

def attempt (m : Act σ ε α) : Act (Orchestration σ) ε α := fun o =>
  let (a, s) := m o.registry
  (a, { o with registry := s })

def mark (name : String) : Act (Orchestration σ) ε Unit :=
  modify fun o =>
    { o with invoker := { o.invoker with processed := o.invoker.processed.mark name } }

def markNew (name : String) : Act (Orchestration σ) ε Bool := do
  if name ∈ (← get).invoker.processed then return false
  mark name
  return true

variable (S : Surface σ)

def record (level : Level) (message : String) : Act (Orchestration σ) ε Unit :=
  ask (S.record level message)

def instantiate (phase : Phase) (name : String) :
    Act (Orchestration σ) BootstrapError Candidate := do
  let e ← (attempt (S.instantiate name)).adapt (.registry name phase)
  let precedence := (S.precedenceOf name (← get).registry).getD .untagged
  return ⟨name, precedence, e⟩

def instantiateAll (create : String → Act (Orchestration σ) BootstrapError Candidate) :
    List String → Act (Orchestration σ) BootstrapError (List Candidate)
  | [] => return []
  | name :: rest => do
    let c ← create name
    return c :: (← instantiateAll create rest)

/-- Goes through the names that are let in: creates those of the first tier, and sets the others
aside, those of the second tier apart from the rest. -/
def classify (letIn : String → Act (Orchestration σ) BootstrapError Bool)
    (create : String → Act (Orchestration σ) BootstrapError Candidate) :
    List String → Act (Orchestration σ) BootstrapError
      (List Candidate × List String × List String)
  | [] => return ([], [], [])
  | name :: rest => do
    if !(← letIn name) then
      classify letIn create rest
    else if S.isTagged name .priority (← get).registry then
      let c ← create name
      let (priority, ordered, untagged) ← classify letIn create rest
      return (c :: priority, ordered, untagged)
    else if S.isTagged name .ordered (← get).registry then
      let (priority, ordered, untagged) ← classify letIn create rest
      return (priority, name :: ordered, untagged)
    else
      let (priority, ordered, untagged) ← classify letIn create rest
      return (priority, ordered, name :: untagged)

end Orchestration

end ComponentContainer
