import ComponentContainer.Journal
import ComponentContainer.Level

/-! A session: a registry together with all that its extensions keep and write. The operations
here are those of the registry with the log lines they write. -/

namespace ComponentContainer

/-- A computation on states `σ` that may fail; what was done before the failure stays done. -/
abbrev Act (σ ε α : Type) := ExceptT ε (StateM σ) α

structure Report where
  checker : Nat
  name : String
  typeName : String
  role : Role
  pipelineLength : Nat
  target : Nat
  deriving DecidableEq

structure Session where
  registry : Registry
  reports : List Report
  listeners : List (String × Extension)
  journal : List Entry
  log : List Record
  nextStamp : Nat
  deriving DecidableEq

def detectorStamp : Nat := 0

namespace Session

def empty : Session := ⟨∅, [], [], [], [], detectorStamp + 1⟩

instance : EmptyCollection Session := ⟨empty⟩

def reportsOf (s : Session) (checker : Nat) : List Report := s.reports.filter (·.checker = checker)

def fresh : StateM Session Nat :=
  modifyGet fun s => (s.nextStamp, { s with nextStamp := s.nextStamp + 1 })

def note (e : Entry) : StateM Session Unit := modify fun s => { s with journal := s.journal ++ [e] }

def record (level : Level) (message : String) : StateM Session Unit :=
  modify fun s => { s with log := s.log ++ [⟨level, message⟩] }

def setRegistry (r : Registry) : StateM Session Unit := modify fun s => { s with registry := r }

def ofExcept {ε α : Type} : Except ε α → Act Session ε α
  | .ok a => pure a
  | .error e => throw e

def register (d : Definition) : Act Session RegistryError Unit := do
  let r ← ofExcept ((← get).registry.register d)
  record .debug <| s!"event=definition_register module=registry status=ok name={d.name} " ++
    s!"capabilities={d.capabilities.text} tier={d.precedence.tier.text}"
  setRegistry r

def remove (name : String) : Act Session RegistryError Definition := do
  let (d, r) ← ofExcept ((← get).registry.remove name)
  setRegistry r
  record .debug s!"event=definition_remove module=registry status=ok name={name}"
  return d

def amend (name : String) (f : Definition → Definition) : StateM Session Bool := do
  let r := (← get).registry
  setRegistry (r.amend name f)
  return r.contains name

def invalidate : StateM Session Unit := do
  let r := (← get).registry
  setRegistry r.invalidate
  record .debug s!"event=metadata_invalidate module=registry status=ok dropped={r.snapshots.length}"

def destroySingletons : StateM Session Nat := do
  let r := (← get).registry
  setRegistry r.destroySingletons
  record .debug s!"event=singletons_destroy module=registry status=ok count={r.singletons.length}"
  return r.singletons.length

def addToPipeline (name : String) (e : Extension) : Act Session RegistryError Unit := do
  let r ← ofExcept ((← get).registry.addToPipeline name e)
  setRegistry r
  record .debug s!"event=pipeline_add module=registry status=ok name={name} len={r.pipeline.length}"

def snapshot (name : String) : Act Session RegistryError Definition := do
  let (d, r) ← ofExcept ((← get).registry.snapshot name)
  setRegistry r
  return d

end Session

def Blueprint.build (b : Blueprint) : StateM Session Definition := do
  return { b with stamp := ← Session.fresh }

def ExtensionSpec.build (id : String) (e : ExtensionSpec) : StateM Session Extension := do
  return ⟨← Session.fresh, e.behaviour id⟩

def InstanceSpec.build (lib : Catalog) (id : String) : InstanceSpec → StateM Session Instance
  | .extension entry => return .ofExtension (← (lib.extension entry).build id)
  | .value v => return ⟨← Session.fresh, .value v⟩

end ComponentContainer
