import ComponentContainer.Surface

/-! Views: a registry behind another surface that hides, refuses or replaces some of its answers. -/

namespace ComponentContainer

/-- What a view changes: how many edits it lets pass (all, where there is no number), the names
without a precedence, those that the pipeline does not take, and what searches answer. -/
structure View where
  edits : Option Nat
  hidden : List String
  rejected : List String
  found : List (Capability × List String)
  traced : Bool
  deriving DecidableEq

namespace View

variable {σ τ ε α : Type}

def inside (m : StateM σ α) : StateM (σ × τ) α := fun s =>
  let (a, t) := m s.1
  (a, t, s.2)

def insideAct (m : Act σ ε α) : Act (σ × τ) ε α := ExceptT.mk (inside m.run)

def spend : Option Nat → Bool × Option Nat
  | none => (true, none)
  | some 0 => (false, some 0)
  | some (n + 1) => (true, some n)

def trace (v : View) (S : Surface σ) (e : Entry) : StateM σ Unit :=
  if v.traced then S.note e else pure ()

def surface (v : View) (S : Surface σ) : Surface (σ × Option Nat) where
  find c := inside do
    v.trace S (.searched c)
    match v.found.lookup c with
    | some names => return names
    | none => S.find c
  roster s := v.found.flatMap (·.2) ++ S.roster s.1
  precedenceOf name s := if name ∈ v.hidden then none else S.precedenceOf name s.1
  isInfrastructure name s := S.isInfrastructure name s.1
  instantiate name := insideAct do
    v.trace S (.instantiated name)
    S.instantiate name
  invalidate := inside do
    v.trace S .invalidated
    S.invalidate
  editable := do
    let (possible, left) := spend (← get).2
    modify fun s => (s.1, left)
    if possible then inside S.editable else return false
  edit e := insideAct (S.edit e)
  pipeline s := S.pipeline s.1
  addToPipeline name e := insideAct do
    v.trace S (.added name)
    if name ∈ v.rejected then throw (.duplicateDefinition name)
    S.addToPipeline name e
  fresh := inside S.fresh
  note e := inside (S.note e)
  record level message := inside (S.record level message)

end View

end ComponentContainer
