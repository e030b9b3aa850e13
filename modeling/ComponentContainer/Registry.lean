import ComponentContainer.Pipeline

/-! Definitions with the names that they may have, and the registry: definitions by name, their names
in registration order and by capability, the snapshots that creations work from, the created
singletons, the names in creation, and the pipeline. -/

namespace ComponentContainer

namespace Name

def isComponentChar (c : Char) : Bool :=
  c.isAlphanum || c == '_' || c == '.' || c == ':' || c == '#' || c == '-'

def isComponent (name : String) : Bool :=
  match name.toList with
  | [] => false
  | c :: rest => c.isAlphanum && rest.all isComponentChar

def reservedStart : String := "internal."

def isReserved (name : String) : Bool := reservedStart.toList.isPrefixOf name.toList

def isDefinable (name : String) : Bool := isComponent name && !isReserved name

end Name

/-- A blueprint with the stamp that tells it from every other definition built. -/
structure Definition extends Blueprint where
  stamp : Nat
  deriving DecidableEq

namespace Definition

def setRole (d : Definition) (role : Role) : Definition := { d with role }

def setPrecedence (d : Definition) (precedence : Precedence) : Definition := { d with precedence }

def setLazy (d : Definition) (lazy : Bool) : Definition := { d with lazy }

def setAttribute (d : Definition) (key value : String) : Definition :=
  { d with attributes := d.attributes.insert key value }

def describe (d : Definition) : String :=
  "ComponentDefinition \x7b name: " ++ Text.quoted d.name ++ ", role: " ++ d.role.label ++
    ", capabilities: CapabilitySet \x7b values: \x7b" ++
    ", ".intercalate (d.capabilities.toList.map Capability.label) ++ "\x7d \x7d, precedence: " ++
    d.precedence.describe ++ ", lazy_init: " ++ toString d.lazy ++ ", attributes: " ++
    d.attributes.describe ++ ", .. \x7d"

end Definition

structure Registry where
  definitions : List (String × Definition)
  order : List String
  index : CapabilityIndex
  snapshots : List (String × Definition)
  singletons : List (String × Instance)
  inCreation : List String
  pipeline : Pipeline
  invalidations : Nat
  deriving DecidableEq

namespace Registry

def empty : Registry := ⟨[], [], [], [], [], [], [], 0⟩

instance : EmptyCollection Registry := ⟨empty⟩

def find? (r : Registry) (name : String) : Option Definition := r.definitions.lookup name

def contains (r : Registry) (name : String) : Bool := (r.find? name).isSome

def names (r : Registry) : List String := r.order

def declaring (r : Registry) (c : Capability) : List String := r.index.names c

def register (r : Registry) (d : Definition) : Except RegistryError Registry :=
  if !Name.isDefinable d.name then .error (.invalidName d.name)
  else if r.contains d.name then .error (.duplicateDefinition d.name)
  else .ok { r with
    definitions := r.definitions ++ [(d.name, d)]
    order := r.order ++ [d.name]
    index := r.index.enterAll d.capabilities d.name
    snapshots := r.snapshots.filter (·.1 ≠ d.name) }

def remove (r : Registry) (name : String) : Except RegistryError (Definition × Registry) :=
  match r.find? name with
  | none => .error (.noSuchDefinition name)
  | some d => .ok (d, { r with
    definitions := r.definitions.filter (·.1 ≠ name)
    order := r.order.filter (· ≠ name)
    index := r.index.drop name
    snapshots := r.snapshots.filter (·.1 ≠ name)
    singletons := r.singletons.filter (·.1 ≠ name) })

def amend (r : Registry) (name : String) (f : Definition → Definition) : Registry :=
  { r with definitions := r.definitions.map fun p => if p.1 = name then (p.1, f p.2) else p }

def snapshot (r : Registry) (name : String) : Except RegistryError (Definition × Registry) :=
  match r.snapshots.lookup name with
  | some d => .ok (d, r)
  | none =>
    match r.find? name with
    | some d => .ok (d, { r with snapshots := r.snapshots ++ [(name, d)] })
    | none => .error (.noSuchDefinition name)

def invalidate (r : Registry) : Registry :=
  { r with snapshots := [], invalidations := r.invalidations + 1 }

def singleton? (r : Registry) (name : String) : Option Instance := r.singletons.lookup name

def store (r : Registry) (name : String) (i : Instance) : Registry :=
  { r with singletons := r.singletons.filter (·.1 ≠ name) ++ [(name, i)] }

def destroySingletons (r : Registry) : Registry := { r with singletons := [] }

def beginCreation (r : Registry) (name : String) : Registry :=
  { r with inCreation := name :: r.inCreation }

def endCreation (r : Registry) (name : String) : Registry :=
  { r with inCreation := r.inCreation.filter (· ≠ name) }

def addToPipeline (r : Registry) (name : String) (e : Extension) : Except RegistryError Registry :=
  (PipelineEntry.make name e).map fun entry => { r with pipeline := r.pipeline.add entry }

def precedenceOf (r : Registry) (name : String) : Option Precedence :=
  (r.find? name).map (·.precedence)

def isInfrastructure (r : Registry) (name : String) : Bool :=
  (r.find? name).any (·.role = .infrastructure)

end Registry

end ComponentContainer
