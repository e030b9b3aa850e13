import ComponentContainer.Script

/-! Extensions and component instances. A stamp is what makes two of them the same. -/

namespace ComponentContainer

inductive Behaviour
  | inert
  | scripted (id : String) (families : HookFamilies)
  | eligibilityChecker (target : Nat)
  | listenerDetector
  deriving DecidableEq

namespace Behaviour

def mutator : Behaviour → Option MutatorScript
  | scripted _ f => f.mutator
  | _ => none

def finalizer : Behaviour → Option (List Step)
  | scripted _ f => f.finalizer
  | _ => none

def isInstanceHook : Behaviour → Bool
  | scripted _ f => f.hook.isSome
  | eligibilityChecker _ | listenerDetector => true
  | inert => false

def merge : Behaviour → Option (List MergeRule)
  | scripted _ f => f.merge
  | _ => none

def listener : Behaviour → Option (List ListenerRule)
  | scripted _ f => f.listener
  | _ => none

def isListener (b : Behaviour) : Bool := b.listener.isSome

def hasFinalize (b : Behaviour) : Bool := b.mutator.isSome || b.finalizer.isSome

def capabilities (b : Behaviour) : CapabilitySet :=
  .ofList <| Capability.all.filter fun
    | .registryMutator => b.mutator.isSome
    | .finalizer => b.finalizer.isSome
    | .instanceHook => b.isInstanceHook
    | .mergeAware => b.merge.isSome
    | .eventListener => b.isListener

end Behaviour

structure Extension where
  stamp : Nat
  behaviour : Behaviour
  deriving DecidableEq

def ExtensionSpec.behaviour (id : String) : ExtensionSpec → Behaviour
  | inert => .inert
  | scripted own families => .scripted (own.getD id) families

inductive Content
  | value (v : Value)
  | extension (b : Behaviour)
  deriving DecidableEq

structure Instance where
  stamp : Nat
  content : Content
  deriving DecidableEq

namespace Instance

def ofExtension (e : Extension) : Instance := ⟨e.stamp, .extension e.behaviour⟩

def extension? (i : Instance) : Option Extension :=
  match i.content with
  | .extension b => some ⟨i.stamp, b⟩
  | .value _ => none

def isInstanceHook (i : Instance) : Bool := i.extension?.any (·.behaviour.isInstanceHook)

def same (i j : Instance) : Bool := i.stamp == j.stamp

def typeName (names : TypeNames) (i : Instance) : String :=
  match i.content with
  | .extension .inert => names.inert
  | .extension _ => names.extension
  | .value (.text _) => names.text
  | .value (.integer _) => names.integer
  | .value (.flag _) => names.flag
  | .value .unit => names.unit
  | .value (.integers _) => names.integers

def describe (names : TypeNames) (i : Instance) : String :=
  "Instance \x7b type_name: " ++ Text.quoted (i.typeName names) ++ ", extension: " ++
    toString i.extension?.isSome ++ " \x7d"

end Instance

end ComponentContainer
