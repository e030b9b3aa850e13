import ComponentContainer.Capability
import ComponentContainer.Precedence
import ComponentContainer.Text

/-! What components and extensions are made from: roles and attributes, and scripts, which say what
factories and extensions do. Scripts refer to blueprints and to extensions by their position in a
catalog, so that a script can register itself again. -/

namespace ComponentContainer

inductive Role
  | application
  | support
  | infrastructure
  deriving DecidableEq

namespace Role

instance : Inhabited Role := ⟨application⟩

def text : Role → String
  | application => "application"
  | support => "support"
  | infrastructure => "infrastructure"

def label : Role → String
  | application => "Application"
  | support => "Support"
  | infrastructure => "Infrastructure"

end Role

abbrev Attributes := List (String × String)

namespace Attributes

def insert (key value : String) : Attributes → Attributes
  | [] => [(key, value)]
  | (k, v) :: rest =>
    if key = k then (key, value) :: rest
    else if key < k then (key, value) :: (k, v) :: rest
    else (k, v) :: insert key value rest

def ofList (pairs : List (String × String)) : Attributes :=
  pairs.foldl (fun a p => a.insert p.1 p.2) []

def describe (a : Attributes) : String :=
  "\x7b" ++ ", ".intercalate (a.map fun p => Text.quoted p.1 ++ ": " ++ Text.quoted p.2) ++ "\x7d"

end Attributes

inductive Value
  | text (s : String)
  | integer (n : Int)
  | flag (b : Bool)
  | unit
  | integers (l : List Int)
  deriving DecidableEq

inductive Kind
  | text
  | integer
  | extension
  deriving DecidableEq

inductive Edit
  | register (blueprint : Nat)
  | remove (name : String)
  | setRole (name : String) (role : Role)
  | setPrecedence (name : String) (precedence : Precedence)
  | setLazy (name : String) (lazy : Bool)
  | setAttribute (name key value : String)
  | contains (name : String)
  | names
  deriving DecidableEq

inductive Query
  | find (capability : Capability)
  | precedence (name : String)
  | tagged (name : String) (tier : Tier)
  | infrastructure (name : String)
  | instantiate (name : String)
  | invalidate
  | editable
  | pipeline
  | addToPipeline (name : String) (extension : Nat)
  deriving DecidableEq

inductive Inspection
  | get (name : String)
  | getAs (name : String) (kind : Kind)
  | same (name other : String)
  | definition (name : String)
  | describe (name : String)
  | describeInstance (name : String)
  | describePipeline
  | size
  | created (name : String)
  | createdCount
  | destroy
  | invalidations
  deriving DecidableEq

inductive Action
  | note (text : String)
  | fail (message : String)
  | edit (request : Edit)
  | query (request : Query)
  | inspect (request : Inspection)
  deriving DecidableEq

structure Step where
  action : Action
  attempt : Bool
  deriving DecidableEq

inductive InstanceSpec
  | extension (entry : Nat)
  | value (v : Value)
  deriving DecidableEq

inductive Response
  | pass
  | veto
  | fail (message : String)
  | replace (spec : InstanceSpec)
  | append (text : String)
  | shout
  deriving DecidableEq

/-- A response for the components that fit: of that name and of that role, where one is given. -/
structure HookRule where
  component : Option String
  role : Option Role
  response : Response
  deriving DecidableEq

structure MergeRule where
  component : Option String
  role : Option Role
  refusal : Option String
  deriving DecidableEq

inductive EventKind
  | refreshed
  | closed
  deriving DecidableEq

structure ListenerRule where
  on : Option EventKind
  refusal : Option String
  deriving DecidableEq

inductive HookScript
  | silent
  | rules (before after : List HookRule)
  deriving DecidableEq

structure MutatorScript where
  mutate : List Step
  finalize : List Step
  deriving DecidableEq

structure HookFamilies where
  mutator : Option MutatorScript
  finalizer : Option (List Step)
  hook : Option HookScript
  merge : Option (List MergeRule)
  listener : Option (List ListenerRule)
  deriving DecidableEq

inductive ExtensionSpec
  | inert
  | scripted (id : Option String) (families : HookFamilies)
  deriving DecidableEq

instance : Inhabited ExtensionSpec := ⟨.scripted none ⟨none, none, none, none, none⟩⟩

/-- What a factory hands out: one extension for the life of the definition, another component,
or a new instance each time. -/
inductive Product
  | shared (extension : Nat)
  | component (name : String)
  | fresh (spec : InstanceSpec)
  deriving DecidableEq

structure Factory where
  first : List Step
  product : Product
  deriving DecidableEq

structure Blueprint where
  name : String
  role : Role
  capabilities : CapabilitySet
  precedence : Precedence
  lazy : Bool
  attributes : Attributes
  factory : Factory
  deriving DecidableEq

instance : Inhabited Blueprint :=
  ⟨⟨"", default, ∅, default, false, [], ⟨[], .fresh (.value .unit)⟩⟩⟩

structure TypeNames where
  text : String
  integer : String
  flag : String
  unit : String
  integers : String
  inert : String
  extension : String
  deriving DecidableEq

structure Catalog where
  typeNames : TypeNames
  blueprints : List Blueprint
  extensions : List ExtensionSpec
  deriving DecidableEq

namespace Catalog

def blueprint (lib : Catalog) (entry : Nat) : Blueprint := lib.blueprints.getD entry default

def extension (lib : Catalog) (entry : Nat) : ExtensionSpec := lib.extensions.getD entry default

end Catalog

def Action.word : Action → String
  | .note _ => "note"
  | .fail _ => "fail"
  | .edit e =>
    match e with
    | .register _ => "register"
    | .remove _ => "remove"
    | .setRole .. => "set_role"
    | .setPrecedence .. => "set_precedence"
    | .setLazy .. => "set_lazy"
    | .setAttribute .. => "set_attribute"
    | .contains _ => "contains"
    | .names => "names"
  | .query q =>
    match q with
    | .find _ => "find"
    | .precedence _ => "precedence"
    | .tagged .. => "tagged"
    | .infrastructure _ => "infra"
    | .instantiate _ => "instantiate"
    | .invalidate => "invalidate"
    | .editable => "is_mutable"
    | .pipeline => "pipeline"
    | .addToPipeline .. => "add_pipeline"
  | .inspect i =>
    match i with
    | .get _ => "get"
    | .getAs .. => "get_typed"
    | .same .. => "same"
    | .definition _ => "definition"
    | .describe _ => "debug"
    | .describeInstance _ => "debug_instance"
    | .describePipeline => "debug_pipeline"
    | .size => "len"
    | .created _ => "contains_singleton"
    | .createdCount => "singletons"
    | .destroy => "destroy"
    | .invalidations => "invalidations"

end ComponentContainer
