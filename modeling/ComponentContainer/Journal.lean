import ComponentContainer.Registry

/-! The journal: what scripts did, in the order in which they did it. -/

namespace ComponentContainer

inductive Answer
  | done
  | unavailable
  | nothing
  | text (s : String)
  | flag (b : Bool)
  | count (n : Nat)
  | integer (n : Int)
  | size (length : Nat) (isEmpty : Bool)
  | names (l : List String)
  | precedence (p : Precedence)
  | definition (d : Definition)
  | component (i : Instance)
  | extension (id : String)
  deriving DecidableEq

inductive Entry
  | factory (name : String)
  | mutate (id : String)
  | finalizeMutator (id : String)
  | finalize (id : String)
  | acted (id word : String) (answer : Answer)
  | caught (id word : String) (error : ScriptError)
  | definition (id component : String) (role : Role) (attributes : Attributes)
  | beforeInit (id component : String) (role : Role) (pipelineLength : Nat)
  | afterInit (id component : String) (role : Role) (pipelineLength : Nat)
  | refreshed (id container : String) (components : Nat)
  | closed (id container : String)
  | searched (capability : Capability)
  | instantiated (name : String)
  | invalidated
  | added (name : String)
  deriving DecidableEq

end ComponentContainer
