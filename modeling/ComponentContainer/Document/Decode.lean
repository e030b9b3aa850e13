import ComponentContainer.Config
import ComponentContainer.Document.Reader
import ComponentContainer.Script

/-! What documents mean as roles, tiers, precedences and settings. A record may be an object, in
which unknown keys do not count and known ones are not repeated, or an array of its fields in
order. -/

namespace ComponentContainer.Document

def valuesOf (key : String) : List (Option String × Document) → Option (List Document)
  | [] => some []
  | (none, _) :: _ => none
  | (some k, v) :: rest => (valuesOf key rest).map fun vs => if k = key then v :: vs else vs

def member? (key : String) (members : List (Option String × Document)) :
    Option (Option Document) := do
  match ← valuesOf key members with
  | [] => return none
  | [v] => return some v
  | _ => none

def fields? (keys : List String) : Document → Option (List (Option Document))
  | object members => keys.mapM fun key => member? key members
  | array elements =>
    if elements.length ≤ keys.length then
      some (elements.map some ++ List.replicate (keys.length - elements.length) none)
    else none
  | _ => none

def field? {α : Type} (read : Document → Option α) (otherwise : α) : Option Document → Option α
  | none => some otherwise
  | some d => read d

def text? : Document → Option String
  | text value => value
  | _ => none

def bool? : Document → Option Bool
  | bool b => some b
  | _ => none

def nullable? : Document → Option (Option String)
  | null => some none
  | text value => value.map some
  | _ => none

def case? : Document → Option String
  | text value => value
  | object [(key, null)] => key
  | _ => none

def role? (d : Document) : Option Role := do
  match ← case? d with
  | "application" => return .application
  | "support" => return .support
  | "infrastructure" => return .infrastructure
  | _ => none

def tierNamed? : String → Option Tier
  | "priority" => some .priority
  | "ordered" => some .ordered
  | "untagged" => some .untagged
  | _ => none

def tier? (d : Document) : Option Tier := (case? d).bind tierNamed?

def order? : Document → Option Int
  | number (some n) => if -2147483648 ≤ n ∧ n ≤ 2147483647 then some n else none
  | _ => none

def precedenceOf? : Tier → Option Document → Option Precedence
  | .priority, some d => (order? d).map .priority
  | .ordered, some d => (order? d).map .ordered
  | .untagged, none | .untagged, some null => some .untagged
  | _, _ => none

def precedence? : Document → Option Precedence
  | object members => do
    let tier ← member? "tier" members
    precedenceOf? (← tier? (← tier)) (← member? "order" members)
  | array [text tier, order] => do precedenceOf? (← tierNamed? (← tier)) (some order)
  | _ => none

def loggingConfig? (d : Document) : Option LoggingConfig := do
  match ← fields? ["level", "dir"] d with
  | [level, dir] =>
    let preset : LoggingConfig := default
    return ⟨← field? text? preset.level level, ← field? nullable? preset.dir dir⟩
  | _ => none

def containerConfig? (d : Document) : Option ContainerConfig := do
  match ← fields? ["name", "pre_instantiate_singletons", "detect_listeners", "logging"] d with
  | [name, preInstantiate, detectListeners, logging] =>
    let preset : ContainerConfig := default
    return {
      name := ← field? text? preset.name name
      preInstantiate := ← field? bool? preset.preInstantiate preInstantiate
      detectListeners := ← field? bool? preset.detectListeners detectListeners
      logging := ← field? loggingConfig? preset.logging logging }
  | _ => none

end ComponentContainer.Document
