/-! Capabilities an extension may have, and sets of them that are closed under implication. -/

namespace ComponentContainer

inductive Capability
  | registryMutator
  | finalizer
  | instanceHook
  | mergeAware
  | eventListener
  deriving DecidableEq

namespace Capability

def all : List Capability :=
  [registryMutator, finalizer, instanceHook, mergeAware, eventListener]

theorem mem_all (c : Capability) : c ∈ all := by cases c <;> decide

def text : Capability → String
  | registryMutator => "registry_mutator"
  | finalizer => "finalizer"
  | instanceHook => "instance_hook"
  | mergeAware => "merge_aware"
  | eventListener => "event_listener"

def label : Capability → String
  | registryMutator => "RegistryMutator"
  | finalizer => "Finalizer"
  | instanceHook => "InstanceHook"
  | mergeAware => "MergeAware"
  | eventListener => "EventListener"

def implied : Capability → Option Capability
  | registryMutator => some finalizer
  | mergeAware => some instanceHook
  | finalizer | instanceHook | eventListener => none

theorem implied_implied {c d : Capability} (h : c.implied = some d) : d.implied = none := by
  cases c <;> simp_all [implied] <;> subst h <;> rfl

end Capability

/-- A set of capabilities, in the order of `Capability.all`, closed under `Capability.implied`. -/
structure CapabilitySet where
  toList : List Capability
  canonical : Capability.all.filter (· ∈ toList) = toList
  closed : ∀ c ∈ toList, ∀ d, c.implied = some d → d ∈ toList
  deriving DecidableEq

namespace CapabilitySet

instance : Membership Capability CapabilitySet := ⟨fun s c => c ∈ s.toList⟩

instance (c : Capability) (s : CapabilitySet) : Decidable (c ∈ s) :=
  inferInstanceAs (Decidable (c ∈ s.toList))

theorem mem_toList {c : Capability} {s : CapabilitySet} : c ∈ s.toList ↔ c ∈ s := .rfl

@[ext] theorem ext {s t : CapabilitySet} (h : ∀ c, c ∈ s ↔ c ∈ t) : s = t := by
  have : s.toList = t.toList := by
    rw [← s.canonical, ← t.canonical]
    exact List.filter_congr fun c _ => decide_eq_decide.2 (h c)
  cases s; cases t; simp_all

def empty : CapabilitySet := ⟨[], by decide, by simp⟩

instance : EmptyCollection CapabilitySet := ⟨empty⟩
instance : Inhabited CapabilitySet := ⟨empty⟩

@[simp] theorem not_mem_empty (c : Capability) : c ∉ (∅ : CapabilitySet) := List.not_mem_nil

def insert (s : CapabilitySet) (c : Capability) : CapabilitySet where
  toList := Capability.all.filter fun d => d ∈ s.toList ∨ d = c ∨ c.implied = some d
  canonical := by
    refine List.filter_congr fun d hd => ?_
    simp [List.mem_filter, Capability.mem_all]
  closed := by
    intro d hd e he
    simp only [List.mem_filter, Capability.mem_all, true_and, decide_eq_true_eq] at hd ⊢
    rcases hd with hd | rfl | hd
    · exact .inl (s.closed d hd e he)
    · exact .inr (.inr he)
    · rw [Capability.implied_implied hd] at he
      cases he

@[simp] theorem mem_insert {s : CapabilitySet} {c d : Capability} :
    d ∈ s.insert c ↔ d ∈ s ∨ d = c ∨ c.implied = some d := by
  simp [insert, ← mem_toList, Capability.mem_all]

def ofList (cs : List Capability) : CapabilitySet := cs.foldl insert ∅

def isEmpty (s : CapabilitySet) : Bool := s.toList.isEmpty

def text (s : CapabilitySet) : String := ",".intercalate (s.toList.map Capability.text)

end CapabilitySet

abbrev CapabilityIndex := List (Capability × List String)

namespace CapabilityIndex

def names (x : CapabilityIndex) (c : Capability) : List String := (x.lookup c).getD []

def enter (name : String) : CapabilityIndex → Capability → CapabilityIndex
  | [], c => [(c, [name])]
  | (d, names) :: rest, c =>
    if d = c then (d, names ++ [name]) :: rest else (d, names) :: enter name rest c

def enterAll (x : CapabilityIndex) (s : CapabilitySet) (name : String) : CapabilityIndex :=
  s.toList.foldl (enter name) x

def drop (x : CapabilityIndex) (name : String) : CapabilityIndex :=
  x.map fun p => (p.1, p.2.filter (· ≠ name))

end CapabilityIndex

end ComponentContainer
