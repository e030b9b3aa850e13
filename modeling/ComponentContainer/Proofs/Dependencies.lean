import ComponentContainer.Proofs.Registry
import ComponentContainer.Session
import Mathlib.Data.List.Perm.Subperm
import Mathlib.Logic.Relation

/-! The dependencies among definitions whose factories ask for components and make something of their
own. Components that can be resolved are registered, and so is all that they reach, without cycles. -/

namespace ComponentContainer

open Relation

def Step.get (name : String) : Step := ⟨.inspect (.get name), false⟩

def Step.request? (step : Step) : Option String :=
  match step.action with
  | .inspect (.get name) => some name
  | _ => none

def Product.requests : Product → List String
  | .component name => [name]
  | .shared _ | .fresh _ => []

namespace Factory

def Plain (f : Factory) : Prop := ∃ names : List String, f.first = names.map Step.get

def requests (f : Factory) : List String := f.first.filterMap Step.request? ++ f.product.requests

lemma requests_eq {f : Factory} {names : List String} (h : f.first = names.map Step.get) :
    f.requests = names ++ f.product.requests := by
  have hget : Step.request? ∘ Step.get = some := rfl
  rw [requests, h, List.filterMap_map, hget, List.filterMap_some]

end Factory

namespace Dependencies

variable {defs defs' : List (String × Definition)} {a b c : String}

def DependsOn (defs : List (String × Definition)) (a b : String) : Prop :=
  ∃ d, defs.lookup a = some d ∧ b ∈ d.factory.requests

abbrev Reaches (defs : List (String × Definition)) : String → String → Prop :=
  ReflTransGen (DependsOn defs)

def Cyclic (defs : List (String × Definition)) (a : String) : Prop := TransGen (DependsOn defs) a a

inductive Resolvable (defs : List (String × Definition)) : String → Prop
  | intro {a : String} {d : Definition} : defs.lookup a = some d →
    (∀ b ∈ d.factory.requests, Resolvable defs b) → Resolvable defs a

/-- Whether the error tells what is wrong with the dependencies of that name. -/
def Blames (defs : List (String × Definition)) (a : String) (e : RegistryError) : Prop :=
  (∃ b, Reaches defs a b ∧ defs.lookup b = none ∧ e = .noSuchDefinition b) ∨
    ∃ b, Reaches defs a b ∧ Cyclic defs b ∧ e = .currentlyInCreation b

namespace Resolvable

lemma isSome (h : Resolvable defs a) : (defs.lookup a).isSome := by
  cases h with
  | intro hd => exact Option.isSome_iff_exists.2 ⟨_, hd⟩

lemma of_dependsOn (h : Resolvable defs a) (hab : DependsOn defs a b) : Resolvable defs b := by
  obtain ⟨d, hd, hb⟩ := hab
  cases h with
  | intro hd' hrest =>
    obtain rfl := Option.some.inj (hd.symm.trans hd')
    exact hrest b hb

lemma of_reaches (h : Resolvable defs a) (hab : Reaches defs a b) : Resolvable defs b := by
  induction hab with
  | refl => exact h
  | tail _ hbc ih => exact ih.of_dependsOn hbc

lemma not_cyclic (h : Resolvable defs a) : ¬Cyclic defs a := by
  induction h with
  | intro hd _ ih =>
    intro hcycle
    obtain ⟨b, hab, hba⟩ := TransGen.head'_iff.1 hcycle
    obtain ⟨d, hd', hb⟩ := hab
    obtain rfl := Option.some.inj (hd.symm.trans hd')
    exact ih b hb (.tail' hba ⟨_, hd, hb⟩)

lemma not_blames (h : Resolvable defs a) (e : RegistryError) : ¬Blames defs a e := by
  rintro (⟨b, hab, hnone, -⟩ | ⟨b, hab, hcycle, -⟩)
  · have hsome := (h.of_reaches hab).isSome
    rw [hnone] at hsome
    cases hsome
  · exact (h.of_reaches hab).not_cyclic hcycle

lemma mono (h : Resolvable defs a)
    (hdefs : ∀ b d, defs.lookup b = some d → defs'.lookup b = some d) : Resolvable defs' a := by
  induction h with
  | intro hd _ ih => exact .intro (hdefs _ _ hd) ih

end Resolvable

structure Stack (defs : List (String × Definition)) (depth : Nat) (stack : List String)
    (a : String) : Prop where
  nodup : stack.Nodup
  defined : ∀ b ∈ stack, (defs.lookup b).isSome
  room : defs.length ≤ depth + stack.length
  above : ∀ b ∈ stack, TransGen (DependsOn defs) b a

namespace Stack

variable {depth : Nat} {stack : List String}

lemma lookup_eq_none (h : Stack defs 0 stack a) (ha : a ∉ stack) : defs.lookup a = none := by
  have hsub : stack ⊆ defs.map (·.1) := fun b hb => lookup_isSome_iff_mem_keys.1 (h.defined b hb)
  have hlength : (defs.map (·.1)).length ≤ stack.length := by
    rw [List.length_map]
    exact Nat.zero_add stack.length ▸ h.room
  -- with no room left, the stack holds all registered names
  have hperm := (List.subperm_of_subset h.nodup hsub).perm_of_length_le hlength
  rw [← Option.not_isSome_iff_eq_none, lookup_isSome_iff_mem_keys]
  exact fun hmem => ha (hperm.mem_iff.2 hmem)

lemma push (h : Stack defs (depth + 1) stack a) (ha : a ∉ stack) (hab : DependsOn defs a b) :
    Stack defs depth (a :: stack) b where
  nodup := List.nodup_cons.2 ⟨ha, h.nodup⟩
  defined := List.forall_mem_cons.2
    ⟨Option.isSome_iff_exists.2 (hab.imp fun _ hd => hd.1), h.defined⟩
  room := by
    have hroom := h.room
    rw [List.length_cons]
    omega
  above := List.forall_mem_cons.2 ⟨.single hab, fun c hc => (h.above c hc).tail hab⟩

end Stack

lemma Blames.of_reaches {e : RegistryError} (h : Blames defs b e) (hab : Reaches defs a b) :
    Blames defs a e := by
  rcases h with ⟨c, hbc, hnone, rfl⟩ | ⟨c, hbc, hcycle, rfl⟩
  · exact .inl ⟨c, hab.trans hbc, hnone, rfl⟩
  · exact .inr ⟨c, hab.trans hbc, hcycle, rfl⟩

end Dependencies

end ComponentContainer
