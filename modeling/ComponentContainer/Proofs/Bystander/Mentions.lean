import ComponentContainer.Container
import ComponentContainer.Proofs.Orchestration.Likeness

/-! The names that scripts and factories mention, and extensions, components and definitions with
other stamps. Stamps only tell apart, so it makes no difference how they are numbered. -/

namespace ComponentContainer

/-! ### Mentions -/

section

variable (lib : Catalog)

def Edit.mentioned : Edit → List String
  | .register entry => [(lib.blueprint entry).name]
  | .remove name | .setRole name _ | .setPrecedence name _ | .setLazy name _
  | .setAttribute name _ _ | .contains name => [name]
  | .names => []

def Action.mentioned : Action → List String
  | .edit e => e.mentioned lib
  | .query q => q.mentioned
  | .inspect i => i.mentioned
  | .note _ | .fail _ => []

def Product.mentioned : Product → List String
  | .component name => [name]
  | .shared _ | .fresh _ => []

def Factory.mentioned (make : Factory) : List String :=
  make.first.flatMap (·.action.mentioned lib) ++ make.product.mentioned

def Behaviour.mentioned (b : Behaviour) : List String :=
  b.steps.flatMap (·.action.mentioned lib)

structure Catalog.Spares (name : String) : Prop where
  blueprints : ∀ b ∈ lib.blueprints, b.name ≠ name → name ∉ b.factory.mentioned lib
  extensions : ∀ e ∈ lib.extensions, name ∉ (e.behaviour "").mentioned lib

def Extension.Spares (name : String) (e : Extension) : Prop := name ∉ e.behaviour.mentioned lib

instance (name : String) (e : Extension) : Decidable (e.Spares lib name) :=
  inferInstanceAs (Decidable (name ∉ e.behaviour.mentioned lib))

end

section

variable {lib : Catalog} {name : String}

lemma ExtensionSpec.mentioned_behaviour (lib : Catalog) (e : ExtensionSpec) (id id' : String) :
    (e.behaviour id).mentioned lib = (e.behaviour id').mentioned lib := by
  cases e <;> rfl

lemma Catalog.blueprint_spares
    (h : ∀ b ∈ lib.blueprints, b.name ≠ name → name ∉ b.factory.mentioned lib) {entry : ℕ}
    (hentry : (lib.blueprint entry).name ≠ name) :
    name ∉ (lib.blueprint entry).factory.mentioned lib := by
  unfold Catalog.blueprint List.getD at hentry ⊢
  cases hb : lib.blueprints[entry]? with
  | none => exact List.not_mem_nil
  | some b =>
    rw [hb] at hentry
    exact h b (List.mem_of_getElem? hb) hentry

namespace Catalog.Spares

variable (h : lib.Spares name)

include h

lemma blueprint {entry : ℕ} (hentry : (lib.blueprint entry).name ≠ name) :
    name ∉ (lib.blueprint entry).factory.mentioned lib :=
  blueprint_spares h.blueprints hentry

lemma extension (stamp entry : ℕ) (id : String) :
    Extension.Spares lib name ⟨stamp, (lib.extension entry).behaviour id⟩ := by
  unfold Extension.Spares Catalog.extension List.getD
  cases he : lib.extensions[entry]? with
  | none => exact List.not_mem_nil
  | some e =>
    change name ∉ (e.behaviour id).mentioned lib
    rw [e.mentioned_behaviour lib id ""]
    exact h.extensions e (List.mem_of_getElem? he)

end Catalog.Spares

end

/-! ### Stamps -/

section

variable (f : ℕ → ℕ)

def Extension.restamp (e : Extension) : Extension := { e with stamp := f e.stamp }

def Instance.restamp (i : Instance) : Instance := { i with stamp := f i.stamp }

def Definition.restamp (d : Definition) : Definition := { d with stamp := f d.stamp }

def PipelineEntry.restamp (entry : PipelineEntry) : PipelineEntry :=
  { entry with extension := entry.extension.restamp f }

def Pipeline.restamp (p : Pipeline) : Pipeline := p.map (·.restamp f)

def Report.restamp (r : Report) : Report := { r with checker := f r.checker }

def RefreshSummary.restamp (s : RefreshSummary) : RefreshSummary :=
  { s with ineligible := s.ineligible.map (·.restamp f) }

end

def mapValues {α β γ : Type} (g : β → γ) (l : List (α × β)) : List (α × γ) :=
  l.map fun p => (p.1, g p.2)

section

variable {α β γ : Type} {g : β → γ} {l : List (α × β)} {a : α}

lemma mapValues_concat (x : β) : mapValues g (l ++ [(a, x)]) = mapValues g l ++ [(a, g x)] :=
  List.map_append

variable [DecidableEq α]

lemma lookup_mapValues : (mapValues g l).lookup a = (l.lookup a).map g := by
  induction l with
  | nil => rfl
  | cons p l ih =>
    obtain ⟨k, x⟩ := p
    change List.lookup a ((k, g x) :: mapValues g l) = _
    rw [List.lookup_cons, List.lookup_cons, ih]
    cases a == k <;> rfl

lemma filter_mapValues :
    (mapValues g l).filter (·.1 ≠ a) = mapValues g (l.filter (·.1 ≠ a)) :=
  List.filter_map

end

section

variable {f : ℕ → ℕ}

lemma Pipeline.names_restamp (p : Pipeline) : (p.restamp f).names = p.names := List.map_map

lemma Pipeline.add_restamp (p : Pipeline) (entry : PipelineEntry) :
    (p.add entry).restamp f = (p.restamp f).add (entry.restamp f) := by
  unfold add restamp
  rw [List.map_append, List.filter_map]
  rfl

lemma Instance.extension?_restamp (i : Instance) :
    (i.restamp f).extension? = i.extension?.map (·.restamp f) := by
  obtain ⟨stamp, v | b⟩ := i <;> rfl

end

end ComponentContainer
