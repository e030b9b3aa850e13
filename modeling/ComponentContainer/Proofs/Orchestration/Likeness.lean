import ComponentContainer.Orchestration.Mutation
import ComponentContainer.Orchestration.PipelineBuild
import ComponentContainer.Proofs.Simulation
import Mathlib.Data.List.Forall2

/-! What counts as alike in two runs of an orchestrator, for all that it handles, and what two
surfaces must do for it to make no difference. -/

namespace ComponentContainer

structure Likeness where
  name : String → Prop
  edit : Edit → Prop
  answer : Answer → Answer → Prop
  extension : Extension → Extension → Prop
  stamp : ℕ → ℕ → Prop
  pipeline : Pipeline → Pipeline → Prop
  answer_refl (a : Answer) : answer a a
  behaviour_eq {e' e : Extension} : extension e' e → e'.behaviour = e.behaviour
  names_eq {p' p : Pipeline} : pipeline p' p → p'.names = p.names

def Query.mentioned : Query → List String
  | .precedence name | .tagged name _ | .infrastructure name | .instantiate name
  | .addToPipeline name _ => [name]
  | .find _ | .invalidate | .editable | .pipeline => []

def Inspection.mentioned : Inspection → List String
  | .get name | .getAs name _ | .definition name | .describe name | .describeInstance name
  | .created name => [name]
  | .same name other => [name, other]
  | .describePipeline | .size | .createdCount | .destroy | .invalidations => []

def Behaviour.steps (b : Behaviour) : List Step :=
  (b.mutator.elim [] fun script => script.mutate ++ script.finalize) ++ b.finalizer.getD []

namespace Likeness

def same : Likeness where
  name _ := True
  edit _ := True
  answer := Eq
  extension := Eq
  stamp := Eq
  pipeline := Eq
  answer_refl _ := rfl
  behaviour_eq := congrArg _
  names_eq := congrArg _

variable (K : Likeness)

def Allows : Action → Prop
  | .note _ | .fail _ => True
  | .edit e => K.edit e
  | .query q => ∀ n ∈ q.mentioned, K.name n
  | .inspect i => ∀ n ∈ i.mentioned, K.name n

lemma allows_same (a : Action) : same.Allows a := by
  cases a with
  | note | fail | edit => trivial
  | query | inspect => exact fun _ _ => trivial

end Likeness

/-! ### What an orchestrator handles -/

structure Candidate.Like (K : Likeness) (c' c : Candidate) : Prop where
  name_eq : c'.name = c.name
  precedence_eq : c'.precedence = c.precedence
  extension : K.extension c'.extension c.extension

structure Supplied.Like (K : Likeness) (item' item : Supplied) : Prop where
  name_eq : item'.name = item.name
  extension : K.extension item'.extension item.extension

namespace Orchestration

structure SuppliedOutcome.Like (K : Likeness) (out' out : SuppliedOutcome) : Prop where
  invoked : List.Forall₂ (Candidate.Like K) out'.invoked out.invoked
  mutated_eq : out'.mutated = out.mutated
  others : List.Forall₂ (Supplied.Like K) out'.others out.others

structure Discovery.Like (K : Likeness) (found' found : Discovery) : Prop where
  rounds_eq : found'.rounds = found.rounds
  invoked : List.Forall₂ (Candidate.Like K) found'.invoked found.invoked
  mutated_eq : found'.mutated = found.mutated

structure Settlement.Like (K : Likeness) (m' m : Settlement) : Prop where
  invoked : List.Forall₂ (Candidate.Like K) m'.invoked m.invoked
  mutated_eq : m'.mutated = m.mutated
  others : List.Forall₂ (Supplied.Like K) m'.others m.others
  rounds_eq : m'.rounds = m.rounds

end Orchestration

structure BuiltPipeline.Like (K : Likeness) (b' b : BuiltPipeline) : Prop where
  pipeline : K.pipeline b'.pipeline b.pipeline
  target_eq : b'.target = b.target
  checker : K.stamp b'.checker b.checker
  registered_eq : b'.registered = b.registered

lemma Candidate.Like.eq {c' c : Candidate} (h : c'.Like .same c) : c' = c := by
  obtain ⟨name, precedence, extension⟩ := c
  obtain ⟨rfl, rfl, rfl⟩ := h
  rfl

lemma Supplied.Like.eq {item' item : Supplied} (h : item'.Like .same item) : item' = item := by
  obtain ⟨name, extension⟩ := item
  obtain ⟨rfl, rfl⟩ := h
  rfl

lemma eq_of_forall₂ {α : Type} {V : α → α → Prop} (hV : ∀ a' a, V a' a → a' = a) {l' l : List α}
    (h : List.Forall₂ V l' l) : l' = l := List.forall₂_eq_eq_eq ▸ h.imp hV

lemma Orchestration.Settlement.Like.eq {m' m : Settlement} (h : m'.Like .same m) : m' = m := by
  obtain ⟨invoked, mutated, others, rounds⟩ := m
  obtain ⟨hinvoked, rfl, hothers, rfl⟩ := h
  obtain rfl := eq_of_forall₂ (fun _ _ => Candidate.Like.eq) hinvoked
  obtain rfl := eq_of_forall₂ (fun _ _ => Supplied.Like.eq) hothers
  rfl

lemma BuiltPipeline.Like.eq {b' b : BuiltPipeline} (h : Like .same b' b) : b' = b := by
  obtain ⟨pipeline, target, checker, registered⟩ := b
  obtain ⟨rfl, rfl, rfl, rfl⟩ := h
  rfl

section

variable {K : Likeness} {α : Type} {V : α → α → Prop} {l' l : List α}

lemma candidates_same (cs : List Candidate) : List.Forall₂ (Candidate.Like .same) cs cs :=
  List.forall₂_same.2 fun _ _ => ⟨rfl, rfl, rfl⟩

lemma supplied_same (l : List Supplied) : List.Forall₂ (Supplied.Like .same) l l :=
  List.forall₂_same.2 fun _ _ => ⟨rfl, rfl⟩

lemma settlement_same (m : Orchestration.Settlement) : m.Like .same m :=
  ⟨candidates_same _, rfl, supplied_same _, rfl⟩

lemma pairs_of_candidates {cs' cs : List Candidate} (h : List.Forall₂ (Candidate.Like K) cs' cs) :
    List.Forall₂ (fun p' p => p'.1 = p.1 ∧ K.extension p'.2 p.2)
      (cs'.map fun c => (c.name, c.extension)) (cs.map fun c => (c.name, c.extension)) :=
  List.rel_map (fun _ _ hc => ⟨hc.name_eq, hc.extension⟩) h

lemma pairs_of_supplied {items' items : List Supplied}
    (h : List.Forall₂ (Supplied.Like K) items' items) :
    List.Forall₂ (fun p' p => p'.1 = p.1 ∧ K.extension p'.2 p.2)
      (items'.map fun i => (i.name, i.extension)) (items.map fun i => (i.name, i.extension)) :=
  List.rel_map (fun _ _ hi => ⟨hi.name_eq, hi.extension⟩) h

lemma candidates_names_eq {cs' cs : List Candidate}
    (h : List.Forall₂ (Candidate.Like K) cs' cs) : cs'.map (·.name) = cs.map (·.name) := by
  induction h with
  | nil => rfl
  | cons hc _ ih => rw [List.map_cons, List.map_cons, hc.name_eq, ih]

lemma forall₂_filter {p : α → Bool} (hp : ∀ a' a, V a' a → p a' = p a) (h : List.Forall₂ V l' l) :
    List.Forall₂ V (l'.filter p) (l.filter p) := by
  induction h with
  | nil => exact .nil
  | @cons a' a l' l ha _ ih =>
    rw [List.filter_cons, List.filter_cons, hp a' a ha]
    split
    · exact .cons ha ih
    · exact ih

lemma forall₂_sortByPrecedence {f : α → Precedence} (hf : ∀ a' a, V a' a → f a' = f a)
    (h : List.Forall₂ V l' l) : List.Forall₂ V (sortByPrecedence f l') (sortByPrecedence f l) := by
  have hinsert {x' x : α} (hx : V x' x) {m' m : List α} (hm : List.Forall₂ V m' m) :
      List.Forall₂ V (insertByPrecedence f x' m') (insertByPrecedence f x m) := by
    induction hm with
    | nil => exact .cons hx .nil
    | @cons a' a m' m ha hm ih =>
      rw [insertByPrecedence, insertByPrecedence, hf x' x hx, hf a' a ha]
      split
      · exact .cons ha ih
      · exact .cons hx (.cons ha hm)
  induction h with
  | nil => exact .nil
  | cons ha _ ih => exact hinsert ha ih

end

/-! ### Surfaces and hooks -/

open Act

variable {σ τ : Type}

structure Surface.Simulates (S' : Surface τ) (S : Surface σ) (R : τ → σ → Prop) (K : Likeness)
    (P : Extension → Prop) : Prop where
  find : ∀ c, Agree R (S'.find c) (S.find c)
  found : ∀ c s' s, R s' s → ∀ n ∈ (S.find c s).1, K.name n
  precedenceOf : ∀ name, K.name name → ∀ s' s, R s' s →
    S'.precedenceOf name s' = S.precedenceOf name s
  instantiate : ∀ name, K.name name →
    Act.Simulates R (fun e' e => K.extension e' e ∧ P e) (S'.instantiate name) (S.instantiate name)
  invalidate : Agree R S'.invalidate S.invalidate
  editable : Agree R S'.editable S.editable
  pipeline : ∀ s' s, R s' s → K.pipeline (S'.pipeline s') (S.pipeline s)
  addToPipeline : ∀ name e' e, K.extension e' e → P e →
    Matches R (S'.addToPipeline name e') (S.addToPipeline name e)
  arm : ∀ target, Act.Simulates R (fun e' e => K.stamp e'.stamp e.stamp) (S'.arm target)
    (S.arm target)
  record : ∀ level message, Agree R (S'.record level message) (S.record level message)

structure Hooks.Simulates (hooks' : Hooks τ) (hooks : Hooks σ) (R : τ → σ → Prop) (K : Likeness) :
    Prop where
  mutate : ∀ name e' e, K.extension e' e → Matches R (hooks'.mutate name e') (hooks.mutate name e)
  finalize : ∀ name e' e, K.extension e' e →
    Matches R (hooks'.finalize name e') (hooks.finalize name e)

structure Surface.SimulatesScripts (lib : Catalog) (S' : Surface τ) (S : Surface σ)
    (R : τ → σ → Prop) (K : Likeness) (P : Extension → Prop) : Prop
    extends S'.Simulates S R K P where
  isInfrastructure : ∀ name, K.name name → ∀ s' s, R s' s →
    S'.isInfrastructure name s' = S.isInfrastructure name s
  edit : ∀ e, K.edit e → Act.Simulates R K.answer (S'.edit e) (S.edit e)
  supply : ∀ name entry, Matches R
    (do S'.addToPipeline name ⟨← S'.fresh, (lib.extension entry).behaviour name⟩)
    (do S.addToPipeline name ⟨← S.fresh, (lib.extension entry).behaviour name⟩)
  note : ∀ e, Agree R (S'.note e) (S.note e)
  acted : ∀ id word a' a, K.answer a' a →
    Agree R (S'.note (.acted id word a')) (S.note (.acted id word a))

end ComponentContainer
