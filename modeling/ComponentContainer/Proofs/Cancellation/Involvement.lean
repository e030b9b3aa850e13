import ComponentContainer.Proofs.Bystander.Mentions
import ComponentContainer.Proofs.Nesting

/-! What is performed while an action is: the actions of the factories that go to work on the way, and
of the factories that these set to work. -/

namespace ComponentContainer

def Action.asked : Action → List String
  | .query (.instantiate name) => [name]
  | .inspect (.get name) | .inspect (.getAs name _) | .inspect (.describeInstance name) => [name]
  | .inspect (.same name other) => [name, other]
  | .note _ | .fail _ | .edit _ | .query _ | .inspect _ => []

lemma Action.asked_subset (lib : Catalog) (a : Action) : a.asked ⊆ a.mentioned lib := by
  cases a with
  | note | fail | edit => exact List.nil_subset _
  | query q =>
    cases q with
    | instantiate name => exact List.Subset.refl _
    | find | precedence | tagged | infrastructure | invalidate | editable | pipeline
    | addToPipeline => exact List.nil_subset _
  | inspect i =>
    cases i with
    | get | getAs | same | describeInstance => exact List.Subset.refl _
    | definition | describe | describePipeline | size | created | createdCount | destroy
    | invalidations => exact List.nil_subset _

namespace Session

section

variable (lib : Catalog)

inductive Asks : List String → Session → String → Session → Prop
  | first {name : String} {names : List String} {s : Session} : Asks (name :: names) s name s
  | later {first name : String} {names : List String} {i : Instance} {s t u : Session} :
    resolve lib first s = (.ok i, u) → Asks names u name t → Asks (first :: names) s name t

inductive Runs (id : String) : List ComponentContainer.Step → Session → Action → Session → Prop
  | first {step : ComponentContainer.Step} {steps : List ComponentContainer.Step} {s : Session} :
    Runs id (step :: steps) s step.action s
  | later {step : ComponentContainer.Step} {steps : List ComponentContainer.Step} {a : Action}
    {s t u : Session} : Script.runStep note (perform lib) id step s = (.ok (), u) →
    Runs id steps u a t → Runs id (step :: steps) s a t

end

structure Begins (name : String) (s : Session) (d : Definition) (t : Session) : Prop where
  missing : s.registry.singleton? name = none
  idle : name ∉ s.registry.inCreation
  snapshot : ∃ r, (s.registry.beginCreation name).snapshot name = .ok (d, r) ∧
    t = (note (.factory d.name) { s with registry := r }).2

inductive Involves (lib : Catalog) : Session → Action → Session → Action → Prop
  | self (s : Session) (a : Action) : Involves lib s a s a
  | script {s t u v w : Session} {a b c : Action} {name : String} {d : Definition} :
    Asks lib a.asked s name t → Begins name t d u → Runs lib d.name d.factory.first u b v →
    Involves lib v b w c → Involves lib s a w c
  | product {s t u v w : Session} {a c : Action} {name other : String} {d : Definition} :
    Asks lib a.asked s name t → Begins name t d u →
    Script.run note (perform lib) d.name d.factory.first u = (.ok (), v) →
    d.factory.product = .component other →
    Involves lib v (.inspect (.get other)) w c → Involves lib s a w c

def Avoids (lib : Catalog) (z : String) (s : Session) (a : Action) : Prop :=
  ∀ t b, Involves lib s a t b → z ∉ b.mentioned lib

variable {lib : Catalog} {z name other id : String} {names : List String}
  {steps : List ComponentContainer.Step} {a b : Action} {d : Definition} {s t u v : Session}

lemma Asks.mem (h : Asks lib names s name t) : name ∈ names := by
  induction h with
  | first => exact List.mem_cons_self
  | later _ _ ih => exact List.mem_cons_of_mem _ ih

lemma Runs.mem (h : Runs lib id steps s a t) : a ∈ steps.map (·.action) := by
  induction h with
  | first => exact List.mem_cons_self
  | later _ _ ih => exact List.mem_cons_of_mem _ ih

namespace Avoids

lemma not_mem (h : Avoids lib z s a) : z ∉ a.mentioned lib := h s a (.self s a)

lemma request (h : Avoids lib z s a) (ht : Asks lib a.asked s name t) :
    Avoids lib z t (.inspect (.get name)) := by
  intro w c hc
  cases hc with
  | self =>
    have hname := a.asked_subset lib ht.mem
    exact fun hz => h.not_mem (List.mem_singleton.1 hz ▸ hname)
  | script hasks hbegins hruns hinvolves =>
    cases hasks with
    | first => exact h w c (.script ht hbegins hruns hinvolves)
    | later _ hasks => cases hasks
  | product hasks hbegins hrun hproduct hinvolves =>
    cases hasks with
    | first => exact h w c (.product ht hbegins hrun hproduct hinvolves)
    | later _ hasks => cases hasks

variable (h : Avoids lib z s (.inspect (.get name))) (hu : Begins name s d u)

include h

lemma ne : name ≠ z := fun hname => h.not_mem (hname ▸ .head _)

include hu

lemma script (hv : Runs lib d.name d.factory.first u b v) : Avoids lib z v b :=
  fun w c hc => h w c (.script .first hu hv hc)

lemma product (hv : Script.run note (perform lib) d.name d.factory.first u = (.ok (), v))
    (hproduct : d.factory.product = .component other) : Avoids lib z v (.inspect (.get other)) :=
  fun w c hc => h w c (.product .first hu hv hproduct hc)

end Avoids

/-! ### Along a passage -/

section

variable {A : String → Session → Session → Prop} {L : Session → Session → Prop}
  (hL : Passage lib (fun _ => True) A L)

include hL

lemma Asks.along (h : Asks lib names s name t) : L s t := by
  have hgoes := resolve_goes hL fun _ _ _ => trivial
  induction h with
  | first => exact hL.refl _
  | later hrun _ ih => exact hL.trans ((hgoes _).along_ok (fun _ _ _ _ => trivial) hrun) ih

lemma Runs.along (h : Runs lib id steps s a t) : L s t := by
  have hgoes := Script.runStep_goes hL (perform_goes hL fun _ _ _ => trivial) id
  induction h with
  | first => exact hL.refl _
  | later hrun _ ih => exact hL.trans ((hgoes _).along_ok (fun _ _ _ _ => trivial) hrun) ih

lemma run_along (h : Script.run note (perform lib) id steps s = (.ok (), t)) : L s t :=
  (Script.run_goes hL (perform_goes hL fun _ _ _ => trivial) id steps).along_ok
    (fun _ _ _ _ => trivial) h

end

lemma Begins.card_vacant_lt (lib : Catalog) (h : Begins name s d t) :
    (Creation.vacant lib t).card < (Creation.vacant lib s).card := by
  obtain ⟨r, hsnapshot, rfl⟩ := h.snapshot
  exact Creation.card_vacant_began lib h.idle hsnapshot

end Session

/-! ### Factories that do not mention the name -/

namespace Registry

structure Spared (lib : Catalog) (z : String) (r : Registry) : Prop where
  definitions : ∀ p ∈ r.definitions, p.1 ≠ z → z ∉ p.2.factory.mentioned lib
  snapshots : ∀ p ∈ r.snapshots, p.1 ≠ z → z ∉ p.2.factory.mentioned lib

lemma Spared.of_eq {lib : Catalog} {z : String} {r t : Registry} (hr : r.Spared lib z)
    (hdefinitions : t.definitions = r.definitions) (hsnapshots : t.snapshots = r.snapshots) :
    t.Spared lib z :=
  ⟨hdefinitions ▸ hr.definitions, hsnapshots ▸ hr.snapshots⟩

lemma Spared.began {lib : Catalog} {z name : String} {r t : Registry} {d : Definition}
    (hr : r.Spared lib z) (h : (r.beginCreation name).snapshot name = .ok (d, t)) :
    t.Spared lib z ∧ (name ≠ z → z ∉ d.factory.mentioned lib) := by
  obtain ⟨hstored, rfl⟩ | ⟨-, hfind, rfl⟩ := snapshot_eq_ok h
  · exact ⟨hr.of_eq rfl rfl, hr.snapshots _ (mem_of_lookup hstored)⟩
  · have hd := hr.definitions _ (mem_of_lookup hfind)
    refine ⟨⟨hr.definitions, fun p hp => ?_⟩, hd⟩
    rcases List.mem_append.1 hp with hp | hp
    · exact hr.snapshots p hp
    · exact List.mem_singleton.1 hp ▸ hd

end Registry

namespace Session

variable {lib : Catalog} {z : String}
  (hlib : ∀ b ∈ lib.blueprints, b.name ≠ z → z ∉ b.factory.mentioned lib)

include hlib

lemma passage_spared : Passage lib (fun _ => True) (fun _ s t => t.registry = s.registry)
    (fun s t => s.registry.Spared lib z → t.registry.Spared lib z) where
  asides := Creation.asides_registry
  refl _ := id
  trans h h' := h' ∘ h
  held _ _ := fun _ _ _ _ => trivial
  write h _ _ _ hs := h ▸ hs
  amend s name f hf hs := by
    refine ⟨fun p hp hne => ?_, hs.snapshots⟩
    obtain ⟨q, hq, rfl⟩ := List.mem_map.1 hp
    have hfactory : (f q.2).factory = q.2.factory := congrArg (·.2.2.1) (hf q.2)
    by_cases hname : q.1 = name
    · rw [if_pos hname] at hne ⊢
      exact hfactory ▸ hs.definitions q hq hne
    · rw [if_neg hname] at hne ⊢
      exact hs.definitions q hq hne
  invalidate _ hs := ⟨hs.definitions, fun _ hp => absurd hp List.not_mem_nil⟩
  destroy _ hs := hs.of_eq rfl rfl
  register entry h hs := by
    obtain ⟨-, -, rfl⟩ := Registry.register_eq_ok h
    refine ⟨fun p hp => ?_, fun p hp => hs.snapshots p (List.mem_filter.1 hp).1⟩
    rcases List.mem_append.1 hp with hp | hp
    · exact hs.definitions p hp
    · rw [List.mem_singleton.1 hp]
      exact Catalog.blueprint_spares hlib
  remove name h hs := by
    obtain ⟨-, rfl⟩ := Registry.remove_eq_ok h
    exact ⟨fun p hp => hs.definitions p (List.mem_filter.1 hp).1,
      fun p hp => hs.snapshots p (List.mem_filter.1 hp).1⟩
  addToPipeline name e he h hs := by
    obtain ⟨-, rfl⟩ := Registry.addToPipeline_eq_ok h
    exact hs.of_eq rfl rfl
  arm name target h hs := by
    obtain ⟨-, rfl⟩ := Registry.addToPipeline_eq_ok h
    exact hs.of_eq rfl rfl
  fail _ _ h hu ht hs := by
    have hend := hu (hs.began h).1
    rw [← ht] at hend
    exact hend.of_eq rfl rfl
  finish _ _ h hu ht _ _ hs := by
    have hend := hu (hs.began h).1
    rw [← ht] at hend
    exact hend.of_eq rfl rfl

lemma Begins.spared {name : String} {d : Definition} {a : Action} {s t u : Session}
    (h : Begins name t d u) (hasks : Asks lib a.asked s name t) (hs : s.registry.Spared lib z)
    (ha : z ∉ a.mentioned lib) : u.registry.Spared lib z ∧ z ∉ d.factory.mentioned lib := by
  obtain ⟨r, hsnapshot, rfl⟩ := h.snapshot
  have hne := ne_of_mem_of_not_mem (Action.asked_subset lib _ hasks.mem) ha
  exact ((hasks.along (passage_spared hlib) hs).began hsnapshot).imp_right (· hne)

theorem avoids_of_spared {s : Session} {a : Action} (hs : s.registry.Spared lib z)
    (ha : z ∉ a.mentioned lib) : Avoids lib z s a := by
  have hL := passage_spared hlib
  intro t b h
  induction h with
  | self => exact ha
  | script hasks hbegins hruns _ ih =>
    obtain ⟨hu, hd⟩ := hbegins.spared hlib hasks hs ha
    refine ih (hruns.along hL hu) fun hz => hd ?_
    obtain ⟨step, hstep, rfl⟩ := List.mem_map.1 hruns.mem
    exact List.mem_append_left _ (List.mem_flatMap.2 ⟨step, hstep, hz⟩)
  | product hasks hbegins hrun hproduct _ ih =>
    obtain ⟨hu, hd⟩ := hbegins.spared hlib hasks hs ha
    refine ih (run_along hL hrun hu) fun hz => hd ?_
    unfold Factory.mentioned
    rw [hproduct]
    exact List.mem_append_right _ hz

end Session

end ComponentContainer
