import ComponentContainer.Proofs.Logbook

/-! The pipeline after a history of operations: the names that were added, each once, in the order of
their last additions. -/

namespace ComponentContainer

inductive Operation
  | perform (a : Action)
  | addToPipeline (name : String) (e : Extension)
  | mutationPhase (supplied : List Supplied) (i : Invoker)
  | buildPipeline (i : Invoker)

namespace Session

def serve (lib : Catalog) (s : Session) : Operation → Session
  | .perform a => (perform lib a s).2
  | .addToPipeline name e => (addToPipeline name e s).2
  | .mutationPhase supplied i =>
    (Orchestration.mutationPhase (surface lib) (.scripted lib (surface lib)) supplied
      ⟨s, i⟩).2.registry
  | .buildPipeline i => (Orchestration.buildPipeline (surface lib) ⟨s, i⟩).2.registry

def serveAll (lib : Catalog) (s : Session) (ops : List Operation) : Session :=
  ops.foldl (serve lib) s

end Session

namespace Logbook

def serve (lib : Catalog) (t : Logbook) : Operation → Logbook
  | .perform a => (perform lib a t).2
  | .addToPipeline name e => (add name e t).2
  | .mutationPhase supplied i =>
    (Orchestration.mutationPhase (surface lib) (.scripted lib (surface lib)) supplied
      ⟨t, i⟩).2.registry
  | .buildPipeline i => (Orchestration.buildPipeline (surface lib) ⟨t, i⟩).2.registry

def serveAll (lib : Catalog) (t : Logbook) (ops : List Operation) : Logbook :=
  ops.foldl (serve lib) t

def additions (lib : Catalog) (s : Session) (ops : List Operation) : List Addition :=
  (serveAll lib (s, []) ops).ledger.additions

end Logbook

def Action.Plain : Action → Prop
  | .query (.instantiate _) | .query (.addToPipeline ..) => False
  | .inspect (.get _) | .inspect (.getAs ..) | .inspect (.same ..) => False
  | .inspect (.describeInstance _) => False
  | .note _ | .fail _ | .edit _ | .query _ | .inspect _ => True

variable {lib : Catalog} {a : Holdings} {stack : List String} {t : Logbook} {s : Session}

lemma Edit.pipeline_perform (lib : Catalog) (e : Edit) (s : Session) :
    (e.perform lib s).2.registry.pipeline = s.registry.pipeline := by
  by_cases he : ∀ name, e ≠ .remove name
  · exact congrArg Holdings.pipeline (perform_quiet lib he s)
  · obtain ⟨name, rfl⟩ := not_forall_not.1 he
    have hstays : Act.Stays ((Edit.remove name).perform lib) s fun t =>
        t.registry.pipeline = s.registry.pipeline :=
      (ends_remove lib name s).mono (fun _ _ h => congrArg Holdings.pipeline h)
        fun _ _ h => congrArg Holdings.pipeline h
    exact hstays.state

lemma Session.pipeline_perform {x : Action} (hx : x.Plain) (s : Session) :
    (perform lib x s).2.registry.pipeline = s.registry.pipeline := by
  cases x with
  | note | fail => rfl
  | edit e => exact e.pipeline_perform lib s
  | query q =>
    cases q with
    | instantiate | addToPipeline => exact absurd hx id
    | find | precedence | tagged | infrastructure | invalidate | editable | pipeline => rfl
  | inspect i =>
    cases i with
    | get | getAs | same | describeInstance => exact absurd hx id
    | definition | describe | describePipeline | size | created | createdCount | destroy
    | invalidations => rfl

namespace Logbook

lemma Keeps.serve (h : Keeps a stack t s) (op : Operation) :
    Keeps a stack (t.serve lib op) (s.serve lib op) := by
  cases op with
  | perform x => exact (perform_matches x t s h).2
  | addToPipeline name e => exact (add_matches name e t s h).2
  | mutationPhase supplied i =>
    exact (mutationPhase_matches supplied ⟨t, i⟩ ⟨s, i⟩ ⟨h, rfl⟩).2.1
  | buildPipeline i => exact (buildPipeline_matches ⟨t, i⟩ ⟨s, i⟩ ⟨h, rfl⟩).2.1

variable (lib) in
lemma Keeps.serveAll (h : Keeps a stack t s) (ops : List Operation) :
    Keeps a stack (t.serveAll lib ops) (s.serveAll lib ops) := by
  induction ops generalizing t s with
  | nil => exact h
  | cons op ops ih => exact ih (h.serve op)

lemma additions_concat_add (s : Session) (ops : List Operation) (name : String) (e : Extension) :
    additions lib s (ops ++ [.addToPipeline name e]) = additions lib s ops ++
      [⟨name, e, (Session.addToPipeline name e (s.serveAll lib ops)).1⟩] := by
  have hsession := ((keeps_self s).serveAll lib ops).session_eq
  unfold additions serveAll
  rw [List.foldl_append, ← hsession]
  exact Ledger.additions_cons_added _ _

end Logbook

namespace Session

open Logbook (additions)

/-- After operations of any kind the pipeline has the names that it had and those that were added
since, by whomever and however deep in a creation: each once, in the order of the last additions, and
with the extension of the last one. What is refused, for its capabilities alone, changes nothing, nor
does any request that neither creates nor adds; what is added leaves the others in their order. -/
theorem pipeline_last_additions (lib : Catalog) (s : Session)
    (hs : s.registry.pipeline.names.Nodup) (ops : List Operation) :
    let before := s.registry.pipeline
    let after := (s.serveAll lib ops).registry.pipeline
    let added := accepted (additions lib s ops)
    (after.names = (Pipeline.names (before ++ added)).dedup ∧
      ∀ n, after.owner? n =
        ((before ++ added).reverse.find? (·.name = n)).map (·.extension)) ∧
    (added = [] → after = before) ∧
    (after.filter (·.name ∉ Pipeline.names added) = before.filter (·.name ∉ Pipeline.names added) ∧
      before.length ≤ after.length) ∧
    (∀ x ∈ additions lib s ops,
      x.answer = .ok () ↔ .instanceHook ∈ x.extension.behaviour.capabilities) ∧
    (∀ name e, additions lib s (ops ++ [.addToPipeline name e]) =
      additions lib s ops ++ [⟨name, e, (addToPipeline name e (s.serveAll lib ops)).1⟩]) ∧
    (∀ name e, .instanceHook ∉ e.behaviour.capabilities →
      ∀ u, addToPipeline name e u = (.error (.capabilityMismatch name .instanceHook), u)) ∧
    ∀ a : Action, a.Plain → ∀ u, (perform lib a u).2.registry.pipeline = u.registry.pipeline := by
  intro before after added
  have hposts := ((Logbook.keeps_self s).serveAll lib ops).posts
  have hafter : after = before.addAll added := hposts.pipeline_eq
  have hlatest : after = Pipeline.latest (before ++ added) :=
    hafter.trans (Pipeline.addAll_eq_latest hs)
  refine ⟨⟨?_, fun n => ?_⟩, fun hnone => ?_, ⟨?_, ?_⟩, hposts.accepted_iff,
    Logbook.additions_concat_add s ops, fun name e he u => ?_, fun a ha u => pipeline_perform ha u⟩
  · rw [hlatest, Pipeline.names_latest]
  · rw [hlatest, Pipeline.owner?_latest]
  · rw [hafter, hnone]
    rfl
  · rw [hafter, Pipeline.filter_addAll]
  · rw [hafter]
    exact Pipeline.length_le_addAll hs
  · exact addToPipeline_refused he u

end Session

def Catalog.enlisting : Catalog where
  typeNames := ⟨"", "", "", "", "", "", ""⟩
  blueprints := [
    { (default : Blueprint) with
      name := "maker"
      factory := ⟨[⟨.query (.addToPipeline "made" 0), false⟩], .fresh (.value .unit)⟩ }]
  extensions := [.scripted none ⟨none, none, some .silent, none, none⟩]

namespace Session

open Logbook (additions)

def silentHook (stamp : Nat) : Extension := ⟨stamp, .scripted "" ⟨none, none, some .silent, none, none⟩⟩

def enlisted : Session :=
  (∅ : Session).serveAll .enlisting
    [.addToPipeline "first" (silentHook 7), .addToPipeline "second" (silentHook 8)]

def enlistments : List Operation :=
  [.perform (.edit (.register 0)), .addToPipeline "first" (silentHook 9),
    .addToPipeline "idle" ⟨10, .inert⟩, .perform (.inspect (.get "maker")), .buildPipeline (.new "")]

theorem enlisted_last_additions :
    let after := (enlisted.serveAll .enlisting enlistments).registry.pipeline
    after.names = ["second", "first", "made", eligibilityCheckerName] ∧
    after.owner? "first" = some (silentHook 9) ∧ after.owner? "second" = some (silentHook 8) ∧
    (additions .enlisting enlisted enlistments).map (·.name) =
      ["first", "idle", "made", eligibilityCheckerName] := by
  obtain ⟨⟨hnames, howner⟩, -⟩ :=
    pipeline_last_additions .enlisting enlisted (by decide) enlistments
  refine ⟨hnames.trans ?_, (howner "first").trans ?_, (howner "second").trans ?_, ?_⟩
  all_goals decide +kernel

end Session

end ComponentContainer
