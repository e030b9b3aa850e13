import ComponentContainer.Proofs.Bystander.Creation
import ComponentContainer.Proofs.Container.EagerPass
import ComponentContainer.Proofs.Orchestration.FixedPoint

/-! Lazy definitions that nothing mentions do not interfere with a refresh. -/

namespace ComponentContainer

open Act Session

variable {lib : Catalog} {z : String} {f : ℕ → ℕ} {s₀ : Session}

namespace Orchestration

variable (hlib : lib.Spares z) (hidle : s₀.registry.inCreation = [])

include hlib hidle

lemma mutationPhase_abreast {supplied' supplied : List Supplied}
    (h : List.Forall₂ (Supplied.Like (.beside lib z f)) supplied' supplied) :
    Matches (Related (Abreast lib z f s₀))
      (mutationPhase (surface lib) (.scripted lib (surface lib)) supplied')
      (mutationPhase (surface lib) (.scripted lib (surface lib)) supplied) := by
  have hS := Creation.surface_abreast hlib (Creation.resolve_abreast hlib hidle (f := f))
  have hh : (Hooks.scripted lib (surface lib)).Simulates (.scripted lib (surface lib))
      (Abreast lib z f s₀) (.beside lib z f) :=
    Hooks.scripted_simulates hS fun _ _ he => Likeness.allows_steps he.2
  have hrounds : SameRounds (surface lib) (surface lib) (Abreast lib z f s₀)
      (.scripted lib (surface lib)) := fun o' o hR =>
    discover_session_of_le lib (Nat.succ_le_succ hR.1.1.length_roster_le)
  exact mutationPhase_simulates hS.toSimulates hh hrounds h

lemma buildPipeline_abreast :
    Act.Simulates (Related (Abreast lib z f s₀)) (BuiltPipeline.Like (.beside lib z f))
      (buildPipeline (surface lib)) (buildPipeline (surface lib)) :=
  buildPipeline_simulates
    (Creation.surface_abreast hlib (Creation.resolve_abreast hlib hidle)).toSimulates

end Orchestration

namespace Container

/-- The containers are the same but for a lazy definition `z` that only the first one has, and that
nothing mentions, the numbering of stamps, the journal and the log; nothing is in creation. -/
structure Apart (lib : Catalog) (z : String) (f : ℕ → ℕ) (c' c : Container) : Prop where
  config_eq : c'.config = c.config
  state_eq : c'.state = c.state
  supplied : List.Forall₂ (Supplied.Like (.beside lib z f)) c'.supplied c.supplied
  checker_eq : c'.checker = c.checker.map f
  session : c'.session.Apart lib z f c.session
  idle : c.session.registry.inCreation = []
  injective : f.Injective
  detector_eq : f detectorStamp = detectorStamp

variable {ε α α' : Type} {V : α' → α → Prop}

lemma onSession_apart {m' : Act Session ε α'} {m : Act Session ε α}
    (h : ∀ s₀ : Session, s₀.registry.inCreation = [] → Simulates (Abreast lib z f s₀) V m' m) :
    Simulates (Container.Apart lib z f) V (onSession m') (onSession m) := by
  intro c' c hc
  obtain ⟨halike, hs, hl⟩ := h c.session hc.idle c'.session c.session ⟨hc.session, .refl⟩
  exact ⟨halike, { hc with session := hs, idle := hl.inCreation_eq.trans hc.idle }⟩

lemma orchestrate_apart {m' : Act (Orchestration Session) ε α'}
    {m : Act (Orchestration Session) ε α}
    (h : ∀ s₀ : Session, s₀.registry.inCreation = [] →
      Simulates (Orchestration.Related (Abreast lib z f s₀)) V m' m) (i : Invoker) :
    Simulates (Container.Apart lib z f) (fun p' p => V p'.1 p.1 ∧ p'.2 = p.2)
      (orchestrate m' i) (orchestrate m i) := by
  intro c' c hc
  obtain ⟨halike, ⟨hs, hl⟩, hi⟩ :=
    h c.session hc.idle ⟨c'.session, i⟩ ⟨c.session, i⟩ ⟨⟨hc.session, .refl⟩, rfl⟩
  refine ⟨?_, { hc with session := hs, idle := hl.inCreation_eq.trans hc.idle }⟩
  unfold orchestrate
  revert halike hi
  rcases m' ⟨c'.session, i⟩ with ⟨x', o'⟩
  rcases m ⟨c.session, i⟩ with ⟨e | a, o⟩
  · intro halike _
    obtain rfl : x' = .error e := halike.error_eq
    exact rfl
  · intro halike hi
    obtain ⟨a', rfl, ha⟩ := halike.exists_ok
    exact ⟨ha, hi⟩

lemma deliver_apart (event : Event) (l : List (String × Extension)) :
    Matches (Session.Apart lib z f) (deliver event (mapValues (·.restamp f) l))
      (deliver event l) := by
  have hevent (e : Extension) :
      Matches (Session.Apart lib z f) ((e.restamp f).onEvent event) (e.onEvent event) := by
    rcases e with ⟨stamp, _ | ⟨id, ⟨mutator, finalizer, hook, merge, _ | rules⟩⟩ | _ | _⟩
    case scripted.some =>
      refine (note_apart _ _).matches.bind fun _ => ?_
      split
      · exact simulates_throw _
      · exact matches_pure _
    all_goals exact matches_pure _
  induction l with
  | nil => exact matches_pure _
  | cons p l ih => exact ((hevent p.2).adapt _).bind fun _ _ _ => ih

lemma publish_abreast (event : Event) :
    Matches (Abreast lib z f s₀) (publish event) (publish event) := by
  refine abreast_of_walks (publish_goes passage_leads event) (simulates_get_bind fun s' s h => ?_)
  rw [h.listeners_eq]
  exact deliver_apart event s.listeners

lemma createEager_lazy {name : String} {s : Session} (h : isLazy s name = true)
    (rest : List String) : createEager lib (name :: rest) s = createEager lib rest s := by
  have hget : (get : Act Session BootstrapError Session) s = (.ok s, s) := rfl
  unfold isLazy at h
  rw [createEager, Act.bind_run, hget]
  dsimp only
  rw [h]
  rfl

lemma createEager_abreast (hlib : lib.Spares z) (hidle : s₀.registry.inCreation = [])
    (names : List String) :
    Matches (Abreast lib z f s₀) (createEager lib names)
      (createEager lib (names.filter (· ≠ z))) := by
  induction names with
  | nil => exact matches_pure _
  | cons name rest ih =>
    by_cases hname : name = z
    · -- a turn that only the first pass has
      rw [List.filter_cons_of_neg (by simpa using hname)]
      intro s' s h
      have hlazy : isLazy s' name = true := by
        obtain ⟨d, hfind, hd⟩ := h.1.registry.bystander
        unfold isLazy
        rw [hname, hfind]
        exact hd
      rw [createEager_lazy hlazy]
      exact ih s' s h
    · rw [List.filter_cons_of_pos (by simpa using hname)]
      unfold createEager
      refine simulates_get_bind fun s' s h => ?_
      rw [h.1.registry.find?_eq hname, Option.any_map]
      have hcreate := (Creation.resolve_abreast hlib hidle (f := f) name hname).adapt
        (BootstrapError.registry name .singletonCreation)
      refine simulates_ite ?_ ih
      exact (hcreate.bind fun _ _ _ => matches_pure ()).bind fun _ _ _ => ih

lemma admitDetector_apart (config : ContainerConfig) :
    Matches (Container.Apart lib z f) (admitDetector config) (admitDetector config) := by
  intro c' c hc
  have hsame : listenerDetector.restamp f = listenerDetector :=
    congrArg (Extension.mk · .listenerDetector) hc.detector_eq
  have hadd : Matches (Session.Apart lib z f)
      (addToPipeline listenerDetectorName (listenerDetector.restamp f))
      (addToPipeline listenerDetectorName listenerDetector) := addToPipeline_apart _ _
  rw [hsame] at hadd
  unfold admitDetector
  refine simulates_ite (onSession_apart fun s₀ _ => ?_) (matches_pure _) c' c hc
  exact (abreast_of_walks (passage_leads.adds _ trivial) hadd).adapt _

lemma assemble_apart (hlib : lib.Spares z) (run : String) :
    Simulates (Container.Apart lib z f)
      (fun p' p => p'.1 = p.1 ∧ p'.2.Like (.beside lib z f) p.2) (assemble lib run)
      (assemble lib run) := by
  refine simulates_get_bind fun c' c hc => ?_
  dsimp only
  rw [hc.config_eq]
  refine (admitDetector_apart _).bind fun _ => ?_
  refine (orchestrate_apart (fun _ hidle =>
    Orchestration.mutationPhase_abreast hlib hidle hc.supplied) _).bind
    fun ⟨mutation', i'⟩ ⟨mutation, i⟩ ⟨hmutation, hi⟩ => ?_
  obtain rfl : mutation' = mutation := hmutation
  obtain rfl : i' = i := hi
  refine (orchestrate_apart (fun _ hidle => Orchestration.buildPipeline_abreast hlib hidle) _).bind
    fun ⟨built', _⟩ ⟨built, _⟩ ⟨hbuilt, _⟩ => ?_
  refine Matches.bind (fun c' c hc => ⟨rfl, { hc with
    checker_eq := congrArg some hbuilt.checker }⟩) fun _ => ?_
  exact (admitDetector_apart _).bind fun _ => simulates_pure ⟨rfl, hbuilt⟩

lemma populate_abreast (hlib : lib.Spares z) (hidle : s₀.registry.inCreation = [])
    (config : ContainerConfig) :
    Matches (Abreast lib z f s₀) (populate lib config) (populate lib config) := by
  have hpublish : Matches (Abreast lib z f s₀)
      (do publish (.refreshed config.name (← get).registry.singletons.length))
      (do publish (.refreshed config.name (← get).registry.singletons.length)) := by
    refine simulates_get_bind fun s' s h => ?_
    rw [h.1.registry.singletons_eq, mapValues, List.length_map]
    exact publish_abreast _
  unfold populate
  refine simulates_ite (simulates_get_bind fun s' s h => ?_) hpublish
  have hnames : s'.registry.names.filter (· ≠ z) = s.registry.names := h.1.registry.order_eq
  rw [← hnames]
  exact (createEager_abreast hlib hidle _).bind fun _ => hpublish

lemma summarize_apart (hf : f.Injective) (config : ContainerConfig) (mutation : MutationSummary)
    {built' built : BuiltPipeline} (hbuilt : built'.Like (.beside lib z f) built)
    {s' s : Session} (h : s'.Apart lib z f s) :
    summarize config mutation built' s' = (summarize config mutation built s).restamp f := by
  obtain ⟨pipeline', target', checker', registered'⟩ := built'
  obtain ⟨-, htarget, hchecker, -⟩ := hbuilt
  obtain rfl : target' = built.target := htarget
  obtain rfl : checker' = f built.checker := hchecker
  have hineligible : s'.reportsOf (f built.checker) =
      (s.reportsOf built.checker).map (·.restamp f) := by
    unfold Session.reportsOf
    rw [h.reports_eq, List.filter_map]
    congr 1
    refine List.filter_congr fun r _ => ?_
    simp only [Function.comp_apply, Report.restamp, hf.eq_iff]
  unfold summarize RefreshSummary.restamp
  rw [hineligible, h.registry.pipeline_eq, Pipeline.names_restamp, h.registry.singletons_eq,
    h.listeners_eq, mapValues, mapValues, List.length_map, List.length_map]

lemma bootstrap_apart (hlib : lib.Spares z) (run : String) :
    Simulates (Container.Apart lib z f) (fun s' s => s' = s.restamp f) (bootstrap lib run)
      (bootstrap lib run) := by
  intro c' c hc
  rw [bootstrap_run, bootstrap_run, hc.config_eq]
  refine ((assemble_apart hlib run).bind
    fun ⟨mutation', built'⟩ ⟨mutation, built⟩ ⟨hmutation, hbuilt⟩ => ?_) c' c hc
  obtain rfl : mutation' = mutation := hmutation
  refine (onSession_apart fun _ hidle => populate_abreast hlib hidle c.config).bind fun _ _ _ => ?_
  exact simulates_get_bind fun d' d hd =>
    simulates_pure (summarize_apart hd.injective c.config mutation' hbuilt hd.session)

lemma Apart.tornDown {c' c : Container} (h : c'.Apart lib z f c) (state : ContainerState)
    (log' log : List Record) : (c'.tornDown state log').Apart lib z f (c.tornDown state log) :=
  { h with
    state_eq := rfl
    session := { h.session with
      registry := h.session.registry.destroySingletons
      listeners_eq := rfl } }

theorem refresh_apart (hlib : lib.Spares z) (run : String) :
    Simulates (Container.Apart lib z f) (fun s' s => s' = s.restamp f) (refresh lib run)
      (refresh lib run) := by
  intro c' c hc
  by_cases hstate : c.state = .created
  swap
  · rw [refresh_again hstate, refresh_again (hc.state_eq ▸ hstate), hc.config_eq]
    exact ⟨rfl, hc⟩
  obtain ⟨log', hrun'⟩ := refresh_opened lib (hc.state_eq.trans hstate) run
  obtain ⟨log, hrun⟩ := refresh_opened lib hstate run
  have hopened : (c'.opened run).Apart lib z f (c.opened run) :=
    { hc with state_eq := rfl, session := { hc.session with } }
  rw [hrun', hrun]
  have hbootstrap := bootstrap_apart hlib run _ _ hopened
  generalize bootstrap lib run (c'.opened run) = p' at hbootstrap ⊢
  generalize bootstrap lib run (c.opened run) = p at hbootstrap ⊢
  obtain ⟨x', d'⟩ := p'
  obtain ⟨halike, hd⟩ := hbootstrap
  obtain ⟨e | summary, d⟩ := p
  · obtain rfl : x' = .error e := halike.error_eq
    exact ⟨rfl, hd.tornDown .failed log' log⟩
  · obtain ⟨_, rfl, rfl⟩ := halike.exists_ok
    exact ⟨rfl, { hd with state_eq := rfl, session := { hd.session with } }⟩

end Container

end ComponentContainer
