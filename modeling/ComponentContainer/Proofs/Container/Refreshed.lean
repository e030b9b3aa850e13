import ComponentContainer.Proofs.Container.Watch
import ComponentContainer.Proofs.Reachable

/-! What a refresh that succeeds goes through, and where the detector is in the pipeline when it is
over. -/

namespace ComponentContainer

namespace Container

variable {lib : Catalog} {c c' : Container} {run : String} {s t : Session}
  {summary : RefreshSummary}

/-! ### Events -/

lemma registry_onEvent (e : Extension) (event : Event) (s : Session) :
    (e.onEvent event s).2.registry = s.registry := by
  rcases e with ⟨stamp, _ | ⟨id, ⟨m, f, h, r, _ | rules⟩⟩ | _ | _⟩
  case scripted.some =>
    have hends : Act.Stays (Extension.onEvent ⟨stamp, .scripted id ⟨m, f, h, r, some rules⟩⟩ event)
        s fun t => t.registry = s.registry := by
      apply Act.ends_lift_bind
      split
      · exact rfl
      · exact rfl
    exact hends.state
  all_goals rfl

lemma stays_deliver (event : Event) (listeners : List (String × Extension)) (s : Session) :
    Act.Stays (deliver event listeners) s fun t => t.registry = s.registry := by
  induction listeners generalizing s with
  | nil => exact rfl
  | cons l listeners ih =>
    have hhead : Act.Stays (l.2.onEvent event) s fun t => t.registry = s.registry :=
      Act.stays_of (registry_onEvent l.2 event s)
    refine hhead.adapt_const.bind (fun _ t ht => ?_) (fun _ _ => id)
    exact (ih t).mono (fun _ _ h => h.trans ht) (fun _ _ h => h.trans ht)

lemma registry_publish (event : Event) (s : Session) :
    (publish event s).2.registry = s.registry :=
  (stays_deliver event s.listeners s).state

/-! ### Stages -/

def Assembles (lib : Catalog) (run : String) (c : Container) (s : Session) : Prop :=
  ∃ log built d, assemble lib run (c.started log) = (.ok built, d) ∧ d.session = s

lemma refresh_ok (h : refresh lib run c = (.ok summary, c')) :
    c.state = .created ∧ ∃ s t log mutation built, c.Assembles lib run s ∧
      populate lib c.config s = (.ok (), t) ∧ c'.session = { t with log } ∧
      summary = summarize c.config mutation built t := by
  by_cases hstate : c.state = .created
  swap
  · rw [refresh_again hstate] at h
    cases h
  refine ⟨hstate, ?_⟩
  obtain ⟨log, log', hrun⟩ := refresh_run lib hstate run
  rw [h] at hrun
  split at hrun
  swap
  · cases hrun
  rename_i summary' d hboot
  cases hrun
  rw [bootstrap_run] at hboot
  obtain ⟨⟨mutation, built⟩, b, hassemble, hrest⟩ := Act.exists_of_bind_ok hboot
  obtain ⟨u, b', hpopulate, hrest⟩ := Act.exists_of_bind_ok hrest
  obtain ⟨hu, hb'⟩ := Prod.mk.inj hpopulate
  cases (hrest : (Except.ok (summarize c.config mutation built b'.session), b') = (.ok summary, d))
  refine ⟨b.session, d.session, log', mutation, built, ⟨log, _, b, hassemble, rfl⟩, ?_, rfl, rfl⟩
  exact Prod.ext hu (congrArg session hb')

lemma populate_ok {config : ContainerConfig} (h : populate lib config s = (.ok (), t)) :
    ∃ u, eagerPass lib config s = (.ok (), u) ∧ t = { u with journal := t.journal } := by
  rw [populate_eq] at h
  obtain ⟨_, u, heager, hrest⟩ := Act.exists_of_bind_ok h
  obtain ⟨u', _, hget, hpublish⟩ := Act.exists_of_bind_ok hrest
  cases hget
  refine ⟨u, heager, ?_⟩
  have hrest := publish_rest_eq (.refreshed config.name u.registry.singletons.length) u
  rwa [hpublish] at hrest

lemma yields_registerDetector (s : Session) :
    Act.Yields registerDetector s fun _ t =>
      t.registry.pipeline.getLast? = some ⟨listenerDetectorName, listenerDetector⟩ := by
  apply Act.Yields.adapt
  apply Act.ends_get_bind
  cases hr : s.registry.addToPipeline listenerDetectorName listenerDetector with
  | error e => trivial
  | ok r =>
    obtain ⟨-, rfl⟩ := Registry.addToPipeline_eq_ok hr
    exact List.getLast?_concat

lemma yields_assemble (c : Container) (hdetect : c.config.detectListeners = true) :
    Act.Yields (assemble lib run) c fun _ d => d.session.registry.pipeline.getLast? =
      some ⟨listenerDetectorName, listenerDetector⟩ := by
  have hregister (b : Container) : Act.Yields (admitDetector c.config) b fun _ d =>
      d.session.registry.pipeline.getLast? = some ⟨listenerDetectorName, listenerDetector⟩ := by
    unfold admitDetector
    rw [if_pos hdetect]
    exact (ends_onSession (yields_registerDetector b.session)).mono (fun _ _ h => h.1)
      (fun _ _ _ => trivial)
  apply Act.ends_get_bind
  refine Act.Yields.bind Act.ends_true fun _ d _ => ?_
  refine Act.Yields.bind Act.ends_true fun p b _ => ?_
  refine Act.Yields.bind Act.ends_true fun q b' _ => ?_
  apply Act.ends_modify_bind
  exact (hregister _).bind fun _ d hd => hd

lemma Assembles.getLast?_eq (hs : c.Assembles lib run s)
    (hdetect : c.config.detectListeners = true) :
    s.registry.pipeline.getLast? = some ⟨listenerDetectorName, listenerDetector⟩ := by
  obtain ⟨log, built, d, hassemble, rfl⟩ := hs
  exact (yields_assemble (c.started log) hdetect).ok hassemble

lemma yields_populate (config : ContainerConfig) (hpre : config.preInstantiate = false)
    (s : Session) : Act.Stays (populate lib config) s fun t => t.registry = s.registry := by
  unfold populate
  dsimp only
  rw [if_neg (by simp [hpre])]
  exact Act.stays_of (registry_publish _ s)

/-! ### The place of the detector -/

lemma Reachable.session (hc : c.Reachable lib) : c.session.Reachable lib := by
  induction hc with
  | new h =>
    rw [new_eq_ok h]
    exact .refl
  | @serve c r _ ih =>
    have hserve : Serves lib (Session.Leads lib Extension.Unarmed) c r (c.serve lib r) :=
      serve_serves Session.passage_leads (unarmed_of_catalog lib) (fun _ h => nomatch h)
        (fun _ => Session.leads_of_write rfl rfl (Nat.le_refl _)) ih.held r
    exact ih.trans hserve.session.path

lemma posts_eagerPass {config : ContainerConfig} (h : populate lib config s = (.ok (), t)) :
    s.holdings.Posts (Logbook.eagerPass lib config (s, [])).2.ledger t.holdings := by
  have hmatches := Logbook.eagerPass_matches lib config (s, []) s (Logbook.keeps_self s)
  obtain ⟨u, hrun, hpublish⟩ := populate_ok h
  rw [hrun] at hmatches
  obtain ⟨-, hkeeps⟩ := hmatches
  rw [hpublish]
  exact hkeeps.posts

/-- The detector is in the pipeline exactly once, and last when the pipeline is complete. When the
refresh is over it is last exactly if, by the postings that were entered along the eager pass, no
other entry is the latest that was added. -/
theorem Reachable.detector_last_iff (hc : c.Reachable lib)
    (hdetect : c.config.detectListeners = true) (h : refresh lib run c = (.ok summary, c')) :
    summary.pipeline = c'.session.registry.pipeline.names ∧
    summary.pipeline.count listenerDetectorName = 1 ∧
    ∃ s, c.Assembles lib run s ∧
      s.registry.pipeline.getLast? = some ⟨listenerDetectorName, listenerDetector⟩ ∧
      (c.config.preInstantiate = false → c'.session.registry = s.registry) ∧
      let pass := (Logbook.eagerPass lib c.config (s, [])).2
      s.holdings.Posts pass.ledger c'.session.holdings ∧
      (summary.pipeline.getLast? = some listenerDetectorName ↔
        ∀ entry, pass.ledger.lastAdded = some entry → entry.name = listenerDetectorName) := by
  obtain ⟨-, s, t, log, mutation, built, hs, hrun, hend, hsummary⟩ := refresh_ok h
  have hregistry : c'.session.registry = t.registry := by rw [hend]
  have hpipeline : summary.pipeline = c'.session.registry.pipeline.names := by
    rw [hsummary, hregistry]
    rfl
  have hlast := hs.getLast?_eq hdetect
  have hleads := (populate_goes Session.passage_leads (fun _ _ _ => trivial) c.config).along_ok
    (fun _ _ _ _ => trivial) hrun
  have hposts : s.holdings.Posts (Logbook.eagerPass lib c.config (s, [])).2.ledger
      c'.session.holdings := by
    rw [show c'.session.holdings = t.holdings by rw [hend]; rfl]
    exact posts_eagerPass hrun
  refine ⟨hpipeline, ?_, s, hs, hlast, fun hpre => ?_, hposts, ?_⟩
  · have hserve : c.serve lib (.refresh run) = c' := congrArg Prod.snd h
    have hreachable : c'.Reachable lib := hserve ▸ hc.serve (.refresh run)
    rw [hpipeline]
    refine List.count_eq_one_of_mem hreachable.session.wellFormed.registry.pipeline_nodup ?_
    rw [hregistry]
    exact hleads.path.pipeline_names_subset (List.mem_map_of_mem (List.mem_of_getLast? hlast))
  · rw [hregistry]
    exact (yields_populate c.config hpre s).ok hrun
  · have hentry := hposts.getLast?_eq
    change c'.session.registry.pipeline.getLast? = _ at hentry
    rw [hpipeline, Pipeline.names, List.getLast?_map, hentry]
    change ((Ledger.lastAdded _).or s.registry.pipeline.getLast?).map _ = _ ↔ _
    rw [hlast]
    cases (Logbook.eagerPass lib c.config (s, [])).2.ledger.lastAdded with
    | none => simp
    | some entry => simp

end Container

def Catalog.lateHook : Catalog where
  typeNames := ⟨"", "", "", "", "", "", ""⟩
  blueprints := [
    { (default : Blueprint) with
      name := "a"
      factory := ⟨[⟨.query (.addToPipeline "h" 0), false⟩], .fresh (.value .unit)⟩ },
    { (default : Blueprint) with name := "b" }]
  extensions := [.scripted none ⟨none, none, some .silent, none, none⟩]

namespace Container

def plain : Container :=
  (⟨.named "c", ∅, [], .created, none⟩ : Container).after .lateHook [.perform (.edit (.register 1))]

def overtaking : Container :=
  (⟨.named "c", ∅, [], .created, none⟩ : Container).after .lateHook [.perform (.edit (.register 0))]

theorem plain_detector_last : ∃ summary c' s, refresh .lateHook "r" plain = (.ok summary, c') ∧
    summary.pipeline.count listenerDetectorName = 1 ∧
    summary.pipeline.getLast? = some listenerDetectorName ∧ plain.Assembles .lateHook "r" s ∧
    ∀ entry, (Logbook.eagerPass .lateHook plain.config (s, [])).2.ledger.lastAdded = some entry →
      entry.name = listenerDetectorName := by
  have hreachable : plain.Reachable .lateHook := (Reachable.new new_named).after _
  have hok : (refresh .lateHook "r" plain).1.map (·.pipeline) =
      .ok [eligibilityCheckerName, listenerDetectorName] := by decide +kernel
  obtain ⟨summary, c', hrun, hpipeline⟩ := Act.exists_of_map_ok hok
  obtain ⟨-, hcount, s, hs, -, -, -, hiff⟩ :=
    hreachable.detector_last_iff (by decide +kernel) hrun
  have hlast : summary.pipeline.getLast? = some listenerDetectorName := by
    rw [hpipeline]
    rfl
  exact ⟨summary, c', s, hrun, hcount, hlast, hs, hiff.1 hlast⟩

theorem overtaking_detector_not_last : overtaking.Reachable .lateHook ∧
    overtaking.config.detectListeners = true ∧
    ∃ summary c', refresh .lateHook "r" overtaking = (.ok summary, c') ∧
      summary.pipeline = [eligibilityCheckerName, listenerDetectorName, "h"] ∧
      summary.pipeline.getLast? ≠ some listenerDetectorName := by
  have hok : (refresh .lateHook "r" overtaking).1.map (·.pipeline) =
      .ok [eligibilityCheckerName, listenerDetectorName, "h"] := by decide +kernel
  refine ⟨(Reachable.new new_named).after _, by decide +kernel, ?_⟩
  obtain ⟨summary, c', hrun, hpipeline⟩ := Act.exists_of_map_ok hok
  exact ⟨summary, c', hrun, hpipeline, by rw [hpipeline]; decide +kernel⟩

end Container

end ComponentContainer
