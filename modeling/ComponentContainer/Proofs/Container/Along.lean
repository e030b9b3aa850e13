import ComponentContainer.Proofs.Container.Runs
import ComponentContainer.Proofs.Orchestration.Traversal

/-! Whatever is asked of a container, its session goes along every relation that requests to a
registry go along, if only the listeners may be forgotten. -/

namespace ComponentContainer.Container

variable {lib : Catalog} {c d : Container}

section

variable {ε α : Type} {Q : α → Session → Prop} {E : ε → Session → Prop}

lemma ends_onSession {m : Act Session ε α} (h : Act.Ends m c.session Q E) :
    Act.Ends (onSession m) c (fun a d => Q a d.session ∧ d = { c with session := d.session })
      (fun e d => E e d.session ∧ d = { c with session := d.session }) := by
  unfold Act.Ends at h ⊢
  unfold onSession
  rcases hm : m c.session with ⟨e | a, s⟩
  · rw [hm] at h
    exact ⟨h, rfl⟩
  · rw [hm] at h
    exact ⟨h, rfl⟩

lemma ends_orchestrate {m : Act (Orchestration Session) ε α} {i : Invoker} {I : Session → Prop}
    (h : Act.Stays m ⟨c.session, i⟩ fun o => I o.registry) :
    Act.Stays (orchestrate m i) c fun d => I d.session ∧ d = { c with session := d.session } := by
  unfold Act.Stays Act.Ends at h ⊢
  unfold orchestrate
  rcases hm : m ⟨c.session, i⟩ with ⟨e | a, o⟩
  · rw [hm] at h
    exact ⟨h, rfl⟩
  · rw [hm] at h
    exact ⟨h, rfl⟩

end

open Session

variable {P : Extension → Prop} {A : String → Session → Session → Prop}
  {L : Session → Session → Prop}

structure Along (L : Session → Session → Prop) (c d : Container) : Prop where
  session : L c.session d.session
  config_eq : d.config = c.config
  supplied_eq : d.supplied = c.supplied
  state_eq : d.state = c.state

lemma Along.of_session (h : L c.session d.session) (hd : d = { c with session := d.session }) :
    Along L c d :=
  ⟨h, by rw [hd], by rw [hd], by rw [hd]⟩

section

variable (hL : Passage lib P A L)

include hL

lemma Along.refl (c : Container) : Along L c c := ⟨hL.refl _, rfl, rfl, rfl⟩

lemma Along.trans {c₁ : Container} (h : Along L c c₁) (h' : Along L c₁ d) : Along L c d :=
  ⟨hL.trans h.session h'.session, h'.config_eq.trans h.config_eq,
    h'.supplied_eq.trans h.supplied_eq, h'.state_eq.trans h.state_eq⟩

lemma onEvent_goes (e : Extension) (event : Event) :
    Goes P L (fun _ => True) (e.onEvent event) := by
  rcases e with ⟨stamp, _ | ⟨id, ⟨m, f, h, r, _ | rules⟩⟩ | _ | _⟩
  case scripted.some =>
    refine hL.bind (goes_of_along (hL.note _)) fun _ _ => ?_
    split
    · exact hL.throw _
    · exact hL.pure trivial
  all_goals exact hL.pure trivial

lemma deliver_goes (event : Event) (listeners : List (String × Extension)) :
    Goes P L (fun _ => True) (deliver event listeners) := by
  induction listeners with
  | nil => exact hL.pure trivial
  | cons p listeners ih => exact hL.bind (onEvent_goes hL p.2 event).adapt fun _ _ => ih

lemma publish_goes (event : Event) : Goes P L (fun _ => True) (publish event) :=
  goes_get_bind fun s _ => deliver_goes hL event s.listeners

variable (hP : ∀ stamp entry name, P ⟨stamp, (lib.extension entry).behaviour name⟩)
  (hdetector : P listenerDetector)

include hdetector in
lemma stays_admitDetector (config : ContainerConfig) (hc : c.session.registry.Held P) :
    Act.Stays (admitDetector config) c (Along L c) := by
  unfold admitDetector
  split
  · have hregister : Goes P L (fun _ => True) registerDetector :=
      (hL.adds listenerDetectorName hdetector).adapt
    exact (ends_onSession (hregister c.session hc)).mono
      (fun _ _ ⟨⟨_, h⟩, hd⟩ => .of_session h hd) (fun _ _ ⟨h, hd⟩ => .of_session h hd)
  · exact Along.refl hL c

include hP

lemma createEager_goes (names : List String) :
    Goes P L (fun _ => True) (createEager lib names) := by
  induction names with
  | nil => exact hL.pure trivial
  | cons name names ih =>
    refine goes_get_bind fun s _ => ?_
    dsimp only
    split
    · exact hL.bind (hL.discard (resolve_goes hL hP name).adapt) fun _ _ => ih
    · exact ih

lemma populate_goes (config : ContainerConfig) :
    Goes P L (fun _ => True) (populate lib config) := by
  have hpublish : Goes P L (fun _ => True) (do
      publish (.refreshed config.name (← get).registry.singletons.length)) :=
    goes_get_bind fun s _ => publish_goes hL _
  unfold populate
  dsimp only
  split
  · exact goes_get_bind fun s _ => hL.bind (createEager_goes hL hP _) fun _ _ => hpublish
  · exact hpublish

include hdetector

lemma stays_assemble (run : String) (hc : c.session.registry.Held P) :
    Act.Stays (assemble lib run) c (Along L c) := by
  have hheld {d : Container} (hd : Along L c d) : d.session.registry.Held P :=
    hL.held hd.session hc
  apply Act.ends_get_bind
  refine (stays_admitDetector hL hdetector c.config hc).bind (fun _ d hd => ?_) (fun _ _ => id)
  refine (ends_orchestrate (hL.mutationPhase_goes hP (hheld hd) c.supplied (.new run))).bind
    (fun p b hb => ?_) (fun _ b hb => hd.trans hL (.of_session hb.1 hb.2))
  replace hd := hd.trans hL (.of_session hb.1 hb.2)
  refine (ends_orchestrate (hL.buildPipeline_goes hP (hheld hd) p.2)).bind
    (fun q b' hb' => ?_) (fun _ b' hb' => hd.trans hL (.of_session hb'.1 hb'.2))
  replace hd := hd.trans hL (.of_session hb'.1 hb'.2)
  apply Act.ends_modify_bind
  replace hd : Along L c { b' with checker := some q.1.checker } :=
    ⟨hd.session, hd.config_eq, hd.supplied_eq, hd.state_eq⟩
  refine (stays_admitDetector hL hdetector c.config (hheld hd)).bind
    (fun _ d hd' => ?_) (fun _ _ hd' => hd.trans hL hd')
  exact hd.trans hL hd'

lemma stays_bootstrap (run : String) (hc : c.session.registry.Held P) :
    Act.Stays (bootstrap lib run) c (Along L c) := by
  rw [Act.Stays, Act.Ends, bootstrap_run]
  refine (stays_assemble hL hP hdetector run hc).bind (fun p b hb => ?_) (fun _ _ => id)
  have hpopulate := populate_goes hL hP c.config b.session (hL.held hb.session hc)
  exact (ends_onSession hpopulate).bind (fun _ d hd => hb.trans hL (.of_session hd.1.2 hd.2))
    (fun _ d hd => hb.trans hL (.of_session hd.1 hd.2))

end

structure Serves (lib : Catalog) (L : Session → Session → Prop) (c : Container) (r : Request)
    (d : Container) : Prop where
  session : L c.session d.session
  config_eq : d.config = c.config
  state_eq : d.state = c.stateAfter lib r

section

variable (hL : Passage lib P A L)
  (hP : ∀ stamp entry name, P ⟨stamp, (lib.extension entry).behaviour name⟩)
  (hdetector : P listenerDetector) (hforget : ∀ s : Session, L s { s with listeners := [] })

include hL hforget in
lemma tornDown_along (c : Container) (state : ContainerState) (log : List Record) :
    L c.session (c.tornDown state log).session :=
  hL.trans (hL.destroy c.session) (hL.trans (hforget _) (hL.write rfl rfl rfl (Nat.le_refl _)))

include hL hP hdetector hforget

lemma serves_refresh (hc : c.session.registry.Held P) (run : String) :
    Serves lib L c (.refresh run) (refresh lib run c).2 := by
  by_cases hstate : c.state ≠ .created
  · rw [refresh_again hstate]
    exact ⟨hL.refl _, rfl, (if_neg hstate).symm⟩
  replace hstate := Decidable.not_not.1 hstate
  obtain ⟨log, log', hrun⟩ := refresh_run lib hstate run
  have hstart : L c.session (c.started log).session := hL.write rfl rfl rfl (Nat.le_refl _)
  have hboot := stays_bootstrap hL hP hdetector run (hL.held hstart hc)
  have hafter : c.stateAfter lib (.refresh run) =
      if (refresh lib run c).1.isOk then .active else .failed := if_pos hstate
  rcases hresult : bootstrap lib run (c.started log) with ⟨e | summary, d⟩
  · have hd := hboot.error hresult
    rw [hresult] at hrun
    rw [hrun] at hafter ⊢
    exact ⟨hL.trans hstart (hL.trans hd.session (tornDown_along hL hforget d _ _)), hd.config_eq,
      hafter.symm⟩
  · have hd := hboot.ok hresult
    rw [hresult] at hrun
    rw [hrun] at hafter ⊢
    exact ⟨hL.trans hstart (hL.trans hd.session (hL.write rfl rfl rfl (Nat.le_refl _))),
      hd.config_eq, hafter.symm⟩

omit hP hdetector in
lemma serves_close (hc : c.session.registry.Held P) : Serves lib L c .close (close c).2 := by
  by_cases hstate : c.state = .closed
  · rw [close_again hstate]
    exact ⟨hL.refl _, rfl, hstate⟩
  obtain ⟨log, hrun⟩ := close_run hstate
  rw [hrun]
  split
  · have hpublish := (publish_goes hL (.closed c.config.name)).along hc
    let d : Container := { c with session := (publish (.closed c.config.name) c.session).2 }
    exact ⟨hL.trans hpublish (tornDown_along hL hforget d .closed log), rfl, rfl⟩
  · exact ⟨tornDown_along hL hforget c .closed log, rfl, rfl⟩

omit hP hdetector hforget in
lemma serves_supply (name : String) (spec : ExtensionSpec) :
    Serves lib L c (.supply name spec) (c.serve lib (.supply name spec)) := by
  have hbuild : L c.session (spec.build name c.session).2 := hL.fresh c.session
  obtain ⟨log, hadd⟩ := addExtension_run name (spec.build name c.session).1
    { c with session := (spec.build name c.session).2 }
  have hserve := congrArg Prod.snd hadd
  change c.serve lib (.supply name spec) = _ at hserve
  rw [hserve]
  exact ⟨hL.trans hbuild (hL.write rfl rfl rfl (Nat.le_refl _)), rfl, rfl⟩

theorem serve_serves (hc : c.session.registry.Held P) (r : Request) :
    Serves lib L c r (c.serve lib r) := by
  cases r with
  | refresh run => exact serves_refresh hL hP hdetector hforget hc run
  | close => exact serves_close hL hforget hc
  | publish event => exact ⟨(publish_goes hL event).along hc, rfl, rfl⟩
  | supply name spec => exact serves_supply hL name spec
  | perform a => exact ⟨(perform_goes hL hP a).along hc, rfl, rfl⟩
  | mutationPhase supplied i => exact ⟨(hL.mutationPhase_goes hP hc supplied i).state, rfl, rfl⟩
  | buildPipeline i => exact ⟨(hL.buildPipeline_goes hP hc i).state, rfl, rfl⟩

end

end ComponentContainer.Container
