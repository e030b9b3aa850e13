import ComponentContainer.Proofs.Container.Watch
import Mathlib.Data.List.Induction

/-! The life of a container: the states that requests lead it through, and what it does itself
meanwhile. -/

namespace ComponentContainer

open Container

/-! ### Answers to events -/

def Extension.Answers (e : Extension) (event : Event) (a : Except HookError Unit) : Prop :=
  ∀ s, (e.onEvent event s).1 = a

lemma Extension.exists_answers (e : Extension) (event : Event) : ∃ a, e.Answers event a := by
  rcases e with ⟨stamp, _ | ⟨id, ⟨m, f, h, r, _ | rules⟩⟩ | _ | _⟩
  case scripted.some =>
    cases hrefusal : (rules.find? (·.on.all (· = event.kind))).bind (·.refusal) with
    | none => exact ⟨.ok (), fun s => by simp only [onEvent, hrefusal]; rfl⟩
    | some message => exact ⟨.error (.plain message), fun s => by simp only [onEvent, hrefusal]; rfl⟩
  all_goals exact ⟨.ok (), fun _ => rfl⟩

namespace Container

inductive Refuses (event : Event) : List (String × Extension) → BootstrapError → Prop
  | first {name : String} {e : Extension} {h : HookError} (rest : List (String × Extension)) :
    e.Answers event (.error h) → Refuses event ((name, e) :: rest) (.hook name .eventDelivery h)
  | later {l : String × Extension} {rest : List (String × Extension)} {x : BootstrapError} :
    l.2.Answers event (.ok ()) → Refuses event rest x → Refuses event (l :: rest) x

lemma deliver_eq_error_iff {event : Event} {listeners : List (String × Extension)} {s : Session}
    {x : BootstrapError} :
    (deliver event listeners s).1 = .error x ↔ Refuses event listeners x := by
  induction listeners generalizing s with
  | nil => exact ⟨nofun, nofun⟩
  | cons l rest ih =>
    obtain ⟨name, e⟩ := l
    obtain ⟨a, ha⟩ := e.exists_answers event
    have hrun := ha s
    rw [deliver, Act.bind_run, Act.adapt_run]
    rcases a with h | u
    · rw [hrun]
      refine ⟨fun hx => Except.error.inj hx ▸ .first rest ha, fun hx => ?_⟩
      cases hx with
      | first _ hfirst =>
        cases (ha s).symm.trans (hfirst s)
        rfl
      | later hok _ => cases (ha s).symm.trans (hok s)
    · rw [hrun]
      refine ih.trans ⟨.later ha, fun hx => ?_⟩
      cases hx with
      | first _ hfirst => cases (ha s).symm.trans (hfirst s)
      | later _ hx => exact hx

lemma close_eq_error_iff {c : Container} (h : c.state = .active) {x : BootstrapError} :
    (close c).1 = .error x ↔ Refuses (.closed c.config.name) c.session.listeners x := by
  obtain ⟨log, hrun⟩ := close_run (c := c) (by rw [h]; exact nofun)
  rw [hrun, if_pos h]
  exact deliver_eq_error_iff

end Container

/-! ### Deeds -/

def Watch.Deed.refreshing (run name : String) (components : Nat) : List Watch.Deed :=
  [.mutationPhase run, .pipelineBuild run, .told (.refreshed name components)]

def Watch.Deed.living (run name : String) (components : Nat) : List Watch.Deed :=
  refreshing run name components ++ [.told (.closed name)]

namespace Watch

variable {ε α : Type} {lib : Catalog}

def Follows (w : Watch) (plan : List Deed) (v : Watch) : Prop :=
  ∃ ds, v.deeds = w.deeds ++ ds ∧ ds <+: plan

variable {w v : Watch} {base : Holdings} {stack : List String}

lemma follows_nil (h : v.deeds = w.deeds) (plan : List Deed) : w.Follows plan v :=
  ⟨[], h.trans (List.append_nil _).symm, List.nil_prefix⟩

lemma stays_admitDetector (config : ContainerConfig) (w : Watch) :
    Act.Stays (admitDetector config) w fun v => v.deeds = w.deeds := by
  refine Act.stays_of ?_
  unfold admitDetector
  split
  · rfl
  · rfl

lemma stays_quietly (m : Act Container ε α) (w : Watch) :
    Act.Stays (quietly m) w fun v => v.deeds = w.deeds :=
  Act.stays_of rfl

lemma stays_doing (deed : Container → Deed) (m : Act Watch ε α) (w : Watch) :
    Act.Stays (doing deed m) w fun v => v.deeds = w.deeds ++ [deed w.container] :=
  Act.stays_of rfl

lemma ends_assemble (run : String) (w : Watch) :
    Act.Ends (assemble lib run) w
      (fun _ v => v.deeds = w.deeds ++ [.mutationPhase run, .pipelineBuild run])
      (fun _ v => w.Follows [.mutationPhase run, .pipelineBuild run] v) := by
  apply Act.ends_get_bind
  refine (stays_admitDetector _ w).bind (fun _ u hu => ?_) (fun _ u hu => follows_nil hu _)
  refine (stays_doing _ _ u).bind (fun p v hv => ?_) (fun _ v hv => ?_)
  swap
  · exact ⟨_, hu ▸ hv, [.pipelineBuild run], rfl⟩
  have hplan {x : Watch} (hx : x.deeds = v.deeds ++ [.pipelineBuild run]) :
      x.deeds = w.deeds ++ [.mutationPhase run, .pipelineBuild run] := by
    rw [hx, hv, hu, List.append_assoc]
    rfl
  have hdone {x : Watch} (hx : x.deeds = w.deeds ++ [.mutationPhase run, .pipelineBuild run]) :
      w.Follows [.mutationPhase run, .pipelineBuild run] x := ⟨_, hx, List.prefix_refl _⟩
  refine (stays_doing _ _ v).bind (fun q x hx => ?_) (fun _ x hx => hdone (hplan hx))
  replace hx := hplan hx
  refine (stays_quietly _ x).bind (fun _ y hy => ?_) (fun _ y hy => hdone (hy.trans hx))
  replace hy := hy.trans hx
  exact (stays_admitDetector _ y).bind (fun _ z hz => hz.trans hy)
    (fun _ z hz => hdone (hz.trans hy))

lemma ends_populate (config : ContainerConfig) (w : Watch) :
    Act.Ends (populate lib config) w
      (fun _ v => ∃ n, v.deeds = w.deeds ++ [.told (.refreshed config.name n)])
      (fun _ v => ∃ n, w.Follows [.told (.refreshed config.name n)] v) := by
  have heager : Act.Stays (onLogbook (Logbook.eagerPass lib config)) w fun v => v.deeds = w.deeds :=
    Act.stays_of rfl
  refine heager.bind (fun _ v hv => ?_) (fun _ v hv => ⟨0, follows_nil hv _⟩)
  unfold Follows
  rw [← hv]
  exact (stays_doing _ _ v).mono (fun _ _ hx => ⟨_, hx⟩) (fun _ _ hx => ⟨_, _, hx, List.prefix_refl _⟩)

lemma ends_bootstrap (run : String) (w : Watch) :
    Act.Ends (bootstrap lib run) w
      (fun _ v => ∃ n, v.deeds = w.deeds ++ Deed.refreshing run w.container.config.name n)
      (fun _ v => ∃ n, w.Follows (Deed.refreshing run w.container.config.name n) v) := by
  apply Act.ends_get_bind
  refine (ends_assemble run w).bind (fun p u hu => ?_) (fun _ u ⟨ds, hu, hds⟩ => ?_)
  swap
  · exact ⟨0, ds, hu, hds.trans (List.prefix_append _ [Deed.told _])⟩
  refine (ends_populate w.container.config u).bind (fun _ v ⟨n, hv⟩ => ?_)
    (fun _ v ⟨n, ds, hv, hds⟩ => ?_)
  · refine Act.ends_get_bind ⟨n, ?_⟩
    rw [hv, hu, List.append_assoc]
    rfl
  · refine ⟨n, _, by rw [hv, hu, List.append_assoc], ?_⟩
    exact (List.prefix_append_right_inj _).2 hds

lemma ends_refresh (lib : Catalog) (run : String) (h : w.container.state = .created) :
    Act.Ends (refresh lib run) w
      (fun _ v => ∃ n, v.deeds = w.deeds ++ Deed.refreshing run w.container.config.name n)
      (fun _ v => ∃ n, w.Follows (Deed.refreshing run w.container.config.name n) v) := by
  apply Act.ends_get_bind
  dsimp only
  rw [if_neg (not_not_intro h)]
  let u : Watch := ⟨w.container.opened run, w.postings, w.deeds⟩
  have hboot : Act.Ends (bootstrap lib run) u
      (fun _ v => ∃ n, v.deeds = w.deeds ++ Deed.refreshing run w.container.config.name n)
      (fun _ v => ∃ n, w.Follows (Deed.refreshing run w.container.config.name n) v) :=
    ends_bootstrap run u
  have habandon (e : BootstrapError) (x : Watch) :
      Act.Ends (clearing (abandonRefresh w.container.config.name run e)) x (fun _ _ => False)
        (fun _ y => y.deeds = x.deeds) := rfl
  change Act.Ends (tryCatch (bootstrap lib run) _ >>= _) u _ _
  refine Act.Ends.bind (R := fun _ v => ∃ n,
      v.deeds = w.deeds ++ Deed.refreshing run w.container.config.name n)
    (hboot.tryCatch fun e x hx => ?_) (fun summary x hx => ?_) (fun _ _ => id)
  · refine (habandon e x).mono (fun _ _ => False.elim) fun _ y hy => ?_
    unfold Follows
    rwa [hy]
  · exact hx

lemma deeds_refresh (lib : Catalog) (hw : w.Over base stack w.container) (run : String)
    (h : w.container.state = .created) :
    ∃ n ds, (refresh lib run w).2.deeds = w.deeds ++ ds ∧
      ds <+: Deed.refreshing run w.container.config.name n ∧
      ((Container.refresh lib run w.container).1.isOk = true →
        ds = Deed.refreshing run w.container.config.name n) := by
  have hends := ends_refresh lib run h
  have hresult := (refresh_matches lib run w w.container hw).1.eq
  rw [← hresult]
  rcases hrun : refresh lib run w with ⟨e | summary, v⟩
  · obtain ⟨n, ds, hv, hds⟩ := hends.error hrun
    exact ⟨n, ds, hv, hds, nofun⟩
  · obtain ⟨n, hv⟩ := hends.ok hrun
    exact ⟨n, _, hv, List.prefix_refl _, fun _ => rfl⟩

lemma refresh_again (run : String) (h : w.container.state ≠ .created) :
    refresh lib run w = (.error (.alreadyRefreshed w.container.config.name), w) := by
  have hget : (get : Act Watch BootstrapError Watch) w = (.ok w, w) := rfl
  unfold refresh
  rw [Act.bind_run, hget]
  dsimp only
  rw [if_pos h]
  rfl

lemma deeds_close (w : Watch) :
    w.close.2.deeds = if w.container.state = .active then
      w.deeds ++ [.told (.closed w.container.config.name)] else w.deeds := by
  have hget : (get : Act Watch BootstrapError Watch) w = (.ok w, w) := rfl
  unfold close
  rw [Act.bind_run, hget]
  dsimp only
  by_cases hactive : w.container.state = .active
  · rw [if_neg (by rw [hactive]; decide), if_pos hactive, if_pos hactive, Act.bind_run,
      Act.observing_run]
    rfl
  · rw [if_neg hactive, if_neg hactive]
    split
    · rfl
    · rfl

/-! ### The laws of a life -/

inductive Moves : ContainerState → Request → ContainerState → Prop
  | activated {run : String} : Moves .created (.refresh run) .active
  | failed {run : String} : Moves .created (.refresh run) .failed
  | closed {state : ContainerState} : Moves state .close .closed
  | stayed {state : ContainerState} {r : Request} :
    (state = .created → ∀ run, r ≠ .refresh run) → r ≠ .close → Moves state r state

inductive Does (c : Container) : Request → List Deed → Prop
  | refresh {run : String} {ds : List Deed} (components : Nat) : c.state = .created →
    ds <+: Deed.refreshing run c.config.name components → Does c (.refresh run) ds
  | close : c.state = .active → Does c .close [.told (.closed c.config.name)]
  | nothing {r : Request} : (c.state = .created → ∀ run, r ≠ .refresh run) →
    (c.state = .active → r ≠ .close) → Does c r []

/-- The deeds of a container of that name and state since it was new. -/
inductive Lived (name : String) : ContainerState → List Deed → Prop
  | created : Lived name .created []
  | active (run : String) (components : Nat) :
    Lived name .active (Deed.refreshing run name components)
  | failed {run : String} {components : Nat} {ds : List Deed} :
    ds <+: Deed.refreshing run name components → Lived name .failed ds
  | closed {run : String} {components : Nat} {ds : List Deed} :
    ds <+: Deed.living run name components → Lived name .closed ds

section

variable {state state' : ContainerState} {r : Request}

lemma Moves.eq_created_iff (h : Moves state r state') :
    state' = .created ↔ state = .created ∧ r ≠ .close ∧ ∀ run, r ≠ .refresh run := by
  cases h with
  | activated | failed | closed => simp
  | stayed hrefresh hclose => exact ⟨fun h => ⟨h, hclose, hrefresh h⟩, And.left⟩

lemma Moves.eq_closed_iff (h : Moves state r state') :
    state' = .closed ↔ state = .closed ∨ r = .close := by
  cases h with
  | activated | failed | closed => simp
  | stayed _ hclose => exact ⟨.inl, fun h => h.resolve_right hclose⟩

end

lemma serve_moves (lib : Catalog) (c : Container) (r : Request) :
    Moves c.state r (c.serve lib r).state := by
  rw [(serve_leads lib c r).state_eq]
  cases r with
  | refresh run =>
    by_cases h : c.state = .created
    · rw [stateAfter, if_pos h, h]
      split
      · exact .activated
      · exact .failed
    · rw [stateAfter, if_neg h]
      refine .stayed (fun h' => absurd h' h) fun hr => ?_
      cases hr
  | close => exact .closed
  | publish | supply | perform | mutationPhase | buildPipeline =>
    refine .stayed (fun _ _ hr => ?_) fun hr => ?_
    · cases hr
    · cases hr

lemma serve_does (lib : Catalog) (hw : w.Over base stack w.container) (r : Request) :
    ∃ ds, (w.serve lib r).deeds = w.deeds ++ ds ∧ Does w.container r ds := by
  cases r with
  | refresh run =>
    by_cases h : w.container.state = .created
    · obtain ⟨n, ds, hdeeds, hds, -⟩ := deeds_refresh lib hw run h
      exact ⟨ds, hdeeds, .refresh n h hds⟩
    · refine ⟨[], ?_, .nothing (fun h' => absurd h' h) (fun _ => nofun)⟩
      rw [serve, refresh_again run h, List.append_nil]
  | close =>
    have hdeeds := deeds_close w
    split at hdeeds
    · exact ⟨_, hdeeds, .close ‹_›⟩
    · exact ⟨[], hdeeds.trans (List.append_nil _).symm, .nothing (fun _ _ => nofun) (absurd · ‹_›)⟩
  | publish | supply | perform | mutationPhase | buildPipeline =>
    exact ⟨[], (List.append_nil _).symm, .nothing (fun _ _ => nofun) (fun _ => nofun)⟩

lemma Lived.eq_nil {name : String} {ds : List Deed} (h : Lived name .created ds) : ds = [] := by
  cases h
  rfl

lemma Lived.close {name : String} {state : ContainerState} {ds : List Deed}
    (h : Lived name state ds) :
    Lived name .closed (if state = .active then ds ++ [.told (.closed name)] else ds) := by
  cases h with
  | created => exact .closed (List.nil_prefix (l := Deed.living "" name 0))
  | active run n => exact .closed (List.prefix_refl (Deed.living run name n))
  | failed h => exact .closed (h.trans (List.prefix_append _ _))
  | closed h => exact .closed h

lemma Lived.isPrefix {name : String} {state : ContainerState} {ds : List Deed}
    (h : Lived name state ds) : ∃ run n, ds <+: Deed.living run name n := by
  cases h with
  | created => exact ⟨"", 0, List.nil_prefix⟩
  | active run n => exact ⟨run, n, List.prefix_append _ _⟩
  | failed h => exact ⟨_, _, h.trans (List.prefix_append _ _)⟩
  | closed h => exact ⟨_, _, h⟩

lemma serve_lived (lib : Catalog) (hw : w.Over base stack w.container)
    (h : Lived w.container.config.name w.container.state w.deeds) (r : Request) :
    Lived w.container.config.name (w.serve lib r).container.state (w.serve lib r).deeds := by
  have hstate : (w.serve lib r).container.state = w.container.stateAfter lib r := by
    rw [(hw.serve r).container_eq]
    exact (serve_leads lib w.container r).state_eq
  cases r with
  | refresh run =>
    by_cases hcreated : w.container.state = .created
    · obtain ⟨n, ds, hdeeds, hds, hok⟩ := deeds_refresh lib hw run hcreated
      rw [hcreated] at h
      rw [stateAfter, if_pos hcreated] at hstate
      rw [h.eq_nil] at hdeeds
      rw [hstate, serve, hdeeds, List.nil_append]
      split
      · rw [hok ‹_›]
        exact .active run n
      · exact .failed hds
    · rw [serve, refresh_again run hcreated]
      exact h
  | close =>
    rw [hstate, serve, deeds_close, stateAfter]
    exact h.close
  | publish | supply | perform | mutationPhase | buildPipeline => exact hstate ▸ h

lemma after_lived (lib : Catalog) (hw : w.Over base stack w.container)
    (h : Lived w.container.config.name w.container.state w.deeds) (requests : List Request) :
    Lived w.container.config.name (w.after lib requests).container.state
      (w.after lib requests).deeds := by
  induction requests generalizing w with
  | nil => exact h
  | cons r requests ih =>
    have hserve : (w.serve lib r).Over base stack (w.container.serve lib r) := hw.serve r
    have hconfig : (w.serve lib r).container.config = w.container.config := by
      rw [hserve.container_eq]
      exact (serve_leads lib w.container r).config_eq
    have hlived := serve_lived lib hw h r
    rw [← hconfig] at hlived ⊢
    exact ih hserve.self hlived

end Watch

namespace Container

variable {lib : Catalog} {c : Container}

lemma supplied_refresh (lib : Catalog) (run : String) (c : Container) :
    (refresh lib run c).2.supplied = c.supplied := by
  by_cases h : c.state = .created
  · obtain ⟨log, log', hrun⟩ := refresh_run lib h run
    have hboot : Act.Stays (bootstrap lib run) (c.started log) _ :=
      stays_bootstrap Session.passage_leads (P := fun _ => True) (fun _ _ _ => trivial) trivial run
        (fun _ _ _ _ => trivial)
    have hsupplied := hboot.state.supplied_eq
    rw [hrun]
    split
    · rename_i summary d hresult
      rwa [hresult] at hsupplied
    · rename_i e d hresult
      rwa [hresult] at hsupplied
  · rw [refresh_again h]

lemma supplied_close (c : Container) : (close c).2.supplied = c.supplied := by
  by_cases h : c.state = .closed
  · rw [close_again h]
  · obtain ⟨log, hrun⟩ := close_run h
    rw [hrun]
    split
    · rfl
    · rfl

lemma supplied_serve (lib : Catalog) (c : Container) (r : Request) :
    (c.serve lib r).supplied = c.supplied ∨
      c.state = .created ∧ ∃ name spec, r = .supply name spec ∧
        (c.serve lib r).supplied = c.supplied ++ [⟨name, (spec.build name c.session).1⟩] := by
  cases r with
  | refresh run => exact .inl (supplied_refresh lib run c)
  | close => exact .inl (supplied_close c)
  | supply name spec =>
    obtain ⟨log, hadd⟩ := addExtension_run name (spec.build name c.session).1
      { c with session := (spec.build name c.session).2 }
    have hsupplied := congrArg (·.2.supplied) hadd
    by_cases h : c.state = .created
    · exact .inr ⟨h, name, spec, rfl, hsupplied.trans (if_pos h)⟩
    · exact .inl (hsupplied.trans (if_neg h))
  | publish | perform | mutationPhase | buildPipeline => exact .inl rfl

lemma state_after (lib : Catalog) (h : c.state = .created) (requests : List Request) :
    ((c.after lib requests).state = .created ↔
      ∀ r ∈ requests, r ≠ .close ∧ ∀ run, r ≠ .refresh run) ∧
    ((c.after lib requests).state = .closed ↔ .close ∈ requests) := by
  induction requests using List.reverseRecOn with
  | nil => simp [after, h]
  | append_singleton requests r ih =>
    have hmoves := Watch.serve_moves lib (c.after lib requests) r
    rw [after_concat, hmoves.eq_created_iff, hmoves.eq_closed_iff, ih.1, ih.2, List.forall_mem_append,
      List.forall_mem_singleton, List.mem_append, List.mem_singleton, eq_comm (a := r)]
    exact ⟨.rfl, .rfl⟩

end Container

/-- The law of one request to a container. -/
structure Watch.Law (lib : Catalog) (w : Watch) (r : Request) : Prop where
  moves : Moves w.container.state r (w.serve lib r).container.state
  outcome : ∀ run, r = .refresh run → w.container.state = .created →
    ((w.serve lib r).container.state = .active ↔
      (Container.refresh lib run w.container).1.isOk = true)
  does : ∃ ds, (w.serve lib r).deeds = w.deeds ++ ds ∧ Does w.container r ds
  supplied : (w.serve lib r).container.supplied = w.container.supplied ∨
    w.container.state = .created ∧ ∃ name spec, r = .supply name spec ∧
      (w.serve lib r).container.supplied =
        w.container.supplied ++ [⟨name, (spec.build name w.container.session).1⟩]
  refused : ∀ run, r = .refresh run → w.container.state ≠ .created →
    Container.refresh lib run w.container =
      (.error (.alreadyRefreshed w.container.config.name), w.container)
  closing : r = .close → w.container.state = .active → ∀ e,
    (Container.close w.container).1 = .error e ↔
      Refuses (.closed w.container.config.name) w.container.session.listeners e

lemma Watch.law (lib : Catalog) {w : Watch} {base : Holdings} {stack : List String}
    (hw : w.Over base stack w.container) (r : Request) : w.Law lib r where
  moves := by
    rw [(hw.serve r).container_eq]
    exact serve_moves lib w.container r
  outcome := by
    rintro run rfl h
    rw [(hw.serve _).container_eq, (serve_leads lib w.container _).state_eq, stateAfter, if_pos h]
    cases (Container.refresh lib run w.container).1.isOk <;> simp
  does := serve_does lib hw r
  supplied := by
    rw [(hw.serve r).container_eq]
    exact supplied_serve lib w.container r
  refused := by
    rintro run - h
    exact Container.refresh_again h
  closing := by
    rintro - h e
    exact close_eq_error_iff h

namespace Container

variable {lib : Catalog} {c : Container}

/-- Whatever is asked of a new container, its deeds are those of one life up to some point: one mutation
phase, one build of the pipeline, the refreshed event told once, and the closed event told once. The
state tells how far they have gone, and each request obeys the law. -/
theorem life_cycle (lib : Catalog) {config : ContainerConfig} (h : Container.new config = .ok c)
    (requests : List Request) :
    let w := (Watch.start c).after lib requests
    w.container = c.after lib requests ∧
    Watch.Lived config.name (c.after lib requests).state w.deeds ∧
    (∃ run n, w.deeds <+: Watch.Deed.living run config.name n) ∧
    ((c.after lib requests).state = .created ↔
      ∀ r ∈ requests, r ≠ .close ∧ ∀ run, r ≠ .refresh run) ∧
    ((c.after lib requests).state = .closed ↔ .close ∈ requests) ∧
    ∀ r, w.Law lib r := by
  intro w
  have hnew := new_eq_ok h
  have hw := Watch.over_of_new lib h requests
  have hlived : Watch.Lived config.name (c.after lib requests).state w.deeds := by
    have hafter := Watch.after_lived lib (Watch.over_self c) (by rw [hnew]; exact .created) requests
    rwa [hw.container_eq, show (Watch.start c).container.config = config by rw [hnew]; rfl] at hafter
  obtain ⟨hcreated, hclosed⟩ := state_after lib (c := c) (by rw [hnew]) requests
  exact ⟨hw.container_eq, hlived, hlived.isPrefix, hcreated, hclosed, Watch.law lib hw.self⟩

end Container

def Catalog.parting : Catalog where
  typeNames := ⟨"", "", "", "", "", "", ""⟩
  blueprints := [
    { (default : Blueprint) with name := "l", factory := ⟨[], .fresh (.extension 0)⟩ }]
  extensions := [.scripted none ⟨none, none, none, none, some [⟨some .closed, some "no"⟩]⟩]

namespace Container

def parted : Watch :=
  (Watch.start ⟨.named "c", ∅, [], .created, none⟩).after .parting
    [.perform (.edit (.register 0)), .refresh "r", .refresh "s"]

theorem parting_life_cycle :
    parted.container.state = .active ∧ parted.deeds = Watch.Deed.refreshing "r" "c" 1 ∧
    (parted.serve .parting .close).container.state = .closed ∧
    (parted.serve .parting .close).deeds = Watch.Deed.living "r" "c" 1 ∧
    (close parted.container).1 = .error (.hook "l" .eventDelivery (.plain "no")) ∧
    Refuses (.closed "c") parted.container.session.listeners
      (.hook "l" .eventDelivery (.plain "no")) ∧
    ∀ r, parted.Law .parting r := by
  obtain ⟨-, -, -, -, -, hlaw⟩ := life_cycle .parting new_named
    [.perform (.edit (.register 0)), .refresh "r", .refresh "s"]
  have hactive : parted.container.state = .active := by decide +kernel
  have hname : parted.container.config.name = "c" := by decide +kernel
  have hdeeds : parted.deeds = Watch.Deed.refreshing "r" "c" 1 := by decide +kernel
  have hclose : (close parted.container).1 = .error (.hook "l" .eventDelivery (.plain "no")) := by
    decide +kernel
  have hlaw : ∀ r, parted.Law .parting r := hlaw
  have hrefuses := ((hlaw .close).closing rfl hactive _).1 hclose
  rw [hname] at hrefuses
  exact ⟨hactive, hdeeds, by decide +kernel, by decide +kernel, hclose, hrefuses, hlaw⟩

end Container

end ComponentContainer
