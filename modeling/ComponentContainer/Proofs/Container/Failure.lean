import ComponentContainer.Proofs.Container.Along
import ComponentContainer.Proofs.Transcript.CreationStack

/-! What a refresh that fails leaves behind, wherever it fails, and what can be asked of the
container afterwards. -/

namespace ComponentContainer

namespace Container

variable {lib : Catalog} {c c' : Container} {run : String}

lemma new_eq_ok {config : ContainerConfig} (h : Container.new config = .ok c) :
    c = ⟨config, ∅, [], .created, none⟩ := by
  unfold Container.new at h
  cases hvalid : config.validate with
  | error e =>
    rw [hvalid] at h
    cases h
  | ok u =>
    rw [hvalid] at h
    exact (Except.ok.inj h).symm

theorem serve_leads (lib : Catalog) (c : Container) (r : Request) :
    Serves lib (Session.Leads lib fun _ => True) c r (c.serve lib r) :=
  serve_serves Session.passage_leads (fun _ _ _ => trivial) trivial
    (fun _ => Session.leads_of_write rfl rfl (Nat.le_refl _)) (fun _ _ _ _ => trivial) r

theorem Reachable.inCreation_eq (hc : c.Reachable lib) : c.session.registry.inCreation = [] := by
  induction hc with
  | new h =>
    rw [new_eq_ok h]
    rfl
  | @serve c r _ ih => rw [(serve_leads lib c r).session.inCreation_eq, ih]

lemma stateAfter_ne_created (lib : Catalog) (h : c.state ≠ .created) (r : Request) :
    c.stateAfter lib r ≠ .created := by
  cases r with
  | refresh run =>
    rw [stateAfter, if_neg h]
    exact h
  | close => exact nofun
  | publish | supply | perform | mutationPhase | buildPipeline => exact h

lemma refresh_after (h : c.state ≠ .created) (requests : List Request) (run : String) :
    refresh lib run (c.after lib requests) =
      (.error (.alreadyRefreshed c.config.name), c.after lib requests) := by
  induction requests generalizing c with
  | nil => exact refresh_again h
  | cons r requests ih =>
    have hr := serve_leads lib c r
    have hlater := ih (hr.state_eq ▸ stateAfter_ne_created lib h r)
    rwa [hr.config_eq] at hlater

/-- Whatever was done to the container before and wherever the refresh fails, no singleton, no
listener and no creation is left, and the container refuses every later refresh without a change. -/
theorem Reachable.failed_refresh (hc : c.Reachable lib) (hstate : c.state = .created)
    {e : BootstrapError} (h : refresh lib run c = (.error e, c')) :
    c'.state = .failed ∧ c'.session.registry.singletons = [] ∧ c'.session.listeners = [] ∧
      c'.session.registry.inCreation = [] ∧ ∀ requests run',
        refresh lib run' (c'.after lib requests) =
          (.error (.alreadyRefreshed c.config.name), c'.after lib requests) := by
  have hserve : c' = c.serve lib (.refresh run) := (congrArg Prod.snd h).symm
  obtain ⟨log, log', hrun⟩ := refresh_run lib hstate run
  obtain ⟨d, hd⟩ : ∃ d : Container, c' = d.tornDown .failed log' := by
    rw [h] at hrun
    split at hrun
    · cases hrun
    · exact ⟨_, congrArg Prod.snd hrun⟩
  have hfailed : c'.state = .failed := by rw [hd]; rfl
  refine ⟨hfailed, by rw [hd]; rfl, by rw [hd]; rfl, ?_, fun requests run' => ?_⟩
  · rw [hserve]
    exact (hc.serve (.refresh run)).inCreation_eq
  · have hconfig : c'.config = c.config := hserve ▸ (serve_leads lib c _).config_eq
    rw [← hconfig]
    exact refresh_after (by rw [hfailed]; exact nofun) requests run'

end Container

def Catalog.refusing : Catalog where
  typeNames := ⟨"", "", "", "", "", "", ""⟩
  blueprints := [
    { (default : Blueprint) with name := "a" },
    { (default : Blueprint) with name := "l", factory := ⟨[], .fresh (.extension 0)⟩ }]
  extensions := [.scripted none ⟨none, none, none, none, some [⟨none, some "no"⟩]⟩]

namespace Container

lemma new_named : Container.new (.named "c") = .ok ⟨.named "c", ∅, [], .created, none⟩ := by
  decide +kernel

def refusing : Container :=
  (⟨.named "c", ∅, [], .created, none⟩ : Container).after .refusing
    [.perform (.edit (.register 0)), .perform (.edit (.register 1)), .perform (.inspect (.get "a"))]

theorem refusing_torn_down :
    refusing.session.registry.singletons.map (·.1) = ["a"] ∧
    ∃ c', refresh .refusing "r" refusing =
        (.error (.hook "l" .eventDelivery (.plain "no")), c') ∧
      c'.state = .failed ∧ c'.session.registry.singletons = [] ∧ c'.session.listeners = [] ∧
      c'.session.registry.inCreation = [] ∧
      refresh .refusing "s" (c'.after .refusing [.close]) =
        (.error (.alreadyRefreshed "c"), c'.after .refusing [.close]) := by
  have hreachable : refusing.Reachable .refusing := (Reachable.new new_named).after _
  have herror : (refresh .refusing "r" refusing).1 =
      .error (.hook "l" .eventDelivery (.plain "no")) := by decide +kernel
  have hrun : refresh .refusing "r" refusing =
      (.error (.hook "l" .eventDelivery (.plain "no")), (refresh .refusing "r" refusing).2) :=
    Prod.ext herror rfl
  obtain ⟨hfailed, hsingletons, hlisteners, hcreation, hlater⟩ :=
    hreachable.failed_refresh (by decide +kernel) hrun
  exact ⟨by decide +kernel, _, hrun, hfailed, hsingletons, hlisteners, hcreation,
    hlater [.close] "s"⟩

end Container

end ComponentContainer
