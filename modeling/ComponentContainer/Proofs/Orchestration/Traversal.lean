import ComponentContainer.Proofs.Orchestration.Simulation
import ComponentContainer.Proofs.Walks

/-! Orchestrators go along every relation that requests to a registry go along; so they go on with
the history of the session that they work on. -/

namespace ComponentContainer.Session

variable {lib : Catalog} {P : Extension → Prop} {A : String → Session → Session → Prop}
  {L : Session → Session → Prop} {s₀ : Session}

abbrev Onward (L : Session → Session → Prop) (s₀ s' s : Session) : Prop := s' = s ∧ L s₀ s

lemma sameRounds (hooks : Hooks Session) :
    Orchestration.SameRounds (surface lib) (surface lib) (Onward L s₀) hooks :=
  Orchestration.sameRounds_of_roster hooks fun | _, _, ⟨rfl, _⟩ => rfl

namespace Passage

variable (hL : Passage lib P A L)

include hL

lemma agree {α : Type} {x : StateM Session α} (hx : ∀ s : Session, L s (x s).2) :
    Act.Agree (Onward L s₀) x x :=
  Act.agree_self fun s hs => hL.trans hs (hx s)

lemma simulates {ε α : Type} {Q : α → Prop} {m : Act Session ε α} (hm : Goes P L Q m)
    (hs₀ : s₀.registry.Held P) :
    Act.Simulates (Onward L s₀) (fun a' a => a' = a ∧ Q a) m m :=
  Act.simulates_self fun s hs => (hm s (hL.held hs hs₀)).mono
    (fun _ _ ⟨ha, ht⟩ => ⟨ha, hL.trans hs ht⟩) (fun _ _ ht => hL.trans hs ht)

lemma step_matches {ε α : Type} {Q : α → Prop} {m : Act Session ε α} (hm : Goes P L Q m)
    (hs₀ : s₀.registry.Held P) : Act.Matches (Onward L s₀) m m :=
  (hL.simulates hm hs₀).mono fun _ _ => And.left

lemma ends_arm (target : Nat) (s : Session) :
    Act.Ends ((surface lib).arm target) s
      (fun checker t => checker = ⟨s.nextStamp, .eligibilityChecker target⟩ ∧
        s.registry.addToPipeline eligibilityCheckerName checker = .ok t.registry ∧
        s.nextStamp < t.nextStamp ∧ L s t)
      (fun _ t => L s t) := by
  apply Act.ends_lift_bind
  refine Act.Ends.bind (Act.ends_get_bind ?_) (fun _ _ ht => ht) (fun _ _ => id)
  change Act.Ends (ofExcept (s.registry.addToPipeline eligibilityCheckerName
    ⟨s.nextStamp, .eligibilityChecker target⟩) >>= _) _ _ _
  cases hr : s.registry.addToPipeline eligibilityCheckerName
      ⟨s.nextStamp, .eligibilityChecker target⟩ with
  | error e => exact hL.fresh s
  | ok r => exact ⟨rfl, hr, Nat.lt_succ_self _, hL.trans (hL.arm _ target hr) (hL.record _ _ _)⟩

lemma arm_goes (target : Nat) : Goes P L (fun _ => True) ((surface lib).arm target) :=
  fun s _ => (hL.ends_arm target s).mono (fun _ _ ⟨_, _, _, ht⟩ => ⟨trivial, ht⟩) (fun _ _ => id)

lemma ends_of_simulates {ε α : Type} {V : α → α → Prop} {m : Act (Orchestration Session) ε α}
    (hm : Act.Simulates (Orchestration.Related (Onward L s₀)) V m m) (i : Invoker) :
    Act.Ends m ⟨s₀, i⟩ (fun a o => V a a ∧ L s₀ o.registry) (fun _ o => L s₀ o.registry) := by
  obtain ⟨halike, ⟨-, hend⟩, -⟩ := hm ⟨s₀, i⟩ ⟨s₀, i⟩ ⟨⟨rfl, hL.refl s₀⟩, rfl⟩
  refine Act.ends_of (fun a o hrun => ?_) (fun e o hrun => ?_)
  · rw [hrun] at hend halike
    exact ⟨halike, hend⟩
  · rwa [hrun] at hend

variable (hP : ∀ stamp entry name, P ⟨stamp, (lib.extension entry).behaviour name⟩)
  (hs₀ : s₀.registry.Held P)

include hP hs₀

lemma surface_simulates :
    (surface lib).SimulatesScripts lib (surface lib) (Onward L s₀) .same P where
  find _ := hL.agree hL.refl
  found _ _ _ _ _ _ := trivial
  precedenceOf _ _ := fun | _, _, ⟨rfl, _⟩ => rfl
  isInfrastructure _ _ := fun | _, _, ⟨rfl, _⟩ => rfl
  instantiate name _ := hL.simulates (Creation.instantiate_goes hL (resolve_goes hL hP) name) hs₀
  invalidate := hL.agree hL.invalidates
  editable := hL.agree hL.refl
  edit e _ := hL.step_matches (e.perform_goes hL) hs₀
  pipeline := fun | _, _, ⟨rfl, _⟩ => rfl
  addToPipeline name _ _ := fun | rfl, he => hL.step_matches (hL.adds name he) hs₀
  arm target := (hL.step_matches (hL.arm_goes target) hs₀).mono fun _ _ h => congrArg _ h
  supply name entry := hL.step_matches (hL.bind (goes_of_along hL.fresh) fun stamp _ =>
    hL.adds name (hP stamp entry name)) hs₀
  note e := hL.agree (hL.note e)
  acted _ _ _ _ := fun | rfl => hL.agree (hL.note _)
  record level message := hL.agree (hL.record level message)

theorem mutationPhase_goes (supplied : List Supplied) (i : Invoker) :
    Act.Stays (Orchestration.mutationPhase (surface lib) (.scripted lib (surface lib)) supplied)
      ⟨s₀, i⟩ fun o => L s₀ o.registry := by
  have hS := hL.surface_simulates hP hs₀
  exact (hL.ends_of_simulates (Orchestration.mutationPhase_simulates hS.toSimulates
    (Hooks.scripted_same hS) (sameRounds _) (supplied_same supplied)) i).mono
    (fun _ _ h => h.2) (fun _ _ => id)

theorem buildPipeline_goes (i : Invoker) :
    Act.Stays (Orchestration.buildPipeline (surface lib)) ⟨s₀, i⟩ fun o => L s₀ o.registry :=
  (hL.ends_of_simulates
    (Orchestration.buildPipeline_simulates (hL.surface_simulates hP hs₀).toSimulates) i).mono
    (fun _ _ h => h.2) (fun _ _ => id)

end Passage

section

variable (hP : ∀ stamp entry name, P ⟨stamp, (lib.extension entry).behaviour name⟩)
  (hs₀ : s₀.registry.Held P)

include hP hs₀

theorem mutationPhase_stays (supplied : List Supplied) (i : Invoker) :
    Act.Stays (Orchestration.mutationPhase (surface lib) (.scripted lib (surface lib)) supplied)
      ⟨s₀, i⟩ fun o => s₀.Path lib P o.registry :=
  (passage_leads.mutationPhase_goes hP hs₀ supplied i).mono (fun _ _ h => h.path) (fun _ _ h => h.path)

theorem buildPipeline_stays (i : Invoker) :
    Act.Stays (Orchestration.buildPipeline (surface lib)) ⟨s₀, i⟩
      fun o => s₀.Path lib P o.registry :=
  (passage_leads.buildPipeline_goes hP hs₀ i).mono (fun _ _ h => h.path) (fun _ _ h => h.path)

end

end ComponentContainer.Session
