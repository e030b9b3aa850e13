import ComponentContainer.Proofs.Reachable
import ComponentContainer.Proofs.Transcript.Simulation

/-! Courses of operations on a registry in which nobody but a build, or the caller himself, makes
eligibility checkers: what is entered in the transcript meanwhile, and the sessions in between. -/

namespace ComponentContainer.Transcript

variable {lib : Catalog} {P : Extension → Prop} {t t' : Transcript}

def afterBuild (lib : Catalog) (i : Invoker) (t : Transcript) : Transcript :=
  ⟨(Orchestration.buildPipeline (Session.surface lib) ⟨t.session, i⟩).2.registry,
    (Orchestration.buildPipeline (surface lib) ⟨t, i⟩).2.registry.moments⟩

/-- One operation on a registry, with the moments that are entered meanwhile. What is put into the
pipeline is no checker, or a new one of the caller's own. -/
inductive Operation (lib : Catalog) (t : Transcript) : Transcript → Prop
  | perform (a : Action) :
    Operation lib t ⟨(Session.perform lib a t.session).2, (perform lib a t).2.moments⟩
  | addToPipeline (name : String) {e : Extension} : e.Unarmed →
    Operation lib t ⟨(Session.addToPipeline name e t.session).2, t.moments⟩
  | addChecker (name : String) (target : Nat) {r : Registry} :
    t.session.registry.addToPipeline name ⟨t.session.nextStamp, .eligibilityChecker target⟩ = .ok r →
    Operation lib t
      ⟨{ t.session with registry := r, nextStamp := t.session.nextStamp + 1 }, t.moments⟩
  | mutationPhase (supplied : List Supplied) (i : Invoker) :
    Operation lib t
      ⟨(Orchestration.mutationPhase (Session.surface lib) (.scripted lib (Session.surface lib))
          supplied ⟨t.session, i⟩).2.registry,
        (Orchestration.mutationPhase (surface lib) (.scripted lib (surface lib))
          supplied ⟨t, i⟩).2.registry.moments⟩
  | buildPipeline (i : Invoker) : Operation lib t (afterBuild lib i t)

abbrev Course (lib : Catalog) : Transcript → Transcript → Prop :=
  Relation.ReflTransGen (Operation lib)

lemma Follows.path_to {s : Session} (h : Follows lib P t t' s) : Path lib P t ⟨s, t'.moments⟩ := by
  obtain ⟨rfl, hpath, -⟩ := h
  exact hpath

lemma Operation.path (h : Operation lib t t') (ht : t.Sound lib Extension.Unarmed) :
    Path lib Extension.Unarmed t t' ∧ t'.Sound lib Extension.Unarmed := by
  have hfollows {u : Transcript} {s : Session} (hu : Follows lib Extension.Unarmed t u s) :
      Path lib Extension.Unarmed t ⟨s, u.moments⟩ ∧ Sound lib Extension.Unarmed ⟨s, u.moments⟩ :=
    ⟨hu.path_to, hu.sound ht⟩
  have hP := unarmed_of_catalog lib
  cases h with
  | perform a => exact hfollows (perform_follows hP ht a)
  | addToPipeline name he =>
    have hadded := hfollows (addToPipeline_simulates name he t t.session ht.follows_refl).2
    exact hadded
  | addChecker name target hr =>
    have hcalm : t.session.Calm lib Extension.Unarmed _ := ⟨.single (.arm name target hr), rfl⟩
    have hadded := hfollows (ht.follows_refl.quiet (.addToPipeline hr) hcalm)
    exact hadded
  | mutationPhase supplied i => exact hfollows (mutationPhase_follows hP ht supplied i)
  | buildPipeline i => exact hfollows (buildPipeline_follows hP ht i)

lemma Course.path (h : Course lib t t') (ht : t.Sound lib Extension.Unarmed) :
    Path lib Extension.Unarmed t t' ∧ t'.Sound lib Extension.Unarmed := by
  induction h with
  | refl => exact ⟨.refl, ht⟩
  | tail _ h ih =>
    obtain ⟨hpath, hsound⟩ := ih
    obtain ⟨hstep, hend⟩ := h.path hsound
    exact ⟨hpath.trans hstep, hend⟩

lemma course_performAll (requests : List Action) (h : Course lib empty t) :
    Course lib empty (performAll lib requests t) := by
  induction requests generalizing t with
  | nil => exact h
  | cons a requests ih =>
    have hsession := (perform_follows (unarmed_of_catalog lib) (h.path sound_empty).2 a).session_eq
    have hstep : Operation lib t ⟨(perform lib a t).2.session, (perform lib a t).2.moments⟩ := by
      rw [hsession]
      exact .perform a
    exact ih (h.tail hstep)

lemma course_after (lib : Catalog) (requests : List Action) : Course lib empty (after lib requests) :=
  course_performAll requests .refl

def latest : List Moment → Session
  | [] => .empty
  | m :: _ => m.session

lemma Path.reports_eq (h : Path lib P empty t) : t.session.reports = (latest t.moments).reports := by
  induction h with
  | refl => rfl
  | tail _ h ih =>
    cases h with
    | quiet s _ hcalm => exact hcalm.reports_eq.trans ih
    | enter => rfl

lemma Path.through (h : Path lib P t t') : ∃ since, t'.moments = since ++ t.moments ∧
    ∀ later m earlier, since = later ++ m :: earlier →
      Path lib P t ⟨m.session, m :: (earlier ++ t.moments)⟩ ∧
        Path lib P ⟨m.session, m :: (earlier ++ t.moments)⟩ t' := by
  induction h with
  | refl => exact ⟨[], rfl, fun later m earlier h => by simp at h⟩
  | @tail u _ hpath hstep ih =>
    obtain ⟨since, hmoments, hsince⟩ := ih
    cases id hstep with
    | quiet s _ _ =>
      refine ⟨since, hmoments, fun later m earlier h => ?_⟩
      obtain ⟨hto, hfrom⟩ := hsince later m earlier h
      exact ⟨hto, hfrom.tail hstep⟩
    | @enter o s _ =>
      have hentered : (u.enter o s).moments = ⟨o, s⟩ :: (since ++ t.moments) :=
        congrArg (List.cons (⟨o, s⟩ : Moment)) hmoments
      refine ⟨⟨o, s⟩ :: since, hentered, fun later m earlier h => ?_⟩
      rcases List.cons_eq_append_iff.1 h with ⟨-, hfirst⟩ | ⟨later, rfl, hrest⟩
      · obtain ⟨rfl, rfl⟩ := List.cons.inj hfirst
        have hend : u.enter o s = ⟨s, ⟨o, s⟩ :: (earlier ++ t.moments)⟩ :=
          congrArg (fun ms => (⟨s, ⟨o, s⟩ :: ms⟩ : Transcript)) hmoments
        rw [← hend]
        exact ⟨hpath.tail hstep, .refl⟩
      · obtain ⟨hto, hfrom⟩ := hsince later m earlier hrest
        exact ⟨hto, hfrom.tail hstep⟩

lemma Path.onward (h : Path lib P empty t) {later earlier : List Moment} {m : Moment}
    (hm : t.moments = later ++ m :: earlier) {s : Session}
    (hs : s ∈ t.session :: later.map (·.session)) : m.session.Path lib P s := by
  obtain ⟨since, hsince, hthrough⟩ := h.through
  obtain rfl : since = t.moments := (hsince.trans (List.append_nil _)).symm
  obtain ⟨-, hfrom⟩ := hthrough later m earlier hm
  rcases List.mem_cons.1 hs with rfl | hs
  · exact hfrom.session
  obtain ⟨x, hx, rfl⟩ := List.mem_map.1 hs
  obtain ⟨after, between, rfl⟩ := List.append_of_mem hx
  -- the path to the later moment goes through the earlier one
  have hsplit : t.moments = after ++ x :: (between ++ m :: earlier) := by
    rw [hm, List.append_assoc, List.cons_append]
  obtain ⟨since', hsince', hthrough'⟩ := (h.at_moment hsplit).through
  obtain rfl : since' = x :: (between ++ m :: earlier) := (hsince'.trans (List.append_nil _)).symm
  exact (hthrough' (x :: between) m earlier rfl).2.session

end ComponentContainer.Transcript
