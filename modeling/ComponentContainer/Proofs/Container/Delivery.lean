import ComponentContainer.Container
import ComponentContainer.Proofs.Outcome

/-! How an event is told: the listeners are called one after the other, up to the first that refuses
it. -/

namespace ComponentContainer

structure Delivery where
  listener : String × Extension
  answer : Except HookError Unit
  before : Session
  after : Session

def Delivery.Chain : Session → List Delivery → Session → Prop
  | s, [], t => s = t
  | s, c :: rest, t => c.before = s ∧ Chain c.after rest t

/-- Told to these listeners in turn, the event comes to that answer. Either all are called and none
refuses it, or the last that is called does, and is named in the error. Only the journal changes. -/
structure Event.Told (event : Event) (listeners : List (String × Extension)) (s : Session)
    (calls : List Delivery) (answer : Except BootstrapError Unit) (t : Session) : Prop where
  chain : Delivery.Chain s calls t
  ran : ∀ c ∈ calls, c.listener.2.onEvent event c.before = (c.answer, c.after)
  outcome :
    (calls.map (·.listener) = listeners ∧ (∀ c ∈ calls, c.answer = .ok ()) ∧ answer = .ok ()) ∨
    ∃ accepted last refusal, calls = accepted ++ [last] ∧ calls.map (·.listener) <+: listeners ∧
      (∀ c ∈ accepted, c.answer = .ok ()) ∧ last.answer = .error refusal ∧
      answer = .error (.hook last.listener.1 .eventDelivery refusal)
  rest_eq : t = { s with journal := t.journal }

lemma Extension.onEvent_rest_eq (e : Extension) (event : Event) (s : Session) :
    (e.onEvent event s).2 = { s with journal := (e.onEvent event s).2.journal } := by
  rcases e with ⟨stamp, _ | ⟨id, ⟨m, f, h, r, _ | rules⟩⟩ | _ | _⟩
  case scripted.some =>
    unfold onEvent
    dsimp only
    cases (rules.find? (·.on.all (· = event.kind))).bind (·.refusal) with
    | none => rfl
    | some message => rfl
  all_goals rfl

namespace Event.Told

variable {event : Event} {l : String × Extension} {listeners : List (String × Extension)}
  {s u t : Session} {calls : List Delivery} {answer : Except BootstrapError Unit} {h : HookError}

lemma nil (event : Event) (s : Session) : event.Told [] s [] (.ok ()) s where
  chain := rfl
  ran _ hc := absurd hc List.not_mem_nil
  outcome := .inl ⟨rfl, fun _ hc => absurd hc List.not_mem_nil, rfl⟩
  rest_eq := rfl

lemma refused (hrun : l.2.onEvent event s = (.error h, u)) (rest : List (String × Extension)) :
    event.Told (l :: rest) s [⟨l, .error h, s, u⟩] (.error (.hook l.1 .eventDelivery h)) u where
  chain := ⟨rfl, rfl⟩
  ran := List.forall_mem_singleton.2 hrun
  outcome := .inr ⟨[], _, h, rfl, List.prefix_append [l] rest,
    fun _ hc => absurd hc List.not_mem_nil, rfl, rfl⟩
  rest_eq := by
    have hrest := l.2.onEvent_rest_eq event s
    rwa [hrun] at hrest

lemma accepted (hrun : l.2.onEvent event s = (.ok (), u))
    (hrest : event.Told listeners u calls answer t) :
    event.Told (l :: listeners) s (⟨l, .ok (), s, u⟩ :: calls) answer t where
  chain := ⟨rfl, hrest.chain⟩
  ran := List.forall_mem_cons.2 ⟨hrun, hrest.ran⟩
  outcome := by
    obtain ⟨hcalls, hok, hanswer⟩ | ⟨before, last, refusal, rfl, hprefix, hok, hlast, hanswer⟩ :=
      hrest.outcome
    · exact .inl ⟨congrArg (l :: ·) hcalls, List.forall_mem_cons.2 ⟨rfl, hok⟩, hanswer⟩
    · exact .inr ⟨⟨l, .ok (), s, u⟩ :: before, last, refusal, rfl,
        (List.prefix_cons_inj l).2 hprefix, List.forall_mem_cons.2 ⟨rfl, hok⟩, hlast, hanswer⟩
  rest_eq := by
    have hu := l.2.onEvent_rest_eq event s
    rw [hrun] at hu
    exact hrest.rest_eq.trans (congrArg (fun v : Session => { v with journal := t.journal }) hu)

end Event.Told

namespace Container

lemma deliver_told (event : Event) (listeners : List (String × Extension)) (s : Session) :
    ∃ calls, event.Told listeners s calls (deliver event listeners s).1
      (deliver event listeners s).2 := by
  induction listeners generalizing s with
  | nil => exact ⟨[], .nil event s⟩
  | cons l rest ih =>
    obtain ⟨name, e⟩ := l
    rw [deliver, Act.bind_run, Act.adapt_run]
    rcases hrun : e.onEvent event s with ⟨h | ⟨⟩, u⟩
    · exact ⟨_, .refused hrun rest⟩
    · obtain ⟨calls, hcalls⟩ := ih u
      exact ⟨_, .accepted hrun hcalls⟩

lemma publish_told (event : Event) (s : Session) :
    ∃ calls, event.Told s.listeners s calls (publish event s).1 (publish event s).2 :=
  deliver_told event s.listeners s

lemma publish_rest_eq (event : Event) (s : Session) :
    (publish event s).2 = { s with journal := (publish event s).2.journal } := by
  obtain ⟨calls, htold⟩ := publish_told event s
  exact htold.rest_eq

end Container

end ComponentContainer
