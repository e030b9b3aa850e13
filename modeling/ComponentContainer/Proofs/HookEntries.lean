import ComponentContainer.Proofs.Walks

/-! What the hooks are shown of a component that its factory has made: one definition and its role. -/

namespace ComponentContainer

def Entry.Shows (name : String) (d : Definition) : Entry → Prop
  | definition _ component role attributes =>
    component = d.name ∧ role = d.role ∧ attributes = d.attributes
  | beforeInit _ component role _ | afterInit _ component role _ =>
    component = name ∧ role = d.role
  | _ => False

def Session.Shows (name : String) (d : Definition) (s t : Session) : Prop :=
  ∃ entries reports, t.journal = s.journal ++ entries ∧ t.reports = s.reports ++ reports ∧
    (∀ e ∈ entries, e.Shows name d) ∧ ∀ r ∈ reports, r.name = name ∧ r.role = d.role

namespace Session.Shows

variable {name : String} {d : Definition} {s t u : Session}

lemma of_eq (hj : t.journal = s.journal) (hr : t.reports = s.reports) : s.Shows name d t :=
  ⟨[], [], hj.trans (List.append_nil _).symm, hr.trans (List.append_nil _).symm,
    fun _ h => absurd h List.not_mem_nil, fun _ h => absurd h List.not_mem_nil⟩

lemma refl (s : Session) : s.Shows name d s := of_eq rfl rfl

lemma trans (h : s.Shows name d u) (h' : u.Shows name d t) : s.Shows name d t := by
  obtain ⟨entries, reports, hj, hr, he, hreports⟩ := h
  obtain ⟨entries', reports', hj', hr', he', hreports'⟩ := h'
  refine ⟨entries ++ entries', reports ++ reports', ?_, ?_, ?_, ?_⟩
  · rw [hj', hj, List.append_assoc]
  · rw [hr', hr, List.append_assoc]
  · exact List.forall_mem_append.2 ⟨he, he'⟩
  · exact List.forall_mem_append.2 ⟨hreports, hreports'⟩

lemma note {e : Entry} (h : e.Shows name d) (s : Session) :
    s.Shows name d (Session.note e s).2 :=
  ⟨[e], [], rfl, (List.append_nil _).symm, fun _ he => List.mem_singleton.1 he ▸ h,
    fun _ h => absurd h List.not_mem_nil⟩

end Session.Shows

open Act

variable {lib : Catalog} {name : String} {d : Definition}

lemma apply_shows (r : Response) (component : String) (i : Instance) (s : Session) :
    Stays (r.apply lib component i) s (s.Shows name d) := by
  cases r with
  | pass | veto | fail => exact .refl s
  | replace spec =>
    cases spec with
    | extension | value => exact .of_eq rfl rfl
  | append text | shout =>
    rcases i with ⟨stamp, (_ | _ | _ | _ | _) | b⟩
    case value.text => exact .of_eq rfl rfl
    all_goals exact .refl s

namespace Extension

lemma onDefinition_shows (e : Extension) (s : Session) :
    Stays (e.onDefinition d) s (s.Shows name d) := by
  rcases e with ⟨stamp, _ | ⟨id, ⟨m, f, h, _ | rules, l⟩⟩ | _ | _⟩
  case scripted.some =>
    have hentry : Entry.Shows name d (.definition id d.name d.role d.attributes) := ⟨rfl, rfl, rfl⟩
    apply ends_lift_bind
    split
    · exact .note hentry s
    · exact .note hentry s
  all_goals exact .refl s

variable {ctx : InitContext} (hname : ctx.component = name) (hrole : ctx.role = d.role)

include hname hrole

lemma beforeInit_shows (e : Extension) (i : Instance) (s : Session) :
    Stays (e.beforeInit lib i ctx) s (s.Shows name d) := by
  rcases e with ⟨stamp, _ | ⟨id, ⟨m, f, _ | _ | ⟨before, after⟩, r, l⟩⟩ | _ | _⟩
  case scripted.some.rules =>
    let entry : Entry := .beforeInit id ctx.component ctx.role ctx.pipelineLength
    have hentry : s.Shows name d (Session.note entry s).2 := .note (e := entry) ⟨hname, hrole⟩ s
    exact ends_lift_bind ((apply_shows _ _ _ _).mono (fun _ _ => hentry.trans) fun _ _ => hentry.trans)
  all_goals exact .refl s

lemma checkEligible_shows (checker target : Nat) (i : Instance) (s : Session) :
    s.Shows name d (checkEligible lib checker target i ctx s).2 := by
  unfold checkEligible
  split
  · exact .refl s
  · exact ⟨[], [_], (List.append_nil _).symm, rfl, fun _ h => absurd h List.not_mem_nil,
      fun r hr => List.mem_singleton.1 hr ▸ ⟨hname, hrole⟩⟩

omit hname hrole in
lemma detectListener_shows (i : Instance) (s : Session) :
    s.Shows name d (detectListener i ctx s).2 := by
  unfold detectListener
  cases i.extension? with
  | none => exact .refl s
  | some e =>
    change s.Shows name d ((if (!e.behaviour.isListener ||
      s.listeners.any (·.1 = ctx.component)) = true then _ else _ : StateM Session Unit) s).2
    split
    · exact .refl s
    · exact .of_eq rfl rfl

lemma afterInit_shows (e : Extension) (i : Instance) (s : Session) :
    Stays (e.afterInit lib i ctx) s (s.Shows name d) := by
  rcases e with ⟨stamp, _ | ⟨id, ⟨m, f, _ | _ | ⟨before, after⟩, r, l⟩⟩ | target | _⟩
  case scripted.some.rules =>
    let entry : Entry := .afterInit id ctx.component ctx.role ctx.pipelineLength
    have hentry : s.Shows name d (Session.note entry s).2 := .note (e := entry) ⟨hname, hrole⟩ s
    exact ends_lift_bind ((apply_shows _ _ _ _).mono (fun _ _ => hentry.trans) fun _ _ => hentry.trans)
  case eligibilityChecker => exact checkEligible_shows hname hrole stamp target i s
  case listenerDetector => exact detectListener_shows i s
  all_goals exact .refl s

end Extension

namespace Creation

lemma announce_shows (p : Pipeline) (s : Session) :
    Stays (announce d p) s (s.Shows name d) := by
  induction p generalizing s with
  | nil => exact .refl s
  | cons entry rest ih =>
    refine (Extension.onDefinition_shows _ s).adapt_const.bind (fun _ u hu => ?_) (fun _ _ => id)
    exact (ih u).mono (fun _ _ ht => hu.trans ht) (fun _ _ ht => hu.trans ht)

lemma runStage_shows
    {hook : Extension → Instance → InitContext → Act Session HookError (Option Instance)}
    {stage : InitStage} {ctx : InitContext}
    (hhook : ∀ e i s, Stays (hook e i ctx) s (s.Shows name d)) (p : Pipeline) (i : Instance)
    (s : Session) : Stays (runStage hook stage ctx p i) s (s.Shows name d) := by
  induction p generalizing i s with
  | nil => exact .refl s
  | cons entry rest ih =>
    unfold runStage
    split
    · exact ih i s
    refine (hhook entry.extension i s).adapt_const.bind (fun o u hu => ?_) (fun _ _ => id)
    cases o with
    | none => exact hu
    | some j => exact (ih j u).mono (fun _ _ ht => hu.trans ht) (fun _ _ ht => hu.trans ht)

theorem equip_shows (lib : Catalog) (name : String) (d : Definition) (made : Instance)
    (s : Session) : s.Shows name d (equip lib name d made s).2 := by
  refine Ends.state (ends_get_bind ?_)
  refine (announce_shows _ s).bind (fun _ t ht => ?_) (fun _ _ => id)
  refine (runStage_shows (Extension.beforeInit_shows rfl rfl) _ made t).bind
    (fun prepared u hu => ?_) (fun _ _ hu => ht.trans hu)
  refine (runStage_shows (Extension.afterInit_shows rfl rfl) _ prepared u).bind
    (fun finished v hv => ?_) (fun _ _ hv => (ht.trans hu).trans hv)
  exact ((ht.trans hu).trans hv).trans (.of_eq rfl rfl)

end Creation

end ComponentContainer
