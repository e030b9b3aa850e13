import ComponentContainer.Proofs.Orchestration.Traversal
import ComponentContainer.Proofs.Transcript.Steps

/-! Transcripts change nothing: what is entered in them leaves answers and sessions as they are without
it. All that is entered is a step. -/

namespace ComponentContainer.Transcript

open Act

variable {lib : Catalog} {P : Extension → Prop} {t t' t₀ : Transcript} {ε α : Type}

lemma Step.known (h : Step lib P t t') {n : String} (hn : t'.session.registry.Known lib n) :
    t.session.registry.Known lib n := by
  have hstep {r r' : Registry} (h : r.Step lib (fun _ => True) r') (hn : r'.Known lib n) :
      r.Known lib n := h.known hn
  cases h with
  | quiet s hs => exact hs.known hn
  | enter h =>
    cases h.happens with
    | registered entry stamp s h => exact hstep (.register entry stamp h) hn
    | removed name s h => exact hstep (.remove name h) hn
    | destroyed s h => exact hstep .destroySingletons (h ▸ hn)
    | invalidated s h => exact hstep .invalidate (h ▸ hn)
    | handed | refused | missed => exact hn
    | began name _ _ hr => exact hstep (.beginCreation name) (hstep (.snapshot name hr) hn)
    | @ended _ _ _ _ answer =>
      cases answer with
      | ok i => exact hn
      | error e => exact hn

lemma Path.known (h : Path lib P t t') {n : String} (hn : t'.session.registry.Known lib n) :
    t.session.registry.Known lib n := by
  induction h with
  | refl => exact hn
  | tail _ h ih => exact ih (h.known hn)

def Ample (lib : Catalog) (depth : Nat) (r : Registry) : Prop :=
  ∃ names : List String, (∀ n, r.Known lib n → n ∈ names) ∧ r.inCreation ⊆ names ∧
    names.length ≤ depth + r.inCreation.length

lemma Ample.mono {depth : Nat} {r r' : Registry} (h : Ample lib depth r)
    (hknown : ∀ n, r'.Known lib n → r.Known lib n) (hcreation : r'.inCreation = r.inCreation) :
    Ample lib depth r' := by
  obtain ⟨names, hnames, hsub, hlength⟩ := h
  exact ⟨names, fun n hn => hnames n (hknown n hn), hcreation ▸ hsub, hcreation ▸ hlength⟩

lemma Ample.not_known {r : Registry} (h : Ample lib 0 r) (hr : r.inCreation.Nodup) {n : String}
    (hn : n ∉ r.inCreation) : ¬r.Known lib n := by
  obtain ⟨names, hknown, hsub, hlength⟩ := h
  have hperm := (List.subperm_of_subset hr hsub).perm_of_length_le (by omega)
  exact fun hk => hn (hperm.mem_iff.2 (hknown n hk))

lemma ample_roster {s : Session} (h : s.registry.inCreation = []) :
    Ample lib (Creation.roster lib s).length s.registry :=
  ⟨Creation.roster lib s, fun _ hn => Session.mem_roster.2 hn, h ▸ List.nil_subset _,
    Nat.le_add_right _ _⟩

structure Follows (lib : Catalog) (P : Extension → Prop) (t₀ t : Transcript) (s : Session) :
    Prop where
  session_eq : t.session = s
  path : Path lib P t₀ t
  underway_eq : underway t.moments = underway t₀.moments
  held : s.registry.Held P

lemma follows_refl (h : t.session.registry.Held P) : Follows lib P t t t.session :=
  ⟨rfl, .refl, rfl, h⟩

lemma Follows.quiet {s u : Session} (h : Follows lib P t₀ t s) (hu : s.registry.Still u.registry)
    (hcalm : s.Calm lib P u) : Follows lib P t₀ ⟨u, t.moments⟩ u := by
  obtain ⟨rfl, hpath, hunder, hheld⟩ := h
  exact ⟨rfl, hpath.tail (.quiet u hu hcalm), hunder, hcalm.path.held hheld⟩

lemma Follows.enter {s u : Session} {o : Occurrence} (h : Follows lib P t₀ t s)
    (ho : Occurs lib P t o u) (hunder : underway (⟨o, u⟩ :: t.moments) = underway t.moments) :
    Follows lib P t₀ (t.enter o u) u := by
  obtain ⟨rfl, hpath, hbefore, hheld⟩ := h
  exact ⟨rfl, hpath.tail (.enter ho), hunder.trans hbefore, ho.path.held hheld⟩

lemma quiet_agree {x : StateM Session α} (hx : ∀ s : Session, s.registry.Still (x s).2.registry)
    (hcalm : ∀ s : Session, s.Calm lib P (x s).2) : Agree (Follows lib P t₀) (quiet x) x := by
  rintro t s h
  obtain ⟨rfl, -⟩ := id h
  exact ⟨rfl, h.quiet (hx t.session) (hcalm t.session)⟩

lemma quiet_write {x : StateM Session α} (hregistry : ∀ s : Session, (x s).2.registry = s.registry)
    (hreports : ∀ s : Session, (x s).2.reports = s.reports)
    (hstamp : ∀ s : Session, s.nextStamp ≤ (x s).2.nextStamp) :
    Agree (Follows lib P t₀) (quiet x) x :=
  quiet_agree (fun s => .of_eq (hregistry s)) fun s =>
    Session.calm_of_write (hregistry s) (hreports s) (hstamp s)

lemma quietly_simulates {m : Act Session ε α} (hm : ∀ s : Session, s.registry.Still (m s).2.registry)
    (hcalm : ∀ s : Session, s.registry.Held P → s.Calm lib P (m s).2) :
    Matches (Follows lib P t₀) (quietly m) m := by
  rintro t s h
  obtain ⟨rfl, -, -, hheld⟩ := id h
  exact ⟨alike_refl _, h.quiet (hm t.session) (hcalm t.session hheld)⟩

lemma simulates_along {Q : α → Prop} {m' : Act Transcript ε α} {m : Act Session ε α}
    (h : Matches (Follows lib P t₀) m' m) (hm : Session.Walks lib P Q m) :
    Simulates (Follows lib P t₀) (fun a' a => a' = a ∧ Q a) m' m := by
  intro t s hts
  obtain ⟨halike, hend⟩ := h t s hts
  rw [halike.eq]
  exact ⟨alike_self fun a ha => ⟨rfl, ((hm s hts.held).ok (Prod.ext ha rfl)).1⟩, hend⟩

lemma quietly_bind {β : Type} (m : Act Session ε α) (f : α → Act Session ε β) :
    quietly (m >>= f) = quietly m >>= fun a => quietly (f a) := by
  funext t
  have hrun {γ : Type} (m : Act Session ε γ) (t : Transcript) :
      quietly m t = ((m t.session).1, ⟨(m t.session).2, t.moments⟩) := rfl
  rw [Act.bind_run, hrun, hrun, Act.bind_run]
  rcases m t.session with ⟨e | a, u⟩
  · rfl
  · rfl

lemma noting_simulates {o : Session → Occurrence} {m : Act Session ε α}
    (hm : ∀ t : Transcript, Ends m t.session (fun _ s => Happens lib t (o t.session) s)
      fun _ s => s.registry = t.session.registry)
    (hcalm : ∀ s : Session, s.registry.Held P → s.Calm lib P (m s).2)
    (ho : ∀ s u ms, underway (⟨o s, u⟩ :: ms) = underway ms) :
    Matches (Follows lib P t₀) (noting o m) m := by
  rintro t s h
  obtain ⟨rfl, -, -, hheld⟩ := id h
  have hrun := hm t
  have hcalm := hcalm t.session hheld
  unfold noting
  rcases hresult : m t.session with ⟨e | a, u⟩
  · rw [hresult] at hcalm
    exact ⟨rfl, h.quiet (.of_eq (hrun.error hresult)) hcalm⟩
  · rw [hresult] at hcalm
    have hoccurs : Occurs lib P t (o t.session) u :=
      ⟨hrun.ok hresult, hcalm.path, fun _ => hcalm.reports_eq⟩
    exact ⟨rfl, h.enter hoccurs (ho _ _ _)⟩

lemma edit_simulates (e : Edit) : Matches (Follows lib P t₀) (edit lib e) (e.perform lib) := by
  have hamend (name : String) {f : Definition → Definition} (hf : ∀ d, (f d).core = d.core)
      (s : Session) : s.registry.Still (Session.amend name f s).2.registry := .amend name hf
  have hcalm (s : Session) (hs : s.registry.Held P) : s.Calm lib P (e.perform lib s).2 :=
    ⟨((e.perform_goes Session.passage_leads).along hs).path, e.reports_perform lib s⟩
  cases e with
  | register entry =>
    refine noting_simulates (fun t => ?_) hcalm fun _ _ _ => rfl
    refine ends_lift_bind (Ends.bind (ends_get_bind ?_) (fun _ u hu => hu) (fun _ _ => id))
    change Ends (Session.ofExcept (t.session.registry.register
      ⟨lib.blueprint entry, t.session.nextStamp⟩) >>= _) _ _ _
    cases hr : t.session.registry.register ⟨lib.blueprint entry, t.session.nextStamp⟩ with
    | error e => exact rfl
    | ok r => exact .registered entry t.session.nextStamp _ hr
  | remove name =>
    refine noting_simulates (fun t => ?_) hcalm fun _ _ _ => rfl
    refine Ends.bind (ends_get_bind ?_) (fun _ u hu => hu) (fun _ _ => id)
    cases hr : t.session.registry.remove name with
    | error e => exact rfl
    | ok p => exact .removed name _ hr
  | setRole name role => exact quietly_simulates (hamend name fun _ => rfl) hcalm
  | setPrecedence name p => exact quietly_simulates (hamend name fun _ => rfl) hcalm
  | setLazy name lazy => exact quietly_simulates (hamend name fun _ => rfl) hcalm
  | setAttribute name key value => exact quietly_simulates (hamend name fun _ => rfl) hcalm
  | contains | names => exact quietly_simulates (fun _ => .refl _) hcalm

lemma addToPipeline_simulates (name : String) {e : Extension} (he : P e) :
    Matches (Follows lib P t₀) (quietly (Session.addToPipeline name e))
      (Session.addToPipeline name e) := by
  have hstill (s : Session) :
      Stays (Session.addToPipeline name e) s fun t => s.registry.Still t.registry := by
    apply ends_get_bind
    cases hr : s.registry.addToPipeline name e with
    | error e => exact .refl _
    | ok r => exact .addToPipeline hr
  refine quietly_simulates (fun s => (hstill s).state) fun s hs => ?_
  exact ⟨((Session.passage_leads.adds name he).along hs).path, Session.reports_addToPipeline name e s⟩

lemma arm_simulates (record : Recorder) (resolve : Resolver) (target : Nat) :
    Matches (Follows lib P t₀) ((surfaceWith lib record).arm target)
      ((Creation.surface lib resolve).arm target) := by
  have hquietly : (surfaceWith lib record).arm target =
      quietly ((Creation.surface lib resolve).arm target) := by
    unfold Surface.arm
    rw [quietly_bind]
    congr
  have harm (s : Session) : Stays ((Creation.surface lib resolve).arm target) s fun t =>
      s.registry.Still t.registry ∧ t.reports = s.reports := by
    apply ends_lift_bind
    refine Ends.bind (ends_get_bind ?_) (fun _ _ => id) fun _ _ => id
    change Ends (Session.ofExcept (s.registry.addToPipeline eligibilityCheckerName
      ⟨s.nextStamp, .eligibilityChecker target⟩) >>= _) _ _ _
    cases hr : s.registry.addToPipeline eligibilityCheckerName
        ⟨s.nextStamp, .eligibilityChecker target⟩ with
    | error e => exact ⟨.refl _, rfl⟩
    | ok r => exact ⟨.addToPipeline hr, rfl⟩
  rw [hquietly]
  refine quietly_simulates (fun s => (harm s).state.1) fun s hs => ⟨?_, (harm s).state.2⟩
  exact ((Session.passage_leads.arm_goes target).along hs).path

section

variable {record : Recorder} {resolve : Resolver}
  (hr : ∀ name, Matches (Follows lib P t₀) (record name) (resolve name))

include hr

lemma instantiate_simulates (name : String) :
    Matches (Follows lib P t₀) (instantiate record name) (Creation.instantiate resolve name) := by
  refine (hr name).bind fun i => ?_
  cases i.extension? with
  | some e => exact matches_pure e
  | none => exact simulates_throw _

variable (hgoes : Creation.ResolvesAlong P (Session.Leads lib P) resolve)
  (hP : ∀ stamp entry name, P ⟨stamp, (lib.extension entry).behaviour name⟩)

include hgoes hP

lemma surface_simulates :
    (surfaceWith lib record).SimulatesScripts lib (Creation.surface lib resolve) (Follows lib P t₀)
      .same P where
  find _ := fun | _, _, ⟨rfl, hpath, hunder, hheld⟩ => ⟨rfl, rfl, hpath, hunder, hheld⟩
  found _ _ _ _ _ _ := trivial
  precedenceOf _ _ := fun | _, _, ⟨rfl, _, _, _⟩ => rfl
  isInfrastructure _ _ := fun | _, _, ⟨rfl, _, _, _⟩ => rfl
  instantiate name _ := simulates_along (instantiate_simulates hr name)
    (Creation.instantiate_goes Session.passage_leads hgoes name)
  invalidate := by
    rintro t s h
    obtain ⟨rfl, -, -, hheld⟩ := id h
    have hoccurs : Occurs lib P t .invalidated (Session.invalidate t.session).2 :=
      ⟨.invalidated _ rfl, (Session.passage_leads.invalidates t.session).path, fun _ => rfl⟩
    exact ⟨rfl, h.enter hoccurs rfl⟩
  editable := fun _ _ h => ⟨rfl, h⟩
  edit e _ := edit_simulates e
  pipeline := fun | _, _, ⟨rfl, _, _, _⟩ => rfl
  addToPipeline name _ _ := fun | rfl, he => addToPipeline_simulates name he
  arm target := (arm_simulates record resolve target).mono fun _ _ h => congrArg _ h
  supply name entry := (quiet_write (fun _ => rfl) (fun _ => rfl) fun _ => Nat.le_succ _).matches.bind
    fun _ => addToPipeline_simulates name (hP _ _ _)
  note _ := quiet_write (fun _ => rfl) (fun _ => rfl) fun _ => Nat.le_refl _
  acted _ _ _ _ := fun | rfl => quiet_write (fun _ => rfl) (fun _ => rfl) fun _ => Nat.le_refl _
  record _ _ := quiet_write (fun _ => rfl) (fun _ => rfl) fun _ => Nat.le_refl _

omit hgoes hP in
lemma inspect_simulates (i : Inspection) :
    Matches (Follows lib P t₀) (inspect lib record i) (Creation.inspect lib resolve i) := by
  cases i with
  | get name => exact (hr name).bind fun _ => matches_pure _
  | getAs name kind => exact (hr name).bind fun _ => matches_pure _
  | same name other => exact (hr name).bind fun _ => (hr other).bind fun _ => matches_pure _
  | describeInstance name => exact (hr name).bind fun _ => matches_pure _
  | destroy =>
    exact noting_simulates (fun t => .destroyed _ rfl)
      (fun s _ => ⟨(Session.passage_leads.destroys s).path, rfl⟩) fun _ _ _ => rfl
  | definition | describe | describePipeline | size | created | createdCount | invalidations =>
    exact quietly_simulates (fun _ => .refl _) fun s _ => .refl s

lemma perform_simulates (a : Action) :
    Matches (Follows lib P t₀) (performWith lib record a) (Creation.perform lib resolve a) := by
  cases a with
  | note text => exact matches_pure _
  | fail message => exact simulates_throw _
  | edit e => exact (edit_simulates e).adapt _
  | query q =>
    exact (Script.perform_query_simulates (surface_simulates hr hgoes hP) fun _ _ => trivial).adapt _
  | inspect i => exact (inspect_simulates hr i).adapt _

lemma manufacture_simulates (d : Definition) :
    Matches (Follows lib P t₀) (manufacture lib record d) (Creation.manufacture lib resolve d) := by
  have hS := surface_simulates hr hgoes hP
  have hscript : Matches (Follows lib P t₀)
      (Script.run (surfaceWith lib record).note (performWith lib record) d.name d.factory.first)
      (Script.run Session.note (Creation.perform lib resolve) d.name d.factory.first) :=
    Script.run_simulates hS.note hS.acted (fun a _ => perform_simulates hr hgoes hP a) _
      fun step _ => Likeness.allows_same step.action
  refine (hS.note _).matches.bind fun _ => (hscript.adapt _).bind fun _ _ _ => ?_
  cases d.factory.product with
  | shared entry => exact matches_pure _
  | component name => exact hr name
  | fresh spec =>
    cases spec with
    | extension entry =>
      exact quietly_simulates (fun _ => .refl _) fun _ _ =>
        Session.calm_of_write rfl rfl (Nat.le_succ _)
    | value v =>
      exact quietly_simulates (fun _ => .refl _) fun _ _ =>
        Session.calm_of_write rfl rfl (Nat.le_succ _)

end

lemma complete_run (record : Recorder) (name : String) (d : Definition) (t : Transcript) :
    complete lib record name d t = quietly
      (Creation.furnish lib name d (manufacture lib record d t).1) (manufacture lib record d t).2 := by
  unfold complete
  rw [Act.bind_run]
  rcases manufacture lib record d t with ⟨e | made, u⟩
  · rfl
  · rfl

lemma create_error {record : Recorder} {name : String} {e : RegistryError}
    (hsnapshot : (t.session.registry.beginCreation name).snapshot name = .error e) :
    create lib record name t = answer name (.error e) t := by
  unfold create
  rw [hsnapshot]

lemma create_ok {record : Recorder} {name : String} {d : Definition} {r : Registry} {v : Transcript}
    {made answer : Except RegistryError Instance} {w : Session}
    (hsnapshot : (t.session.registry.beginCreation name).snapshot name = .ok (d, r))
    (hmade : manufacture lib record d (t.enter (.began name d) { t.session with registry := r }) =
      (made, v))
    (hanswer : Creation.furnish lib name d made v.session = (answer, w)) :
    create lib record name t = (answer, v.enter (.ended name answer)
      { w with registry := w.registry.conclude name answer }) := by
  have hcomplete : complete lib record name d (t.enter (.began name d)
      { t.session with registry := r }) = (answer, ⟨w, v.moments⟩) := by
    rw [complete_run, hmade]
    exact congrArg (fun run => (run.1, (⟨run.2, v.moments⟩ : Transcript))) hanswer
  unfold create
  simp only [hsnapshot, hcomplete]
  rfl

lemma Follows.trans {t₁ : Transcript} {s u : Session} (h : Follows lib P t₀ t s)
    (h' : Follows lib P t t₁ u) : Follows lib P t₀ t₁ u :=
  ⟨h'.session_eq, h.path.trans h'.path, h'.underway_eq.trans h.underway_eq, h'.held⟩

lemma Follows.ample {depth : Nat} {s : Session} (h : Follows lib P t₀ t s) (ht : t₀.Stacked)
    (hdepth : Ample lib depth t₀.session.registry) : Ample lib depth t.session.registry := by
  refine hdepth.mono (fun _ => h.path.known) ?_
  rw [(h.path.stacked ht).inCreation_eq, h.underway_eq, ht.inCreation_eq]

lemma Ample.began {depth : Nat} {name : String} {d : Definition} {r r' : Registry}
    (h : Ample lib (depth + 1) r) (hr : (r.beginCreation name).snapshot name = .ok (d, r')) :
    Ample lib depth r' := by
  obtain ⟨names, hknown, hsub, hlength⟩ := h
  have hbegin (n : String) (hn : (r.beginCreation name).Known lib n) : n ∈ names := hknown n hn
  have hname : name ∈ names := hbegin name (Registry.known_of_snapshot hr)
  have hcreation : r'.inCreation = name :: r.inCreation := by
    obtain ⟨-, rfl⟩ | ⟨-, -, rfl⟩ := Registry.snapshot_eq_ok hr <;> rfl
  have hstep : (r.beginCreation name).Step lib (fun _ => True) r' := .snapshot name hr
  refine ⟨names, fun n hn => hbegin n (hstep.known hn), ?_, ?_⟩
  · rw [hcreation]
    exact List.cons_subset.2 ⟨hname, hsub⟩
  · rw [hcreation, List.length_cons]
    omega

lemma occurs_began {name : String} {d : Definition} {r : Registry}
    (hnone : t.session.registry.singleton? name = none)
    (hnew : name ∉ t.session.registry.inCreation)
    (hr : (t.session.registry.beginCreation name).snapshot name = .ok (d, r)) :
    Occurs lib P t (.began name d) { t.session with registry := r } := by
  have hbegin : t.session.Path lib P
      { t.session with registry := t.session.registry.beginCreation name } :=
    .single (.registry (.beginCreation name))
  exact ⟨.began name hnone hnew hr, hbegin.tail (.registry (.snapshot name hr)), fun _ => rfl⟩

lemma Follows.answered {s : Session} {name : String} {a : Except RegistryError Instance}
    (h : Follows lib P t₀ t s) (ha : Happens lib t (.answered name a) t.session) :
    Follows lib P t₀ (t.enter (.answered name a) t.session) s := by
  obtain ⟨rfl, -⟩ := id h
  exact h.enter ⟨ha, .refl, fun _ => rfl⟩ rfl

lemma resolveWithin_stored {name : String} {i : Instance}
    (hi : t.session.registry.singleton? name = some i) (depth : Nat) :
    resolveWithin lib depth name t = answer name (.ok i) t := by
  cases depth <;> simp only [resolveWithin, hi]

lemma resolveWithin_refused {name : String}
    (hnone : t.session.registry.singleton? name = none)
    (hmem : name ∈ t.session.registry.inCreation) (depth : Nat) :
    resolveWithin lib depth name t = answer name (.error (.currentlyInCreation name)) t := by
  cases depth <;> simp only [resolveWithin, hnone, if_pos hmem]

lemma resolveWithin_new {depth : Nat} {name : String}
    (hnone : t.session.registry.singleton? name = none)
    (hnew : name ∉ t.session.registry.inCreation) :
    resolveWithin lib depth name t = match depth with
      | 0 => answer name (.error (.noSuchDefinition name)) t
      | depth + 1 => create lib (resolveWithin lib depth) name t := by
  cases depth <;> simp only [resolveWithin, hnone, if_neg hnew]

section

variable (hP : ∀ stamp entry name, P ⟨stamp, (lib.extension entry).behaviour name⟩)

include hP

lemma occurs_ended {start : Start} {rest : List Start} (depth : Nat)
    {made answer : Except RegistryError Instance} {w : Session}
    (hopen : underway t.moments = start :: rest) (hstart : start.session.registry.Held P)
    (hmade : Creation.manufacture lib (Creation.resolveWithin lib depth) start.definition
      start.session = (made, t.session))
    (hrun : Creation.furnish lib start.name start.definition made t.session = (answer, w)) :
    Occurs lib P t (.ended start.name answer)
      { w with registry := t.session.registry.conclude start.name answer } := by
  refine ⟨.ended depth hopen hmade hrun, ?_, fun h => absurd rfl (h start.name answer)⟩
  have hgoes := Creation.manufacture_goes Session.passage_leads
    (Creation.resolveWithin_goes Session.passage_leads hP depth) hP start.definition start.session
    hstart
  have hadmits : ∀ i, made = .ok i → i.Admits P := by
    rintro i rfl
    exact (hgoes.ok hmade).1
  have hasides : Session.Asides start.name (Session.Aside lib P) := Session.asides_leads start.name
  have hends := Creation.ends_furnish hasides hP start.definition hadmits t.session
  cases answer with
  | error e =>
    obtain ⟨hregistry, hleads⟩ := hends.error hrun
    rw [← hregistry]
    exact hleads.path.tail (.registry (.endCreation _))
  | ok i =>
    obtain ⟨hi, hregistry, hleads⟩ := hends.ok hrun
    have hend : w.Path lib P { w with registry := w.registry.endCreation start.name } :=
      .single (.registry (.endCreation _))
    rw [← hregistry]
    exact (hleads.path.trans hend).tail (.registry (.store _ i hi))

lemma create_follows {depth : Nat} {name : String}
    (ih : ∀ {t₁ : Transcript}, t₁.Stacked → t₁.session.registry.Held P →
      Ample lib depth t₁.session.registry → ∀ name, Matches (Follows lib P t₁)
        (resolveWithin lib depth name) (Creation.resolveWithin lib depth name))
    (ht : t.Stacked) (hheld : t.session.registry.Held P)
    (hdepth : Ample lib (depth + 1) t.session.registry)
    (hnone : t.session.registry.singleton? name = none)
    (hnew : name ∉ t.session.registry.inCreation) :
    (create lib (resolveWithin lib depth) name t).1 =
        (Creation.resolveWithin lib (depth + 1) name t.session).1 ∧
      Follows lib P t (create lib (resolveWithin lib depth) name t).2
        (Creation.resolveWithin lib (depth + 1) name t.session).2 := by
  rw [Creation.resolveWithin_succ hnone hnew, Creation.enter_run]
  cases hsnapshot : (t.session.registry.beginCreation name).snapshot name with
  | error e =>
    obtain ⟨rfl, hfind⟩ := Registry.snapshot_eq_error hsnapshot
    have hleft : { t.session with
        registry := (t.session.registry.beginCreation name).endCreation name } = t.session := by
      rw [Registry.endCreation_beginCreation hnew]
    rw [create_error hsnapshot, Creation.create_error hsnapshot]
    simp only [hleft]
    exact ⟨rfl, (follows_refl hheld).answered (.missed name hnone hnew hfind)⟩
  | ok p =>
    obtain ⟨d, r⟩ := p
    let u : Session := { t.session with registry := r }
    let t₁ := t.enter (.began name d) u
    have hbegan : Occurs lib P t (.began name d) u := occurs_began hnone hnew hsnapshot
    have hu : u.registry.Held P := hbegan.path.held hheld
    obtain ⟨hmade, hsession, hpath, hunder, -⟩ := manufacture_simulates
      (ih (hbegan.happens.stacked ht) hu (hdepth.began hsnapshot))
      (Creation.resolveWithin_goes Session.passage_leads hP depth) hP d t₁ u (follows_refl hu)
    rcases hrun' : manufacture lib (resolveWithin lib depth) d t₁ with ⟨made', v⟩
    rcases hrun : Creation.manufacture lib (Creation.resolveWithin lib depth) d u with ⟨made, w⟩
    rw [hrun', hrun] at hmade hsession
    rw [hrun'] at hpath hunder
    obtain rfl : made' = made := hmade.eq
    obtain rfl : v.session = w := hsession
    rcases hanswer : Creation.furnish lib name d made' v.session with ⟨answer, w⟩
    have hregistry : w.registry = v.session.registry := Creation.registry_furnish hanswer
    have hended : Occurs lib P v (.ended name answer)
        { w with registry := v.session.registry.conclude name answer } :=
      occurs_ended hP depth hunder hu hrun hanswer
    have hfollows : Follows lib P t (v.enter (.ended name answer)
        { w with registry := v.session.registry.conclude name answer })
        { w with registry := v.session.registry.conclude name answer } :=
      ⟨rfl, .tail (.head (.enter hbegan) hpath) (.enter hended), congrArg List.tail hunder,
        hended.path.held (hpath.session.held hu)⟩
    have hcomplete : Creation.complete lib (Creation.resolveWithin lib depth) name d u =
        (answer, w) := by
      rw [Creation.complete_run, hrun, hanswer]
    rw [create_ok hsnapshot hrun' hanswer, Creation.create_ok hsnapshot, hcomplete]
    rw [← hregistry] at hfollows
    cases answer with
    | error e => exact ⟨rfl, hfollows⟩
    | ok i => exact ⟨rfl, hfollows⟩

omit hP in
lemma matches_of_new {depth : Nat} {name : String} (ht₀ : t₀.Stacked)
    (hdepth : Ample lib depth t₀.session.registry)
    (hnew : ∀ t : Transcript, t.Stacked → t.session.registry.Held P →
      Ample lib depth t.session.registry → t.session.registry.singleton? name = none →
      name ∉ t.session.registry.inCreation →
      (resolveWithin lib depth name t).1 = (Creation.resolveWithin lib depth name t.session).1 ∧
        Follows lib P t (resolveWithin lib depth name t).2
          (Creation.resolveWithin lib depth name t.session).2) :
    Matches (Follows lib P t₀) (resolveWithin lib depth name)
      (Creation.resolveWithin lib depth name) := by
  rintro t s h
  obtain ⟨rfl, hpath, -, hheld⟩ := id h
  cases hsingleton : t.session.registry.singleton? name with
  | some i =>
    rw [resolveWithin_stored hsingleton, Creation.resolveWithin_stored hsingleton]
    exact ⟨rfl, h.answered (.handed name hsingleton)⟩
  | none =>
    by_cases hmem : name ∈ t.session.registry.inCreation
    · rw [resolveWithin_refused hsingleton hmem, Creation.resolveWithin_refused hsingleton hmem]
      exact ⟨rfl, h.answered (.refused name hsingleton hmem)⟩
    · obtain ⟨hanswer, hfollows⟩ :=
        hnew t (hpath.stacked ht₀) hheld (h.ample ht₀ hdepth) hsingleton hmem
      exact ⟨hanswer ▸ alike_refl _, h.trans hfollows⟩

theorem resolveWithin_simulates (depth : Nat) (ht₀ : t₀.Stacked)
    (hdepth : Ample lib depth t₀.session.registry) (name : String) :
    Matches (Follows lib P t₀) (resolveWithin lib depth name)
      (Creation.resolveWithin lib depth name) := by
  induction depth generalizing t₀ name with
  | zero =>
    refine matches_of_new ht₀ hdepth fun t ht hheld hdepth hnone hnew => ?_
    have hfind : t.session.registry.find? name = none := by
      have hknown := hdepth.not_known ht.nodup hnew
      by_contra hfind
      exact hknown (.inl (lookup_isSome_iff_mem_keys.1 (Option.isSome_iff_ne_none.2 hfind)))
    rw [resolveWithin_new hnone hnew, Creation.resolveWithin_zero hnone hnew]
    exact ⟨rfl, (follows_refl hheld).answered (.missed name hnone hnew hfind)⟩
  | succ depth ih =>
    refine matches_of_new ht₀ hdepth fun t ht hheld hdepth hnone hnew => ?_
    rw [resolveWithin_new hnone hnew]
    exact create_follows hP (fun ht₁ _ hdepth₁ name => ih ht₁ hdepth₁ name) ht hheld hdepth hnone hnew

end

structure Idle (t : Transcript) : Prop where
  stacked : t.Stacked
  underway_eq : underway t.moments = []

lemma Idle.inCreation_eq (h : t.Idle) : t.session.registry.inCreation = [] := by
  rw [h.stacked.inCreation_eq, h.underway_eq, List.map_nil]

lemma Follows.idle {s : Session} (h : Follows lib P t₀ t s) (ht₀ : t₀.Idle) : t.Idle :=
  ⟨h.path.stacked ht₀.stacked, h.underway_eq.trans ht₀.underway_eq⟩

lemma idle_empty : empty.Idle := ⟨stacked_empty, rfl⟩

structure Sound (lib : Catalog) (P : Extension → Prop) (t : Transcript) : Prop where
  path : Path lib P empty t
  idle : t.Idle

lemma sound_empty : empty.Sound lib P := ⟨.refl, idle_empty⟩

lemma Sound.held (h : t.Sound lib P) : t.session.registry.Held P :=
  h.path.session.held fun _ hp => absurd hp List.not_mem_nil

lemma Sound.follows_refl (h : t.Sound lib P) : Follows lib P t t t.session :=
  Transcript.follows_refl h.held

lemma Follows.sound {s : Session} (h : Follows lib P t₀ t s) (ht₀ : t₀.Sound lib P) :
    Sound lib P ⟨s, t.moments⟩ := by
  have hidle := h.idle ht₀.idle
  obtain ⟨rfl, hpath, -⟩ := h
  exact ⟨ht₀.path.trans hpath, hidle⟩

section

variable (hP : ∀ stamp entry name, P ⟨stamp, (lib.extension entry).behaviour name⟩)

include hP

lemma resolve_simulates (ht₀ : t₀.Idle) (name : String) :
    Matches (Follows lib P t₀) (resolve lib name) (Session.resolve lib name) := by
  rintro t s h
  obtain ⟨rfl, -, -, hheld⟩ := id h
  have ht := h.idle ht₀
  obtain ⟨hanswer, hfollows⟩ := resolveWithin_simulates hP (Creation.roster lib t.session).length
    ht.stacked (ample_roster ht.inCreation_eq) name t t.session (follows_refl hheld)
  exact ⟨hanswer, h.trans hfollows⟩

lemma perform_follows (h : t.Sound lib P) (a : Action) :
    Follows lib P t (perform lib a t).2 (Session.perform lib a t.session).2 :=
  (perform_simulates (resolve_simulates hP h.idle) (Session.resolve_goes Session.passage_leads hP) hP
    a t t.session h.follows_refl).2

lemma sound_surface (h : t.Sound lib P) :
    (surface lib).SimulatesScripts lib (Session.surface lib) (Follows lib P t) .same P :=
  surface_simulates (resolve_simulates hP h.idle) (Session.resolve_goes Session.passage_leads hP) hP

omit hP in
lemma orchestration_follows {V : α → α → Prop} {m' : Act (Orchestration Transcript) ε α}
    {m : Act (Orchestration Session) ε α} (h : t.Sound lib P)
    (hm : Simulates (Orchestration.Related (Follows lib P t)) V m' m) (i : Invoker) :
    Follows lib P t (m' ⟨t, i⟩).2.registry (m ⟨t.session, i⟩).2.registry :=
  (hm ⟨t, i⟩ ⟨t.session, i⟩ ⟨h.follows_refl, rfl⟩).2.1

lemma mutationPhase_follows (h : t.Sound lib P) (supplied : List Supplied) (i : Invoker) :
    Follows lib P t
      (Orchestration.mutationPhase (surface lib) (.scripted lib (surface lib)) supplied
        ⟨t, i⟩).2.registry
      (Orchestration.mutationPhase (Session.surface lib) (.scripted lib (Session.surface lib))
        supplied ⟨t.session, i⟩).2.registry := by
  have hsurface := sound_surface hP h
  have hrounds (hooks : Hooks Session) :
      Orchestration.SameRounds (surface lib) (Session.surface lib) (Follows lib P t) hooks :=
    Orchestration.sameRounds_of_roster hooks fun | _, _, ⟨rfl, _, _, _⟩ => rfl
  exact orchestration_follows h (Orchestration.mutationPhase_simulates hsurface.toSimulates
    (Hooks.scripted_same hsurface) (hrounds _) (supplied_same supplied)) i

lemma buildPipeline_follows (h : t.Sound lib P) (i : Invoker) :
    Follows lib P t (Orchestration.buildPipeline (surface lib) ⟨t, i⟩).2.registry
      (Orchestration.buildPipeline (Session.surface lib) ⟨t.session, i⟩).2.registry :=
  orchestration_follows h
    (Orchestration.buildPipeline_simulates (sound_surface hP h).toSimulates) i

end

/-- The sessions that an empty one comes to by requests, mutation phases and builds, each with the
moments that are entered meanwhile. -/
inductive Run (lib : Catalog) : Session → List Moment → Prop
  | empty : Run lib .empty []
  | perform {s : Session} {ms : List Moment} (a : Action) :
    Run lib s ms → Run lib (Session.perform lib a s).2 (perform lib a ⟨s, ms⟩).2.moments
  | addToPipeline {s : Session} {ms : List Moment} (name : String) (e : Extension) :
    Run lib s ms → Run lib (Session.addToPipeline name e s).2 ms
  | mutationPhase {s : Session} {ms : List Moment} (supplied : List Supplied) (i : Invoker) :
    Run lib s ms → Run lib
      (Orchestration.mutationPhase (Session.surface lib) (.scripted lib (Session.surface lib))
        supplied ⟨s, i⟩).2.registry
      (Orchestration.mutationPhase (surface lib) (.scripted lib (surface lib))
        supplied ⟨⟨s, ms⟩, i⟩).2.registry.moments
  | buildPipeline {s : Session} {ms : List Moment} (i : Invoker) :
    Run lib s ms → Run lib
      (Orchestration.buildPipeline (Session.surface lib) ⟨s, i⟩).2.registry
      (Orchestration.buildPipeline (surface lib) ⟨⟨s, ms⟩, i⟩).2.registry.moments

theorem Run.path {s : Session} {ms : List Moment} (h : Run lib s ms) :
    Sound lib (fun _ => True) ⟨s, ms⟩ := by
  have hall : ∀ stamp entry name,
      (fun _ : Extension => True) ⟨stamp, (lib.extension entry).behaviour name⟩ :=
    fun _ _ _ => trivial
  induction h with
  | empty => exact sound_empty
  | perform a _ ih => exact (perform_follows hall ih a).sound ih
  | addToPipeline name e _ ih =>
    exact (addToPipeline_simulates name trivial _ _ ih.follows_refl).2.sound ih
  | mutationPhase supplied i _ ih => exact (mutationPhase_follows hall ih supplied i).sound ih
  | buildPipeline i _ ih => exact (buildPipeline_follows hall ih i).sound ih

def performAll (lib : Catalog) (requests : List Action) (t : Transcript) : Transcript :=
  requests.foldl (fun t a => (perform lib a t).2) t

lemma Run.performAll (requests : List Action) (h : Run lib t.session t.moments) :
    Run lib (performAll lib requests t).session (performAll lib requests t).moments := by
  induction requests generalizing t with
  | nil => exact h
  | cons a requests ih =>
    have hsession := (perform_follows (fun _ _ _ => trivial) h.path a).session_eq
    exact ih (hsession ▸ h.perform a)

def after (lib : Catalog) (requests : List Action) : Transcript := performAll lib requests empty

lemma run_after (lib : Catalog) (requests : List Action) :
    Run lib (after lib requests).session (after lib requests).moments :=
  Run.performAll requests .empty

lemma exists_split {ms : List Moment} {k : Nat} {o : Occurrence}
    (h : ms[k]?.map (·.occurrence) = some o) :
    ∃ s, ms[k]? = some ⟨o, s⟩ ∧ ms = ms.take k ++ ⟨o, s⟩ :: ms.drop (k + 1) := by
  obtain ⟨m, hm, rfl⟩ := Option.map_eq_some_iff.1 h
  obtain ⟨hk, rfl⟩ := List.getElem?_eq_some_iff.1 hm
  refine ⟨ms[k].session, hm, ?_⟩
  conv_lhs => rw [← List.take_append_drop k ms, List.drop_eq_getElem_cons hk]

end ComponentContainer.Transcript
