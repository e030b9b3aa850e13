import ComponentContainer.Proofs.Monotone
import ComponentContainer.Proofs.Origin
import ComponentContainer.Proofs.Transcript.Basic

/-! The steps of a transcript: what each of its moments did to the session. Between two moments only
setters, the pipeline and what is written change, and nothing is reported. -/

namespace ComponentContainer

structure Registry.Still (r t : Registry) : Prop where
  keys_eq : t.definitions.map (·.1) = r.definitions.map (·.1)
  core?_eq : ∀ n, t.core? n = r.core? n
  index_eq : t.index = r.index
  snapshots_eq : t.snapshots = r.snapshots
  singletons_eq : t.singletons = r.singletons
  inCreation_eq : t.inCreation = r.inCreation

namespace Registry.Still

variable {r t : Registry}

lemma refl (r : Registry) : r.Still r := ⟨rfl, fun _ => rfl, rfl, rfl, rfl, rfl⟩

lemma of_eq (h : t = r) : r.Still t := h ▸ .refl r

lemma amend (name : String) {f : Definition → Definition} (hf : ∀ d, (f d).core = d.core) :
    r.Still (r.amend name f) :=
  ⟨r.keys_amend name f, (Keeps.amend name hf).core?_eq, rfl, rfl, rfl, rfl⟩

lemma addToPipeline {name : String} {e : Extension} (h : r.addToPipeline name e = .ok t) :
    r.Still t := by
  obtain ⟨-, rfl⟩ := addToPipeline_eq_ok h
  exact ⟨rfl, fun _ => rfl, rfl, rfl, rfl, rfl⟩

lemma singleton?_eq (h : r.Still t) (n : String) : t.singleton? n = r.singleton? n :=
  congrArg (·.lookup n) h.singletons_eq

lemma known {lib : Catalog} (h : r.Still t) {n : String} (hn : t.Known lib n) : r.Known lib n := by
  unfold Known at hn ⊢
  rwa [h.keys_eq, h.index_eq, h.snapshots_eq] at hn

end Registry.Still

namespace Registry

@[simp] lemma inCreation_conclude (r : Registry) (name : String)
    (answer : Except RegistryError Instance) :
    (r.conclude name answer).inCreation = r.inCreation.filter (· ≠ name) := by
  cases answer <;> rfl

lemma singleton?_conclude (r : Registry) (name n : String)
    (answer : Except RegistryError Instance) :
    (r.conclude name answer).singleton? n =
      if n = name then answer.toOption.or (r.singleton? n) else r.singleton? n := by
  cases answer with
  | error e => exact (ite_self _).symm
  | ok i => exact singleton?_store (r.endCreation name) name n i

end Registry

namespace Session

variable {lib : Catalog} {P : Extension → Prop} {s t : Session}

structure Calm (lib : Catalog) (P : Extension → Prop) (s t : Session) : Prop where
  path : s.Path lib P t
  reports_eq : t.reports = s.reports

lemma Calm.refl (s : Session) : s.Calm lib P s := ⟨.refl, rfl⟩

lemma calm_of_write (hregistry : t.registry = s.registry) (hreports : t.reports = s.reports)
    (hstamp : s.nextStamp ≤ t.nextStamp) : s.Calm lib P t :=
  ⟨.single (.write hregistry hreports hstamp), hreports⟩

end Session

namespace Transcript

def underway : List Moment → List Start
  | [] => []
  | ⟨.began name d, s⟩ :: earlier => ⟨name, d, s⟩ :: underway earlier
  | ⟨.ended .., _⟩ :: earlier => (underway earlier).tail
  | ⟨.registered _, _⟩ :: earlier | ⟨.removed _, _⟩ :: earlier | ⟨.destroyed, _⟩ :: earlier
  | ⟨.invalidated, _⟩ :: earlier | ⟨.answered .., _⟩ :: earlier => underway earlier

lemma exists_began {ms : List Moment} {inner rest : List Start} {start : Start}
    (ho : underway ms = inner ++ start :: rest) :
    ∃ during before, ms = during ++ ⟨.began start.name start.definition, start.session⟩ :: before ∧
      underway before = rest := by
  induction ms generalizing inner with
  | nil => cases List.append_ne_nil_of_right_ne_nil inner (List.cons_ne_nil start rest) ho.symm
  | cons m earlier ih =>
    have hlater (inner : List Start) (ho : underway earlier = inner ++ start :: rest) :
        ∃ during before, m :: earlier =
            during ++ ⟨.began start.name start.definition, start.session⟩ :: before ∧
          underway before = rest := by
      obtain ⟨during, before, rfl, hbefore⟩ := ih ho
      exact ⟨m :: during, before, rfl, hbefore⟩
    rcases m with ⟨_ | _ | _ | _ | _ | ⟨name, d⟩ | _, s⟩
    case began =>
      rcases List.cons_eq_append_iff.1 ho with ⟨rfl, hfirst⟩ | ⟨inner, rfl, hrest⟩
      · obtain ⟨rfl, rfl⟩ := List.cons.inj hfirst
        exact ⟨[], earlier, rfl, rfl⟩
      · exact hlater inner hrest
    case ended =>
      -- what ended began inside the creation that is looked for
      change (underway earlier).tail = inner ++ start :: rest at ho
      cases hunder : underway earlier with
      | nil =>
        rw [hunder] at ho
        cases List.append_ne_nil_of_right_ne_nil inner (List.cons_ne_nil start rest) ho.symm
      | cons last others =>
        rw [hunder, List.tail_cons] at ho
        exact hlater (last :: inner) (hunder.trans (congrArg (last :: ·) ho))
    all_goals exact hlater inner ho

/-- What happens next, and the session that it leads to. A request is answered at once if there is a
singleton, if it is refused, or if there is no definition; otherwise it begins a creation. A creation
that ends has run the factory of its snapshot, and then the hooks. -/
inductive Happens (lib : Catalog) (t : Transcript) : Occurrence → Session → Prop
  | registered (entry stamp : Nat) (s : Session) :
    t.session.registry.register ⟨lib.blueprint entry, stamp⟩ = .ok s.registry →
      Happens lib t (.registered ⟨lib.blueprint entry, stamp⟩) s
  | removed (name : String) {d : Definition} (s : Session) :
    t.session.registry.remove name = .ok (d, s.registry) → Happens lib t (.removed name) s
  | destroyed (s : Session) :
    s.registry = t.session.registry.destroySingletons → Happens lib t .destroyed s
  | invalidated (s : Session) :
    s.registry = t.session.registry.invalidate → Happens lib t .invalidated s
  | handed (name : String) {i : Instance} :
    t.session.registry.singleton? name = some i → Happens lib t (.answered name (.ok i)) t.session
  | refused (name : String) :
    t.session.registry.singleton? name = none → name ∈ t.session.registry.inCreation →
      Happens lib t (.answered name (.error (.currentlyInCreation name))) t.session
  | missed (name : String) :
    t.session.registry.singleton? name = none → name ∉ t.session.registry.inCreation →
      t.session.registry.find? name = none →
      Happens lib t (.answered name (.error (.noSuchDefinition name))) t.session
  | began (name : String) {d : Definition} {r : Registry} :
    t.session.registry.singleton? name = none → name ∉ t.session.registry.inCreation →
      (t.session.registry.beginCreation name).snapshot name = .ok (d, r) →
      Happens lib t (.began name d) { t.session with registry := r }
  | ended {start : Start} {rest : List Start} (depth : Nat)
    {made answer : Except RegistryError Instance} {w : Session} :
    underway t.moments = start :: rest →
      Creation.manufacture lib (Creation.resolveWithin lib depth) start.definition start.session =
        (made, t.session) →
      Creation.furnish lib start.name start.definition made t.session = (answer, w) →
      Happens lib t (.ended start.name answer)
        { w with registry := t.session.registry.conclude start.name answer }

structure Occurs (lib : Catalog) (P : Extension → Prop) (t : Transcript) (o : Occurrence)
    (s : Session) : Prop where
  happens : Happens lib t o s
  path : t.session.Path lib P s
  reports_eq : (∀ n a, o ≠ .ended n a) → s.reports = t.session.reports

inductive Step (lib : Catalog) (P : Extension → Prop) (t : Transcript) : Transcript → Prop
  | quiet (s : Session) : t.session.registry.Still s.registry → t.session.Calm lib P s →
      Step lib P t ⟨s, t.moments⟩
  | enter {o : Occurrence} {s : Session} : Occurs lib P t o s → Step lib P t (t.enter o s)

abbrev Path (lib : Catalog) (P : Extension → Prop) : Transcript → Transcript → Prop :=
  Relation.ReflTransGen (Step lib P)

def empty : Transcript := ⟨.empty, []⟩

variable {lib : Catalog} {P : Extension → Prop} {t t' : Transcript}

lemma Path.session (h : Path lib P t t') : t.session.Path lib P t'.session := by
  induction h with
  | refl => exact .refl
  | tail _ h ih =>
    cases h with
    | quiet s _ hcalm => exact ih.trans hcalm.path
    | enter h => exact ih.trans h.path

lemma Path.occurs_at (h : Path lib P empty t) {later earlier : List Moment} {m : Moment}
    (hm : t.moments = later ++ m :: earlier) :
    ∃ s, Path lib P empty ⟨s, earlier⟩ ∧ Occurs lib P ⟨s, earlier⟩ m.occurrence m.session := by
  induction h generalizing later with
  | refl => simp [empty] at hm
  | @tail u _ hpath hstep ih =>
    cases hstep with
    | quiet => exact ih hm
    | @enter o s ho =>
      rcases List.cons_eq_append_iff.1 hm with ⟨-, hfirst⟩ | ⟨later, -, hrest⟩
      · obtain ⟨rfl, rfl⟩ := List.cons.inj hfirst
        exact ⟨u.session, hpath, ho⟩
      · exact ih hrest

lemma Path.happens_at (h : Path lib P empty t) {later earlier : List Moment} {m : Moment}
    (hm : t.moments = later ++ m :: earlier) :
    ∃ s, Path lib P empty ⟨s, earlier⟩ ∧ Happens lib ⟨s, earlier⟩ m.occurrence m.session := by
  obtain ⟨s, hpath, ho⟩ := h.occurs_at hm
  exact ⟨s, hpath, ho.happens⟩

lemma Path.at_moment (h : Path lib P empty t) {later earlier : List Moment} {m : Moment}
    (hm : t.moments = later ++ m :: earlier) : Path lib P empty ⟨m.session, m :: earlier⟩ := by
  obtain ⟨s, hpath, ho⟩ := h.occurs_at hm
  exact hpath.tail (.enter ho)

structure Stacked (t : Transcript) : Prop where
  inCreation_eq : t.session.registry.inCreation = (underway t.moments).map (·.name)
  nodup : t.session.registry.inCreation.Nodup
  idle : ∀ n ∈ t.session.registry.inCreation, t.session.registry.singleton? n = none

lemma Stacked.of_eq {s : Session} {o : Occurrence} (ht : t.Stacked)
    (hc : s.registry.inCreation = t.session.registry.inCreation)
    (ho : underway (⟨o, s⟩ :: t.moments) = underway t.moments)
    (hs : ∀ n, t.session.registry.singleton? n = none → s.registry.singleton? n = none) :
    (t.enter o s).Stacked := by
  refine ⟨?_, ?_, fun n hn => ?_⟩
  · change s.registry.inCreation = (underway (⟨o, s⟩ :: t.moments)).map (·.name)
    rw [hc, ho, ht.inCreation_eq]
  · change s.registry.inCreation.Nodup
    rw [hc]
    exact ht.nodup
  · change n ∈ s.registry.inCreation at hn
    exact hs n (ht.idle n (hc ▸ hn))

lemma Happens.stacked {o : Occurrence} {s : Session} (h : Happens lib t o s) (ht : t.Stacked) :
    (t.enter o s).Stacked := by
  cases h with
  | registered entry stamp s h =>
    obtain ⟨-, -, hs⟩ := Registry.register_eq_ok h
    exact ht.of_eq (hs ▸ rfl) rfl (hs ▸ fun _ => id)
  | removed name s h =>
    obtain ⟨-, hs⟩ := Registry.remove_eq_ok h
    refine ht.of_eq (hs ▸ rfl) rfl fun n hn => ?_
    rw [Registry.singleton?_remove h, hn, ite_self]
  | destroyed s h => exact ht.of_eq (h ▸ rfl) rfl (h ▸ fun _ _ => rfl)
  | invalidated s h => exact ht.of_eq (h ▸ rfl) rfl (h ▸ fun _ => id)
  | handed | refused | missed => exact ht.of_eq rfl rfl fun _ => id
  | @began name d r hnone hnew h =>
    have hcreation : r.inCreation = name :: t.session.registry.inCreation := by
      obtain ⟨-, rfl⟩ | ⟨-, -, rfl⟩ := Registry.snapshot_eq_ok h <;> rfl
    have hsingleton (n : String) : r.singleton? n = t.session.registry.singleton? n := by
      obtain ⟨-, rfl⟩ | ⟨-, -, rfl⟩ := Registry.snapshot_eq_ok h <;> rfl
    refine ⟨?_, ?_, fun n hn => ?_⟩
    · exact hcreation.trans (congrArg (name :: ·) ht.inCreation_eq)
    · exact hcreation ▸ List.nodup_cons.2 ⟨hnew, ht.nodup⟩
    · change n ∈ r.inCreation at hn
      rw [hcreation] at hn
      rcases List.mem_cons.1 hn with rfl | hn
      · exact (hsingleton n).trans hnone
      · exact (hsingleton n).trans (ht.idle n hn)
  | @ended start rest depth made answer w hopen =>
    have hcreation := ht.inCreation_eq
    rw [hopen, List.map_cons] at hcreation
    have hnodup := ht.nodup
    rw [hcreation, List.nodup_cons] at hnodup
    have hrest : (t.session.registry.conclude start.name answer).inCreation =
        rest.map (·.name) := by
      rw [Registry.inCreation_conclude, hcreation, List.filter_cons_of_neg (by simp)]
      exact List.filter_eq_self.2 fun n hn => by simpa using ne_of_mem_of_not_mem hn hnodup.1
    refine ⟨?_, hrest ▸ hnodup.2, fun n hn => ?_⟩
    · change _ = ((underway t.moments).tail).map (·.name)
      rw [hopen]
      exact hrest
    · change n ∈ (t.session.registry.conclude start.name answer).inCreation at hn
      rw [hrest] at hn
      change (t.session.registry.conclude start.name answer).singleton? n = none
      rw [Registry.singleton?_conclude, if_neg (ne_of_mem_of_not_mem hn hnodup.1)]
      exact ht.idle n (hcreation ▸ List.mem_cons_of_mem _ hn)

lemma Step.stacked (h : Step lib P t t') (ht : t.Stacked) : t'.Stacked := by
  cases h with
  | quiet s hs =>
    refine ⟨hs.inCreation_eq.trans ht.inCreation_eq, ?_, fun n hn => ?_⟩
    · exact hs.inCreation_eq ▸ ht.nodup
    · exact (hs.singleton?_eq n).trans (ht.idle n (hs.inCreation_eq ▸ hn))
  | enter h => exact h.happens.stacked ht

lemma Path.stacked (h : Path lib P t t') (ht : t.Stacked) : t'.Stacked := by
  induction h with
  | refl => exact ht
  | tail _ h ih => exact h.stacked ih

lemma Stacked.innermost_idle (ht : t.Stacked) {start : Start} {rest : List Start}
    (hopen : underway t.moments = start :: rest) :
    t.session.registry.singleton? start.name = none := by
  have hcreation := ht.inCreation_eq
  rw [hopen, List.map_cons] at hcreation
  exact ht.idle start.name (hcreation ▸ List.mem_cons_self)

lemma Happens.of_asks {o : Occurrence} {s : Session} {n : String} (h : Happens lib t o s)
    (ho : o.Asks n) :
    (∃ i, t.session.registry.singleton? n = some i ∧ o = .answered n (.ok i)) ∨
    t.session.registry.singleton? n = none ∧
      (n ∈ t.session.registry.inCreation ∧ o = .answered n (.error (.currentlyInCreation n)) ∨
      n ∉ t.session.registry.inCreation ∧ ((∃ d, o = .began n d) ∨
        o = .answered n (.error (.noSuchDefinition n)) ∧ s.registry.find? n = none)) := by
  cases h with
  | handed name hi =>
    obtain rfl : name = n := ho
    exact .inl ⟨_, hi, rfl⟩
  | refused name hnone hmem =>
    obtain rfl : name = n := ho
    exact .inr ⟨hnone, .inl ⟨hmem, rfl⟩⟩
  | missed name hnone hnew hfind =>
    obtain rfl : name = n := ho
    exact .inr ⟨hnone, .inr ⟨hnew, .inr ⟨rfl, hfind⟩⟩⟩
  | began name hnone hnew =>
    obtain rfl : name = n := ho
    exact .inr ⟨hnone, .inr ⟨hnew, .inl ⟨_, rfl⟩⟩⟩
  | registered | removed | destroyed | invalidated | ended => exact absurd ho id

lemma stacked_empty : empty.Stacked := ⟨rfl, List.nodup_nil, fun _ hn => absurd hn List.not_mem_nil⟩

end Transcript

end ComponentContainer
