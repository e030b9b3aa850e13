import ComponentContainer.Creation
import ComponentContainer.Proofs.Orchestration.Observing
import ComponentContainer.Proofs.Registry
import Mathlib.Order.Defs.Unbundled

/-! The turns of an orchestrator: what it has a registry and the extensions do, with the answers and
the states before and after. Taking them down changes nothing else. -/

namespace ComponentContainer

inductive Deed
  | searched (capability : Capability) (found : List String)
  | created (name : String) (answer : Except RegistryError Extension)
  | mutated (name : String) (answer : Except HookError Unit)
  | finalized (name : String) (answer : Except HookError Unit)
  | edited (request : Edit)

structure Turn (σ : Type) where
  deed : Deed
  before : σ
  after : σ

variable {σ ε α : Type}

namespace Turn

def taking (deed : α → Deed) (m : StateM σ α) : StateM (σ × List (Turn σ)) α := fun s =>
  let (a, t) := m s.1
  (a, t, s.2 ++ [⟨deed a, s.1, t⟩])

def takingAct (deed : Except ε α → Deed) (m : Act σ ε α) : Act (σ × List (Turn σ)) ε α :=
  ExceptT.mk (taking deed m.run)

end Turn

def Surface.monitored (S : Surface σ) : Surface (σ × List (Turn σ)) where
  find c := Turn.taking (.searched c) (S.find c)
  roster s := S.roster s.1
  precedenceOf name s := S.precedenceOf name s.1
  isInfrastructure name s := S.isInfrastructure name s.1
  instantiate name := Turn.takingAct (.created name) (S.instantiate name)
  invalidate := View.inside S.invalidate
  editable := View.inside S.editable
  edit e := Turn.takingAct (fun _ => .edited e) (S.edit e)
  pipeline s := S.pipeline s.1
  addToPipeline name e := View.insideAct (S.addToPipeline name e)
  fresh := View.inside S.fresh
  note e := View.inside (S.note e)
  record level message := View.inside (S.record level message)

def Hooks.monitored (hooks : Hooks σ) : Hooks (σ × List (Turn σ)) where
  mutate name e := Turn.takingAct (.mutated name) (hooks.mutate name e)
  finalize name e := Turn.takingAct (.finalized name) (hooks.finalize name e)

section

variable (S : Surface σ) (hooks : Hooks σ)

lemma Surface.monitored_simulates :
    S.monitored.Simulates S (fun s' s => s'.1 = s) .same (fun _ => True) where
  find _ := fun | _, _, rfl => ⟨rfl, rfl⟩
  found _ _ _ _ _ _ := trivial
  precedenceOf _ _ := fun | _, _, rfl => rfl
  instantiate _ _ := fun | _, _, rfl => ⟨Act.alike_self fun _ _ => ⟨rfl, trivial⟩, rfl⟩
  invalidate := fun | _, _, rfl => ⟨rfl, rfl⟩
  editable := fun | _, _, rfl => ⟨rfl, rfl⟩
  pipeline := fun | _, _, rfl => rfl
  addToPipeline _ _ _ := fun | rfl, _ => fun | _, _, rfl => ⟨Act.alike_refl _, rfl⟩
  arm := arm_matches (fun | _, _, rfl => ⟨rfl, rfl⟩)
    fun _ _ => fun | _, _, rfl => ⟨Act.alike_refl _, rfl⟩
  record _ _ := fun | _, _, rfl => ⟨rfl, rfl⟩

lemma Surface.monitored_rounds : Orchestration.SameRounds S.monitored S (fun s' s => s'.1 = s) hooks :=
  Orchestration.sameRounds_of_roster hooks fun | _, _, rfl => rfl

lemma Hooks.monitored_simulates : hooks.monitored.Simulates hooks (fun s' s => s'.1 = s) .same where
  mutate _ _ _ := fun | rfl => fun | _, _, rfl => ⟨Act.alike_refl _, rfl⟩
  finalize _ _ _ := fun | rfl => fun | _, _, rfl => ⟨Act.alike_refl _, rfl⟩

end

/-! ### What every request goes along -/

structure Surface.Goes (S : Surface σ) (L : σ → σ → Prop) : Prop where
  find (c : Capability) (s : σ) : L s (S.find c s).2
  instantiate (name : String) (s : σ) : L s (S.instantiate name s).2
  invalidate (s : σ) : L s (S.invalidate s).2
  editable (s : σ) : L s (S.editable s).2
  edit (e : Edit) (s : σ) : L s (S.edit e s).2
  addToPipeline (name : String) (e : Extension) (s : σ) : L s (S.addToPipeline name e s).2
  fresh (s : σ) : L s (S.fresh s).2
  note (e : Entry) (s : σ) : L s (S.note e s).2
  record (level : Level) (message : String) (s : σ) : L s (S.record level message s).2

structure Hooks.Goes (hooks : Hooks σ) (L : σ → σ → Prop) : Prop where
  mutate (name : String) (e : Extension) (s : σ) : L s (hooks.mutate name e s).2
  finalize (name : String) (e : Extension) (s : σ) : L s (hooks.finalize name e s).2

section

variable {S : Surface σ} {hooks : Hooks σ} {L : σ → σ → Prop}

namespace Orchestration

lemma along_of_simulates {V : α → α → Prop} {m : Act (Orchestration σ) ε α}
    {o : Orchestration σ} (hrefl : L o.registry o.registry)
    (h : Act.Simulates (Related fun s' s => s' = s ∧ L o.registry s) V m m) :
    L o.registry (m o).2.registry :=
  (h o o ⟨⟨rfl, hrefl⟩, rfl⟩).2.1.2

lemma sameRounds_along {v : σ} (hooks : Hooks σ) :
    SameRounds S S (fun s' s => s' = s ∧ L v s) hooks :=
  sameRounds_of_roster hooks fun | _, _, ⟨rfl, _⟩ => rfl

end Orchestration

variable [IsTrans σ L] {v : σ}

lemma Surface.Goes.simulates (h : S.Goes L) :
    S.Simulates S (fun s' s => s' = s ∧ L v s) .same (fun _ => True) where
  find c := Act.agree_self fun s hs => trans_of L hs (h.find c s)
  found _ _ _ _ _ _ := trivial
  precedenceOf _ _ := fun | _, _, ⟨rfl, _⟩ => rfl
  instantiate name _ := (Act.matches_self fun s hs => trans_of L hs (h.instantiate name s)).mono
    fun _ _ he => ⟨he, trivial⟩
  invalidate := Act.agree_self fun s hs => trans_of L hs (h.invalidate s)
  editable := Act.agree_self fun s hs => trans_of L hs (h.editable s)
  pipeline := fun | _, _, ⟨rfl, _⟩ => rfl
  addToPipeline name e _ := by
    rintro rfl -
    exact Act.matches_self fun s hs => trans_of L hs (h.addToPipeline name e s)
  arm := arm_matches (Act.agree_self fun s hs => trans_of L hs (h.fresh s))
    fun name e => Act.matches_self fun s hs => trans_of L hs (h.addToPipeline name e s)
  record level message := Act.agree_self fun s hs => trans_of L hs (h.record level message s)

lemma Hooks.Goes.simulates (h : hooks.Goes L) :
    hooks.Simulates hooks (fun s' s => s' = s ∧ L v s) .same where
  mutate name e _ := by
    rintro rfl
    exact Act.matches_self fun s hs => trans_of L hs (h.mutate name e s)
  finalize name e _ := by
    rintro rfl
    exact Act.matches_self fun s hs => trans_of L hs (h.finalize name e s)

end

/-! ### What is seen lies between the start and the end -/

namespace Observed

def states : Observed σ → List σ
  | found _ _ t => [t]
  | created c => [c.before, c.after]
  | mutated _ | finalized _ => []

def Between (L : σ → σ → Prop) (s t : σ × List (Observed σ)) : Prop :=
  L s.1 t.1 ∧ ∃ events, t.2 = s.2 ++ events ∧ ∀ e ∈ events, ∀ x ∈ e.states, L s.1 x ∧ L x t.1

variable {L : σ → σ → Prop} {s t u : σ × List (Observed σ)}

lemma Between.of_unseen (h : L s.1 t.1) (hevents : t.2 = s.2) : Between L s t :=
  ⟨h, [], hevents.trans (List.append_nil _).symm, by simp⟩

instance [IsTrans σ L] : IsTrans (σ × List (Observed σ)) (Between L) where
  trans := by
    rintro s u t ⟨hsu, l, hl, hbetween⟩ ⟨hut, l', hl', hbetween'⟩
    refine ⟨trans_of L hsu hut, l ++ l', by rw [hl', hl, List.append_assoc], fun e he x hx => ?_⟩
    rcases List.mem_append.1 he with he | he
    · exact ⟨(hbetween e he x hx).1, trans_of L (hbetween e he x hx).2 hut⟩
    · exact ⟨trans_of L hsu (hbetween' e he x hx).1, (hbetween' e he x hx).2⟩

lemma between_watching [Std.Refl L] {α : Type} (see : σ → α → σ → List (Observed σ))
    {m : StateM σ α} (h : L s.1 (m s.1).2)
    (hsee : ∀ e ∈ see s.1 (m s.1).1 (m s.1).2, ∀ x ∈ e.states, x = s.1 ∨ x = (m s.1).2) :
    Between L s (watching see m s).2 := by
  refine ⟨h, _, rfl, fun e he x hx => ?_⟩
  rcases hsee e he x hx with rfl | rfl
  · exact ⟨Std.Refl.refl _, h⟩
  · exact ⟨h, Std.Refl.refl _⟩

lemma states_of_creation {S : Surface σ} {name : String} {s t : σ}
    {answer : Except RegistryError Extension} :
    ∀ e ∈ creation S name s answer t, ∀ x ∈ e.states, x = s ∨ x = t := by
  cases answer with
  | error e => simp [creation]
  | ok e => simp [creation, states]

end Observed

section

variable {S : Surface σ} {hooks : Hooks σ} {L : σ → σ → Prop} [Std.Refl L]

lemma Surface.Goes.observed (h : S.Goes L) : S.observed.Goes (Observed.Between L) where
  find c s := Observed.between_watching _ (h.find c s.1) (by simp [Observed.states])
  instantiate name s :=
    Observed.between_watching _ (h.instantiate name s.1) Observed.states_of_creation
  invalidate s := .of_unseen (h.invalidate s.1) rfl
  editable s := .of_unseen (h.editable s.1) rfl
  edit e s := .of_unseen (h.edit e s.1) rfl
  addToPipeline name e s := .of_unseen (h.addToPipeline name e s.1) rfl
  fresh s := .of_unseen (h.fresh s.1) rfl
  note e s := .of_unseen (h.note e s.1) rfl
  record level message s := .of_unseen (h.record level message s.1) rfl

lemma Hooks.Goes.observed (h : hooks.Goes L) : hooks.observed.Goes (Observed.Between L) where
  mutate name e s := Observed.between_watching (fun _ _ _ => [.mutated name])
    (h.mutate name e s.1) (by simp [Observed.states])
  finalize name e s := Observed.between_watching (fun _ _ _ => [.finalized name])
    (h.finalize name e s.1) (by simp [Observed.states])

end

/-! ### The turns that make up a run -/

namespace Turn

def Along (T : σ → σ → Prop) (s t : σ × List (Turn σ)) : Prop :=
  ∃ turns, t.2 = s.2 ++ turns ∧ ((∀ x ∈ turns, T x.before x.after) → T s.1 t.1)

variable {T : σ → σ → Prop} {s t u : σ × List (Turn σ)}

lemma Along.refl [Std.Refl T] (s : σ × List (Turn σ)) : Along T s s :=
  ⟨[], (List.append_nil _).symm, fun _ => Std.Refl.refl s.1⟩

lemma Along.of_quiet (h : T s.1 t.1) (hturns : t.2 = s.2) : Along T s t :=
  ⟨[], hturns.trans (List.append_nil _).symm, fun _ => h⟩

instance [Std.Refl T] : Std.Refl (Along T) := ⟨Along.refl⟩

instance [IsTrans σ T] : IsTrans (σ × List (Turn σ)) (Along T) where
  trans := by
    rintro s u t ⟨l, hl, hsu⟩ ⟨l', hl', hut⟩
    refine ⟨l ++ l', by rw [hl', hl, List.append_assoc], fun h => ?_⟩
    rw [List.forall_mem_append] at h
    exact trans_of T (hsu h.1) (hut h.2)

lemma Along.subset (h : Along T s t) : s.2 ⊆ t.2 := by
  obtain ⟨l, hl, -⟩ := h
  rw [hl]
  exact List.subset_append_left _ _

lemma Along.of_nil (h : Along T s t) (hs : s.2 = []) (ht : ∀ x ∈ t.2, T x.before x.after) :
    T s.1 t.1 := by
  obtain ⟨l, hl, hst⟩ := h
  rw [hl, hs, List.nil_append] at ht
  exact hst ht

lemma along_taking (T : σ → σ → Prop) (deed : α → Deed) (m : StateM σ α) (s : σ × List (Turn σ)) :
    Along T s (taking deed m s).2 :=
  ⟨[⟨deed (m s.1).1, s.1, (m s.1).2⟩], rfl, fun h => h _ List.mem_cons_self⟩

lemma mem_of_created {S : Surface σ} {name : String} {e : Extension}
    {s t : σ × List (Turn σ)} (h : S.monitored.instantiate name s = (.ok e, t)) :
    ⟨.created name (.ok e), s.1, t.1⟩ ∈ t.2 := by
  have hrun : S.monitored.instantiate name s = ((S.instantiate name s.1).1,
      (S.instantiate name s.1).2,
      s.2 ++ [⟨.created name (S.instantiate name s.1).1, s.1, (S.instantiate name s.1).2⟩]) := rfl
  obtain ⟨hanswer, rfl⟩ := Prod.mk.inj (hrun.symm.trans h)
  rw [hanswer]
  exact List.mem_concat_self

end Turn

structure Surface.Quiet (S : Surface σ) (T : σ → σ → Prop) : Prop where
  invalidate (s : σ) : T s (S.invalidate s).2
  editable (s : σ) : T s (S.editable s).2
  addToPipeline (name : String) (e : Extension) (s : σ) : T s (S.addToPipeline name e s).2
  fresh (s : σ) : T s (S.fresh s).2
  note (e : Entry) (s : σ) : T s (S.note e s).2
  record (level : Level) (message : String) (s : σ) : T s (S.record level message s).2

section

variable {S : Surface σ} {T : σ → σ → Prop}

lemma Surface.Quiet.monitored (h : S.Quiet T) : S.monitored.Goes (Turn.Along T) where
  find _ s := Turn.along_taking T _ _ s
  instantiate _ s := Turn.along_taking T _ _ s
  invalidate s := .of_quiet (h.invalidate s.1) rfl
  editable s := .of_quiet (h.editable s.1) rfl
  edit e s := Turn.along_taking T (fun _ => .edited e) (S.edit e) s
  addToPipeline name e s := .of_quiet (h.addToPipeline name e s.1) rfl
  fresh s := .of_quiet (h.fresh s.1) rfl
  note e s := .of_quiet (h.note e s.1) rfl
  record level message s := .of_quiet (h.record level message s.1) rfl

lemma Hooks.monitored_goes (hooks : Hooks σ) (T : σ → σ → Prop) :
    hooks.monitored.Goes (Turn.Along T) where
  mutate _ _ s := Turn.along_taking T _ _ s
  finalize _ _ s := Turn.along_taking T _ _ s

end

/-! ### Creations, and the states they start in -/

namespace Turn

def Faithful (S : Surface σ) (x : Turn σ) : Prop :=
  ∀ name answer, x.deed = .created name answer → S.instantiate name x.before = (answer, x.after)

def Since (S : Surface σ) (L : σ → σ → Prop) (s t : σ × List (Turn σ)) : Prop :=
  L s.1 t.1 ∧ ∃ turns, t.2 = s.2 ++ turns ∧ ∀ x ∈ turns, x.Faithful S ∧ L s.1 x.before

section

variable {S : Surface σ} {L : σ → σ → Prop} {s t : σ × List (Turn σ)}

lemma Since.of_quiet (h : L s.1 t.1) (hturns : t.2 = s.2) : Since S L s t :=
  ⟨h, [], hturns.trans (List.append_nil _).symm, by simp⟩

instance [Std.Refl L] : Std.Refl (Since S L) := ⟨fun s => .of_quiet (Std.Refl.refl s.1) rfl⟩

instance [IsTrans σ L] : IsTrans (σ × List (Turn σ)) (Since S L) where
  trans := by
    rintro s u t ⟨hsu, l, hl, hall⟩ ⟨hut, l', hl', hall'⟩
    refine ⟨trans_of L hsu hut, l ++ l', by rw [hl', hl, List.append_assoc], ?_⟩
    exact List.forall_mem_append.2
      ⟨hall, fun x hx => ⟨(hall' x hx).1, trans_of L hsu (hall' x hx).2⟩⟩

lemma since_taking [Std.Refl L] (deed : α → Deed) {m : StateM σ α} (h : L s.1 (m s.1).2)
    (hfaithful : Faithful S ⟨deed (m s.1).1, s.1, (m s.1).2⟩) :
    Since S L s (taking deed m s).2 :=
  ⟨h, _, rfl, List.forall_mem_singleton.2 ⟨hfaithful, Std.Refl.refl s.1⟩⟩

end

end Turn

section

variable {S : Surface σ} {L : σ → σ → Prop} [Std.Refl L]

lemma Surface.Goes.since (h : S.Goes L) : S.monitored.Goes (Turn.Since S L) where
  find c s := Turn.since_taking (.searched c) (h.find c s.1) nofun
  instantiate name s := Turn.since_taking (.created name) (h.instantiate name s.1) fun _ _ heq => by
    cases heq
    rfl
  invalidate s := .of_quiet (h.invalidate s.1) rfl
  editable s := .of_quiet (h.editable s.1) rfl
  edit e s := Turn.since_taking (fun _ => .edited e) (h.edit e s.1) nofun
  addToPipeline name e s := .of_quiet (h.addToPipeline name e s.1) rfl
  fresh s := .of_quiet (h.fresh s.1) rfl
  note e s := .of_quiet (h.note e s.1) rfl
  record level message s := .of_quiet (h.record level message s.1) rfl

lemma Hooks.Goes.since {hooks : Hooks σ} (h : hooks.Goes L) (S : Surface σ) :
    hooks.monitored.Goes (Turn.Since S L) where
  mutate name e s := Turn.since_taking (.mutated name) (h.mutate name e s.1) nofun
  finalize name e s := Turn.since_taking (.finalized name) (h.finalize name e s.1) nofun

end

lemma Session.surface_quiet (lib : Catalog) {T : Session → Session → Prop}
    (hT : ∀ s t : Session, t.registry.definitions = s.registry.definitions →
      t.registry.index = s.registry.index → T s t) : (Session.surface lib).Quiet T where
  invalidate _ := hT _ _ rfl rfl
  editable _ := hT _ _ rfl rfl
  addToPipeline name e s := by
    have hkeeps : Act.Stays (Session.addToPipeline name e) s fun t =>
        t.registry.definitions = s.registry.definitions ∧
          t.registry.index = s.registry.index := by
      apply Act.ends_get_bind
      cases hr : s.registry.addToPipeline name e with
      | error e => exact ⟨rfl, rfl⟩
      | ok r =>
        obtain ⟨-, rfl⟩ := Registry.addToPipeline_eq_ok hr
        exact ⟨rfl, rfl⟩
    exact hT _ _ hkeeps.state.1 hkeeps.state.2
  fresh _ := hT _ _ rfl rfl
  note _ _ := hT _ _ rfl rfl
  record _ _ _ := hT _ _ rfl rfl

namespace Orchestration

def turns (o : Orchestration (σ × List (Turn σ))) : List (Turn σ) := o.registry.2

variable (S : Surface σ) (hooks : Hooks σ) (supplied : List Supplied)

theorem mutationPhase_monitored (o : Orchestration (σ × List (Turn σ))) :
    mutationPhase S hooks supplied o.plain =
      ((mutationPhase S.monitored hooks.monitored supplied o).1,
        (mutationPhase S.monitored hooks.monitored supplied o).2.plain) :=
  run_plain (mutationPhase_simulates S.monitored_simulates hooks.monitored_simulates
    (S.monitored_rounds hooks) (supplied_same supplied)) o

theorem buildPipeline_monitored (o : Orchestration (σ × List (Turn σ))) :
    buildPipeline S o.plain =
      ((buildPipeline S.monitored o).1, (buildPipeline S.monitored o).2.plain) :=
  run_plain (buildPipeline_matches S.monitored_simulates) o

def phaseTurns (o : Orchestration σ) : List (Turn σ) :=
  (mutationPhase S.monitored hooks.monitored supplied ⟨(o.registry, []), o.invoker⟩).2.turns

def buildTurns (o : Orchestration σ) : List (Turn σ) :=
  (buildPipeline S.monitored ⟨(o.registry, []), o.invoker⟩).2.turns

variable {S hooks} {L : σ → σ → Prop} [Std.Refl L] [IsTrans σ L]

lemma phaseTurns_since (hS : S.Goes L) (hhooks : hooks.Goes L) (o : Orchestration σ) :
    ∀ x ∈ phaseTurns S hooks supplied o, x.Faithful S ∧ L o.registry x.before := by
  have hgoes : Turn.Since S L (o.registry, [])
      (mutationPhase S.monitored hooks.monitored supplied ⟨(o.registry, []), o.invoker⟩).2.registry :=
    along_of_simulates (Std.Refl.refl _)
      (mutationPhase_simulates hS.since.simulates (hhooks.since S).simulates
        (sameRounds_along _) (supplied_same supplied))
  obtain ⟨-, l, hl, hall⟩ := hgoes
  intro x hx
  unfold phaseTurns turns at hx
  rw [hl] at hx
  exact hall x hx

lemma buildTurns_since (hS : S.Goes L) (o : Orchestration σ) :
    ∀ x ∈ buildTurns S o, x.Faithful S ∧ L o.registry x.before := by
  have hgoes : Turn.Since S L (o.registry, [])
      (buildPipeline S.monitored ⟨(o.registry, []), o.invoker⟩).2.registry :=
    along_of_simulates (Std.Refl.refl _) (buildPipeline_simulates hS.since.simulates)
  obtain ⟨-, l, hl, hall⟩ := hgoes
  intro x hx
  unfold buildTurns turns at hx
  rw [hl] at hx
  exact hall x hx

end Orchestration

end ComponentContainer
