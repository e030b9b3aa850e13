import ComponentContainer.Proofs.Orchestration.Effects

/-! Observation of a phase: what its searches find, what it creates between which states, and the
hooks that it runs, in the order in which all this happens. Like recording, it changes nothing. -/

namespace ComponentContainer

structure Created (σ : Type) where
  candidate : Candidate
  before : σ
  after : σ

inductive Observed (σ : Type)
  | found (capability : Capability) (names : List String) (state : σ)
  | created (c : Created σ)
  | mutated (name : String)
  | finalized (name : String)

variable {σ ε α : Type}

namespace Observed

def hook? : Observed σ → Option Call
  | mutated name => some (.mutated name)
  | finalized name => some (.finalized name)
  | found .. | created _ => none

def created? : Observed σ → Option (Created σ)
  | created c => some c
  | found .. | mutated _ | finalized _ => none

lemma filterMap_created?_created (l : List (Created σ)) :
    (l.map created).filterMap created? = l := by
  rw [List.filterMap_map]
  exact List.filterMap_some

lemma filterMap_hook?_created (l : List (Created σ)) : (l.map created).filterMap hook? = [] := by
  simp [List.filterMap_map, Function.comp_def, hook?]

lemma filterMap_hook?_mutated (names : List String) :
    (names.map (mutated : String → Observed σ)).filterMap hook? = names.map .mutated := by
  simp [List.filterMap_map, Function.comp_def, hook?]

lemma filterMap_hook?_finalized (names : List String) :
    (names.map (finalized : String → Observed σ)).filterMap hook? = names.map .finalized := by
  simp [List.filterMap_map, Function.comp_def, hook?]

def Faithful (S : Surface σ) : Observed σ → Prop
  | found c names t => ∃ s, S.find c s = (names, t)
  | created c => S.instantiate c.candidate.name c.before = (.ok c.candidate.extension, c.after) ∧
      c.candidate.precedence = (S.precedenceOf c.candidate.name c.after).getD .untagged
  | mutated _ | finalized _ => True

def creation (S : Surface σ) (name : String) :
    σ → Except RegistryError Extension → σ → List (Observed σ)
  | s, .ok e, t => [.created ⟨⟨name, (S.precedenceOf name t).getD .untagged, e⟩, s, t⟩]
  | _, .error _, _ => []

def watching (see : σ → α → σ → List (Observed σ)) (m : StateM σ α) :
    StateM (σ × List (Observed σ)) α := fun s =>
  let (a, t) := m s.1
  (a, t, s.2 ++ see s.1 a t)

def watchingAct (see : σ → Except ε α → σ → List (Observed σ)) (m : Act σ ε α) :
    Act (σ × List (Observed σ)) ε α :=
  ExceptT.mk (watching see m.run)

end Observed

def Surface.observed (S : Surface σ) : Surface (σ × List (Observed σ)) where
  find c := Observed.watching (fun _ names t => [.found c names t]) (S.find c)
  roster s := S.roster s.1
  precedenceOf name s := S.precedenceOf name s.1
  isInfrastructure name s := S.isInfrastructure name s.1
  instantiate name := Observed.watchingAct (Observed.creation S name) (S.instantiate name)
  invalidate := View.inside S.invalidate
  editable := View.inside S.editable
  edit e := View.insideAct (S.edit e)
  pipeline s := S.pipeline s.1
  addToPipeline name e := View.insideAct (S.addToPipeline name e)
  fresh := View.inside S.fresh
  note e := View.inside (S.note e)
  record level message := View.inside (S.record level message)

def Hooks.observed (hooks : Hooks σ) : Hooks (σ × List (Observed σ)) where
  mutate name e := Observed.watchingAct (fun _ _ _ => [.mutated name]) (hooks.mutate name e)
  finalize name e := Observed.watchingAct (fun _ _ _ => [.finalized name]) (hooks.finalize name e)

section

variable (S : Surface σ) (hooks : Hooks σ)

lemma Surface.isTagged_observed (name : String) (tier : Tier) (s : σ × List (Observed σ)) :
    S.observed.isTagged name tier s = S.isTagged name tier s.1 := rfl

lemma Surface.observed_simulates :
    S.observed.Simulates S (fun s' s => s'.1 = s) .same (fun _ => True) where
  find _ := fun | _, _, rfl => ⟨rfl, rfl⟩
  found _ _ _ _ _ _ := trivial
  precedenceOf _ _ := fun | _, _, rfl => rfl
  instantiate _ _ := fun | _, _, rfl => ⟨Act.alike_self fun _ _ => ⟨rfl, trivial⟩, rfl⟩
  invalidate := fun | _, _, rfl => ⟨rfl, rfl⟩
  editable := fun | _, _, rfl => ⟨rfl, rfl⟩
  pipeline := fun | _, _, rfl => rfl
  addToPipeline _ _ _ := fun | rfl, _ => fun | _, _, rfl => ⟨Act.alike_refl _, rfl⟩
  arm := arm_matches (fun | _, _, rfl => ⟨rfl, rfl⟩)
    fun _ _ => fun | _, _, rfl => ⟨Act.alike_refl _, rfl⟩
  record _ _ := fun | _, _, rfl => ⟨rfl, rfl⟩

lemma Surface.observed_rounds : Orchestration.SameRounds S.observed S (fun s' s => s'.1 = s) hooks :=
  Orchestration.sameRounds_of_roster hooks fun | _, _, rfl => rfl

lemma Hooks.observed_simulates : hooks.observed.Simulates hooks (fun s' s => s'.1 = s) .same where
  mutate _ _ _ := fun | rfl => fun | _, _, rfl => ⟨Act.alike_refl _, rfl⟩
  finalize _ _ _ := fun | rfl => fun | _, _, rfl => ⟨Act.alike_refl _, rfl⟩

end

lemma Act.ends_insideAct {τ : Type} {m : Act σ ε α} {x : σ × τ} {Q : α → σ → Prop}
    (h : Act.Yields m x.1 Q) :
    Act.Yields (View.insideAct m) x fun a y => Q a y.1 ∧ y.2 = x.2 := by
  have hrun : View.insideAct m x = ((m x.1).1, (m x.1).2, x.2) := rfl
  unfold Act.Yields Act.Ends at h ⊢
  rw [hrun]
  rcases hm : m x.1 with ⟨e | a, t⟩
  · trivial
  · rw [hm] at h
    exact ⟨h, rfl⟩

def ProcessedSet.markAll (p : ProcessedSet) (names : List String) : ProcessedSet :=
  names.foldl mark p

lemma ProcessedSet.markAll_append (p : ProcessedSet) (names names' : List String) :
    p.markAll (names ++ names') = (p.markAll names).markAll names' := List.foldl_append

lemma ProcessedSet.mem_markAll {p : ProcessedSet} {names : List String} {n : String} :
    n ∈ p.markAll names ↔ n ∈ p ∨ n ∈ names := by
  induction names generalizing p with
  | nil => simp [markAll]
  | cons m names ih =>
    change n ∈ (p.mark m).markAll names ↔ _
    rw [ih, ProcessedSet.mem_mark, List.mem_cons, or_assoc]

namespace Orchestration

variable {S : Surface σ} {hooks : Hooks σ}

def seen (o : Orchestration (σ × List (Observed σ))) : List (Observed σ) := o.registry.2

theorem mutationPhase_observed (S : Surface σ) (hooks : Hooks σ) (supplied : List Supplied)
    (o : Orchestration (σ × List (Observed σ))) :
    mutationPhase S hooks supplied o.plain =
      ((mutationPhase S.observed hooks.observed supplied o).1,
        (mutationPhase S.observed hooks.observed supplied o).2.plain) :=
  run_plain (mutationPhase_simulates S.observed_simulates hooks.observed_simulates
    (S.observed_rounds hooks) (supplied_same supplied)) o

theorem buildPipeline_observed (S : Surface σ) (o : Orchestration (σ × List (Observed σ))) :
    buildPipeline S o.plain =
      ((buildPipeline S.observed o).1, (buildPipeline S.observed o).2.plain) :=
  run_plain (buildPipeline_matches S.observed_simulates) o

structure Sees (S : Surface σ) (s t : Orchestration (σ × List (Observed σ))) (marked : List String)
    (events : List (Observed σ)) : Prop where
  processed : t.invoker.processed = s.invoker.processed.markAll marked
  seen : t.seen = s.seen ++ events
  faithful : ∀ e ∈ events, e.Faithful S

variable {s t u : Orchestration (σ × List (Observed σ))} {marked marked' : List String}
  {events events' : List (Observed σ)}

namespace Sees

lemma refl (s : Orchestration (σ × List (Observed σ))) : Sees S s s [] [] :=
  ⟨rfl, (List.append_nil _).symm, by simp⟩

lemma trans (h : Sees S s u marked events) (h' : Sees S u t marked' events') :
    Sees S s t (marked ++ marked') (events ++ events') := by
  refine ⟨?_, ?_, List.forall_mem_append.2 ⟨h.faithful, h'.faithful⟩⟩
  · rw [h'.processed, h.processed, ProcessedSet.markAll_append]
  · rw [h'.seen, h.seen, List.append_assoc]

end Sees

lemma ends_ask_unseen (S : Surface σ) {ε : Type} (x : StateM σ α)
    (s : Orchestration (σ × List (Observed σ))) :
    Act.Yields (ask (View.inside x) : Act _ ε α) s
      (fun a t => a = (x s.registry.1).1 ∧ Sees S s t [] []) :=
  ⟨rfl, rfl, (List.append_nil _).symm, by simp⟩

lemma ends_find (c : Capability) (s : Orchestration (σ × List (Observed σ))) :
    Act.Yields (ask (S.observed.find c) : Act _ BootstrapError (List String)) s
      (fun names t => Sees S s t [] [.found c names t.registry.1]) :=
  ⟨rfl, rfl, by simpa using ⟨s.registry.1, rfl⟩⟩

lemma ends_mark_seen (S : Surface σ) (name : String) (s : Orchestration (σ × List (Observed σ))) :
    Act.Yields (mark name : Act _ BootstrapError Unit) s
      (fun _ t => t.registry = s.registry ∧ Sees S s t [name] []) :=
  ⟨rfl, rfl, (List.append_nil _).symm, by simp⟩

lemma ends_markNew_seen (S : Surface σ) (name : String)
    (s : Orchestration (σ × List (Observed σ))) :
    Act.Yields (markNew name : Act _ BootstrapError Bool) s
      (fun isNew t =>
        if isNew then name ∉ s.invoker.processed ∧ t.registry = s.registry ∧ Sees S s t [name] []
        else name ∈ s.invoker.processed ∧ t = s) := by
  apply Act.ends_get_bind
  by_cases hn : name ∈ s.invoker.processed
  · rw [if_pos hn]
    exact ⟨hn, rfl⟩
  · rw [if_neg hn]
    exact (ends_mark_seen S name s).bind (fun _ _ ht => ⟨hn, ht⟩)

lemma ends_attempt_unseen {ε' : Type} {m : Act (σ × List (Observed σ)) ε α} {g : ε → ε'}
    {Q : α → σ × List (Observed σ) → Prop}
    (h : Act.Yields m s.registry fun a x => Q a x ∧ x.2 = s.registry.2) :
    Act.Yields ((attempt m).adapt g) s (fun a t => Q a t.registry ∧ Sees S s t [] []) := by
  apply Act.Yields.adapt
  have hrun : attempt m s = ((m s.registry).1, { s with registry := (m s.registry).2 }) := rfl
  unfold Act.Yields Act.Ends at h ⊢
  rw [hrun]
  rcases hm : m s.registry with ⟨e | a, x⟩
  · trivial
  · rw [hm] at h
    exact ⟨h.1, rfl, h.2.trans (List.append_nil _).symm, by simp⟩

lemma ends_attempt_watching {ε' : Type} (see : σ → Except ε α → σ → List (Observed σ))
    (x : Act σ ε α) (g : ε → ε') (s : Orchestration (σ × List (Observed σ))) :
    Act.Yields ((attempt (Observed.watchingAct see x)).adapt g) s
      (fun a t => x s.registry.1 = (.ok a, t.registry.1) ∧ t.invoker = s.invoker ∧
        t.seen = s.seen ++ see s.registry.1 (.ok a) t.registry.1) := by
  apply Act.Yields.adapt
  have hrun : attempt (Observed.watchingAct see x) s = ((x s.registry.1).1, { s with
      registry := ((x s.registry.1).2, s.registry.2 ++
        see s.registry.1 (x s.registry.1).1 (x s.registry.1).2) }) := rfl
  unfold Act.Yields Act.Ends
  rw [hrun]
  rcases x s.registry.1 with ⟨e | a, t⟩
  · trivial
  · exact ⟨rfl, rfl, rfl⟩

lemma ends_instantiate_seen (phase : Phase) (name : String)
    (s : Orchestration (σ × List (Observed σ))) :
    Act.Yields (instantiate S.observed phase name) s
      (fun c t => c.name = name ∧ Sees S s t [] [.created ⟨c, s.registry.1, t.registry.1⟩]) := by
  refine (ends_attempt_watching (Observed.creation S name) _ _ s).bind
    (fun e t ⟨hcreated, hinvoker, hseen⟩ => ?_)
  refine Act.ends_get_bind ⟨rfl, congrArg Invoker.processed hinvoker, hseen, ?_⟩
  exact List.forall_mem_singleton.2 ⟨hcreated, rfl⟩

lemma ends_hook {event : Observed σ} (hevent : event.Faithful S) (x : Act σ HookError Unit)
    (g : HookError → BootstrapError) (s : Orchestration (σ × List (Observed σ))) :
    Act.Yields ((attempt (Observed.watchingAct (fun _ _ _ => [event]) x)).adapt g) s
      (fun _ t => Sees S s t [] [event]) :=
  (ends_attempt_watching _ x g s).mono
    (fun _ _ ⟨_, hinvoker, hseen⟩ => ⟨congrArg Invoker.processed hinvoker, hseen, by simpa⟩)

lemma ends_instantiateAll_created
    {create : String → Act (Orchestration (σ × List (Observed σ))) BootstrapError Candidate}
    {R : Orchestration (σ × List (Observed σ)) → Orchestration (σ × List (Observed σ)) →
      List (Created σ) → Prop} (hrefl : ∀ s, R s s [])
    (htrans : ∀ {s u t l l'}, R s u l → R u t l' → R s t (l ++ l'))
    (hcreate : ∀ name s, Act.Yields (create name) s fun c t =>
      c.name = name ∧ R s t [⟨c, s.registry.1, t.registry.1⟩])
    (names : List String) (s : Orchestration (σ × List (Observed σ))) :
    Act.Yields (instantiateAll create names) s fun found t => ∃ created : List (Created σ),
      found = created.map (·.candidate) ∧ created.map (·.candidate.name) = names ∧
      R s t created := by
  apply instantiateAll_rule (P := fun _ _ => True) trivial fun s _ => ⟨[], rfl, rfl, hrefl s⟩
  intro s name rest _
  refine (hcreate name s).mono fun c u ⟨hc, hu⟩ => ⟨trivial, ?_, fun _ _ => id⟩
  rintro _ t ⟨created, rfl, rfl, ht⟩
  subst hc
  exact ⟨⟨c, s.registry.1, u.registry.1⟩ :: created, rfl, rfl, htrans hu ht⟩

end Orchestration

end ComponentContainer
