import ComponentContainer.Proofs.Orchestration.Recording

/-! What an orchestrator has a registry or an extension do, with the answers and the states before
and after. Keeping account of it changes nothing else. -/

namespace ComponentContainer

inductive Dealing
  | searched (capability : Capability) (found : List String)
  | requested (name : String) (answer : Except RegistryError Extension)
  | added (name : String) (extension : Extension) (answer : Except RegistryError Unit)
  | invalidated
  | mutated (name : String) (extension : Extension) (answer : Except HookError Unit)
  | finalized (name : String) (extension : Extension) (answer : Except HookError Unit)

structure Exchange (σ : Type) where
  dealing : Dealing
  before : σ
  after : σ

variable {σ ε ε' α : Type}

namespace Exchange

def keeping (dealing : α → Dealing) (m : StateM σ α) : StateM (σ × List (Exchange σ)) α := fun s =>
  let (a, t) := m s.1
  (a, t, s.2 ++ [⟨dealing a, s.1, t⟩])

def keepingAct (dealing : Except ε α → Dealing) (m : Act σ ε α) : Act (σ × List (Exchange σ)) ε α :=
  ExceptT.mk (keeping dealing m.run)

structure Gives (S : Surface σ) (x : Exchange σ) (c : Candidate) : Prop where
  dealing : x.dealing = .requested c.name (.ok c.extension)
  precedence : c.precedence = (S.precedenceOf c.name x.after).getD .untagged
  created : S.instantiate c.name x.before = (.ok c.extension, x.after)

end Exchange

def Surface.audited (S : Surface σ) : Surface (σ × List (Exchange σ)) where
  find c := Exchange.keeping (.searched c) (S.find c)
  roster s := S.roster s.1
  precedenceOf name s := S.precedenceOf name s.1
  isInfrastructure name s := S.isInfrastructure name s.1
  instantiate name := Exchange.keepingAct (.requested name) (S.instantiate name)
  invalidate := Exchange.keeping (fun _ => .invalidated) S.invalidate
  editable := View.inside S.editable
  edit e := View.insideAct (S.edit e)
  pipeline s := S.pipeline s.1
  addToPipeline name e := Exchange.keepingAct (.added name e) (S.addToPipeline name e)
  fresh := View.inside S.fresh
  note e := View.inside (S.note e)
  record level message := View.inside (S.record level message)

def Hooks.audited (hooks : Hooks σ) : Hooks (σ × List (Exchange σ)) where
  mutate name e := Exchange.keepingAct (.mutated name e) (hooks.mutate name e)
  finalize name e := Exchange.keepingAct (.finalized name e) (hooks.finalize name e)

section

variable (S : Surface σ) (hooks : Hooks σ)

lemma Surface.isTagged_audited (name : String) (tier : Tier) (s : σ × List (Exchange σ)) :
    S.audited.isTagged name tier s = S.isTagged name tier s.1 := rfl

lemma Surface.audited_simulates :
    S.audited.Simulates S (fun s' s => s'.1 = s) .same (fun _ => True) where
  find _ := fun | _, _, rfl => ⟨rfl, rfl⟩
  found _ _ _ _ _ _ := trivial
  precedenceOf _ _ := fun | _, _, rfl => rfl
  instantiate _ _ := fun | _, _, rfl => ⟨Act.alike_self fun _ _ => ⟨rfl, trivial⟩, rfl⟩
  invalidate := fun | _, _, rfl => ⟨rfl, rfl⟩
  editable := fun | _, _, rfl => ⟨rfl, rfl⟩
  pipeline := fun | _, _, rfl => rfl
  addToPipeline _ _ _ := fun | rfl, _ => fun | _, _, rfl => ⟨Act.alike_refl _, rfl⟩
  arm := arm_matches (fun | _, _, rfl => ⟨rfl, rfl⟩)
    fun _ _ => fun | _, _, rfl => ⟨Act.alike_refl _, rfl⟩
  record _ _ := fun | _, _, rfl => ⟨rfl, rfl⟩

lemma Surface.audited_rounds : Orchestration.SameRounds S.audited S (fun s' s => s'.1 = s) hooks :=
  Orchestration.sameRounds_of_roster hooks fun | _, _, rfl => rfl

lemma Hooks.audited_simulates : hooks.audited.Simulates hooks (fun s' s => s'.1 = s) .same where
  mutate _ _ _ := fun | rfl => fun | _, _, rfl => ⟨Act.alike_refl _, rfl⟩
  finalize _ _ _ := fun | rfl => fun | _, _, rfl => ⟨Act.alike_refl _, rfl⟩

end

namespace Orchestration

def exchanges (o : Orchestration (σ × List (Exchange σ))) : List (Exchange σ) := o.registry.2

section

variable (S : Surface σ) (hooks : Hooks σ) (supplied : List Supplied)

theorem mutationPhase_audited (o : Orchestration (σ × List (Exchange σ))) :
    mutationPhase S hooks supplied o.plain =
      ((mutationPhase S.audited hooks.audited supplied o).1,
        (mutationPhase S.audited hooks.audited supplied o).2.plain) :=
  run_plain (mutationPhase_simulates S.audited_simulates hooks.audited_simulates
    (S.audited_rounds hooks) (supplied_same supplied)) o

theorem buildPipeline_audited (o : Orchestration (σ × List (Exchange σ))) :
    buildPipeline S o.plain =
      ((buildPipeline S.audited o).1, (buildPipeline S.audited o).2.plain) :=
  run_plain (buildPipeline_matches S.audited_simulates) o

def phaseExchanges (o : Orchestration σ) : List (Exchange σ) :=
  (mutationPhase S.audited hooks.audited supplied ⟨(o.registry, []), o.invoker⟩).2.exchanges

def buildExchanges (o : Orchestration σ) : List (Exchange σ) :=
  (buildPipeline S.audited ⟨(o.registry, []), o.invoker⟩).2.exchanges

end

/-! ### The exchanges of single steps -/

variable {S : Surface σ} (o : Orchestration (σ × List (Exchange σ)))

lemma ends_ask_keeping (dealing : α → Dealing) (x : StateM σ α) :
    Act.Ends (ask (Exchange.keeping dealing x) : Act _ ε α) o
      (fun a t => (a, t.registry.1) = x o.registry.1 ∧ t.invoker = o.invoker ∧
        t.exchanges = o.exchanges ++ [⟨dealing a, o.registry.1, t.registry.1⟩])
      (fun _ _ => False) :=
  ⟨rfl, rfl, rfl⟩

lemma ends_attempt_of {τ : Type} {m : Act τ ε α} {o : Orchestration τ} {Q : α → τ → Prop}
    {E : ε → τ → Prop} (h : Act.Ends m o.registry Q E) (g : ε → ε') :
    Act.Ends ((attempt m).adapt g) o (fun a t => Q a t.registry ∧ t.invoker = o.invoker)
      (fun e t => ∃ source, e = g source ∧ E source t.registry ∧ t.invoker = o.invoker) := by
  have hattempt : Act.Ends (attempt m) o (fun a t => Q a t.registry ∧ t.invoker = o.invoker)
      (fun e t => E e t.registry ∧ t.invoker = o.invoker) := by
    have hrun : attempt m o = ((m o.registry).1, { o with registry := (m o.registry).2 }) := rfl
    unfold Act.Ends at h ⊢
    rw [hrun]
    rcases hm : m o.registry with ⟨e | a, s⟩
    · rw [hm] at h
      exact ⟨h, rfl⟩
    · rw [hm] at h
      exact ⟨h, rfl⟩
  exact hattempt.adapt fun e _ ht => ⟨e, rfl, ht⟩

lemma ends_keepingAct (dealing : Except ε α → Dealing) (m : Act σ ε α)
    (s : σ × List (Exchange σ)) :
    Act.Ends (Exchange.keepingAct dealing m) s
      (fun a t => m s.1 = (.ok a, t.1) ∧ t.2 = s.2 ++ [⟨dealing (.ok a), s.1, t.1⟩])
      (fun e t => m s.1 = (.error e, t.1) ∧ t.2 = s.2 ++ [⟨dealing (.error e), s.1, t.1⟩]) := by
  have hrun : Exchange.keepingAct dealing m s =
    ((m s.1).1, (m s.1).2, s.2 ++ [⟨dealing (m s.1).1, s.1, (m s.1).2⟩]) := rfl
  unfold Act.Ends
  rw [hrun]
  rcases m s.1 with ⟨e | a, t⟩
  · exact ⟨rfl, rfl⟩
  · exact ⟨rfl, rfl⟩

lemma ends_attempt_keeping (dealing : Except ε α → Dealing) (m : Act σ ε α) (g : ε → ε') :
    Act.Ends ((attempt (Exchange.keepingAct dealing m)).adapt g) o
      (fun a t => m o.registry.1 = (.ok a, t.registry.1) ∧ t.invoker = o.invoker ∧
        t.exchanges = o.exchanges ++ [⟨dealing (.ok a), o.registry.1, t.registry.1⟩])
      (fun e t => ∃ source, e = g source ∧ m o.registry.1 = (.error source, t.registry.1) ∧
        t.invoker = o.invoker ∧
        t.exchanges = o.exchanges ++ [⟨dealing (.error source), o.registry.1, t.registry.1⟩]) :=
  (ends_attempt_of (ends_keepingAct dealing m o.registry) g).mono
    (fun _ _ ⟨⟨hrun, ht⟩, hinvoker⟩ => ⟨hrun, hinvoker, ht⟩)
    (fun _ _ ⟨source, he, ⟨hrun, ht⟩, hinvoker⟩ => ⟨source, he, hrun, hinvoker, ht⟩)

lemma ends_ask_aside (x : StateM σ α) :
    Act.Ends (ask (View.inside x) : Act _ ε α) o
      (fun a t => (a, t.registry.1) = x o.registry.1 ∧ t.invoker = o.invoker ∧
        t.exchanges = o.exchanges)
      (fun _ _ => False) :=
  ⟨rfl, rfl, rfl⟩

lemma ends_record_aside (level : Level) (message : String) :
    Act.Ends (record S.audited level message : Act _ ε Unit) o
      (fun _ t => t.invoker = o.invoker ∧ t.exchanges = o.exchanges) (fun _ _ => False) :=
  ⟨rfl, rfl⟩

lemma ends_mark_aside (name : String) :
    Act.Ends (mark name : Act _ ε Unit) o (fun _ t => t.registry = o.registry) (fun _ _ => False) :=
  rfl

lemma ends_markNew_aside (name : String) :
    Act.Ends (markNew name : Act _ ε Bool) o (fun _ t => t.registry = o.registry)
      (fun _ _ => False) := by
  apply Act.ends_get_bind
  split
  · exact Act.ends_pure rfl
  · exact (ends_mark_aside o name).bind (fun _ _ h => h) (fun _ _ => id)

lemma ends_instantiate_exchange (phase : Phase) (name : String) :
    Act.Ends (instantiate S.audited phase name) o
      (fun c t => c.name = name ∧ t.invoker = o.invoker ∧ ∃ x : Exchange σ, x.Gives S c ∧
        x.before = o.registry.1 ∧ x.after = t.registry.1 ∧ t.exchanges = o.exchanges ++ [x])
      (fun e t => ∃ (x : Exchange σ) (source : RegistryError), e = .registry name phase source ∧
        x.dealing = .requested name (.error source) ∧ x.after = t.registry.1 ∧
        t.invoker = o.invoker ∧ t.exchanges = o.exchanges ++ [x]) := by
  refine (ends_attempt_keeping o (.requested name) (S.instantiate name) _).bind
    (fun e t ⟨hrun, hinvoker, ht⟩ => ?_) (fun e t ⟨source, he, _, hinvoker, ht⟩ => ?_)
  · exact Act.ends_get_bind ⟨rfl, hinvoker, _, ⟨rfl, rfl, hrun⟩, rfl, rfl, ht⟩
  · exact ⟨_, source, he, rfl, rfl, hinvoker, ht⟩

end Orchestration

end ComponentContainer
