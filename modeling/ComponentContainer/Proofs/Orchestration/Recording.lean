import ComponentContainer.Proofs.Orchestration.Simulation
import ComponentContainer.View

/-! Recording of the calls that an orchestrator makes. Recording changes nothing else: a phase on a
recorded registry answers as on the plain one and leaves it in the same state. -/

namespace ComponentContainer

inductive Call
  | searched (capability : Capability)
  | requested (name : String)
  | mutated (name : String)
  | finalized (name : String)
  | checked
  | invalidated
  | added (name : String)
  deriving DecidableEq

namespace Call

variable {σ ε α : Type}

def recording (c : Call) (m : StateM σ α) : StateM (σ × List Call) α := fun s =>
  let (a, t) := m s.1
  (a, t, s.2 ++ [c])

def recordingAct (c : Call) (m : Act σ ε α) : Act (σ × List Call) ε α :=
  ExceptT.mk (recording c m.run)

end Call

variable {σ ε α : Type}

def Surface.recorded (S : Surface σ) : Surface (σ × List Call) where
  find c := Call.recording (.searched c) (S.find c)
  roster s := S.roster s.1
  precedenceOf name s := S.precedenceOf name s.1
  isInfrastructure name s := S.isInfrastructure name s.1
  instantiate name := Call.recordingAct (.requested name) (S.instantiate name)
  invalidate := Call.recording .invalidated S.invalidate
  editable := Call.recording .checked S.editable
  edit e := View.insideAct (S.edit e)
  pipeline s := S.pipeline s.1
  addToPipeline name e := Call.recordingAct (.added name) (S.addToPipeline name e)
  fresh := View.inside S.fresh
  note e := View.inside (S.note e)
  record level message := View.inside (S.record level message)

def Hooks.recorded (hooks : Hooks σ) : Hooks (σ × List Call) where
  mutate name e := Call.recordingAct (.mutated name) (hooks.mutate name e)
  finalize name e := Call.recordingAct (.finalized name) (hooks.finalize name e)

section

variable (S : Surface σ) (hooks : Hooks σ)

lemma Surface.recorded_simulates :
    S.recorded.Simulates S (fun s' s => s'.1 = s) .same (fun _ => True) where
  find _ := fun | _, _, rfl => ⟨rfl, rfl⟩
  found _ _ _ _ _ _ := trivial
  precedenceOf _ _ := fun | _, _, rfl => rfl
  instantiate _ _ := fun | _, _, rfl => ⟨Act.alike_self fun _ _ => ⟨rfl, trivial⟩, rfl⟩
  invalidate := fun | _, _, rfl => ⟨rfl, rfl⟩
  editable := fun | _, _, rfl => ⟨rfl, rfl⟩
  pipeline := fun | _, _, rfl => rfl
  addToPipeline _ _ _ := fun | rfl, _ => fun | _, _, rfl => ⟨Act.alike_refl _, rfl⟩
  arm := arm_matches (fun | _, _, rfl => ⟨rfl, rfl⟩)
    fun _ _ => fun | _, _, rfl => ⟨Act.alike_refl _, rfl⟩
  record _ _ := fun | _, _, rfl => ⟨rfl, rfl⟩

lemma Surface.recorded_rounds : Orchestration.SameRounds S.recorded S (fun s' s => s'.1 = s) hooks :=
  Orchestration.sameRounds_of_roster hooks fun | _, _, rfl => rfl

lemma Hooks.recorded_simulates : hooks.recorded.Simulates hooks (fun s' s => s'.1 = s) .same where
  mutate _ _ _ := fun | rfl => fun | _, _, rfl => ⟨Act.alike_refl _, rfl⟩
  finalize _ _ _ := fun | rfl => fun | _, _, rfl => ⟨Act.alike_refl _, rfl⟩

end

namespace Orchestration

def plain {τ : Type} (o : Orchestration (σ × τ)) : Orchestration σ := ⟨o.registry.1, o.invoker⟩

def calls (o : Orchestration (σ × List Call)) : List Call := o.registry.2

lemma state_plain {τ : Type} {V : α → α → Prop} {m' : Act (Orchestration (σ × τ)) ε α}
    {m : Act (Orchestration σ) ε α} (h : Act.Simulates (Related fun s' s => s'.1 = s) V m' m)
    (o : Orchestration (σ × τ)) : (m o.plain).2 = (m' o).2.plain := by
  obtain ⟨-, hregistry, hinvoker⟩ := h o o.plain ⟨rfl, rfl⟩
  rcases hrun : (m o.plain).2 with ⟨registry, invoker⟩
  rw [hrun] at hregistry hinvoker
  subst hregistry hinvoker
  rfl

lemma run_plain {τ : Type} {m' : Act (Orchestration (σ × τ)) ε α} {m : Act (Orchestration σ) ε α}
    (h : Act.Matches (Related fun s' s => s'.1 = s) m' m) (o : Orchestration (σ × τ)) :
    m o.plain = ((m' o).1, (m' o).2.plain) :=
  Prod.ext (h o o.plain ⟨rfl, rfl⟩).1.eq.symm (state_plain h o)

variable (S : Surface σ) (hooks : Hooks σ) (supplied : List Supplied)

theorem settle_recorded (o : Orchestration (σ × List Call)) :
    settle S hooks supplied o.plain = ((settle S.recorded hooks.recorded supplied o).1,
      (settle S.recorded hooks.recorded supplied o).2.plain) :=
  run_plain (settle_matches S.recorded_simulates hooks.recorded_simulates (S.recorded_rounds hooks)
    supplied) o

theorem mutationPhase_recorded (o : Orchestration (σ × List Call)) :
    mutationPhase S hooks supplied o.plain =
      ((mutationPhase S.recorded hooks.recorded supplied o).1,
        (mutationPhase S.recorded hooks.recorded supplied o).2.plain) :=
  run_plain (mutationPhase_simulates S.recorded_simulates hooks.recorded_simulates
    (S.recorded_rounds hooks) (supplied_same supplied)) o

end Orchestration

end ComponentContainer
