import ComponentContainer.Proofs.Bystander.Mentions
import ComponentContainer.Proofs.Traversal

/-! The hooks that are applied to a component read of a session its pipeline and its listeners only.
So they do the same in two sessions that have these in common, but for the numbering of stamps. -/

namespace ComponentContainer

open Act Session

structure Session.Pairing (f : ℕ → ℕ) (R : Session → Session → Prop) : Prop where
  note (e' e : Entry) : Agree R (note e') (note e)
  record (level : Level) (message' message : String) :
    Agree R (record level message') (record level message)
  fresh {ε : Type} :
    Simulates R (fun n' n => n' = f n) (liftM fresh : Act Session ε ℕ) (liftM fresh)
  pipeline_eq {s' s : Session} : R s' s → s'.registry.pipeline = s.registry.pipeline.restamp f
  listeners_eq {s' s : Session} : R s' s → s'.listeners = mapValues (·.restamp f) s.listeners
  report {s' s : Session} (r : Report) : R s' s →
    R { s' with reports := s'.reports ++ [r.restamp f] } { s with reports := s.reports ++ [r] }
  detect {s' s : Session} (name : String) (e : Extension) : R s' s →
    R { s' with listeners := s'.listeners ++ [(name, e.restamp f)] }
      { s with listeners := s.listeners ++ [(name, e)] }

def Instance.Paired (P : Extension → Prop) (f : ℕ → ℕ) (i' i : Instance) : Prop :=
  i' = i.restamp f ∧ i.Admits P

abbrev PairedOptions (P : Extension → Prop) (f : ℕ → ℕ) (o' o : Option Instance) : Prop :=
  Option.Rel (Instance.Paired P f) o' o

variable {lib : Catalog} {P : Extension → Prop} {f : ℕ → ℕ} {R : Session → Session → Prop}

lemma paired_value (stamp : ℕ) (v : Value) :
    Instance.Paired P f ⟨f stamp, .value v⟩ ⟨stamp, .value v⟩ :=
  ⟨rfl, admits_value stamp v⟩

lemma paired_extension {e : Extension} (he : P e) :
    Instance.Paired P f (.ofExtension (e.restamp f)) (.ofExtension e) :=
  ⟨rfl, admits_ofExtension he⟩

section

variable (hR : Session.Pairing f R)
  (hP : ∀ stamp entry name, P ⟨stamp, (lib.extension entry).behaviour name⟩)

include hR

include hP in
lemma InstanceSpec.build_paired {ε : Type} (spec : InstanceSpec) (id : String) :
    Simulates R (Instance.Paired P f) (liftM (spec.build lib id) : Act Session ε Instance)
      (liftM (spec.build lib id)) := by
  have hmake (make : ℕ → Instance) (h : ∀ n, (make (f n)).Paired P f (make n)) :
      Simulates R (Instance.Paired P f) (do return make (← Session.fresh) : Act Session ε Instance)
        (do return make (← Session.fresh)) :=
    hR.fresh.bind fun n' n hn => simulates_pure (by rw [hn]; exact h n)
  cases spec with
  | extension entry =>
    exact hmake (fun n => .ofExtension ⟨n, (lib.extension entry).behaviour id⟩)
      fun n => paired_extension (hP n entry id)
  | value v => exact hmake (⟨·, .value v⟩) fun n => paired_value n v

include hP in
lemma Response.apply_paired (r : Response) (component : String) {i' i : Instance}
    (hi : i'.Paired P f i) : Simulates R (PairedOptions P f) (r.apply lib component i')
      (r.apply lib component i) := by
  have hvalue (v : Value) : Simulates R (PairedOptions P f)
      (do return some ⟨← Session.fresh, .value v⟩ : Act Session HookError _)
      (do return some ⟨← Session.fresh, .value v⟩) := by
    refine hR.fresh.bind fun n' n hn => ?_
    subst hn
    exact simulates_pure (.some (paired_value n v))
  cases r with
  | pass => exact simulates_pure (.some hi)
  | veto => exact simulates_pure .none
  | fail message => exact simulates_throw _
  | replace spec =>
    exact (spec.build_paired hR hP component).bind fun _ _ hi => simulates_pure (.some hi)
  | append text =>
    obtain ⟨rfl, -⟩ := id hi
    rcases i with ⟨stamp, (_ | _ | _ | _ | _) | b⟩
    case value.text => exact hvalue _
    all_goals exact simulates_pure (.some hi)
  | shout =>
    obtain ⟨rfl, -⟩ := id hi
    rcases i with ⟨stamp, (_ | _ | _ | _ | _) | b⟩
    case value.text => exact hvalue _
    all_goals exact simulates_pure (.some hi)

namespace Extension

lemma onDefinition_paired (e : Extension) (d : Definition) :
    Matches R ((e.restamp f).onDefinition (d.restamp f)) (e.onDefinition d) := by
  rcases e with ⟨stamp, _ | ⟨id, ⟨mutator, finalizer, hook, _ | rules, listener⟩⟩ | _ | _⟩
  case scripted.some =>
    refine (hR.note _ _).matches.bind fun _ => ?_
    unfold Definition.restamp
    dsimp only
    split
    · exact simulates_throw _
    · exact matches_pure _
  all_goals exact matches_pure _

include hP in
lemma beforeInit_paired (e : Extension) {i' i : Instance} (hi : i'.Paired P f i)
    (ctx : InitContext) : Simulates R (PairedOptions P f) ((e.restamp f).beforeInit lib i' ctx)
      (e.beforeInit lib i ctx) := by
  rcases e with ⟨stamp, _ | ⟨id, ⟨mutator, finalizer, _ | _ | ⟨before, after⟩, merge, listener⟩⟩ |
    _ | _⟩
  case scripted.some.rules =>
    exact (hR.note _ _).matches.bind fun _ => Response.apply_paired hR hP _ _ hi
  all_goals exact simulates_pure (.some hi)

lemma checkEligible_paired (checker target : ℕ) (i : Instance) (ctx : InitContext) :
    Agree R (checkEligible lib (f checker) target (i.restamp f) ctx)
      (checkEligible lib checker target i ctx) := by
  intro s' s h
  have hhook : (i.restamp f).isInstanceHook = i.isInstanceHook := by
    obtain ⟨stamp, v | b⟩ := i <;> rfl
  unfold checkEligible
  rw [hhook]
  split
  · exact ⟨rfl, h⟩
  · let report : Report :=
      ⟨checker, ctx.component, i.typeName lib.typeNames, ctx.role, ctx.pipelineLength, target⟩
    exact ⟨rfl, hR.report report (hR.record _ _ _ s' s h).2⟩

lemma detectListener_paired (i : Instance) (ctx : InitContext) :
    Agree R (detectListener (i.restamp f) ctx) (detectListener i ctx) := by
  unfold detectListener
  rw [i.extension?_restamp]
  cases i.extension? with
  | none => exact fun _ _ h => ⟨rfl, h⟩
  | some e =>
    refine agree_get_bind fun s' s h => ?_
    have hany : s'.listeners.any (·.1 = ctx.component) = s.listeners.any (·.1 = ctx.component) := by
      rw [hR.listeners_eq h]
      exact List.any_map
    rw [hany]
    have hbehaviour : (e.restamp f).behaviour = e.behaviour := rfl
    rw [hbehaviour]
    split
    · exact fun _ _ h => ⟨rfl, h⟩
    · exact fun s' s h => ⟨rfl, hR.detect ctx.component e (hR.record _ _ _ s' s h).2⟩

include hP in
lemma afterInit_paired (e : Extension) {i' i : Instance} (hi : i'.Paired P f i)
    (ctx : InitContext) : Simulates R (PairedOptions P f) ((e.restamp f).afterInit lib i' ctx)
      (e.afterInit lib i ctx) := by
  obtain ⟨rfl, -⟩ := id hi
  rcases e with ⟨stamp, _ | ⟨id, ⟨mutator, finalizer, _ | _ | ⟨before, after⟩, merge, listener⟩⟩ |
    target | _⟩
  case scripted.some.rules =>
    exact (hR.note _ _).matches.bind fun _ => Response.apply_paired hR hP _ _ hi
  case eligibilityChecker =>
    exact (checkEligible_paired hR stamp target i ctx).matches.bind fun _ =>
      simulates_pure (.some hi)
  case listenerDetector =>
    exact (detectListener_paired hR i ctx).matches.bind fun _ => simulates_pure (.some hi)
  all_goals exact simulates_pure (.some hi)

end Extension

namespace Creation

lemma announce_paired (d : Definition) (p : Pipeline) :
    Matches R (announce (d.restamp f) (p.restamp f)) (announce d p) := by
  induction p with
  | nil => exact matches_pure _
  | cons entry rest ih =>
    exact ((entry.extension.onDefinition_paired hR d).adapt _).bind fun _ _ _ => ih

omit hR in
lemma runStage_paired
    {hook : Extension → Instance → InitContext → Act Session HookError (Option Instance)}
    (hhook : ∀ (e : Extension) {i' i : Instance}, i'.Paired P f i → ∀ ctx,
      Simulates R (PairedOptions P f) (hook (e.restamp f) i' ctx) (hook e i ctx))
    (stage : InitStage) (ctx : InitContext) (p : Pipeline) {i' i : Instance}
    (hi : i'.Paired P f i) :
    Simulates R (Instance.Paired P f) (runStage hook stage ctx (p.restamp f) i')
      (runStage hook stage ctx p i) := by
  induction p generalizing i' i with
  | nil => exact simulates_pure hi
  | cons entry rest ih =>
    change Simulates _ _ (runStage hook stage ctx (entry.restamp f :: Pipeline.restamp f rest) i') _
    unfold runStage
    refine simulates_ite (ih hi) (((hhook entry.extension hi ctx).adapt _).bind fun o' o ho => ?_)
    cases ho with
    | none => exact simulates_pure hi
    | some hnext => exact ih hnext

include hP

lemma equip_paired (name : String) (d : Definition) {made' made : Instance}
    (hmade : made'.Paired P f made) :
    Simulates R (Instance.Paired P f) (equip lib name (d.restamp f) made')
      (equip lib name d made) := by
  refine simulates_get_bind fun s' s h => ?_
  rw [hR.pipeline_eq h]
  have hlength : (s.registry.pipeline.restamp f).length = s.registry.pipeline.length :=
    List.length_map _
  dsimp only
  rw [hlength]
  refine (announce_paired hR d _).bind fun _ => ?_
  refine (runStage_paired (Extension.beforeInit_paired hR hP) _ _ _ hmade).bind
    fun _ _ hprepared => ?_
  refine (runStage_paired (Extension.afterInit_paired hR hP) _ _ _ hprepared).bind
    fun _ _ hdone => ?_
  exact (hR.record _ _ _).matches.bind fun _ => simulates_pure hdone

end Creation

end

end ComponentContainer
