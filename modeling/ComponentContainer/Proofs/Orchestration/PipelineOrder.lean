import ComponentContainer.Proofs.Orchestration.Observing
import ComponentContainer.Proofs.Orchestration.PipelineTarget
import ComponentContainer.Proofs.StableSort

/-! The order of the pipeline that a build leaves, where the creations during the build neither add
to the pipeline nor change a precedence. -/

namespace ComponentContainer

abbrev Session.Retains (s t : Session) : Prop :=
  ∀ n p, s.registry.precedenceOf n = some p → t.registry.precedenceOf n = some p

structure Created.Neutral (c : Created Session) : Prop where
  pipeline_eq : c.after.registry.pipeline = c.before.registry.pipeline
  retains : c.before.Retains c.after

lemma Created.Neutral.of_eq {c : Created Session}
    (hpipeline : c.after.registry.pipeline = c.before.registry.pipeline)
    (hdefinitions : c.after.registry.definitions = c.before.registry.definitions) : c.Neutral := by
  refine ⟨hpipeline, fun n p hp => ?_⟩
  unfold Registry.precedenceOf Registry.find? at *
  rwa [hdefinitions]

def Candidate.entry (c : Candidate) : PipelineEntry := ⟨c.name, c.extension⟩

def Candidate.isMergeAware (c : Candidate) : Bool := c.extension.behaviour.merge.isSome

lemma Candidate.map_name_filter {hooks : List Candidate} (hnodup : (hooks.map (·.name)).Nodup)
    (m : Candidate → Bool) {names : List String}
    (hnames : names.Perm ((hooks.filter m).map (·.name))) :
    (hooks.filter m).map (·.name) = (hooks.map (·.name)).filter (· ∈ names) ∧
    (hooks.filter (!m ·)).map (·.name) = (hooks.map (·.name)).filter (· ∉ names) := by
  have hmem : ∀ c ∈ hooks, c.name ∈ names ↔ m c = true := by
    intro c hc
    rw [hnames.mem_iff, List.mem_map]
    constructor
    · rintro ⟨d, hd, hname⟩
      obtain ⟨hd, hm⟩ := List.mem_filter.1 hd
      rwa [← List.inj_on_of_nodup_map hnodup hd hc hname]
    · exact fun hm => ⟨c, List.mem_filter.2 ⟨hc, hm⟩, rfl⟩
  rw [List.filter_map, List.filter_map]
  constructor
  all_goals
    congr 1
    apply List.filter_congr
    intro c hc
    simp [hmem c hc]

structure Lays (lib : Catalog) (s t : Orchestration (Session × List (Observed Session)))
    (created : List (Created Session)) (added : List PipelineEntry) : Prop where
  sees : Orchestration.Sees (Session.surface lib) s t [] (created.map .created)
  pipeline_eq : (∀ c ∈ created, c.Neutral) →
    t.registry.1.registry.pipeline = s.registry.1.registry.pipeline.addAll added
  retains : (∀ c ∈ created, c.Neutral) → s.registry.1.Retains t.registry.1
  precedence_eq : (∀ c ∈ created, c.Neutral) → ∀ c ∈ created, ∀ p,
    s.registry.1.registry.precedenceOf c.candidate.name = some p → c.candidate.precedence = p

namespace Lays

variable {lib : Catalog} {s t u : Orchestration (Session × List (Observed Session))}
  {created created' : List (Created Session)} {added added' : List PipelineEntry}

lemma refl (s : Orchestration (Session × List (Observed Session))) : Lays lib s s [] [] :=
  ⟨.refl s, fun _ => rfl, fun _ _ _ => id, by simp⟩

lemma trans (h : Lays lib s u created added) (h' : Lays lib u t created' added') :
    Lays lib s t (created ++ created') (added ++ added') := by
  refine ⟨?_, fun hn => ?_, fun hn n p hp => ?_, fun hn c hc p hp => ?_⟩
  · rw [List.map_append]
    exact h.sees.trans h'.sees
  all_goals rw [List.forall_mem_append] at hn
  · rw [h'.pipeline_eq hn.2, h.pipeline_eq hn.1, Pipeline.addAll_append]
  · exact h'.retains hn.2 n p (h.retains hn.1 n p hp)
  · rcases List.mem_append.1 hc with hc | hc
    · exact h.precedence_eq hn.1 c hc p hp
    · exact h'.precedence_eq hn.2 c hc p (h.retains hn.1 _ p hp)

lemma of_add {name : String} {e : Extension}
    (hadd : s.registry.1.registry.addToPipeline name e = .ok t.registry.1.registry)
    (hsees : Orchestration.Sees (Session.surface lib) s t [] []) : Lays lib s t [] [⟨name, e⟩] := by
  obtain ⟨-, ht⟩ := Registry.addToPipeline_eq_ok hadd
  refine ⟨hsees, fun _ => ?_, fun _ n p hp => ?_, by simp⟩
  · rw [ht]
    rfl
  · rw [ht]
    exact hp

end Lays

def Session.pending (s : Session) (i : Invoker) : List String :=
  (s.registry.declaring .instanceHook).filter (· ∉ i.processed)

namespace Orchestration

variable (lib : Catalog)

lemma ends_record_lays (level : Level) (message : String)
    (s : Orchestration (Session × List (Observed Session))) :
    Act.Yields (record (Session.surface lib).observed level message : Act _ BootstrapError Unit) s
      (fun _ t => Lays lib s t [] []) :=
  ⟨⟨rfl, (List.append_nil _).symm, by simp⟩, fun _ => rfl, fun _ _ _ => id, by simp⟩

lemma ends_instantiateHook_lays (name : String)
    (s : Orchestration (Session × List (Observed Session))) :
    Act.Yields (instantiateHook (Session.surface lib).observed name) s
      (fun c t => c.name = name ∧ Lays lib s t [⟨c, s.registry.1, t.registry.1⟩] []) := by
  refine (ends_instantiate_seen _ name s).bind (fun c t ⟨hc, ht⟩ => ?_)
  split
  · refine ⟨hc, ht, fun hn => ?_, fun hn => ?_, fun hn => ?_⟩
    all_goals replace hn := hn _ List.mem_cons_self
    · exact hn.pipeline_eq
    · exact hn.retains
    · refine List.forall_mem_singleton.2 fun p hp => ?_
      have hread := (ht.faithful _ List.mem_cons_self).2
      have hlast : (Session.surface lib).precedenceOf c.name t.registry.1 = some p :=
        hn.retains _ p hp
      rw [hlast] at hread
      exact hread
  · trivial

lemma ends_instantiateAll_lays (names : List String)
    (s : Orchestration (Session × List (Observed Session))) :
    Act.Yields (instantiateAll (instantiateHook (Session.surface lib).observed) names) s
      (fun found t => ∃ created : List (Created Session), found = created.map (·.candidate) ∧
        created.map (·.candidate.name) = names ∧ Lays lib s t created []) :=
  ends_instantiateAll_created (R := fun s t l => Lays lib s t l []) .refl (fun h h' => h.trans h')
    (ends_instantiateHook_lays lib) names s

def Ranked (f : String → Precedence) (names : List String) (s : Session) : Prop :=
  ∀ n ∈ names, s.registry.precedenceOf n = some (f n)

variable {f : String → Precedence}

lemma isTagged_of_ranked {names : List String} {s : Session} {n : String} (h : Ranked f names s)
    (hn : n ∈ names) (tier : Tier) :
    (Session.surface lib).isTagged n tier s = true ↔ (f n).tier = tier := by
  have hp : (Session.surface lib).precedenceOf n s = some (f n) := h n hn
  unfold Surface.isTagged
  simp [hp]

lemma ends_classify_lays (f : String → Precedence) (names : List String)
    (s : Orchestration (Session × List (Observed Session))) :
    Act.Yields (classify (Session.surface lib).observed (fun _ => return true)
        (instantiateHook (Session.surface lib).observed) names) s
      (fun found t => ∃ created : List (Created Session), found.1 = created.map (·.candidate) ∧
        Lays lib s t created [] ∧
        ((∀ c ∈ created, c.Neutral) → Ranked f names s.registry.1 →
          created.map (·.candidate.name) = inTier f .priority names ∧
          found.2.1 = inTier f .ordered names ∧ found.2.2 = inTier f .untagged names)) := by
  apply classify_rule (P := fun _ _ => True) trivial
    fun s _ => ⟨[], rfl, .refl s, fun _ _ => ⟨rfl, rfl, rfl⟩⟩
  intro s name rest _
  have hself {s : Session} (hs : Ranked f (name :: rest) s) (tier : Tier) :=
    isTagged_of_ranked lib hs List.mem_cons_self tier
  refine Act.ends_pure (.isLetIn (fun hpriority => ?priority) (fun hpriority hordered => ?ordered)
    (fun hpriority hordered => ?untagged))
  case priority =>
    refine (ends_instantiateHook_lays lib name s).mono (fun c u ⟨hc, hu⟩ => ⟨trivial, ?_, fun _ _ => id⟩)
    intro _ t ⟨created, hfound, ht, hclass⟩
    refine ⟨⟨c, s.registry.1, u.registry.1⟩ :: created, congrArg (c :: ·) hfound, hu.trans ht,
      fun hn hs => ?_⟩
    obtain ⟨hn, hneutral⟩ := List.forall_mem_cons.1 hn
    have htier := (hself hs .priority).1 hpriority
    obtain ⟨h₁, h₂, h₃⟩ := hclass hneutral fun n hmem =>
      hu.retains (List.forall_mem_singleton.2 hn) n _ (hs n (List.mem_cons_of_mem _ hmem))
    rw [inTier_cons_self htier, inTier_cons_of_ne (by simp [htier]),
      inTier_cons_of_ne (by simp [htier])]
    exact ⟨congrArg₂ _ hc h₁, h₂, h₃⟩
  case ordered =>
    refine ⟨trivial, fun _ t ⟨created, hfound, ht, hclass⟩ => ?_, fun _ _ => id⟩
    refine ⟨created, hfound, ht, fun hn hs => ?_⟩
    have htier := (hself hs .ordered).1 hordered
    obtain ⟨h₁, h₂, h₃⟩ := hclass hn fun n hmem => hs n (List.mem_cons_of_mem _ hmem)
    rw [inTier_cons_self htier, inTier_cons_of_ne (by simp [htier]),
      inTier_cons_of_ne (by simp [htier])]
    exact ⟨h₁, congrArg _ h₂, h₃⟩
  case untagged =>
    refine ⟨trivial, fun _ t ⟨created, hfound, ht, hclass⟩ => ?_, fun _ _ => id⟩
    refine ⟨created, hfound, ht, fun hn hs => ?_⟩
    have hfirst := mt (hself hs .priority).2 hpriority
    have hsecond := mt (hself hs .ordered).2 hordered
    have htier : (f name).tier = .untagged := by
      cases h : (f name).tier <;> simp_all
    obtain ⟨h₁, h₂, h₃⟩ := hclass hn fun n hmem => hs n (List.mem_cons_of_mem _ hmem)
    rw [inTier_cons_of_ne hfirst, inTier_cons_of_ne hsecond, inTier_cons_self htier]
    exact ⟨h₁, h₂, congrArg _ h₃⟩

lemma ends_observed_addToPipeline (name : String) (e : Extension)
    (x : Session × List (Observed Session)) :
    Act.Yields ((Session.surface lib).observed.addToPipeline name e) x
      (fun _ y => x.1.registry.addToPipeline name e = .ok y.1.registry ∧ y.2 = x.2) := by
  have hadd : Act.Yields (Session.addToPipeline name e) x.1
      (fun _ t => x.1.registry.addToPipeline name e = .ok t.registry) := by
    apply Act.ends_get_bind
    cases hr : x.1.registry.addToPipeline name e with
    | error e => trivial
    | ok r => rfl
  exact Act.ends_insideAct hadd

lemma ends_observed_arm (target : Nat) (x : Session × List (Observed Session)) :
    Act.Yields ((Session.surface lib).observed.arm target) x
      (fun checker y => (checker.behaviour = .eligibilityChecker target ∧
        x.1.registry.addToPipeline eligibilityCheckerName checker = .ok y.1.registry) ∧ y.2 = x.2) := by
  apply Act.ends_lift_bind
  refine (ends_observed_addToPipeline lib _ _ _).bind (fun _ y ⟨hadd, hy⟩ => ?_)
  exact Act.ends_pure ⟨⟨rfl, hadd⟩, hy⟩

lemma ends_addToPipeline_lays (name : String) (e : Extension)
    (s : Orchestration (Session × List (Observed Session))) :
    Act.Yields (addToPipeline (Session.surface lib).observed name e) s
      (fun _ t => Lays lib s t [] [⟨name, e⟩]) :=
  (ends_attempt_unseen (ends_observed_addToPipeline lib name e s.registry)).mono
    (fun _ _ ⟨hadd, hsees⟩ => .of_add hadd hsees)

lemma ends_arm_lays (target : Nat) (g : RegistryError → BootstrapError)
    (s : Orchestration (Session × List (Observed Session))) :
    Act.Yields ((attempt ((Session.surface lib).observed.arm target)).adapt g) s
      (fun checker t => checker.behaviour = .eligibilityChecker target ∧
        Lays lib s t [] [⟨eligibilityCheckerName, checker⟩]) :=
  (ends_attempt_unseen (ends_observed_arm lib target s.registry)).mono
    (fun _ _ ⟨⟨hchecker, hadd⟩, hsees⟩ => ⟨hchecker, .of_add hadd hsees⟩)

lemma ends_enlist_lays (cs : List Candidate)
    (s : Orchestration (Session × List (Observed Session))) :
    Act.Yields (enlist (Session.surface lib).observed cs) s
      (fun _ t => Lays lib s t [] (cs.map Candidate.entry)) := by
  apply enlist_rule (P := fun _ _ => True) trivial fun s _ => .refl s
  intro s c rest _
  refine (ends_addToPipeline_lays lib c.name c.extension s).mono (fun _ u hu line => ?_)
  refine (ends_record_lays lib _ _ u).mono (fun _ v hv => ?_)
  exact ⟨trivial, fun _ _ ht => hu.trans (hv.trans ht), fun _ _ => id⟩

structure Ordered (f : String → Precedence) (names : List String) (hooks : List Candidate) :
    Prop where
  names_eq : hooks.map (·.name) = sortByPrecedence f names
  precedence_eq : ∀ c ∈ hooks, c.precedence = f c.name

omit lib in
lemma Ordered.of_tiers {names : List String} {priority ordered untagged : List Candidate}
    (hpriority : priority.map (·.name) = inTier f .priority names)
    (hordered : ordered.map (·.name) = inTier f .ordered names)
    (huntagged : untagged.map (·.name) = inTier f .untagged names)
    (h : ∀ c ∈ priority ++ (ordered ++ untagged), c.precedence = f c.name) :
    Ordered f names (sortByPrecedence (·.precedence) priority ++
      sortByPrecedence (·.precedence) ordered ++ untagged) := by
  rw [List.forall_mem_append, List.forall_mem_append] at h
  obtain ⟨h₁, h₂, h₃⟩ := h
  refine ⟨?_, ?_⟩
  · have hsort {l : List Candidate} (hl : ∀ c ∈ l, c.precedence = f c.name) :
        (sortByPrecedence (·.precedence) l).map (·.name) = sortByPrecedence f (l.map (·.name)) :=
      map_sortByPrecedence hl
    rw [sortByPrecedence_eq_tiers f names, List.map_append, List.map_append, hsort h₁, hsort h₂,
      hpriority, hordered, huntagged, List.append_assoc]
  · rw [List.forall_mem_append, List.forall_mem_append]
    exact ⟨⟨fun c hc => h₁ c ((sortByPrecedence_perm _ _).mem_iff.1 hc),
      fun c hc => h₂ c ((sortByPrecedence_perm _ _).mem_iff.1 hc)⟩, h₃⟩

omit lib in
lemma Ordered.sort_filter {names : List String} {hooks : List Candidate}
    (h : Ordered f names hooks) (m : Candidate → Bool) :
    sortByPrecedence (·.precedence) (hooks.filter m) = hooks.filter m := by
  have hpairwise := sortByPrecedence_pairwise f names
  rw [← h.names_eq, List.pairwise_map] at hpairwise
  refine sortByPrecedence_eq_self _ (.filter _ ?_)
  refine hpairwise.imp_of_mem fun {a b} ha hb hab => ?_
  rwa [h.precedence_eq a ha, h.precedence_eq b hb]

structure Assembly where
  created : List (Created Session)
  hooks : List Candidate
  checker : Extension

namespace Assembly

def merging (a : Assembly) : List Candidate :=
  sortByPrecedence (·.precedence) (a.hooks.filter (·.extension.behaviour.merge.isSome))

def mergeAware (a : Assembly) : List String :=
  ((a.created.map (·.candidate)).filter Candidate.isMergeAware).map (·.name)

def added (a : Assembly) : List PipelineEntry :=
  ⟨eligibilityCheckerName, a.checker⟩ :: (a.hooks ++ a.merging).map Candidate.entry

structure Makes (a : Assembly) (lib : Catalog) (f : String → Precedence) (names : List String)
    (s : Orchestration (Session × List (Observed Session))) (built : BuiltPipeline)
    (t : Orchestration (Session × List (Observed Session))) : Prop where
  pipeline_eq : built.pipeline = t.registry.1.registry.pipeline
  target_eq : built.target = s.registry.1.registry.pipeline.length + 1 + names.length
  checker_eq : a.checker.behaviour = .eligibilityChecker built.target
  registered_eq : built.registered = (a.hooks ++ a.merging).map (·.name)
  perm : a.hooks.Perm (a.created.map (·.candidate))
  lays : Lays lib s t a.created a.added
  ordered : (∀ c ∈ a.created, c.Neutral) → Ranked f names s.registry.1 → Ordered f names a.hooks

variable {a : Assembly} {names : List String} {built : BuiltPipeline}
  {s t : Orchestration (Session × List (Observed Session))}

lemma addAll_added {target : Nat} (hchecker : a.checker.behaviour = .eligibilityChecker target)
    (hmerging : a.merging = a.hooks.filter Candidate.isMergeAware)
    (hnodup : (eligibilityCheckerName :: a.hooks.map (·.name)).Nodup) (p : Pipeline) :
    p.addAll a.added = p.filter (·.name ∉ eligibilityCheckerName :: a.hooks.map (·.name)) ++
      ⟨eligibilityCheckerName, a.checker⟩ ::
        ((a.hooks.filter (!·.isMergeAware)).map Candidate.entry ++
          (a.hooks.filter Candidate.isMergeAware).map Candidate.entry) := by
  let again (e : PipelineEntry) : Bool := e.extension.behaviour.merge.isSome
  let l : Pipeline := ⟨eligibilityCheckerName, a.checker⟩ :: a.hooks.map Candidate.entry
  have hfirst : again ⟨eligibilityCheckerName, a.checker⟩ = false := by
    change a.checker.behaviour.merge.isSome = false
    rw [hchecker]
    rfl
  have hagain : l.filter again = (a.hooks.filter Candidate.isMergeAware).map Candidate.entry := by
    rw [List.filter_cons_of_neg (Bool.eq_false_iff.1 hfirst), List.filter_map]
    rfl
  have hothers : l.filter (!again ·) = ⟨eligibilityCheckerName, a.checker⟩ ::
      (a.hooks.filter (!·.isMergeAware)).map Candidate.entry := by
    rw [List.filter_cons_of_pos (Bool.not_eq_true' _ ▸ hfirst), List.filter_map]
    rfl
  have hnames : l.names = eligibilityCheckerName :: a.hooks.map (·.name) := by
    simp [l, Pipeline.names, Candidate.entry]
  have hadded : a.added = l ++ l.filter again := by
    rw [added, hmerging, List.map_append, hagain]
    rfl
  rw [← hnames] at hnodup ⊢
  rw [hadded, Pipeline.addAll_append, Pipeline.addAll_addAll_filter hnodup, hagain, hothers]
  rfl

lemma merging_eq (h : Ordered f names a.hooks) :
    a.merging = a.hooks.filter Candidate.isMergeAware := h.sort_filter _

lemma nodup_hooks (h : Ordered f names a.hooks)
    (hnodup : (eligibilityCheckerName :: names).Nodup) :
    (eligibilityCheckerName :: a.hooks.map (·.name)).Nodup := by
  rw [h.names_eq, ((sortByPrecedence_perm f names).cons _).nodup_iff]
  exact hnodup

namespace Makes

variable {lib}

variable (ha : a.Makes lib f names s built t)

include ha

lemma names_perm (h : Ordered f names a.hooks) :
    (a.created.map (·.candidate.name)).Perm names := by
  have hperm := (ha.perm.map (·.name)).symm
  rw [List.map_map, h.names_eq] at hperm
  exact hperm.trans (sortByPrecedence_perm _ _)

variable (h : Ordered f names a.hooks) (hnodup : (eligibilityCheckerName :: names).Nodup)

include h hnodup

lemma map_name_filter :
    (a.hooks.filter Candidate.isMergeAware).map (·.name) =
      (sortByPrecedence f names).filter (· ∈ a.mergeAware) ∧
    (a.hooks.filter (!·.isMergeAware)).map (·.name) =
      (sortByPrecedence f names).filter (· ∉ a.mergeAware) := by
  rw [← h.names_eq]
  exact Candidate.map_name_filter (List.nodup_cons.1 (nodup_hooks h hnodup)).2 _
    ((ha.perm.symm.filter _).map _)

lemma registered_names :
    built.registered = sortByPrecedence f names ++
      (sortByPrecedence f names).filter (· ∈ a.mergeAware) := by
  rw [ha.registered_eq, merging_eq h, List.map_append, (ha.map_name_filter h hnodup).1,
    h.names_eq]

variable (hneutral : ∀ c ∈ a.created, c.Neutral)

include hneutral

lemma pipeline_entries :
    built.pipeline = s.registry.1.registry.pipeline.filter
        (·.name ∉ eligibilityCheckerName :: a.hooks.map (·.name)) ++
      ⟨eligibilityCheckerName, a.checker⟩ ::
        ((a.hooks.filter (!·.isMergeAware)).map Candidate.entry ++
          (a.hooks.filter Candidate.isMergeAware).map Candidate.entry) := by
  rw [ha.pipeline_eq, ha.lays.pipeline_eq hneutral,
    addAll_added ha.checker_eq (merging_eq h) (nodup_hooks h hnodup)]

lemma pipeline_names :
    built.pipeline.names = s.registry.1.registry.pipeline.names.filter
        (· ∉ eligibilityCheckerName :: names) ++
      eligibilityCheckerName :: ((sortByPrecedence f names).filter (· ∉ a.mergeAware) ++
        (sortByPrecedence f names).filter (· ∈ a.mergeAware)) := by
  have hname (l : List Candidate) : (l.map Candidate.entry).map (·.name) = l.map (·.name) :=
    List.map_map
  have hmem (n : String) : n ∈ a.hooks.map (·.name) ↔ n ∈ names := by
    rw [h.names_eq, (sortByPrecedence_perm f names).mem_iff]
  obtain ⟨htail, hrest⟩ := ha.map_name_filter h hnodup
  rw [ha.pipeline_entries h hnodup hneutral, Pipeline.names, List.map_append, List.map_cons,
    List.map_append, hname, hname, htail, hrest, Pipeline.names, List.filter_map]
  congr 2
  apply List.filter_congr
  intro e _
  simp only [Function.comp_apply, List.mem_cons, hmem]

lemma entry_mem {c : Created Session} (hc : c ∈ a.created) :
    c.candidate.entry ∈ built.pipeline := by
  have hhook : c.candidate ∈ a.hooks := ha.perm.mem_iff.2 (List.mem_map_of_mem hc)
  rw [ha.pipeline_entries h hnodup hneutral]
  refine List.mem_append_right _ (List.mem_cons_of_mem _ (List.mem_append.2 ?_))
  cases haware : c.candidate.isMergeAware with
  | true => exact .inr (List.mem_map_of_mem (List.mem_filter.2 ⟨hhook, haware⟩))
  | false => exact .inl (List.mem_map_of_mem (List.mem_filter.2 ⟨hhook, by simp [haware]⟩))

end Makes

end Assembly

lemma ends_buildWith_lays (f : String → Precedence) (names : List String)
    (s : Orchestration (Session × List (Observed Session))) :
    Act.Yields (buildWith (Session.surface lib).observed names) s
      (fun built t => ∃ a : Assembly, a.Makes lib f names s built t) := by
  apply Act.ends_get_bind
  refine (ends_arm_lays lib _ _ s).bind (fun checker v ⟨hchecker, h₀⟩ => ?_)
  refine (ends_classify_lays lib f names v).bind (fun (found, orderedNames, untaggedNames) u
    ⟨priority, hfound, h₁, hclass⟩ => ?_)
  -- `h` gathers what all stages so far have laid
  have h := h₀.trans h₁
  refine (ends_enlist_lays lib _ u).bind (fun _ v h₁ => ?_)
  replace h := h.trans h₁
  refine (ends_instantiateAll_lays lib _ v).bind (fun ordered u
    ⟨createdO, hcreatedO, hordered, h₁⟩ => ?_)
  replace h := h.trans h₁
  refine (ends_enlist_lays lib _ u).bind (fun _ v h₁ => ?_)
  replace h := h.trans h₁
  refine (ends_instantiateAll_lays lib _ v).bind (fun untagged u
    ⟨createdU, hcreatedU, huntagged, h₁⟩ => ?_)
  replace h := h.trans h₁
  refine (ends_enlist_lays lib _ u).bind (fun _ v h₁ => ?_)
  replace h := h.trans h₁
  refine (ends_enlist_lays lib _ v).bind (fun _ u h₁ => ?_)
  replace h := h.trans h₁
  refine Act.ends_get_bind ((ends_record_lays lib _ _ u).bind (fun _ t ht => ?_))
  have hlast : t.registry.1.registry.pipeline = u.registry.1.registry.pipeline :=
    ht.pipeline_eq (by simp)
  replace h := h.trans ht
  rw [show found = priority.map (·.candidate) from hfound] at h ⊢
  subst hcreatedO hcreatedU
  refine Act.ends_pure ⟨⟨priority ++ (createdO ++ createdU), _, checker⟩, hlast.symm, rfl, hchecker,
    rfl, ?_, ?_, fun hn hs => ?_⟩
  · rw [List.map_append, List.map_append]
    refine List.Perm.trans (.of_eq (List.append_assoc _ _ _)) ?_
    exact (sortByPrecedence_perm _ _).append ((sortByPrecedence_perm _ _).append_right _)
  · simpa [Assembly.added, Assembly.merging] using h
  · -- no precedence changes, so the tiers read one by one are those of the start
    have hread := h.precedence_eq (by simpa using hn)
    obtain ⟨h₁, h₂, h₃⟩ := hclass (List.forall_mem_append.1 hn).1
      fun n hmem => h₀.retains (by simp) n _ (hs n hmem)
    replace hordered := hordered.trans h₂
    replace huntagged := huntagged.trans h₃
    refine .of_tiers (List.map_map.trans h₁) (List.map_map.trans hordered)
      (List.map_map.trans huntagged) ?_
    rw [← List.map_append, ← List.map_append]
    refine List.forall_mem_map.2 fun c hc => hread c (by simpa using hc) _ (hs _ ?_)
    have hnames : (priority ++ (createdO ++ createdU)).map (·.candidate.name) =
        inTier f .priority names ++ (inTier f .ordered names ++ inTier f .untagged names) := by
      simp [h₁, hordered, huntagged]
    have hmem := List.mem_map_of_mem (f := (·.candidate.name)) hc
    rw [hnames, List.mem_append, List.mem_append] at hmem
    rcases hmem with hmem | hmem | hmem <;> exact (List.mem_filter.1 hmem).1

lemma ends_buildPipeline_lays (f : String → Precedence)
    (s : Orchestration (Session × List (Observed Session))) :
    Act.Yields (buildPipeline (Session.surface lib).observed) s
      (fun built t => ∃ (u : Orchestration (Session × List (Observed Session))) (a : Assembly),
        a.Makes lib f (s.registry.1.pending s.invoker) u built t ∧ u.registry.1 = s.registry.1 ∧
        u.seen = s.seen ++ [.found .instanceHook (s.registry.1.registry.declaring .instanceHook)
          s.registry.1]) := by
  apply Act.ends_get_bind
  by_cases hbuilt : s.invoker.pipelineBuilt
  · rw [if_pos hbuilt]
    exact ends_ask_bind trivial
  · rw [if_neg hbuilt]
    refine Act.ends_modify_bind (ends_ask_bind ?_)
    exact (ends_buildWith_lays lib f _ _).mono
      (fun _ _ ⟨a, ha⟩ => ⟨_, a, ha, rfl, rfl⟩)

end Orchestration

variable {lib : Catalog}

namespace Session

def creations (lib : Catalog) (s : Session) (i : Invoker) : List (Created Session) :=
  (Orchestration.buildPipeline (surface lib).observed ⟨(s, []), i⟩).2.seen.filterMap
    Observed.created?

def precedence (s : Session) (name : String) : Precedence :=
  (s.registry.precedenceOf name).getD .untagged

def mergeAware (lib : Catalog) (s : Session) (i : Invoker) : List String :=
  (((s.creations lib i).map (·.candidate)).filter Candidate.isMergeAware).map (·.name)

lemma Reachable.precedenceOf_eq {s : Session} (hs : s.Reachable lib) {c : Capability} {n : String}
    (hn : n ∈ s.registry.declaring c) : s.registry.precedenceOf n = some (s.precedence n) := by
  have hr := hs.wellFormed.registry
  have hknown := hr.find?_isSome.2 ((hr.declaring_sublist c).subset hn)
  obtain ⟨d, hd⟩ := Option.isSome_iff_exists.1 hknown
  rw [precedence, Registry.precedenceOf, hd]
  rfl

lemma Reachable.ranked {s : Session} (hs : s.Reachable lib) (i : Invoker) :
    Orchestration.Ranked s.precedence (s.pending i) s :=
  fun _ hn => hs.precedenceOf_eq (List.mem_filter.1 hn).1

end Session

/-- The pipeline that a build leaves: what was there and is not replaced, the checker, and the hooks
by precedence, first those that are not merge-aware. -/
theorem build_orders_pipeline {s : Session} (hs : s.Reachable lib) (i : Invoker)
    (hneutral : ∀ c ∈ s.creations lib i, c.Neutral) {built : BuiltPipeline}
    {o : Orchestration Session}
    (h : Orchestration.buildPipeline (Session.surface lib) ⟨s, i⟩ = (.ok built, o)) :
    ∃ order, StablyOrders s.precedence (s.pending i) order ∧
    built.pipeline = o.registry.registry.pipeline ∧
    built.pipeline.names = s.registry.pipeline.names.filter (· ∉ s.expected i) ++
      eligibilityCheckerName :: (order.filter (· ∉ s.mergeAware lib i) ++
        order.filter (· ∈ s.mergeAware lib i)) ∧
    built.registered = order ++ order.filter (· ∈ s.mergeAware lib i) ∧
    built.target = s.registry.pipeline.length + 1 + (s.pending i).length ∧
    built.pipeline.names.Nodup ∧
    ((s.creations lib i).map (·.candidate.name)).Perm (s.pending i) ∧
    ∀ c ∈ s.creations lib i, (Observed.created c).Faithful (Session.surface lib) ∧
      c.candidate.entry ∈ built.pipeline := by
  have herase := Orchestration.buildPipeline_observed (Session.surface lib) ⟨(s, []), i⟩
  rcases hrun : Orchestration.buildPipeline (Session.surface lib).observed ⟨(s, []), i⟩ with ⟨r, t⟩
  rw [hrun] at herase
  obtain ⟨rfl, rfl⟩ := Prod.mk.inj (h.symm.trans herase)
  obtain ⟨u, a, ha, hu, hseen⟩ :=
    (Orchestration.ends_buildPipeline_lays lib s.precedence ⟨(s, []), i⟩).ok hrun
  have hcreations : s.creations lib i = a.created := by
    rw [Session.creations, hrun, ha.lays.sees.seen, hseen]
    exact Observed.filterMap_created?_created _
  rw [hcreations] at hneutral ⊢
  have hs' : u.registry.1 = s := hu
  have hordered : Orchestration.Ordered s.precedence (s.pending i) a.hooks := by
    apply ha.ordered hneutral
    rw [hs']
    exact hs.ranked i
  have haware : s.mergeAware lib i = a.mergeAware := by
    rw [Session.mergeAware, hcreations]
    rfl
  have hnodup := hs.expected_nodup i
  have hdistinct : built.pipeline.names.Nodup := by
    rw [ha.pipeline_eq, ha.lays.pipeline_eq hneutral, hs']
    exact Pipeline.nodup_addAll hs.wellFormed.registry.pipeline_nodup
  have hnames := ha.pipeline_names hordered hnodup hneutral
  have htarget := ha.target_eq
  rw [hs'] at hnames htarget
  rw [haware]
  exact ⟨_, stablyOrders_sortByPrecedence _ _, ha.pipeline_eq, hnames,
    ha.registered_names hordered hnodup, htarget, hdistinct, ha.names_perm hordered, fun c hc => ⟨ha.lays.sees.faithful _ (List.mem_map_of_mem hc),
      ha.entry_mem hordered hnodup hneutral hc⟩⟩

def Blueprint.hook (name : String) (precedence : Precedence) (entry : Nat) : Blueprint :=
  { (default : Blueprint) with
    name
    capabilities := .ofList [.instanceHook]
    precedence
    factory := ⟨[], .fresh (.extension entry)⟩ }

def Catalog.merging : Catalog where
  typeNames := ⟨"", "", "", "", "", "", ""⟩
  blueprints := [.hook "old" .untagged 0, .hook "merging" (.priority 1) 1,
    .hook "first" (.priority 0) 0, .hook "ordered" (.ordered 0) 0]
  extensions := [.scripted none ⟨none, none, some .silent, none, none⟩,
    .scripted none ⟨none, none, some .silent, some [], none⟩]

def Session.merging : Session :=
  after .merging (⟨.query (.addToPipeline "old" 0), false⟩ ::
    ⟨.query (.addToPipeline "kept" 0), false⟩ ::
    [0, 1, 2, 3].map fun entry => ⟨.edit (.register entry), false⟩)

theorem merging_in_order : ∃ (built : BuiltPipeline) (o : Orchestration Session),
    Orchestration.buildPipeline (Session.surface .merging) ⟨.merging, .new ""⟩ = (.ok built, o) ∧
    built.pipeline.names =
      ["kept", eligibilityCheckerName, "first", "ordered", "old", "merging"] ∧
    built.registered = ["first", "merging", "ordered", "old", "merging"] := by
  have hreachable : Session.merging.Reachable .merging := Session.after_reachable _ _
  have hunchanged : ∀ c ∈ Session.merging.creations .merging (.new ""),
      c.after.registry.pipeline = c.before.registry.pipeline ∧
      c.after.registry.definitions = c.before.registry.definitions := by decide +kernel
  have hok : (Orchestration.buildPipeline (Session.surface .merging)
      ⟨.merging, .new ""⟩).1.isOk = true := by decide +kernel
  rcases hrun : Orchestration.buildPipeline (Session.surface .merging) ⟨.merging, .new ""⟩
    with ⟨_ | built, o⟩
  · rw [hrun] at hok
    cases hok
  obtain ⟨order, horder, -, hnames, hregistered, -⟩ := build_orders_pipeline hreachable (.new "")
    (fun c hc => .of_eq (hunchanged c hc).1 (hunchanged c hc).2) hrun
  rw [horder.eq_sortByPrecedence] at hnames hregistered
  refine ⟨built, o, rfl, hnames.trans ?_, hregistered.trans ?_⟩
  · decide +kernel
  · decide +kernel

end ComponentContainer
