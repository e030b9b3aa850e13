import ComponentContainer.Proofs.Eligibility
import ComponentContainer.Proofs.Orchestration.Rules
import ComponentContainer.Proofs.Orchestration.Traversal

/-! The length of the pipeline that a build makes, and the target of the checker in it. The target
counts every name that the build is to add, and the pipeline grows by those that are new to it. -/

namespace ComponentContainer

structure Session.Grows (lib : Catalog) (s t : Session) (names : List String) : Prop where
  path : s.Path lib Extension.Unarmed t
  names_subset : names ⊆ t.registry.pipeline.names

namespace Session.Grows

variable {lib : Catalog} {s t u : Session} {names names' : List String}

lemma of_path (h : s.Path lib Extension.Unarmed t) : s.Grows lib t [] :=
  ⟨h, List.nil_subset _⟩

lemma trans (h : s.Grows lib u names) (h' : u.Grows lib t names') :
    s.Grows lib t (names ++ names') := by
  refine ⟨h.path.trans h'.path, List.append_subset.2 ⟨?_, h'.names_subset⟩⟩
  exact List.Subset.trans h.names_subset h'.path.pipeline_names_subset

lemma subset (h : s.Grows lib t names) (hsub : names' ⊆ names) : s.Grows lib t names' :=
  ⟨h.path, List.Subset.trans hsub h.names_subset⟩

lemma of_add {name : String} {e : Extension}
    (h : s.registry.addToPipeline name e = .ok t.registry)
    (hpath : s.Path lib Extension.Unarmed t) : s.Grows lib t [name] := by
  obtain ⟨-, ht⟩ := Registry.addToPipeline_eq_ok h
  refine ⟨hpath, List.cons_subset.2 ⟨?_, List.nil_subset _⟩⟩
  rw [ht]
  exact Pipeline.mem_names_add.2 (.inr rfl)

end Session.Grows

namespace Orchestration

section

variable {σ ε ε' α β : Type} (S : Surface σ) {o : Orchestration σ}

lemma ends_attempt_registry {m : Act σ ε α} {g : ε → ε'} {Q : α → σ → Prop} {E : ε → σ → Prop}
    (h : Act.Ends m o.registry Q E) :
    Act.Yields ((attempt m).adapt g) o (fun a t => Q a t.registry) := by
  refine Act.Yields.adapt (Act.ends_of (fun a t ht => ?_) fun _ _ _ => trivial)
  have hresult := congrArg Prod.fst ht
  have hregistry := congrArg (·.2.registry) ht
  exact h.ok (Prod.ext hresult hregistry)

lemma ends_ask_bind {x : StateM σ α} {f : α → Act (Orchestration σ) ε β}
    {Q : β → Orchestration σ → Prop} {E : ε → Orchestration σ → Prop}
    (h : Act.Ends (f (x o.registry).1) { o with registry := (x o.registry).2 } Q E) :
    Act.Ends (ask x >>= f) o Q E := h

lemma ends_instantiateHook_name (name : String) (o : Orchestration σ) :
    Act.Yields (instantiateHook S name) o (fun c _ => c.name = name) := by
  have hname : Act.Yields (instantiate S .pipelineRegistration name) o (fun c _ => c.name = name) :=
    Act.ends_true.bind (fun _ _ _ => Act.ends_get_bind rfl)
  refine hname.bind (fun c t hc => ?_)
  split
  · exact hc
  · trivial

variable {create : String → Act (Orchestration σ) BootstrapError Candidate}
  (hcreate : ∀ name o, Act.Yields (create name) o fun c _ => c.name = name)

include hcreate

lemma ends_instantiateAll_names (names : List String) (o : Orchestration σ) :
    Act.Yields (instantiateAll create names) o (fun cs _ => cs.map (·.name) = names) := by
  apply instantiateAll_rule (P := fun _ _ => True) trivial fun _ _ => List.map_nil
  intro o name rest _
  refine (hcreate name o).mono (fun c u hc => ⟨trivial, fun cs t hcs => ?_, fun _ _ => id⟩)
  rw [List.map_cons, hc, hcs]

lemma ends_classify_names (names : List String) (o : Orchestration σ) :
    Act.Yields (classify S (fun _ => return true) create names) o
      (fun (priority, ordered, untagged) _ =>
        names.Perm (priority.map (·.name) ++ (ordered ++ untagged))) := by
  apply classify_rule (P := fun _ _ => True) trivial fun _ _ => .refl _
  intro o name rest _
  refine Act.ends_pure (.isLetIn (fun _ => ?_) (fun _ _ => ?_) (fun _ _ => ?_))
  · refine (hcreate name o).mono (fun c u hc => ⟨trivial, fun (priority, ordered, untagged) t ht => ?_,
      fun _ _ => id⟩)
    change (name :: rest).Perm ((c :: priority).map (·.name) ++ (ordered ++ untagged))
    rw [List.map_cons, hc]
    exact ht.cons name
  · refine ⟨trivial, fun (priority, ordered, untagged) t ht => ?_, fun _ _ => id⟩
    exact (ht.cons name).trans List.perm_middle.symm
  · refine ⟨trivial, fun (priority, ordered, untagged) t ht => (ht.cons name).trans ?_, fun _ _ => id⟩
    rw [← List.append_assoc, ← List.append_assoc]
    exact List.perm_middle.symm

end

variable (lib : Catalog)

lemma ends_addToPipeline {name : String} {e : Extension} (he : e.Unarmed) (s : Session) :
    Act.Yields (Session.addToPipeline name e) s (fun _ t => s.Grows lib t [name]) := by
  apply Act.ends_get_bind
  cases hr : s.registry.addToPipeline name e with
  | error e => trivial
  | ok r =>
    have hadd : s.Path lib Extension.Unarmed { s with registry := r } :=
      .single (.registry (.addToPipeline name e he hr))
    exact Session.Grows.of_add hr (hadd.trans (Session.record_leads _ _ _).path)

lemma ends_enlist (cs : List Candidate) (hcs : ∀ c ∈ cs, c.extension.Unarmed)
    (o : Orchestration Session) :
    Act.Yields (enlist (Session.surface lib) cs) o
      (fun _ t => o.registry.Grows lib t.registry (cs.map (·.name))) := by
  apply enlist_rule (P := fun _ cs => ∀ c ∈ cs, c.extension.Unarmed) hcs fun _ _ => .of_path .refl
  intro o c rest hcs
  obtain ⟨hc, hrest⟩ := List.forall_mem_cons.1 hcs
  refine (ends_attempt_registry (ends_addToPipeline lib hc o.registry)).mono (fun _ u hu line => ?_)
  refine ⟨hrest, fun _ t ht => ?_, fun _ _ => id⟩
  exact hu.trans ((Session.Grows.of_path (Session.record_leads _ _ _).path).trans ht)

lemma ends_createAll (names : List String) {o : Orchestration Session}
    (ho : o.registry.registry.Held Extension.Unarmed) :
    Act.Yields (instantiateAll (instantiateHook (Session.surface lib)) names) o
      (fun cs t => cs.map (·.name) = names ∧ (∀ c ∈ cs, c.extension.Unarmed) ∧
        o.registry.Grows lib t.registry []) := by
  have hnames := ends_instantiateAll_names (ends_instantiateHook_name (Session.surface lib)) names o
  have hS := (Session.passage_leads.surface_simulates (unarmed_of_catalog lib) ho).toSimulates
  have hpath := Session.passage_leads.ends_of_simulates (instantiateAll_simulates
    (fun _ => instantiateHook_simulates hS) fun n (_ : n ∈ names) => trivial) o.invoker
  exact (hnames.and hpath).mono (fun _ _ ⟨hcs, hunarmed, ht⟩ =>
    ⟨hcs, fun c hc => (List.forall₂_same.1 hunarmed c hc).2, .of_path ht.path⟩) (fun _ _ _ => trivial)

lemma ends_classifyAll (names : List String) {o : Orchestration Session}
    (ho : o.registry.registry.Held Extension.Unarmed) :
    Act.Yields (classify (Session.surface lib) (fun _ => return true)
        (instantiateHook (Session.surface lib)) names) o
      (fun found t => names.Perm (found.1.map (·.name) ++ (found.2.1 ++ found.2.2)) ∧
        (∀ c ∈ found.1, c.extension.Unarmed) ∧ o.registry.Grows lib t.registry []) := by
  have hS := (Session.passage_leads.surface_simulates (unarmed_of_catalog lib) ho).toSimulates
  have hnames := ends_classify_names (Session.surface lib)
    (ends_instantiateHook_name (Session.surface lib)) names o
  have hpath := Session.passage_leads.ends_of_simulates (classify_simulates hS
    (fun _ => Act.matches_pure true) (fun _ => instantiateHook_simulates hS)
    fun n (_ : n ∈ names) => trivial) o.invoker
  exact (hnames.and hpath).mono (fun _ _ ⟨hperm, ⟨hunarmed, _⟩, ht⟩ =>
    ⟨hperm, fun c hc => (List.forall₂_same.1 hunarmed c hc).2, .of_path ht.path⟩)
    (fun _ _ _ => trivial)

structure Built (lib : Catalog) (s : Session) (names : List String) (built : BuiltPipeline)
    (t : Session) : Prop where
  grows : s.Grows lib t (eligibilityCheckerName :: names)
  pipeline_eq : built.pipeline = t.registry.pipeline
  target_eq : built.target = s.registry.pipeline.length + 1 + names.length
  registered_subset : built.registered ⊆ names
  armed : t.Armed built.checker built.target

lemma ends_buildWith (names : List String) {o : Orchestration Session}
    (hwf : o.registry.WellFormed) (ho : o.registry.registry.Held Extension.Unarmed) :
    Act.Yields (buildWith (Session.surface lib) names) o
      (fun built t => Built lib o.registry names built t.registry) := by
  have hsort {cs : List Candidate} (h : ∀ c ∈ cs, c.extension.Unarmed) :
      ∀ c ∈ sortByPrecedence (·.precedence) cs, c.extension.Unarmed :=
    fun c hc => h c ((sortByPrecedence_perm _ cs).mem_iff.1 hc)
  have hnames (cs : List Candidate) :
      ((sortByPrecedence (·.precedence) cs).map (·.name)).Perm (cs.map (·.name)) :=
    (sortByPrecedence_perm _ cs).map _
  apply Act.ends_get_bind
  refine (ends_attempt_registry
    (Session.passage_leads.ends_arm (P := Extension.Unarmed) _ o.registry)).bind
      (fun checker u ⟨hchecker, hadd, hstamp, hleads⟩ => ?_)
  have hpath := hleads.path
  have harmed := hwf.armed (hchecker ▸ hadd) rfl hstamp
  have hu := hpath.held ho
  refine (ends_classifyAll lib names hu).bind
    (fun (found, orderedNames, untaggedNames) v ⟨hperm, hfound, h₁⟩ => ?_)
  refine (ends_enlist lib _ (hsort hfound) v).bind (fun _ v h₂ => ?_)
  have h₂ := h₁.trans h₂
  refine (ends_createAll lib _ (h₂.path.held hu)).bind
    (fun ordered v ⟨hordered, hsecond, h₃⟩ => ?_)
  refine (ends_enlist lib _ (hsort hsecond) v).bind (fun _ v h₄ => ?_)
  have h₄ := h₂.trans (h₃.trans h₄)
  refine (ends_createAll lib _ (h₄.path.held hu)).bind
    (fun untagged v ⟨huntagged, hthird, h₅⟩ => ?_)
  refine (ends_enlist lib _ hthird v).bind (fun _ v h₆ => ?_)
  have h₆ := h₄.trans (h₅.trans h₆)
  refine (ends_enlist lib _ (hsort fun c hc => ?_) v).bind (fun _ t h₇ => ?_)
  · rcases List.mem_append.1 (List.mem_filter.1 hc).1 with hc | hc
    · rcases List.mem_append.1 hc with hc | hc
      · exact hsort hfound c hc
      · exact hsort hsecond c hc
    · exact hthird c hc
  refine Act.ends_get_bind (ends_ask_bind (Act.ends_pure ?_))
  have hend (line : String) := h₆.trans (h₇.trans (.of_path (Session.record_leads .info line _).path))
  have hmem (n : String) : n ∈ names ↔
      n ∈ (sortByPrecedence (·.precedence) found ++ sortByPrecedence (·.precedence) ordered ++
        untagged).map (·.name) := by
    rw [hperm.mem_iff, List.map_append, List.map_append, List.append_assoc, List.mem_append,
      List.mem_append, List.mem_append, List.mem_append, (hnames found).mem_iff,
      (hnames ordered).mem_iff, hordered, huntagged]
  refine ⟨((Session.Grows.of_add hadd hpath).trans (hend _)).subset fun n hn => ?_, rfl, rfl,
    fun n hn => ?_, hchecker ▸ (hend _).path.armed harmed⟩
  · rcases List.mem_cons.1 hn with rfl | hn
    · simp
    have hn := (hmem n).1 hn
    simp only [List.map_append, List.nil_append, List.mem_append] at hn ⊢
    tauto
  · -- the merge-aware ones are some of those that were added before
    rcases List.mem_map.1 hn with ⟨c, hc, rfl⟩
    rcases List.mem_append.1 hc with hc | hc
    · exact (hmem _).2 (List.mem_map_of_mem hc)
    · have hc := (sortByPrecedence_perm _ _).mem_iff.1 hc
      exact (hmem _).2 (List.mem_map_of_mem (List.mem_filter.1 hc).1)

lemma ends_buildPipeline {o : Orchestration Session} (hwf : o.registry.WellFormed)
    (ho : o.registry.registry.Held Extension.Unarmed) :
    Act.Yields (buildPipeline (Session.surface lib)) o
      (fun built t => Built lib o.registry ((o.registry.registry.declaring .instanceHook).filter
        (· ∉ o.invoker.processed)) built t.registry) := by
  apply Act.ends_get_bind
  by_cases hbuilt : o.invoker.pipelineBuilt
  · rw [if_pos hbuilt]
    exact ends_ask_bind trivial
  · rw [if_neg hbuilt]
    exact Act.ends_modify_bind (ends_ask_bind (ends_buildWith lib _ hwf ho))

end Orchestration

def Session.expected (s : Session) (i : Invoker) : List String :=
  eligibilityCheckerName :: (s.registry.declaring .instanceHook).filter (· ∉ i.processed)

def Session.replaced (s : Session) (i : Invoker) : List String :=
  (s.expected i).filter (· ∈ s.registry.pipeline.names)

/-- The names that factories have put into the pipeline during the build. -/
def BuiltPipeline.foreign (built : BuiltPipeline) (s : Session) (i : Invoker) : List String :=
  built.pipeline.names.filter fun n => n ∉ s.registry.pipeline.names ∧ n ∉ s.expected i

variable {lib : Catalog}

lemma Session.Reachable.expected_nodup {s : Session} (hs : s.Reachable lib) (i : Invoker) :
    (s.expected i).Nodup := by
  have hr := hs.wellFormed.registry
  refine List.nodup_cons.2 ⟨fun hchecker => ?_, (hr.declaring_nodup _).filter _⟩
  have hname := (hr.declaring_sublist _).subset (List.mem_filter.1 hchecker).1
  exact absurd (hr.definable _ hname) (by decide)

/-- When a build reaches its target. The pipeline misses it by the names that were replaced, less
those that are foreign. The checker is settled where it does not, and then it has no more to report,
however the session goes on. -/
theorem build_settles_iff {s : Session} (hs : s.Reachable lib) (i : Invoker)
    {built : BuiltPipeline} {o : Orchestration Session}
    (h : Orchestration.buildPipeline (Session.surface lib) ⟨s, i⟩ = (.ok built, o)) :
    built.pipeline = o.registry.registry.pipeline ∧
    built.pipeline.length + (s.replaced i).length = built.target + (built.foreign s i).length ∧
    (EligibilityState.of built.target built.pipeline.length = .settled ↔
      (s.replaced i).length ≤ (built.foreign s i).length) ∧
    (EligibilityState.of built.target built.pipeline.length = .settled →
      ∀ t, o.registry.Path lib Extension.Unarmed t →
        t.reportsOf built.checker = o.registry.reportsOf built.checker) ∧
    (built.pipeline.length = built.target ↔
      (s.replaced i).length = (built.foreign s i).length) := by
  obtain ⟨hgrows, hpipeline, htarget, -, harmed⟩ :=
    (Orchestration.ends_buildPipeline lib hs.wellFormed hs.held).ok h
  have hwf := hgrows.path.wellFormed hs.wellFormed
  have hcount := length_add_length_present hs.wellFormed.registry.pipeline_nodup
    hwf.registry.pipeline_nodup (hs.expected_nodup i) hgrows.path.pipeline_names_subset
    hgrows.names_subset
  rw [Pipeline.length_names, Pipeline.length_names, ← hpipeline] at hcount
  have hlength : built.pipeline.length + (s.replaced i).length =
      built.target + (built.foreign s i).length := by
    rw [htarget, Nat.add_assoc _ 1, Nat.add_comm 1]
    exact hcount
  refine ⟨hpipeline, hlength, ?_, fun hsettled t ht => ?_, ?_⟩
  · rw [EligibilityState.of_eq_settled]
    omega
  · rw [EligibilityState.of_eq_settled, hpipeline] at hsettled
    exact ht.reportsOf_eq hwf harmed hsettled
  · omega

def Catalog.hooked : Catalog where
  typeNames := ⟨"", "", "", "", "", "", ""⟩
  blueprints := [
    { (default : Blueprint) with
      name := "h"
      capabilities := .ofList [.instanceHook]
      factory := ⟨[], .fresh (.extension 0)⟩ },
    { (default : Blueprint) with name := "a" }]
  extensions := [.scripted none ⟨none, none, some .silent, none, none⟩]

def Session.buildHooked (s : Session) :
    Except BootstrapError BuiltPipeline × Orchestration Session :=
  Orchestration.buildPipeline (surface .hooked) ⟨s, .new ""⟩

def Session.hooked : Session := after .hooked [⟨.edit (.register 0), false⟩]

theorem hooked_settles : ∃ (built : BuiltPipeline) (o : Orchestration Session),
    Session.hooked.buildHooked = (.ok built, o) ∧ built.pipeline.length = built.target ∧
      EligibilityState.of built.target built.pipeline.length = .settled := by
  have hok : Session.hooked.buildHooked.1.map (fun built => (Session.hooked.replaced (.new ""),
      built.foreign Session.hooked (.new ""))) = .ok ([], []) := by decide +kernel
  have hreachable : Session.hooked.Reachable .hooked := Session.after_reachable _ _
  rcases hrun : Session.hooked.buildHooked with ⟨_ | built, o⟩
  · rw [hrun] at hok
    cases hok
  · rw [hrun] at hok
    obtain ⟨hreplaced, hforeign⟩ := Prod.mk.inj (Except.ok.inj hok)
    obtain ⟨-, -, hsettled, -, hreached⟩ := build_settles_iff hreachable (.new "") hrun
    rw [hreplaced, hforeign] at hsettled hreached
    exact ⟨built, o, rfl, hreached.2 rfl, hsettled.2 (Nat.le_refl 0)⟩

def Session.colliding : Session :=
  after .hooked [⟨.query (.addToPipeline "h" 0), false⟩, ⟨.edit (.register 0), false⟩,
    ⟨.edit (.register 1), false⟩]

theorem colliding_never_settles : Session.colliding.Reachable .hooked ∧
    ∃ (built : BuiltPipeline) (o : Orchestration Session) (t : Session),
      Session.colliding.buildHooked = (.ok built, o) ∧ built.pipeline.length ≠ built.target ∧
      o.registry.Path .hooked Extension.Unarmed t ∧ o.registry.reportsOf built.checker = [] ∧
      (t.reportsOf built.checker).map (·.name) = ["a"] := by
  have hreachable : Session.colliding.Reachable .hooked := Session.after_reachable _ _
  have hok : Session.colliding.buildHooked.1.map (fun built =>
      (built.pipeline.length, built.target, built.checker)) = .ok (2, 3, 4) := by decide +kernel
  have hbefore : Session.colliding.buildHooked.2.registry.reportsOf 4 = [] := by decide +kernel
  have hafter : ((Session.perform .hooked (.inspect (.get "a"))
      Session.colliding.buildHooked.2.registry).2.reportsOf 4).map (·.name) = ["a"] := by
    decide +kernel
  rcases hrun : Session.colliding.buildHooked with ⟨_ | built, o⟩
  · rw [hrun] at hok
    cases hok
  rw [hrun] at hok hbefore hafter
  obtain ⟨hlength, htarget, hchecker⟩ : built.pipeline.length = 2 ∧ built.target = 3 ∧
      built.checker = 4 := by simpa [Except.map] using hok
  have hbuilt : Session.colliding.Path .hooked Extension.Unarmed o.registry :=
    (Session.buildPipeline_stays (unarmed_of_catalog _) hreachable.held (.new "")).ok hrun
  have hpath := (Session.perform_walks (unarmed_of_catalog .hooked) (.inspect (.get "a"))).path
    (hbuilt.held hreachable.held)
  refine ⟨hreachable, built, o, _, rfl, ?_, hpath, ?_, ?_⟩
  · omega
  · rw [hchecker]
    exact hbefore
  · rw [hchecker]
    exact hafter

end ComponentContainer
