import ComponentContainer.Proofs.Orchestration.Faults
import ComponentContainer.Proofs.Orchestration.PipelineTarget
import ComponentContainer.Proofs.Transcript.Reports

/-! When the checker of a build reports one of the hooks that the build has registered. What is taken
into the pipeline answers for the capability of instance hooks, and merge-aware extensions do so without
being hooks themselves; the checker spares hooks alone. -/

namespace ComponentContainer

lemma Behaviour.hook_or_merge_of_mem_capabilities {b : Behaviour}
    (h : Capability.instanceHook ∈ b.capabilities) :
    b.isInstanceHook = true ∨ b.merge.isSome = true := by
  obtain ⟨c, hc, himplied⟩ := CapabilitySet.mem_ofList.1 h
  have hc := (List.mem_filter.1 hc).2
  rcases himplied with rfl | himplied
  · exact .inl hc
  · cases c <;> cases himplied
    exact .inr hc

namespace Transcript

variable {lib : Catalog} {t t' : Transcript} {checker : Nat} {n : String} {r : Report} {m : Moment}
  {later earlier ms : List Moment}

def Reported (lib : Catalog) (checker : Nat) (r : Report) (m : Moment) (earlier : List Moment) :
    Prop :=
  ∃ n d made v target i, Ending lib m earlier n d made v ∧
    Creation.Inspects lib checker target n d made v i ∧
    Ineligible target (Creation.context n d v) i ∧
    r = Report.of lib checker target (Creation.context n d v) i

lemma Judged.grows (h : Judged lib checker m earlier) : ∃ added,
    m.session.reportsOf checker = (latest earlier).reportsOf checker ++ added ∧
      ∀ r ∈ added, Reported lib checker r m earlier := by
  have hnone : ∀ r ∈ ([] : List Report), Reported lib checker r m earlier :=
    fun r hr => absurd hr List.not_mem_nil
  by_cases hended : ∃ n a, m.occurrence = .ended n a
  · obtain ⟨n, a, hended⟩ := hended
    obtain ⟨d, made, v, hending, hv, hverdict⟩ := h.ended n a hended
    rw [← hv]
    by_cases hdue : ∃ target i, Creation.Inspects lib checker target n d made v i ∧
        Ineligible target (Creation.context n d v) i
    · obtain ⟨target, i, hi, hineligible⟩ := hdue
      refine ⟨_, hverdict.reported target i hi hineligible, fun r hr => ?_⟩
      exact ⟨n, d, made, v, target, i, hending, hi, hineligible, List.mem_singleton.1 hr⟩
    · refine ⟨[], ?_, hnone⟩
      rw [hverdict.spared fun target i hi hineligible => hdue ⟨target, i, hi, hineligible⟩,
        List.append_nil]
  · refine ⟨[], ?_, hnone⟩
    rw [h.kept fun n a ha => hended ⟨n, a, ha⟩, List.append_nil]

lemma Path.mem_latest_iff (h : Path lib Extension.Unarmed empty t) (hm : t.moments = later ++ ms) :
    r ∈ (latest ms).reportsOf checker ↔
      ∃ after m earlier, ms = after ++ m :: earlier ∧ Reported lib checker r m earlier := by
  induction ms generalizing later with
  | nil =>
    refine ⟨fun hr => absurd hr List.not_mem_nil, ?_⟩
    rintro ⟨after, m, earlier, hsplit, -⟩
    cases List.append_ne_nil_of_right_ne_nil after (List.cons_ne_nil m earlier) hsplit.symm
  | cons m earlier ih =>
    obtain ⟨added, hadded, hreported⟩ := (h.judged hm checker).grows
    have ih := ih (hm.trans (List.append_cons later m earlier))
    change r ∈ m.session.reportsOf checker ↔ _
    constructor
    · intro hr
      rw [hadded] at hr
      rcases List.mem_append.1 hr with hr | hr
      · obtain ⟨after, x, before, rfl, hx⟩ := ih.1 hr
        exact ⟨m :: after, x, before, rfl, hx⟩
      · exact ⟨[], m, earlier, rfl, hreported r hr⟩
    · rintro ⟨after, x, before, hsplit, hx⟩
      rcases List.cons_eq_append_iff.1 hsplit with ⟨-, hfirst⟩ | ⟨after, rfl, hrest⟩
      · obtain ⟨rfl, rfl⟩ := List.cons.inj hfirst
        obtain ⟨n, d, made, v, target, i, hending, hi, hineligible, rfl⟩ := hx
        rw [(hending.verdict h hm checker).reported target i hi hineligible]
        exact List.mem_append_right _ List.mem_cons_self
      · rw [hadded]
        exact List.mem_append_left _ (ih.2 ⟨after, x, before, hrest, hx⟩)

lemma Path.mem_reportsOf_iff (h : Path lib Extension.Unarmed empty t) :
    r ∈ t.session.reportsOf checker ↔
      ∃ later m earlier, t.moments = later ++ m :: earlier ∧ Reported lib checker r m earlier := by
  rw [Session.reportsOf_congr h.reports_eq checker]
  exact h.mem_latest_iff (List.nil_append _).symm

/-- A name that a build has registered is in the pipeline, with an extension that is a hook or
merge-aware. However the course goes on, the checker of the build reports the name exactly if it had to
at the end of one of its creations: an instance came to the checker that is no hook, for a component
that is not infrastructure and with the pipeline below the target. -/
theorem Course.registered_reported_iff (h : Course lib empty t) (i : Invoker)
    {built : BuiltPipeline} {o : Orchestration Session}
    (hbuild : Orchestration.buildPipeline (Session.surface lib) ⟨t.session, i⟩ = (.ok built, o))
    (h' : Course lib (afterBuild lib i t) t') (hn : n ∈ built.registered) :
    (∃ e, ⟨n, e⟩ ∈ built.pipeline ∧
      (e.behaviour.isInstanceHook = true ∨ e.behaviour.merge.isSome = true)) ∧
    ((∃ r ∈ t'.session.reportsOf built.checker, r.name = n) ↔
      ∃ later m earlier d made v target j, t'.moments = later ++ m :: earlier ∧
        Ending lib m earlier n d made v ∧
        Creation.Inspects lib built.checker target n d made v j ∧
        Ineligible target (Creation.context n d v) j) := by
  obtain ⟨hpath, hsound⟩ := h.path sound_empty
  have hcourse : Course lib empty t' := (h.tail (.buildPipeline i)).trans h'
  constructor
  · have hreachable : t.session.Reachable lib := hpath.reachable
    obtain ⟨hgrows, hpipeline, -, hregistered, -⟩ :=
      (Orchestration.ends_buildPipeline lib hreachable.wellFormed hreachable.held).ok hbuild
    have hname := hgrows.names_subset (List.mem_cons_of_mem _ (hregistered hn))
    obtain ⟨entry, hentry, rfl⟩ := List.mem_map.1 hname
    have hend : o.registry.Reachable lib := hreachable.trans hgrows.path
    exact ⟨entry.extension, hpipeline ▸ hentry,
      Behaviour.hook_or_merge_of_mem_capabilities (hend.accepted entry hentry)⟩
  · constructor
    · rintro ⟨r, hr, rfl⟩
      obtain ⟨later, m, earlier, hm, n, d, made, v, target, j, hending, hj, hineligible, rfl⟩ :=
        (hcourse.path sound_empty).1.mem_reportsOf_iff.1 hr
      exact ⟨later, m, earlier, d, made, v, target, j, hm, hending, hj, hineligible⟩
    · rintro ⟨later, m, earlier, d, made, v, target, j, hm, hending, hj, hineligible⟩
      refine ⟨_, (hcourse.path sound_empty).1.mem_reportsOf_iff.2
        ⟨later, m, earlier, hm, n, d, made, v, target, j, hending, hj, hineligible, rfl⟩, rfl⟩

end Transcript

def Catalog.mergeOnly : Catalog where
  typeNames := ⟨"", "", "", "", "", "", ""⟩
  blueprints := [
    { (default : Blueprint) with
      name := "m"
      capabilities := .ofList [.mergeAware]
      factory := ⟨[], .fresh (.extension 0)⟩ }]
  extensions := [.scripted none ⟨none, none, none, some [], none⟩]

namespace Transcript

def mergeOnly : Transcript := after .mergeOnly [.edit (.register 0)]

def buildMergeOnly : Except BootstrapError BuiltPipeline × Orchestration Session :=
  Orchestration.buildPipeline (Session.surface .mergeOnly) ⟨mergeOnly.session, .new ""⟩

lemma buildMergeOnly_ok : ∃ (built : BuiltPipeline) (o : Orchestration Session),
    buildMergeOnly = (.ok built, o) ∧ built.registered = ["m", "m"] ∧
      (o.registry.reportsOf built.checker).map (·.name) = ["m"] := by
  have hok : buildMergeOnly.1.map (fun built => (built.registered, built.checker)) =
      .ok (["m", "m"], 2) := by decide +kernel
  have hreports : (buildMergeOnly.2.registry.reportsOf 2).map (·.name) = ["m"] := by decide +kernel
  rcases hrun : buildMergeOnly with ⟨_ | built, o⟩
  · rw [hrun] at hok
    cases hok
  · rw [hrun] at hok hreports
    obtain ⟨hregistered, hchecker⟩ := Prod.mk.inj (Except.ok.inj hok)
    exact ⟨built, o, rfl, hregistered, hchecker ▸ hreports⟩

theorem mergeOnly_due : ∃ (built : BuiltPipeline) (o : Orchestration Session),
    buildMergeOnly = (.ok built, o) ∧ "m" ∈ built.registered ∧
    ∃ later m earlier d made v target j,
      (afterBuild .mergeOnly (.new "") mergeOnly).moments = later ++ m :: earlier ∧
      Ending .mergeOnly m earlier "m" d made v ∧
      Creation.Inspects .mergeOnly built.checker target "m" d made v j ∧
      Ineligible target (Creation.context "m" d v) j := by
  obtain ⟨built, o, hrun, hregistered, hreports⟩ := buildMergeOnly_ok
  have hn : "m" ∈ built.registered := hregistered ▸ List.mem_cons_self
  have hend : (afterBuild .mergeOnly (.new "") mergeOnly).session = o.registry :=
    congrArg (·.2.registry) hrun
  obtain ⟨r, hr, hname⟩ := List.mem_map.1 (hreports ▸ List.mem_cons_self)
  obtain ⟨-, hiff⟩ := Course.registered_reported_iff (course_after .mergeOnly _) (.new "") hrun .refl hn
  exact ⟨built, o, hrun, hn, hiff.1 ⟨r, hend ▸ hr, hname⟩⟩

theorem registered_not_spared : ¬∀ (lib : Catalog) (t t' : Transcript) (i : Invoker)
    (built : BuiltPipeline) (o : Orchestration Session), Course lib empty t →
    Orchestration.buildPipeline (Session.surface lib) ⟨t.session, i⟩ = (.ok built, o) →
    Course lib (afterBuild lib i t) t' →
    ∀ r ∈ t'.session.reportsOf built.checker, r.name ∉ built.registered := by
  intro h
  obtain ⟨built, o, hrun, hregistered, hreports⟩ := buildMergeOnly_ok
  have hend : (afterBuild .mergeOnly (.new "") mergeOnly).session = o.registry :=
    congrArg (·.2.registry) hrun
  obtain ⟨r, hr, hname⟩ := List.mem_map.1 (hreports ▸ List.mem_cons_self)
  refine h .mergeOnly mergeOnly _ (.new "") built o (course_after .mergeOnly _) hrun .refl r (hend ▸ hr) ?_
  rw [hname, hregistered]
  exact List.mem_cons_self

end Transcript

end ComponentContainer
