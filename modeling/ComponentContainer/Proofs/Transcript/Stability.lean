import ComponentContainer.Proofs.Transcript.Simulation

/-! Created singletons stay: until all singletons are destroyed or the name is removed, every request
for the name is answered with the same instance, and nothing else happens. -/

namespace ComponentContainer

def Occurrence.Drops (name : String) : Occurrence → Prop
  | removed other => other = name
  | destroyed => True
  | registered _ | invalidated | answered .. | began .. | ended .. => False

instance (name : String) : DecidablePred (Occurrence.Drops name)
  | .removed other => decEq other name
  | .destroyed => .isTrue trivial
  | .registered _ | .invalidated | .answered .. | .began .. | .ended .. => .isFalse id

def Session.Holds (lib : Catalog) (name : String) (i : Instance) (s : Session) : Prop :=
  s.registry.singleton? name = some i ∧
    ∀ depth, Creation.resolveWithin lib depth name s = (.ok i, s)

lemma Session.holds_of_singleton {lib : Catalog} {name : String} {i : Instance} {s : Session}
    (h : s.registry.singleton? name = some i) : s.Holds lib name i :=
  ⟨h, fun depth => Creation.resolveWithin_stored h depth⟩

namespace Transcript

variable {lib : Catalog} {P : Extension → Prop} {t : Transcript} {n : String} {i : Instance}

def Made (n : String) (i : Instance) (ms : List Moment) : Prop :=
  ∃ since u earlier, ms = since ++ ⟨.ended n (.ok i), u⟩ :: earlier ∧
    ∀ m ∈ since, ¬m.occurrence.Drops n

lemma made_cons {m : Moment} {ms : List Moment} :
    Made n i (m :: ms) ↔
      m.occurrence = .ended n (.ok i) ∨ ¬m.occurrence.Drops n ∧ Made n i ms := by
  constructor
  · rintro ⟨since, u, earlier, hms, hsince⟩
    rcases List.cons_eq_append_iff.1 hms with ⟨-, hfirst⟩ | ⟨since, rfl, rfl⟩
    · exact .inl (congrArg (·.occurrence) (List.cons.inj hfirst).1).symm
    · obtain ⟨hm, hsince⟩ := List.forall_mem_cons.1 hsince
      exact .inr ⟨hm, since, u, earlier, rfl, hsince⟩
  · rintro (hm | ⟨hm, since, u, earlier, rfl, hsince⟩)
    · obtain ⟨o, u⟩ := m
      obtain rfl : o = .ended n (.ok i) := hm
      exact ⟨[], u, ms, rfl, fun m hm => absurd hm List.not_mem_nil⟩
    · exact ⟨m :: since, u, earlier, rfl, List.forall_mem_cons.2 ⟨hm, hsince⟩⟩

lemma Happens.singleton?_eq_some {o : Occurrence} {s : Session} (h : Happens lib t o s)
    (ht : t.Stacked) : s.registry.singleton? n = some i ↔
      o = .ended n (.ok i) ∨ ¬o.Drops n ∧ t.session.registry.singleton? n = some i := by
  cases h with
  | registered entry stamp s h =>
    obtain ⟨-, -, hs⟩ := Registry.register_eq_ok h
    rw [hs]
    simp [Occurrence.Drops, Registry.singleton?]
  | removed name s h =>
    rw [Registry.singleton?_remove h]
    by_cases hn : n = name
    · simp [hn, Occurrence.Drops]
    · simp [hn, Ne.symm hn, Occurrence.Drops]
  | destroyed s h =>
    rw [h]
    simp [Occurrence.Drops, Registry.singleton?, Registry.destroySingletons]
  | invalidated s h =>
    rw [h]
    simp [Occurrence.Drops, Registry.singleton?, Registry.invalidate]
  | handed | refused | missed => simp [Occurrence.Drops]
  | began name _ _ h =>
    obtain ⟨-, rfl⟩ | ⟨-, -, rfl⟩ := Registry.snapshot_eq_ok h
    all_goals simp [Occurrence.Drops, Registry.singleton?, Registry.beginCreation]
  | @ended start rest depth made answer w hopen =>
    rw [Registry.singleton?_conclude]
    by_cases hn : n = start.name
    · -- nothing is replaced: a name in creation has no singleton
      subst hn
      rw [if_pos rfl, ht.innermost_idle hopen]
      cases answer <;> simp [Except.toOption]
    · simp [hn, Ne.symm hn, Occurrence.Drops]

theorem Path.singleton?_eq_some (h : Path lib P empty t) :
    t.session.registry.singleton? n = some i ↔ Made n i t.moments := by
  induction h with
  | refl =>
    refine ⟨fun h => (nomatch h), ?_⟩
    rintro ⟨since, u, earlier, hms, -⟩
    simp [empty] at hms
  | @tail u v hpath hstep ih =>
    cases hstep with
    | quiet s hs => rw [hs.singleton?_eq n, ih]
    | @enter o s hoccurs =>
      change s.registry.singleton? n = some i ↔ Made n i (⟨o, s⟩ :: u.moments)
      rw [hoccurs.happens.singleton?_eq_some (Path.stacked hpath stacked_empty), ih, made_cons]

lemma Happens.answered_of_singleton {o : Occurrence} {s : Session} (h : Happens lib t o s)
    (hi : t.session.registry.singleton? n = some i) (ho : o.Asks n) :
    o = .answered n (.ok i) := by
  rcases h.of_asks ho with ⟨j, hj, rfl⟩ | ⟨hnone, -⟩
  · rw [Option.some.inj (hi.symm.trans hj)]
  · cases hi.symm.trans hnone

/-- Once a creation has made an instance, and as long as neither all singletons are destroyed nor the
name is removed, the instance stays stored whatever else happens, and every request for the name is
answered with it at once: neither a factory nor a hook runs, and the session stays as it is. -/
theorem Run.singleton_stable {s u : Session} {later between earlier ms : List Moment}
    (h : Run lib s ms)
    (hms : ms = later ++ (between ++ ⟨.ended n (.ok i), u⟩ :: earlier))
    (hkept : ∀ m ∈ between, ¬m.occurrence.Drops n) :
    u.Holds lib n i ∧
    (∀ m ∈ between, m.session.Holds lib n i ∧
      (m.occurrence.Asks n → m.occurrence = .answered n (.ok i))) ∧
    (later = [] → s.Holds lib n i ∧ Session.resolve lib n s = (.ok i, s)) := by
  have hpath := h.path.1
  refine ⟨?_, fun m hm => ?_, ?_⟩
  · have hu := hpath.at_moment (hms.trans (List.append_assoc _ _ _).symm)
    exact Session.holds_of_singleton (hu.singleton?_eq_some.2 (made_cons.2 (.inl rfl)))
  · obtain ⟨after, since, rfl⟩ := List.append_of_mem hm
    have hsplit : ms = (later ++ after) ++ m :: (since ++ ⟨.ended n (.ok i), u⟩ :: earlier) := by
      rw [hms]
      simp only [List.append_assoc, List.cons_append]
    have hmade : Made n i (since ++ ⟨.ended n (.ok i), u⟩ :: earlier) :=
      ⟨since, u, earlier, rfl, fun m hm =>
        hkept m (List.mem_append_right _ (List.mem_cons_of_mem _ hm))⟩
    obtain ⟨v, hbefore, hhappens⟩ := hpath.happens_at hsplit
    refine ⟨Session.holds_of_singleton ?_, ?_⟩
    · exact (hpath.at_moment hsplit).singleton?_eq_some.2 (made_cons.2 (.inr ⟨hkept m hm, hmade⟩))
    · exact hhappens.answered_of_singleton (hbefore.singleton?_eq_some.2 hmade)
  · rintro rfl
    have hs : s.Holds lib n i :=
      Session.holds_of_singleton (hpath.singleton?_eq_some.2 ⟨between, u, earlier, hms, hkept⟩)
    exact ⟨hs, hs.2 _⟩

end Transcript

def Catalog.sharing : Catalog where
  typeNames := ⟨"", "", "", "", "", "", ""⟩
  blueprints := [
    { (default : Blueprint) with
      name := "a"
      factory := ⟨[⟨.inspect (.get "b"), false⟩, ⟨.edit (.setRole "b" .infrastructure), false⟩,
        ⟨.query .invalidate, false⟩, ⟨.inspect (.get "b"), false⟩], .component "b"⟩ },
    { (default : Blueprint) with
      name := "b"
      factory := ⟨[⟨.inspect (.get "a"), true⟩], .fresh (.value (.integer 1))⟩ }]
  extensions := []

namespace Transcript

def shared : Transcript :=
  after .sharing [.edit (.register 0), .edit (.register 1), .inspect (.get "a"),
    .inspect (.getAs "b" .integer)]

theorem shared_stable : ∃ (i : Instance) (u : Session) (between earlier : List Moment),
    shared.moments = between ++ ⟨.ended "b" (.ok i), u⟩ :: earlier ∧
    (∀ m ∈ between, ¬m.occurrence.Drops "b") ∧
    (∃ m ∈ between, m.occurrence = .invalidated ∧ m.session.Holds .sharing "b" i) ∧
    shared.session.Holds .sharing "b" i ∧
    Session.resolve .sharing "b" shared.session = (.ok i, shared.session) := by
  let i : Instance := ⟨3, .value (.integer 1)⟩
  have hended : shared.moments[5]?.map (·.occurrence) = some (.ended "b" (.ok i)) := by
    decide +kernel
  have hinvalidated :
      (shared.moments.take 5)[4]?.map (·.occurrence) = some .invalidated := by decide +kernel
  have hkept : ∀ m ∈ shared.moments.take 5, ¬m.occurrence.Drops "b" := by decide +kernel
  obtain ⟨u, -, hsplit⟩ := exists_split hended
  have hms : shared.moments = [] ++ (shared.moments.take 5 ++ ⟨.ended "b" (.ok i), u⟩ :: _) := hsplit
  obtain ⟨v, -, hv⟩ := exists_split hinvalidated
  have hmem : ⟨.invalidated, v⟩ ∈ shared.moments.take 5 :=
    hv ▸ List.mem_append_right _ List.mem_cons_self
  obtain ⟨-, hbetween, hend⟩ := Run.singleton_stable (run_after .sharing _) hms hkept
  exact ⟨i, u, _, _, hsplit, hkept, ⟨_, hmem, rfl, (hbetween _ hmem).1⟩, hend rfl⟩

end Transcript

end ComponentContainer
