import ComponentContainer.Proofs.Reachable

/-! Where singletons come from. Each was stored at the end of a creation that the history tells of,
and it is of the current registration of its name unless that was removed during the creation. -/

namespace ComponentContainer

namespace Registry

variable {r t : Registry} {d : Definition} {name : String}

lemma core?_register (h : r.register d = .ok t) (n : String) :
    t.core? n = if n = d.name then some d.core else r.core? n := by
  rw [core?, find?_register h]
  split <;> rfl

lemma core?_remove (h : r.remove name = .ok (d, t)) (n : String) :
    t.core? n = if n = name then none else r.core? n := by
  rw [core?, find?_remove h]
  split <;> rfl

@[simp] lemma core?_destroySingletons (r : Registry) (n : String) :
    r.destroySingletons.core? n = r.core? n := rfl

@[simp] lemma core?_endCreation (r : Registry) (name n : String) :
    (r.endCreation name).core? n = r.core? n := rfl

@[simp] lemma core?_store (r : Registry) (name n : String) (i : Instance) :
    (r.store name i).core? n = r.core? n := rfl

lemma singleton?_store (r : Registry) (name n : String) (i : Instance) :
    (r.store name i).singleton? n = if n = name then some i else r.singleton? n := by
  unfold singleton? store
  split
  · subst n
    exact lookup_concat_self i lookup_drop_self
  · rw [lookup_concat_of_ne i ‹_›, lookup_drop_of_ne ‹_›]

lemma core?_snapshot (h : (r.beginCreation name).snapshot name = .ok (d, t)) (n : String) :
    t.core? n = r.core? n := by
  obtain ⟨-, rfl⟩ | ⟨-, -, rfl⟩ := snapshot_eq_ok h <;> rfl

def Current (r : Registry) : Prop :=
  ∀ n d, r.snapshots.lookup n = some d → r.core? n = some d.core

namespace Current

lemma register (h : r.register d = .ok t) (hr : r.Current) : t.Current := by
  intro n x hx
  rw [core?_register h]
  obtain ⟨-, -, rfl⟩ := register_eq_ok h
  by_cases hn : n = d.name
  · subst hn
    rw [lookup_drop_self] at hx
    cases hx
  · rw [lookup_drop_of_ne hn] at hx
    rw [if_neg hn]
    exact hr n x hx

lemma remove (h : r.remove name = .ok (d, t)) (hr : r.Current) : t.Current := by
  intro n x hx
  rw [core?_remove h]
  obtain ⟨-, rfl⟩ := remove_eq_ok h
  by_cases hn : n = name
  · subst hn
    rw [lookup_drop_self] at hx
    cases hx
  · rw [lookup_drop_of_ne hn] at hx
    rw [if_neg hn]
    exact hr n x hx

lemma core?_of_snapshot (h : (r.beginCreation name).snapshot name = .ok (d, t)) (hr : r.Current) :
    r.core? name = some d.core := by
  obtain ⟨hd, -⟩ | ⟨-, hd, -⟩ := snapshot_eq_ok h
  · exact hr name d hd
  · exact congrArg (Option.map (·.core)) hd

lemma snapshot (h : (r.beginCreation name).snapshot name = .ok (d, t)) (hr : r.Current) :
    t.Current := by
  have hd := core?_of_snapshot h hr
  obtain ⟨-, rfl⟩ | ⟨hnone, -, rfl⟩ := snapshot_eq_ok h
  · exact hr
  · intro n x hx
    by_cases hn : n = name
    · subst hn
      rw [lookup_concat_self d hnone] at hx
      exact Option.some.inj hx ▸ hd
    · rw [lookup_concat_of_ne d hn] at hx
      exact hr n x hx

end Current

end Registry

namespace Chronicle

variable {lib : Catalog} {P : Extension → Prop} {c c' : Chronicle}

structure Stamped (c : Chronicle) : Prop where
  registered : ∀ n x, c.session.registry.core? n = some x → x.2.2.2 < c.session.nextStamp
  began : ∀ start, .began start ∈ c.history → start.definition.stamp < c.session.nextStamp

lemma Step.current (h : Step lib P c c') (hc : c.session.registry.Current) :
    c'.session.registry.Current := by
  cases h with
  | quiet h hk => exact fun n d hd => hk.core?_eq n ▸ hc n d (hk.snapshots n d hd)
  | register entry h => exact hc.register h
  | remove name h => exact hc.remove h
  | start name _ _ h => exact hc.snapshot h
  | destroy | fail | finish => exact hc

lemma Step.stamped (h : Step lib P c c') (hcurrent : c.session.registry.Current) (hc : c.Stamped) :
    c'.Stamped := by
  cases h with
  | quiet h hk =>
    refine ⟨fun n x hx => ?_, fun start hstart => ?_⟩
    · rw [hk.core?_eq] at hx
      exact Nat.lt_of_lt_of_le (hc.registered n x hx) h.nextStamp_le
    · exact Nat.lt_of_lt_of_le (hc.began start hstart) h.nextStamp_le
  | register entry h =>
    refine ⟨fun n x hx => ?_, fun start hstart => ?_⟩
    · rw [Registry.core?_register h] at hx
      split at hx
      · cases hx
        exact Nat.lt_succ_self _
      · exact Nat.lt_succ_of_lt (hc.registered n x hx)
    · rcases List.mem_cons.1 hstart with h | hstart
      · cases h
      · exact Nat.lt_succ_of_lt (hc.began start hstart)
  | remove name h =>
    refine ⟨fun n x hx => ?_, fun start hstart => ?_⟩
    · rw [Registry.core?_remove h] at hx
      split at hx
      · cases hx
      · exact hc.registered n x hx
    · exact hc.began start ((List.mem_cons.1 hstart).resolve_left nofun)
  | start name _ _ h =>
    refine ⟨fun n x hx => ?_, fun start hstart => ?_⟩
    · rw [Registry.core?_snapshot h] at hx
      exact hc.registered n x hx
    · rcases List.mem_cons.1 hstart with h' | hstart
      · cases h'
        exact hc.registered name _ (hcurrent.core?_of_snapshot h)
      · exact hc.began start hstart
  | destroy | fail | finish =>
    exact ⟨hc.registered, fun start hstart =>
      hc.began start ((List.mem_cons.1 hstart).resolve_left nofun)⟩

def Standing (c : Chronicle) : Prop :=
  ∀ inner start before, c.history = inner ++ .began start :: before →
    (c.session.registry.core? start.name = some start.definition.core ↔
      .removed start.name ∉ inner)

lemma Standing.cons {s t : Session} {h : History} {e : Change} (hs : Standing ⟨s, h⟩)
    (hnew : ∀ start, e = .began start →
      t.registry.core? start.name = some start.definition.core)
    (hold : ∀ start, .began start ∈ h →
      (t.registry.core? start.name = some start.definition.core ↔
        s.registry.core? start.name = some start.definition.core ∧ e ≠ .removed start.name)) :
    Standing ⟨t, e :: h⟩ := by
  intro inner start before hsplit
  rcases List.cons_eq_append_iff.1 hsplit with ⟨rfl, hstart⟩ | ⟨inner, rfl, rfl⟩
  · simpa using hnew start (List.cons.inj hstart).1.symm
  · have hinner := hs inner start before rfl
    have hstart := hold start (List.mem_append_right _ List.mem_cons_self)
    simp only at hinner ⊢
    rw [hstart, hinner, List.mem_cons, not_or, and_comm, eq_comm]

lemma Step.standing (h : Step lib P c c') (hcurrent : c.session.registry.Current)
    (hstamped : c.Stamped) (hc : c.Standing) : c'.Standing := by
  cases h with
  | quiet h hk =>
    intro inner start before hsplit
    simp only [hk.core?_eq]
    exact hc inner start before hsplit
  | @register s h r entry hr =>
    refine hc.cons (fun start he => nomatch he) fun start hstart => ?_
    obtain ⟨-, htaken, -⟩ := Registry.register_eq_ok hr
    simp only [Registry.core?_register hr]
    split
    · rename_i hname
      -- the new registration has a new stamp, and the name was free before
      have hnew : s.nextStamp ≠ start.definition.stamp :=
        Nat.ne_of_gt (hstamped.began start hstart)
      have hfree : s.registry.core? start.name = none := by
        rw [hname]
        exact congrArg (Option.map (·.core)) htaken
      simp [hfree, Definition.core, hnew]
    · simp
  | @remove s h r d name hr =>
    refine hc.cons (fun start he => nomatch he) fun start hstart => ?_
    simp only [Registry.core?_remove hr]
    by_cases hname : start.name = name
    · simp [hname]
    · simp [hname, Ne.symm hname]
  | @start s h r d name _ _ hr =>
    refine hc.cons (fun start he => ?_) fun start hstart => ?_
    · cases he
      exact (Registry.core?_snapshot hr name).trans (hcurrent.core?_of_snapshot hr)
    · simp [Registry.core?_snapshot hr]
  | destroy => exact hc.cons (fun start he => nomatch he) fun start hstart => by simp
  | fail => exact hc.cons (fun start he => nomatch he) fun start hstart => by simp
  | finish => exact hc.cons (fun start he => nomatch he) fun start hstart => by simp

def Completed (lib : Catalog) (c : Chronicle) : Prop :=
  ∀ after n i earlier, c.history = after ++ .finished n i :: earlier →
    ∃ during start before, earlier = during ++ .began start :: before ∧ start.name = n ∧
      opened earlier = start :: opened before ∧ start.Makes lib i

lemma Completed.cons {s t : Session} {h : History} {e : Change} (hs : Completed lib ⟨s, h⟩)
    (hnew : ∀ n i, e ≠ .finished n i) : Completed lib ⟨t, e :: h⟩ := by
  intro after n i earlier hsplit
  rcases List.cons_eq_append_iff.1 hsplit with ⟨rfl, he⟩ | ⟨after, rfl, rfl⟩
  · exact absurd (List.cons.inj he).1.symm (hnew n i)
  · exact hs after n i earlier rfl

lemma Step.completed (h : Step lib P c c') (hc : c.Completed lib) : c'.Completed lib := by
  cases h with
  | quiet => exact hc
  | @finish s h start rest i depth hopened _ hrun =>
    intro after n j earlier hsplit
    rcases List.cons_eq_append_iff.1 hsplit with ⟨rfl, he⟩ | ⟨after, rfl, rfl⟩
    · cases he
      obtain ⟨during, before, rfl, hbefore⟩ := exists_began (show opened h = [] ++ start :: rest from hopened)
      refine ⟨during, start, before, rfl, rfl, ?_, depth, s, hrun⟩
      rw [hopened, hbefore]
    · exact hc after n j earlier rfl
  | register | remove | destroy | start | fail => exact hc.cons nofun

def Kept (c : Chronicle) : Prop :=
  ∀ n i, c.session.registry.singleton? n = some i →
    ∃ after earlier, c.history = after ++ .finished n i :: earlier ∧ ∀ e ∈ after, ¬e.Drops n

lemma Kept.cons {s t : Session} {h : History} {e : Change} (hs : Kept ⟨s, h⟩)
    (hkept : ∀ n i, t.registry.singleton? n = some i →
      s.registry.singleton? n = some i ∧ ¬e.Drops n) : Kept ⟨t, e :: h⟩ := by
  intro n i hi
  obtain ⟨hold, he⟩ := hkept n i hi
  obtain ⟨after, earlier, rfl, hafter⟩ := hs n i hold
  exact ⟨e :: after, earlier, rfl, List.forall_mem_cons.2 ⟨he, hafter⟩⟩

lemma Step.kept (h : Step lib P c c') (hc : c.Kept) : c'.Kept := by
  cases h with
  | quiet h hk =>
    intro n i hi
    unfold Registry.singleton? at hi
    rw [hk.singletons_eq] at hi
    exact hc n i hi
  | register entry hr =>
    refine hc.cons fun n i hi => ⟨?_, id⟩
    obtain ⟨-, -, rfl⟩ := Registry.register_eq_ok hr
    exact hi
  | remove name hr =>
    refine hc.cons fun n i hi => ?_
    obtain ⟨-, rfl⟩ := Registry.remove_eq_ok hr
    by_cases hn : n = name
    · subst hn
      cases lookup_drop_self.symm.trans hi
    · exact ⟨(lookup_drop_of_ne hn).symm.trans hi, Ne.symm hn⟩
  | destroy => exact hc.cons fun n i hi => (nomatch hi)
  | start name _ _ hr =>
    refine hc.cons fun n i hi => ⟨?_, id⟩
    obtain ⟨-, rfl⟩ | ⟨-, -, rfl⟩ := Registry.snapshot_eq_ok hr <;> exact hi
  | fail => exact hc.cons fun n i hi => ⟨hi, id⟩
  | @finish s h start rest j =>
    intro n i hi
    simp only [Registry.singleton?_store] at hi
    split at hi
    · cases hi
      subst n
      exact ⟨[], h, rfl, by simp⟩
    · have hother : ¬Change.Drops n (.finished start.name j) := Ne.symm ‹_›
      obtain ⟨after, earlier, rfl, hafter⟩ := hc n i hi
      exact ⟨_, earlier, rfl, List.forall_mem_cons.2 ⟨hother, hafter⟩⟩

structure Sound (lib : Catalog) (c : Chronicle) : Prop where
  current : c.session.registry.Current
  stamped : c.Stamped
  standing : c.Standing
  completed : c.Completed lib
  kept : c.Kept

lemma Step.sound (h : Step lib P c c') (hc : c.Sound lib) : c'.Sound lib where
  current := h.current hc.current
  stamped := h.stamped hc.current hc.stamped
  standing := h.standing hc.current hc.stamped hc.standing
  completed := h.completed hc.completed
  kept := h.kept hc.kept

def empty : Chronicle := ⟨.empty, []⟩

def Reachable (lib : Catalog) (c : Chronicle) : Prop := Path lib Extension.Unarmed empty c

lemma sound_empty (lib : Catalog) : empty.Sound lib where
  current := fun n d h => nomatch h
  stamped := ⟨fun n x h => (nomatch h), fun start h => (nomatch h)⟩
  standing := fun inner start before h => by simp [empty] at h
  completed := fun after n i earlier h => by simp [empty] at h
  kept := fun n i h => nomatch h

theorem Reachable.sound (hc : c.Reachable lib) : c.Sound lib := by
  induction hc with
  | refl => exact sound_empty lib
  | tail _ h ih => exact h.sound ih

theorem Reachable.session (hc : c.Reachable lib) : c.session.Reachable lib := Path.session hc

theorem Reachable.perform (hc : c.Reachable lib) (a : Action) :
    ∃ h, Reachable lib ⟨(Session.perform lib a c.session).2, h⟩ ∧ opened h = opened c.history := by
  have hrun := Session.perform_walks (unarmed_of_catalog lib) a
  obtain ⟨h, hpath, hopened⟩ := hrun.leads hc.session.held c.history
  exact ⟨h, Relation.ReflTransGen.trans hc hpath, hopened⟩

lemma exists_reachable_after (lib : Catalog) (steps : List ComponentContainer.Step) :
    ∃ h, Reachable lib ⟨Session.after lib steps, h⟩ ∧ opened h = [] := by
  have hempty : Session.empty.Reachable lib := .refl
  have hrun := Script.run_walks (Session.perform_walks (unarmed_of_catalog lib)) "" steps
  exact hrun.leads hempty.held []

lemma resolve_run {n : String} {d : Definition} (hcurrent : c.session.registry.Current)
    (hd : c.session.registry.find? n = some d) (hnone : c.session.registry.singleton? n = none)
    (hnew : n ∉ c.session.registry.inCreation) :
    ∃ (depth : Nat) (start : Start), start.definition.core = d.core ∧
      start.session.registry.inCreation = n :: c.session.registry.inCreation ∧
      Session.resolve lib n c.session =
        match Creation.complete lib (Creation.resolveWithin lib depth) n start.definition
          start.session with
        | (.ok i, t) => (.ok i, { t with registry := (t.registry.endCreation n).store n i })
        | (.error e, t) => (.error e, { t with registry := t.registry.endCreation n }) := by
  have hknown : n ∈ Creation.roster lib c.session :=
    Session.mem_roster.2 (.inl (mem_keys_of_lookup hd))
  obtain ⟨depth, hdepth⟩ :=
    Nat.exists_eq_succ_of_ne_zero (Nat.ne_of_gt (List.length_pos_of_mem hknown))
  have hdefined : (c.session.registry.beginCreation n).find? n = some d := hd
  obtain ⟨x, r, hsnapshot⟩ := Registry.exists_snapshot hdefined
  have hcore : x.core = d.core := by
    have hx := hcurrent.core?_of_snapshot hsnapshot
    unfold Registry.core? at hx
    rw [hd] at hx
    exact (Option.some.inj hx).symm
  refine ⟨depth, ⟨n, x, { c.session with registry := r }⟩, hcore, ?_, ?_⟩
  · obtain ⟨-, rfl⟩ | ⟨-, -, rfl⟩ := Registry.snapshot_eq_ok hsnapshot <;> rfl
  · have hrun := Creation.enter_run (Creation.create lib (Creation.resolveWithin lib depth)) n
      c.session
    rw [Creation.create_ok hsnapshot] at hrun
    change Creation.resolveWithin lib (Creation.roster lib c.session).length n c.session = _
    rw [hdepth, Creation.resolveWithin_succ hnone hnew]
    exact hrun

/-- Where singletons come from. Each was made by a creation of its name, and nothing has dropped it
since. It is of the current registration exactly when that was not removed while the creation was
going on. A name without a singleton that is not in creation is completed as its current registration
says. -/
theorem singleton_of_registration (hc : c.Reachable lib) :
    (∀ n i, c.session.registry.singleton? n = some i →
      ∃ (after during before : History) (start : Start),
        c.history = after ++ .finished n i :: (during ++ .began start :: before) ∧
        start.name = n ∧ opened (during ++ .began start :: before) = start :: opened before ∧
        start.Makes lib i ∧ (∀ e ∈ after, ¬e.Drops n) ∧
        (c.session.registry.core? n = some start.definition.core ↔ .removed n ∉ during)) ∧
    (∀ n d, c.session.registry.find? n = some d → c.session.registry.singleton? n = none →
      n ∉ c.session.registry.inCreation →
      ∃ (depth : Nat) (start : Start), start.definition.core = d.core ∧
        start.session.registry.inCreation = n :: c.session.registry.inCreation ∧
        Session.resolve lib n c.session =
          match Creation.complete lib (Creation.resolveWithin lib depth) n start.definition
            start.session with
          | (.ok i, t) => (.ok i, { t with registry := (t.registry.endCreation n).store n i })
          | (.error e, t) => (.error e, { t with registry := t.registry.endCreation n })) := by
  have hsound := hc.sound
  refine ⟨fun n i hi => ?_, fun n d => resolve_run hsound.current⟩
  obtain ⟨after, earlier, hhistory, hafter⟩ := hsound.kept n i hi
  obtain ⟨during, start, before, rfl, rfl, hopened, hmakes⟩ :=
    hsound.completed after n i earlier hhistory
  refine ⟨after, during, before, start, hhistory, rfl, hopened, hmakes, hafter, ?_⟩
  have hstanding := hsound.standing (after ++ .finished start.name i :: during) start before
    (by rw [hhistory, List.append_assoc, List.cons_append])
  have hkept : Change.removed start.name ∉ after := fun h => hafter _ h rfl
  rw [hstanding]
  simp [hkept]

end Chronicle

def Catalog.selfRemoving : Catalog where
  typeNames := ⟨"", "", "", "", "", "", ""⟩
  blueprints := [
    { (default : Blueprint) with
      name := "a"
      factory := ⟨[⟨.edit (.remove "a"), false⟩], .fresh (.value (.integer 1))⟩ },
    { (default : Blueprint) with
      name := "a"
      factory := ⟨[], .fresh (.value (.integer 2))⟩ }]
  extensions := []

def Session.outlived : Session :=
  after .selfRemoving [⟨.edit (.register 0), false⟩, ⟨.inspect (.get "a"), false⟩]

theorem outlived_removed : ∃ (h after during before : History) (start : Start) (i : Instance),
    Chronicle.Reachable .selfRemoving ⟨Session.outlived, h⟩ ∧
      h = after ++ .finished "a" i :: (during ++ .began start :: before) ∧
      .removed "a" ∈ during := by
  obtain ⟨h, hreachable, -⟩ := Chronicle.exists_reachable_after .selfRemoving
    [⟨.edit (.register 0), false⟩, ⟨.inspect (.get "a"), false⟩]
  have hsome : (Session.outlived.registry.singleton? "a").isSome = true := by decide +kernel
  have hnone : Session.outlived.registry.core? "a" = none := by decide +kernel
  obtain ⟨i, hi⟩ := Option.isSome_iff_exists.1 hsome
  obtain ⟨after, during, before, start, hhistory, -, -, -, -, hiff⟩ :=
    (Chronicle.singleton_of_registration hreachable).1 "a" i hi
  refine ⟨h, after, during, before, start, i, hreachable, hhistory, ?_⟩
  change Session.outlived.registry.core? "a" = _ ↔ _ at hiff
  rw [hnone] at hiff
  simpa using hiff

def Session.succeeded : Session :=
  after .selfRemoving [⟨.edit (.register 0), false⟩, ⟨.inspect (.get "a"), false⟩,
    ⟨.edit (.register 1), false⟩, ⟨.inspect (.get "a"), false⟩]

theorem singleton_outlives_definition :
    Session.outlived.Reachable .selfRemoving ∧
    (Session.outlived.registry.singleton? "a").isSome = true ∧
    Session.outlived.registry.find? "a" = none ∧
    Session.succeeded.Reachable .selfRemoving ∧
    (Session.succeeded.registry.find? "a").map (·.factory.product) =
      some (.fresh (.value (.integer 2))) ∧
    (Session.succeeded.registry.singleton? "a").map (·.content) = some (.value (.integer 1)) ∧
    Session.succeeded.journal.count (.factory "a") = 1 := by
  refine ⟨Session.after_reachable _ _, ?_, ?_, Session.after_reachable _ _, ?_⟩
  all_goals decide +kernel

end ComponentContainer
