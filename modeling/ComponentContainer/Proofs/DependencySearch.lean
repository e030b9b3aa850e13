import ComponentContainer.Proofs.Dependencies
import ComponentContainer.Proofs.Origin

/-! The creation of components as a search of their dependencies: it succeeds exactly for what can be
resolved, and a search that fails leaves only components that can be resolved. -/

namespace ComponentContainer

open Act Dependencies

abbrev Act.Succeeds {σ ε α : Type} (m : Act σ ε α) : Prop :=
  ∀ s, Ends m s (fun _ _ => True) fun _ _ => False

structure Extension.Harmless (lib : Catalog) (e : Extension) : Prop where
  onDefinition : ∀ d, Succeeds (e.onDefinition d)
  beforeInit : ∀ i ctx, Succeeds (e.beforeInit lib i ctx)
  afterInit : ∀ i ctx, Succeeds (e.afterInit lib i ctx)

def Registry.Harmless (lib : Catalog) (r : Registry) : Prop :=
  ∀ entry ∈ r.pipeline, entry.extension.Harmless lib

variable {lib : Catalog} {defs : List (String × Definition)}

lemma Registry.Harmless.of_pipeline {r t : Registry} (hr : r.Harmless lib)
    (h : t.pipeline = r.pipeline) : t.Harmless lib := fun entry he => hr entry (h ▸ he)

namespace Creation

lemma announce_succeeds {p : Pipeline} (hp : ∀ entry ∈ p, entry.extension.Harmless lib)
    (d : Definition) : Succeeds (announce d p) := by
  induction p with
  | nil => exact fun _ => trivial
  | cons entry rest ih =>
    obtain ⟨hentry, hrest⟩ := List.forall_mem_cons.1 hp
    exact fun s => ((hentry.onDefinition d s).adapt_const (I := fun _ => False)).bind
      (fun _ t _ => ih hrest t) fun _ _ => id

lemma runStage_succeeds
    {hook : Extension → Instance → InitContext → Act Session HookError (Option Instance)}
    {ctx : InitContext} {p : Pipeline} (stage : InitStage)
    (hhook : ∀ entry ∈ p, ∀ i, Succeeds (hook entry.extension i ctx)) (i : Instance) :
    Succeeds (runStage hook stage ctx p i) := by
  induction p generalizing i with
  | nil => exact fun _ => trivial
  | cons entry rest ih =>
    obtain ⟨hentry, hrest⟩ := List.forall_mem_cons.1 hhook
    intro s
    unfold runStage
    split
    · exact ih hrest i s
    · refine ((hentry i s).adapt_const (I := fun _ => False)).bind (fun o t _ => ?_) fun _ _ => id
      cases o with
      | none => exact trivial
      | some j => exact ih hrest j t

lemma equip_succeeds (name : String) (d : Definition) (made : Instance) {s : Session}
    (hs : s.registry.Harmless lib) :
    Ends (equip lib name d made) s (fun _ _ => True) fun _ _ => False := by
  apply ends_get_bind
  refine (announce_succeeds hs d s).bind (fun _ t _ => ?_) fun _ _ => id
  refine (runStage_succeeds .beforeInit (fun entry he i => (hs entry he).beforeInit i _) made t).bind
    (fun prepared u _ => ?_) fun _ _ => id
  refine (runStage_succeeds .afterInit (fun entry he i => (hs entry he).afterInit i _) prepared
    u).bind (fun finished v _ => ?_) fun _ _ => id
  exact trivial

end Creation

structure Registry.Ready (defs : List (String × Definition)) (r : Registry) : Prop where
  definitions_eq : r.definitions = defs
  snapshots : ∀ n d, r.snapshots.lookup n = some d → defs.lookup n = some d
  resolvable : ∀ n, (r.singleton? n).isSome → Resolvable defs n
  closed : ∀ n m, (r.singleton? n).isSome → DependsOn defs n m → (r.singleton? m).isSome

structure Registry.Explores (defs : List (String × Definition)) (n : String) (r t : Registry) :
    Prop where
  kept : ∀ m i, r.singleton? m = some i → t.singleton? m = some i
  added : ∀ m, (t.singleton? m).isSome →
    (r.singleton? m).isSome ∨ Reaches defs n m ∧ m ∉ r.inCreation
  inCreation_eq : t.inCreation = r.inCreation
  pipeline_eq : t.pipeline = r.pipeline

namespace Registry.Explores

variable {n m : String} {r t u : Registry}

lemma refl (n : String) (r : Registry) : r.Explores defs n r :=
  ⟨fun _ _ => id, fun _ => .inl, rfl, rfl⟩

lemma trans (h : r.Explores defs n t) (h' : t.Explores defs n u) : r.Explores defs n u where
  kept m i hi := h'.kept m i (h.kept m i hi)
  added m hm := by
    rcases h'.added m hm with hm | ⟨hreach, hnew⟩
    · exact h.added m hm
    · exact .inr ⟨hreach, h.inCreation_eq ▸ hnew⟩
  inCreation_eq := h'.inCreation_eq.trans h.inCreation_eq
  pipeline_eq := h'.pipeline_eq.trans h.pipeline_eq

lemma of_reaches (h : r.Explores defs m t) (hnm : Reaches defs n m) : r.Explores defs n t where
  kept := h.kept
  added a ha := (h.added a ha).imp_right fun ⟨hma, hnew⟩ => ⟨hnm.trans hma, hnew⟩
  inCreation_eq := h.inCreation_eq
  pipeline_eq := h.pipeline_eq

lemma isSome (h : r.Explores defs n t) (hm : (r.singleton? m).isSome) : (t.singleton? m).isSome := by
  obtain ⟨i, hi⟩ := Option.isSome_iff_exists.1 hm
  exact Option.isSome_iff_exists.2 ⟨i, h.kept m i hi⟩

lemma harmless (h : r.Explores defs n t) (hr : r.Harmless lib) : t.Harmless lib :=
  hr.of_pipeline h.pipeline_eq

end Registry.Explores

structure Registry.Finds (defs : List (String × Definition)) (n : String) (ms : List String)
    (r t : Registry) : Prop where
  ready : t.Ready defs
  explores : r.Explores defs n t
  found : ∀ m ∈ ms, (t.singleton? m).isSome

structure Registry.Misses (lib : Catalog) (defs : List (String × Definition)) (n : String)
    (e : RegistryError) (r t : Registry) : Prop where
  ready : t.Ready defs
  explores : r.Explores defs n t
  blames : r.Harmless lib → Blames defs n e

namespace Registry.Finds

variable {n m : String} {ms ms' : List String} {r t u : Registry}

lemma of_ready (h : r.Ready defs) (n : String) : r.Finds defs n [] r :=
  ⟨h, .refl n r, fun _ hm => absurd hm List.not_mem_nil⟩

lemma trans (h : r.Finds defs n ms t) (h' : t.Finds defs n ms' u) :
    r.Finds defs n (ms ++ ms') u :=
  ⟨h'.ready, h.explores.trans h'.explores,
    List.forall_mem_append.2 ⟨fun m hm => h'.explores.isSome (h.found m hm), h'.found⟩⟩

lemma misses {e : RegistryError} (h : r.Finds defs n ms t) (h' : t.Misses lib defs n e u) :
    r.Misses lib defs n e u :=
  ⟨h'.ready, h.explores.trans h'.explores, fun hr => h'.blames (h.explores.harmless hr)⟩

lemma of_reaches (h : r.Finds defs m ms t) (hnm : Reaches defs n m) : r.Finds defs n ms t :=
  ⟨h.ready, h.explores.of_reaches hnm, h.found⟩

end Registry.Finds

lemma Registry.Misses.of_reaches {n m : String} {e : RegistryError} {r t : Registry}
    (h : r.Misses lib defs m e t) (hnm : Reaches defs n m) : r.Misses lib defs n e t :=
  ⟨h.ready, h.explores.of_reaches hnm, fun hr => (h.blames hr).of_reaches hnm⟩

abbrev Creation.Searches (lib : Catalog) (defs : List (String × Definition)) (n : String)
    (m : Act Session RegistryError Instance) (s : Session) : Prop :=
  Ends m s (fun i t => s.registry.Finds defs n [n] t.registry ∧ t.registry.singleton? n = some i)
    fun e t => s.registry.Misses lib defs n e t.registry ∧ t.registry.singleton? n = none

namespace Creation

section

variable {resolve : Resolver} {depth : Nat} {n : String} {d : Definition} {s : Session}

lemma runStep_searches {m : String} (owner : String) (h : Searches lib defs m (resolve m) s) :
    Ends (Script.runStep Session.note (perform lib resolve) owner (Step.get m)) s
      (fun _ t => s.registry.Finds defs m [m] t.registry)
      fun e t => ∃ e', e = .registry e' ∧ s.registry.Misses lib defs m e' t.registry := by
  have hinspect : Ends (inspect lib resolve (.get m)) s
      (fun _ t => s.registry.Finds defs m [m] t.registry)
      fun e t => s.registry.Misses lib defs m e t.registry :=
    Ends.bind h (fun _ _ ht => ht.1) fun _ _ ht => ht.1
  have hperform : Ends (perform lib resolve (.inspect (.get m))) s
      (fun _ t => s.registry.Finds defs m [m] t.registry)
      fun e t => ∃ e', e = .registry e' ∧ s.registry.Misses lib defs m e' t.registry :=
    hinspect.adapt fun e _ ht => ⟨e, rfl, ht⟩
  exact Ends.tryCatch (hperform.bind (fun _ _ ht => ht) fun _ _ => id) fun _ _ ht => ht

variable (hr : ∀ m u, u.registry.Ready defs → Stack defs depth u.registry.inCreation m →
  Searches lib defs m (resolve m) u)

include hr

lemma run_searches (owner : String) (hd : defs.lookup n = some d) {names : List String}
    (hnames : names ⊆ d.factory.requests) (hs : s.registry.Ready defs)
    (hstack : ∀ m ∈ d.factory.requests, Stack defs depth s.registry.inCreation m) :
    Ends (Script.run Session.note (perform lib resolve) owner (names.map Step.get)) s
      (fun _ t => s.registry.Finds defs n names t.registry)
      fun e t => ∃ e', e = .registry e' ∧ s.registry.Misses lib defs n e' t.registry := by
  induction names generalizing s with
  | nil => exact .of_ready hs n
  | cons m names ih =>
    obtain ⟨hm, hnames⟩ := List.cons_subset.1 hnames
    have hnm : Reaches defs n m := .single ⟨d, hd, hm⟩
    refine (runStep_searches owner (hr m s hs (hstack m hm))).bind (fun _ t ht => ?_) ?_
    · have hinner := ht.explores.inCreation_eq
      refine (ih hnames ht.ready (hinner ▸ hstack)).mono (fun _ _ hu => ?_) ?_
      · exact (ht.of_reaches hnm).trans hu
      · rintro _ u ⟨e, rfl, hu⟩
        exact ⟨e, rfl, (ht.of_reaches hnm).misses hu⟩
    · rintro _ t ⟨e, rfl, ht⟩
      exact ⟨e, rfl, ht.of_reaches hnm⟩

lemma manufacture_searches (hd : defs.lookup n = some d) (hplain : d.factory.Plain)
    (hs : s.registry.Ready defs)
    (hstack : ∀ m ∈ d.factory.requests, Stack defs depth s.registry.inCreation m) :
    Ends (manufacture lib resolve d) s
      (fun _ t => s.registry.Finds defs n d.factory.requests t.registry)
      fun e t => s.registry.Misses lib defs n e t.registry := by
  obtain ⟨names, hfirst⟩ := hplain
  have hrequests := Factory.requests_eq hfirst
  have hnames : names ⊆ d.factory.requests := hrequests ▸ List.subset_append_left _ _
  unfold manufacture
  rw [hfirst]
  apply ends_lift_bind
  have hrun := run_searches hr d.name hd hnames (s := (Session.note (.factory d.name) s).2) hs hstack
  refine Ends.bind (R := fun _ t => s.registry.Finds defs n names t.registry) ?_
    (fun _ t ht => ?_) fun _ _ => id
  · refine hrun.adapt ?_
    rintro _ t ⟨e, rfl, ht⟩
    exact ht
  rw [hrequests]
  cases hproduct : d.factory.product with
  | shared entry => exact ht.trans (.of_ready ht.ready n)
  | fresh spec =>
    cases spec with
    | extension entry => exact ht.trans (.of_ready ht.ready n)
    | value v => exact ht.trans (.of_ready ht.ready n)
  | component m =>
    have hm : m ∈ d.factory.requests := by
      rw [hrequests, hproduct]
      exact List.mem_append_right _ List.mem_cons_self
    have hnm : Reaches defs n m := .single ⟨d, hd, hm⟩
    have hinner := ht.explores.inCreation_eq
    refine (hr m t ht.ready (hinner ▸ hstack m hm)).mono (fun _ u hu => ?_) fun _ u hu => ?_
    · exact ht.trans (hu.1.of_reaches hnm)
    · exact ht.misses (hu.1.of_reaches hnm)

lemma complete_searches (hd : defs.lookup n = some d) (hplain : d.factory.Plain)
    (hs : s.registry.Ready defs)
    (hstack : ∀ m ∈ d.factory.requests, Stack defs depth s.registry.inCreation m) :
    Ends (complete lib resolve n d) s
      (fun _ t => s.registry.Finds defs n d.factory.requests t.registry)
      fun e t => s.registry.Misses lib defs n e t.registry := by
  rw [complete_eq]
  refine (manufacture_searches hr hd hplain hs hstack).bind (fun made t ht => ?_) fun _ _ => id
  refine ends_of (fun i u hu => ?_) fun e u hu => ?_
  · exact (registry_equip hu).symm ▸ ht
  · refine (registry_equip hu).symm ▸ ⟨ht.ready, ht.explores, fun hharmless => ?_⟩
    exact ((equip_succeeds n d made (ht.explores.harmless hharmless)).error hu).elim

end

end Creation

structure Registry.Begins (n : String) (r t : Registry) : Prop where
  idle : r.singleton? n = none
  new : n ∉ r.inCreation
  singletons_eq : t.singletons = r.singletons
  inCreation_eq : t.inCreation = n :: r.inCreation
  pipeline_eq : t.pipeline = r.pipeline

namespace Registry

variable {n : String} {d : Definition} {r t u : Registry}

lemma Begins.singleton?_eq (h : r.Begins n t) (m : String) : t.singleton? m = r.singleton? m :=
  congrArg (·.lookup m) h.singletons_eq

lemma begins_of_snapshot (hnone : r.singleton? n = none) (hnew : n ∉ r.inCreation)
    (h : (r.beginCreation n).snapshot n = .ok (d, t)) : r.Begins n t := by
  obtain ⟨-, rfl⟩ | ⟨-, -, rfl⟩ := snapshot_eq_ok h
  · exact ⟨hnone, hnew, rfl, rfl, rfl⟩
  · exact ⟨hnone, hnew, rfl, rfl, rfl⟩

lemma Ready.snapshot (hr : r.Ready defs) (h : (r.beginCreation n).snapshot n = .ok (d, t)) :
    defs.lookup n = some d ∧ t.Ready defs := by
  obtain ⟨hd, rfl⟩ | ⟨hnone, hd, rfl⟩ := snapshot_eq_ok h
  · exact ⟨hr.snapshots n d hd, hr.definitions_eq, hr.snapshots, hr.resolvable, hr.closed⟩
  · have hd : defs.lookup n = some d := hr.definitions_eq ▸ hd
    refine ⟨hd, hr.definitions_eq, fun m x hx => ?_, hr.resolvable, hr.closed⟩
    by_cases hm : m = n
    · subst m
      obtain rfl : d = x := Option.some.inj ((lookup_concat_self d hnone).symm.trans hx)
      exact hd
    · exact hr.snapshots m x ((lookup_concat_of_ne d hm).symm.trans hx)

lemma singleton?_finish (u : Registry) (n m : String) (i : Instance) :
    ((u.endCreation n).store n i).singleton? m = if m = n then some i else u.singleton? m :=
  singleton?_store (u.endCreation n) n m i

namespace Begins

lemma singleton?_eq_none (hb : r.Begins n t) (h : t.Explores defs n u) :
    u.singleton? n = none := by
  rw [← Option.not_isSome_iff_eq_none]
  intro hsome
  rcases h.added n hsome with hsome | ⟨-, hnew⟩
  · rw [hb.singleton?_eq, hb.idle] at hsome
    cases hsome
  · exact hnew (hb.inCreation_eq ▸ List.mem_cons_self)

lemma explores_end (hb : r.Begins n t) (h : t.Explores defs n u) :
    r.Explores defs n (u.endCreation n) where
  kept m i hi := h.kept m i ((hb.singleton?_eq m).trans hi)
  added m hm := by
    rcases h.added m hm with hm | ⟨hreach, hnew⟩
    · exact .inl (hb.singleton?_eq m ▸ hm)
    · rw [hb.inCreation_eq] at hnew
      exact .inr ⟨hreach, fun hm => hnew (List.mem_cons_of_mem _ hm)⟩
  inCreation_eq := by
    have hinner := h.inCreation_eq.trans hb.inCreation_eq
    change u.inCreation.filter (· ≠ n) = r.inCreation
    rw [hinner, List.filter_cons_of_neg (by simp)]
    exact List.filter_eq_self.2 fun m hm => by simpa using ne_of_mem_of_not_mem hm hb.new
  pipeline_eq := h.pipeline_eq.trans hb.pipeline_eq

lemma misses_end {e : RegistryError} (hb : r.Begins n t) (h : t.Misses lib defs n e u) :
    r.Misses lib defs n e (u.endCreation n) where
  ready := ⟨h.ready.definitions_eq, h.ready.snapshots, h.ready.resolvable, h.ready.closed⟩
  explores := hb.explores_end h.explores
  blames hr := h.blames (hr.of_pipeline hb.pipeline_eq)

lemma ready_store (h : t.Finds defs n d.factory.requests u) (hd : defs.lookup n = some d)
    (i : Instance) : ((u.endCreation n).store n i).Ready defs := by
  have hkept {m : String} (hm : (u.singleton? m).isSome) :
      (((u.endCreation n).store n i).singleton? m).isSome := by
    rw [singleton?_finish]
    split
    · rfl
    · exact hm
  -- what the new singleton depends on was found, so it can be resolved and nothing is missing
  refine ⟨h.ready.definitions_eq, h.ready.snapshots, fun m hm => ?_, fun m l hm hml => ?_⟩
  · rw [singleton?_finish] at hm
    split at hm
    · subst m
      exact .intro hd fun l hl => h.ready.resolvable l (h.found l hl)
    · exact h.ready.resolvable m hm
  · rw [singleton?_finish] at hm
    split at hm
    · subst m
      obtain ⟨x, hx, hl⟩ := hml
      obtain rfl := Option.some.inj (hd.symm.trans hx)
      exact hkept (h.found l hl)
    · exact hkept (h.ready.closed m l hm hml)

lemma explores_store (hb : r.Begins n t) (h : t.Explores defs n u) (i : Instance) :
    r.Explores defs n ((u.endCreation n).store n i) := by
  have hexplores := hb.explores_end h
  refine ⟨fun m j hj => ?_, fun m hm => ?_, hexplores.inCreation_eq, hexplores.pipeline_eq⟩
  · have hne : m ≠ n := by
      rintro rfl
      cases hb.idle.symm.trans hj
    rw [singleton?_finish, if_neg hne]
    exact hexplores.kept m j hj
  · rw [singleton?_finish] at hm
    split at hm
    · subst m
      exact .inr ⟨.refl, hb.new⟩
    · exact hexplores.added m hm

lemma finds_store (hb : r.Begins n t) (hd : defs.lookup n = some d)
    (h : t.Finds defs n d.factory.requests u) (i : Instance) :
    r.Finds defs n [n] ((u.endCreation n).store n i) := by
  refine ⟨ready_store h hd i, hb.explores_store h.explores i, fun m hm => ?_⟩
  rw [singleton?_finish, if_pos (List.mem_singleton.1 hm)]
  rfl

end Begins

end Registry

namespace Creation

variable {n : String} {s : Session}

lemma searches_of_new {depth : Nat} (hs : s.registry.Ready defs)
    (hstack : Stack defs depth s.registry.inCreation n)
    (hnew : s.registry.singleton? n = none → n ∉ s.registry.inCreation →
      Searches lib defs n (resolveWithin lib depth n) s) :
    Searches lib defs n (resolveWithin lib depth n) s := by
  cases hsingleton : s.registry.singleton? n with
  | some i =>
    rw [Searches, Ends, resolveWithin_stored hsingleton]
    refine ⟨⟨hs, .refl n _, fun m hm => ?_⟩, hsingleton⟩
    rw [List.mem_singleton.1 hm, hsingleton]
    rfl
  | none =>
    by_cases hmem : n ∈ s.registry.inCreation
    · rw [Searches, Ends, resolveWithin_refused hsingleton hmem]
      exact ⟨⟨hs, .refl n _, fun _ => .inr ⟨n, .refl, hstack.above n hmem, rfl⟩⟩, hsingleton⟩
    · exact hnew hsingleton hmem

lemma misses_of_lookup (hs : s.registry.Ready defs) (h : defs.lookup n = none) :
    s.registry.Misses lib defs n (.noSuchDefinition n) s.registry :=
  ⟨hs, .refl n _, fun _ => .inl ⟨n, .refl, h, rfl⟩⟩

theorem resolveWithin_searches (hplain : ∀ n d, defs.lookup n = some d → d.factory.Plain)
    (depth : Nat) (hs : s.registry.Ready defs)
    (hstack : Stack defs depth s.registry.inCreation n) :
    Searches lib defs n (resolveWithin lib depth n) s := by
  induction depth generalizing n s with
  | zero =>
    refine searches_of_new hs hstack fun hnone hnew => ?_
    rw [Searches, Ends, resolveWithin_zero hnone hnew]
    exact ⟨misses_of_lookup hs (hstack.lookup_eq_none hnew), hnone⟩
  | succ depth ih =>
    refine searches_of_new hs hstack fun hnone hnew => ?_
    rw [Searches, Ends, resolveWithin_succ hnone hnew, enter_run]
    cases hsnapshot : (s.registry.beginCreation n).snapshot n with
    | error e =>
      obtain ⟨rfl, hfind⟩ := Registry.snapshot_eq_error hsnapshot
      rw [create_error hsnapshot]
      simp only [Registry.endCreation_beginCreation hnew]
      exact ⟨misses_of_lookup hs (hs.definitions_eq ▸ hfind), hnone⟩
    | ok p =>
      obtain ⟨d, r⟩ := p
      obtain ⟨hd, hr⟩ := hs.snapshot hsnapshot
      have hbegins := Registry.begins_of_snapshot hnone hnew hsnapshot
      -- whatever the factory asks for is reached from all names on the stack
      have hinner (m : String) (hm : m ∈ d.factory.requests) : Stack defs depth r.inCreation m :=
        hbegins.inCreation_eq ▸ hstack.push hnew ⟨d, hd, hm⟩
      have hcomplete := complete_searches (fun m u hu hstack => ih hu hstack) hd (hplain n d hd)
        (s := { s with registry := r }) hr hinner
      rw [create_ok hsnapshot]
      rcases hrun : complete lib (resolveWithin lib depth) n d { s with registry := r } with
        ⟨e | i, t⟩
      · have ht := hcomplete.error hrun
        have hidle : t.registry.singleton? n = none := hbegins.singleton?_eq_none ht.explores
        exact ⟨hbegins.misses_end ht, hidle⟩
      · have ht := hcomplete.ok hrun
        refine ⟨hbegins.finds_store hd ht i, ?_⟩
        exact (Registry.singleton?_finish _ n n i).trans (if_pos rfl)

end Creation

end ComponentContainer
