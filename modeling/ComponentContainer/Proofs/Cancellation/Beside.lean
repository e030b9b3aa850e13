import ComponentContainer.Proofs.PairedHooks
import ComponentContainer.Proofs.Reachable

/-! Two registries of which the first has one more definition. Whatever is asked of both and does not
name that definition leaves them so, and to remove it makes them the same. -/

namespace ComponentContainer

open Act

namespace Registry

structure Beside (d : Definition) (r' r : Registry) : Prop where
  registered : r'.find? d.name = some d
  definitions_eq : r'.definitions.filter (·.1 ≠ d.name) = r.definitions
  order_eq : r'.order.filter (· ≠ d.name) = r.order
  declaring_eq (c : Capability) : (r'.declaring c).filter (· ≠ d.name) = r.declaring c
  snapshots_eq : r'.snapshots.filter (·.1 ≠ d.name) = r.snapshots.filter (·.1 ≠ d.name)
  singletons_eq : r'.singletons = r.singletons
  inCreation_eq : r'.inCreation = r.inCreation
  pipeline_eq : r'.pipeline = r.pipeline
  invalidations_eq : r'.invalidations = r.invalidations

variable {d : Definition} {r' r : Registry}

lemma beside_register (hr : r.WellFormed) (h : r.register d = .ok r') : r'.Beside d r := by
  have hfind := find?_register h d.name
  obtain ⟨-, hnew, rfl⟩ := register_eq_ok h
  have hnames : d.name ∉ r.names := hr.find?_eq_none.1 hnew
  have hdropped {α : Type} {l : List α} {p : α → Bool} (x : α) (hl : ∀ y ∈ l, p y = true)
      (hx : p x = false) : (l ++ [x]).filter p = l := by
    rw [List.filter_append, List.filter_eq_self.2 hl, List.filter_cons_of_neg (by simp [hx]),
      List.filter_nil, List.append_nil]
  refine ⟨by rw [hfind, if_pos rfl], hdropped _ (fun p hp => ?_) (by simp),
    hdropped _ (fun n hn => ?_) (by simp), fun c => ?_, ?_, rfl, rfl, rfl, rfl⟩
  · have hkey : p.1 ∈ r.names := hr.keys_eq ▸ List.mem_map_of_mem hp
    simpa using ne_of_mem_of_not_mem hkey hnames
  · simpa using ne_of_mem_of_not_mem hn hnames
  · have hkept : (r.declaring c).filter (· ≠ d.name) = r.declaring c :=
      List.filter_eq_self.2 fun n hn => by
        simpa using ne_of_mem_of_not_mem ((hr.declaring_sublist c).subset hn) hnames
    have hnone : (if c ∈ d.capabilities then [d.name] else []).filter (· ≠ d.name) = [] := by
      split <;> simp
    change ((r.index.enterAll d.capabilities d.name).names c).filter _ = _
    rw [CapabilityIndex.names_enterAll, List.filter_append, hnone, List.append_nil]
    exact hkept
  · simp only [List.filter_filter, Bool.and_self]

namespace Beside

variable {n : String} (h : r'.Beside d r)

include h

lemma find?_eq (hn : n ≠ d.name) : r'.find? n = r.find? n := by
  unfold find?
  rw [← h.definitions_eq, lookup_drop_of_ne hn]

lemma contains_eq (hn : n ≠ d.name) : r'.contains n = r.contains n :=
  congrArg Option.isSome (h.find?_eq hn)

lemma singleton?_eq (n : String) : r'.singleton? n = r.singleton? n :=
  congrArg (List.lookup n) h.singletons_eq

lemma lookup_snapshots_eq (hn : n ≠ d.name) : r'.snapshots.lookup n = r.snapshots.lookup n := by
  rw [← lookup_drop_of_ne hn, h.snapshots_eq, lookup_drop_of_ne hn]

lemma exists_remove : ∃ t, r'.remove d.name = .ok (d, t) ∧ t.definitions = r.definitions ∧
    t.names = r.names ∧ (∀ c, t.declaring c = r.declaring c) ∧
    t.snapshots = r.snapshots.filter (·.1 ≠ d.name) ∧
    t.singletons = r.singletons.filter (·.1 ≠ d.name) := by
  unfold Registry.remove
  rw [h.registered]
  refine ⟨_, rfl, h.definitions_eq, h.order_eq, fun c => ?_, h.snapshots_eq,
    congrArg (List.filter _) h.singletons_eq⟩
  exact CapabilityIndex.names_drop.trans (h.declaring_eq c)

lemma register {x : Definition} (hx : x.name ≠ d.name) :
    Alike (Beside d) (r'.register x) (r.register x) := by
  unfold Registry.register
  rw [h.contains_eq hx]
  split
  · exact rfl
  split
  · exact rfl
  refine { h with
    registered := (lookup_concat_of_ne _ hx.symm).trans h.registered
    definitions_eq := ?_, order_eq := ?_, declaring_eq := fun c => ?_, snapshots_eq := ?_ }
  · rw [List.filter_append, h.definitions_eq, List.filter_cons_of_pos (by simpa using hx)]
    rfl
  · rw [List.filter_append, h.order_eq, List.filter_cons_of_pos (by simpa using hx)]
    rfl
  · have hkept : (if c ∈ x.capabilities then [x.name] else []).filter (· ≠ d.name) =
        if c ∈ x.capabilities then [x.name] else [] :=
      List.filter_eq_self.2 fun n hn => by
        split at hn
        · simpa [List.mem_singleton.1 hn] using hx
        · cases hn
    have hindex := h.declaring_eq c
    unfold declaring at hindex ⊢
    rw [CapabilityIndex.names_enterAll, CapabilityIndex.names_enterAll, List.filter_append, hindex,
      hkept]
  · rw [List.filter_comm, h.snapshots_eq, List.filter_comm]

lemma remove (hn : n ≠ d.name) :
    Alike (fun p' p => p'.1 = p.1 ∧ Beside d p'.2 p.2) (r'.remove n) (r.remove n) := by
  unfold Registry.remove
  rw [h.find?_eq hn]
  cases r.find? n with
  | none => exact rfl
  | some x =>
    refine ⟨rfl, { h with
      registered := (lookup_drop_of_ne hn.symm).trans h.registered
      definitions_eq := ?_, order_eq := ?_, declaring_eq := fun c => ?_, snapshots_eq := ?_
      singletons_eq := congrArg (List.filter _) h.singletons_eq }⟩
    · rw [List.filter_comm, h.definitions_eq]
    · rw [List.filter_comm, h.order_eq]
    · have hindex := h.declaring_eq c
      unfold declaring at hindex ⊢
      rw [CapabilityIndex.names_drop, CapabilityIndex.names_drop, List.filter_comm, hindex]
    · rw [List.filter_comm, h.snapshots_eq, List.filter_comm]

lemma amend (hn : n ≠ d.name) (g : Definition → Definition) :
    Beside d (r'.amend n g) (r.amend n g) := by
  refine { h with registered := ?_, definitions_eq := ?_ }
  · rw [find?_amend, h.registered, Option.map_some, if_neg hn.symm]
  · have hkeys : ((fun q : String × Definition => decide (q.1 ≠ d.name)) ∘ fun p =>
        if p.1 = n then (p.1, g p.2) else p) = fun p => decide (p.1 ≠ d.name) := by
      funext p
      simp only [Function.comp_apply]
      split <;> rfl
    unfold Registry.amend
    rw [List.filter_map, hkeys, h.definitions_eq]

lemma snapshot (hn : n ≠ d.name) :
    Alike (fun p' p => p'.1 = p.1 ∧ Beside d p'.2 p.2) (r'.snapshot n) (r.snapshot n) := by
  unfold Registry.snapshot
  rw [h.lookup_snapshots_eq hn]
  cases r.snapshots.lookup n with
  | some x => exact ⟨rfl, h⟩
  | none =>
    rw [h.find?_eq hn]
    cases r.find? n with
    | none => exact rfl
    | some x =>
      refine ⟨rfl, { h with snapshots_eq := ?_ }⟩
      rw [List.filter_append, List.filter_append, h.snapshots_eq]

lemma invalidate : Beside d r'.invalidate r.invalidate :=
  { h with snapshots_eq := rfl, invalidations_eq := congrArg (· + 1) h.invalidations_eq }

lemma destroySingletons : Beside d r'.destroySingletons r.destroySingletons :=
  { h with singletons_eq := rfl }

lemma beginCreation (n : String) : Beside d (r'.beginCreation n) (r.beginCreation n) :=
  { h with inCreation_eq := congrArg (n :: ·) h.inCreation_eq }

lemma endCreation (n : String) : Beside d (r'.endCreation n) (r.endCreation n) :=
  { h with inCreation_eq := congrArg (List.filter _) h.inCreation_eq }

lemma store (n : String) (i : Instance) : Beside d (r'.store n i) (r.store n i) :=
  { h with
    singletons_eq := congrArg (fun l => List.filter (·.1 ≠ n) l ++ [(n, i)]) h.singletons_eq }

lemma addToPipeline (n : String) (e : Extension) :
    Alike (Beside d) (r'.addToPipeline n e) (r.addToPipeline n e) := by
  unfold Registry.addToPipeline PipelineEntry.make
  split
  · exact { h with pipeline_eq := congrArg (Pipeline.add · ⟨n, e⟩) h.pipeline_eq }
  · exact rfl

end Beside

end Registry

namespace Session

structure Beside (d : Definition) (s' s : Session) : Prop where
  registry : s'.registry.Beside d s.registry
  reports_eq : s'.reports = s.reports
  listeners_eq : s'.listeners = s.listeners
  nextStamp_eq : s'.nextStamp = s.nextStamp

variable {d : Definition} {ε : Type}

lemma note_beside (e' e : Entry) : Agree (Beside d) (note e') (note e) :=
  fun _ _ h => ⟨rfl, { h with }⟩

lemma record_beside (level : Level) (message' message : String) :
    Agree (Beside d) (record level message') (record level message) :=
  fun _ _ h => ⟨rfl, { h with }⟩

lemma setRegistry_beside {r' r : Registry} (hr : r'.Beside d r) :
    Agree (Beside d) (setRegistry r') (setRegistry r) :=
  fun _ _ h => ⟨rfl, { h with registry := hr }⟩

lemma fresh_beside : Agree (Beside d) fresh fresh :=
  fun _ _ h => ⟨h.nextStamp_eq, { h with nextStamp_eq := congrArg (· + 1) h.nextStamp_eq }⟩

lemma register_beside {x : Definition} (hx : x.name ≠ d.name) :
    Matches (Beside d) (register x) (register x) := by
  refine simulates_get_bind fun s' s h =>
    (simulates_ofExcept (h.registry.register hx)).bind fun r' r hr => ?_
  exact (record_beside _ _ _).matches.bind fun _ => (setRegistry_beside hr).matches

lemma remove_beside {name : String} (hname : name ≠ d.name) :
    Matches (Beside d) (remove name) (remove name) := by
  refine simulates_get_bind fun s' s h =>
    (simulates_ofExcept (h.registry.remove hname)).bind fun p' p hp => ?_
  exact (setRegistry_beside hp.2).matches.bind fun _ => (record_beside _ _ _).matches.bind fun _ =>
    simulates_pure hp.1

lemma amend_beside {name : String} (hname : name ≠ d.name) (g : Definition → Definition) :
    Agree (Beside d) (amend name g) (amend name g) :=
  fun _ _ h => ⟨h.registry.contains_eq hname, { h with registry := h.registry.amend hname g }⟩

lemma invalidate_beside : Agree (Beside d) invalidate invalidate :=
  fun _ _ h => ⟨rfl, { h with registry := h.registry.invalidate }⟩

lemma destroySingletons_beside : Agree (Beside d) destroySingletons destroySingletons :=
  fun _ _ h => ⟨congrArg List.length h.registry.singletons_eq,
    { h with registry := h.registry.destroySingletons }⟩

lemma addToPipeline_beside (name : String) (e : Extension) :
    Matches (Beside d) (addToPipeline name e) (addToPipeline name e) := by
  refine simulates_get_bind fun s' s h =>
    (simulates_ofExcept (h.registry.addToPipeline name e)).bind fun r' r hr => ?_
  exact (setRegistry_beside hr).matches.bind fun _ => (record_beside _ _ _).matches

lemma pairing_beside : Pairing id (Beside d) where
  note := note_beside
  record := record_beside
  fresh := fresh_beside.matches
  pipeline_eq h := h.registry.pipeline_eq.trans (List.map_id _).symm
  listeners_eq h := h.listeners_eq.trans (List.map_id _).symm
  report r h := { h with reports_eq := congrArg (· ++ [r]) h.reports_eq }
  detect name e h := { h with listeners_eq := congrArg (· ++ [(name, e)]) h.listeners_eq }

end Session

open Session

variable {lib : Catalog} {d : Definition}

lemma Edit.perform_beside {e : Edit} (he : d.name ∉ e.mentioned lib) :
    Simulates (Beside d) (fun _ _ => True) (e.perform lib) (e.perform lib) := by
  have hne {name : String} (h : d.name ∉ [name]) : name ≠ d.name :=
    fun hname => h (hname ▸ .head _)
  have hdone {α : Type} {m : Act Session RegistryError α} (h : Matches (Beside d) m m)
      (answer : α → Answer) : Simulates (Beside d) (fun _ _ => True) (do return answer (← m))
        (do return answer (← m)) := h.bind fun _ => simulates_pure trivial
  cases e with
  | register entry =>
    have hbuilt (stamp : ℕ) : Matches (Beside d) (Session.register ⟨lib.blueprint entry, stamp⟩)
        (Session.register ⟨lib.blueprint entry, stamp⟩) := register_beside (hne he)
    exact hdone (fresh_beside.matches.bind hbuilt) fun _ => .done
  | remove name => exact hdone (remove_beside (hne he)) _
  | setRole name role => exact hdone (amend_beside (hne he) (·.setRole role)).matches _
  | setPrecedence name p => exact hdone (amend_beside (hne he) (·.setPrecedence p)).matches _
  | setLazy name lazy => exact hdone (amend_beside (hne he) (·.setLazy lazy)).matches _
  | setAttribute name key value =>
    exact hdone (amend_beside (hne he) (·.setAttribute key value)).matches _
  | contains name => exact simulates_get_bind fun _ _ _ => simulates_pure trivial
  | names => exact simulates_get_bind fun _ _ _ => simulates_pure trivial

lemma InstanceSpec.build_beside {ε : Type} (spec : InstanceSpec) (id : String) :
    Matches (Beside d) (liftM (spec.build lib id) : Act Session ε Instance)
      (liftM (spec.build lib id)) :=
  (spec.build_paired (P := fun _ => True) pairing_beside (fun _ _ _ => trivial) id).mono
    fun _ _ hi => hi.1

lemma Creation.equip_beside (name : String) (x : Definition) (made : Instance) :
    Matches (Beside d) (equip lib name x made) (equip lib name x made) :=
  (equip_paired (P := fun _ => True) pairing_beside (fun _ _ _ => trivial) name x
    ⟨rfl, fun _ _ => trivial⟩).mono fun _ _ hi => hi.1

end ComponentContainer
