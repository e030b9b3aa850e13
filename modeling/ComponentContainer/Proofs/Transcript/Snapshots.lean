import ComponentContainer.Proofs.HookEntries
import ComponentContainer.Proofs.Transcript.Simulation

/-! Which definition a creation works from: the one that stood when its name was first asked to be
created after it was last registered or the snapshots were last dropped. -/

namespace ComponentContainer

namespace Occurrence

def Renews (name : String) : Occurrence → Prop
  | registered d => d.name = name
  | invalidated => True
  | removed _ | destroyed | answered .. | began .. | ended .. => False

def Attempts (name : String) : Occurrence → Prop
  | began other _ | answered other (.error (.noSuchDefinition _)) => other = name
  | _ => False

end Occurrence

namespace Transcript

variable {lib : Catalog} {P : Extension → Prop} {t t' : Transcript} {n : String} {d : Definition}

def Unused (n : String) (ms : List Moment) : Prop :=
  ∃ since renewal earlier, ms = since ++ renewal :: earlier ∧ renewal.occurrence.Renews n ∧
    ∀ m ∈ since, ¬m.occurrence.Renews n ∧ ¬m.occurrence.Attempts n

/-- Whether the definition stood at the first attempt to create that name since its last registration
and the last invalidation, and that attempt was a creation from it. -/
def FirstUsed (n : String) (d : Definition) (ms : List Moment) : Prop :=
  ∃ since first earlier, ms = since ++ ⟨.began n d, first⟩ :: earlier ∧
    (∀ m ∈ since, ¬m.occurrence.Renews n) ∧ Unused n earlier ∧ first.registry.find? n = some d

lemma Unused.cons {m : Moment} {ms : List Moment} (h : Unused n ms)
    (hr : ¬m.occurrence.Renews n) (ha : ¬m.occurrence.Attempts n) : Unused n (m :: ms) := by
  obtain ⟨since, renewal, earlier, rfl, hrenewal, hsince⟩ := h
  exact ⟨m :: since, renewal, earlier, rfl, hrenewal, List.forall_mem_cons.2 ⟨⟨hr, ha⟩, hsince⟩⟩

lemma FirstUsed.cons {m : Moment} {ms : List Moment} (h : FirstUsed n d ms)
    (hr : ¬m.occurrence.Renews n) : FirstUsed n d (m :: ms) := by
  obtain ⟨since, first, earlier, rfl, hsince, hused⟩ := h
  exact ⟨m :: since, first, earlier, rfl, List.forall_mem_cons.2 ⟨hr, hsince⟩, hused⟩

lemma unused_of_renews {o : Occurrence} (h : o.Renews n) (s : Session) (ms : List Moment) :
    Unused n (⟨o, s⟩ :: ms) :=
  ⟨[], _, ms, rfl, h, fun _ hm => absurd hm List.not_mem_nil⟩

structure Traced (t : Transcript) : Prop where
  current : t.session.registry.Current
  used : ∀ n d, t.session.registry.snapshots.lookup n = some d → FirstUsed n d t.moments
  unused : ∀ n, t.session.registry.snapshots.lookup n = none →
    (t.session.registry.find? n).isSome → Unused n t.moments

lemma Traced.of_eq {s : Session} {o : Occurrence} (ht : t.Traced)
    (hd : s.registry.definitions = t.session.registry.definitions)
    (hs : s.registry.snapshots = t.session.registry.snapshots) (hr : ∀ n, ¬o.Renews n)
    (ha : ∀ n, t.session.registry.snapshots.lookup n = none →
      (t.session.registry.find? n).isSome → ¬o.Attempts n) : (t.enter o s).Traced := by
  have hfind (n : String) : s.registry.find? n = t.session.registry.find? n :=
    congrArg (·.lookup n) hd
  refine ⟨fun n d hn => ?_, fun n d hn => ?_, fun n hn hsome => ?_⟩
  · change s.registry.snapshots.lookup n = some d at hn
    change (s.registry.find? n).map (·.core) = some d.core
    rw [hfind]
    exact ht.current n d (hs ▸ hn)
  · change s.registry.snapshots.lookup n = some d at hn
    exact (ht.used n d (hs ▸ hn)).cons (hr n)
  · change s.registry.snapshots.lookup n = none at hn
    change (s.registry.find? n).isSome at hsome
    rw [hs] at hn
    rw [hfind] at hsome
    exact (ht.unused n hn hsome).cons (hr n) (ha n hn hsome)

lemma Traced.register {s : Session} (ht : t.Traced)
    (h : t.session.registry.register d = .ok s.registry) :
    (t.enter (.registered d) s).Traced := by
  have hfind := Registry.find?_register h
  have hcurrent := ht.current.register h
  obtain ⟨-, -, hs⟩ := Registry.register_eq_ok h
  have hlookup (n : String) (hn : n ≠ d.name) :
      s.registry.snapshots.lookup n = t.session.registry.snapshots.lookup n := by
    rw [hs]
    exact lookup_drop_of_ne hn
  refine ⟨hcurrent, fun n x hx => ?_, fun n hnone hsome => ?_⟩
  · change s.registry.snapshots.lookup n = some x at hx
    by_cases hn : n = d.name
    · rw [hs, hn] at hx
      cases lookup_drop_self.symm.trans hx
    · exact (ht.used n x (hlookup n hn ▸ hx)).cons (Ne.symm hn)
  · change s.registry.snapshots.lookup n = none at hnone
    change (s.registry.find? n).isSome at hsome
    by_cases hn : n = d.name
    · exact unused_of_renews (o := .registered d) hn.symm s _
    · rw [hfind, if_neg hn] at hsome
      exact (ht.unused n (hlookup n hn ▸ hnone) hsome).cons (Ne.symm hn) id

lemma Traced.remove {s : Session} {name : String} (ht : t.Traced)
    (h : t.session.registry.remove name = .ok (d, s.registry)) :
    (t.enter (.removed name) s).Traced := by
  have hfind := Registry.find?_remove h
  have hcurrent := ht.current.remove h
  obtain ⟨-, hs⟩ := Registry.remove_eq_ok h
  have hlookup (n : String) (hn : n ≠ name) :
      s.registry.snapshots.lookup n = t.session.registry.snapshots.lookup n := by
    rw [hs]
    exact lookup_drop_of_ne hn
  refine ⟨hcurrent, fun n x hx => ?_, fun n hnone hsome => ?_⟩
  · change s.registry.snapshots.lookup n = some x at hx
    by_cases hn : n = name
    · rw [hs, hn] at hx
      cases lookup_drop_self.symm.trans hx
    · exact (ht.used n x (hlookup n hn ▸ hx)).cons id
  · change s.registry.snapshots.lookup n = none at hnone
    change (s.registry.find? n).isSome at hsome
    by_cases hn : n = name
    · rw [hfind, if_pos hn] at hsome
      cases hsome
    · rw [hfind, if_neg hn] at hsome
      exact (ht.unused n (hlookup n hn ▸ hnone) hsome).cons id id

lemma Traced.began {name : String} {r : Registry} (ht : t.Traced)
    (h : (t.session.registry.beginCreation name).snapshot name = .ok (d, r)) :
    (t.enter (.began name d) { t.session with registry := r }).Traced := by
  have hcurrent := ht.current.snapshot h
  obtain ⟨hd, rfl⟩ | ⟨hnone, hd, rfl⟩ := Registry.snapshot_eq_ok h
  · refine ht.of_eq rfl rfl (fun n => id) fun n hn _ hname => ?_
    obtain rfl : name = n := hname
    cases hn.symm.trans hd
  · have hused : Unused name t.moments := ht.unused name hnone (Option.isSome_iff_exists.2 ⟨d, hd⟩)
    refine ⟨hcurrent, fun n x hx => ?_, fun n hn hsome => ?_⟩
    · change (t.session.registry.snapshots ++ [(name, d)]).lookup n = some x at hx
      by_cases hname : n = name
      · subst n
        obtain rfl : d = x := Option.some.inj ((lookup_concat_self d hnone).symm.trans hx)
        exact ⟨[], _, _, rfl, fun _ hm => absurd hm List.not_mem_nil, hused, hd⟩
      · exact (ht.used n x ((lookup_concat_of_ne d hname).symm.trans hx)).cons id
    · change (t.session.registry.snapshots ++ [(name, d)]).lookup n = none at hn
      by_cases hname : n = name
      · subst n
        cases (lookup_concat_self d hnone).symm.trans hn
      · have hn := (lookup_concat_of_ne d hname).symm.trans hn
        exact (ht.unused n hn hsome).cons id (Ne.symm hname)

lemma Happens.traced {o : Occurrence} {s : Session} (h : Happens lib t o s) (ht : t.Traced) :
    (t.enter o s).Traced := by
  cases h with
  | registered entry stamp s h => exact ht.register h
  | removed name s h => exact ht.remove h
  | destroyed s h =>
    exact ht.of_eq (h ▸ rfl) (h ▸ rfl) (fun _ => id) fun _ _ _ => id
  | invalidated s h =>
    refine ⟨fun n d hd => ?_, fun n d hd => ?_, fun n _ _ => ?_⟩
    · change s.registry.snapshots.lookup n = some d at hd
      rw [h] at hd
      cases hd
    · change s.registry.snapshots.lookup n = some d at hd
      rw [h] at hd
      cases hd
    · exact unused_of_renews (o := .invalidated) trivial s _
  | handed | refused => exact ht.of_eq rfl rfl (fun _ => id) fun _ _ _ => id
  | missed name _ _ hfind =>
    -- an attempt, but of a name that is not registered
    refine ht.of_eq rfl rfl (fun _ => id) fun n _ hsome hname => ?_
    obtain rfl : name = n := hname
    rw [hfind] at hsome
    cases hsome
  | began name _ _ h => exact ht.began h
  | @ended start rest depth made answer =>
    cases answer <;> exact ht.of_eq rfl rfl (fun _ => id) fun _ _ _ => id

lemma Step.traced (h : Step lib P t t') (ht : t.Traced) : t'.Traced := by
  cases h with
  | quiet s hs =>
    refine ⟨fun n d hd => ?_, fun n d hd => ?_, fun n hn hsome => ?_⟩
    · exact (hs.core?_eq n).trans (ht.current n d (hs.snapshots_eq ▸ hd))
    · exact ht.used n d (hs.snapshots_eq ▸ hd)
    · refine ht.unused n (hs.snapshots_eq ▸ hn) ?_
      exact lookup_isSome_iff_mem_keys.2 (hs.keys_eq ▸ lookup_isSome_iff_mem_keys.1 hsome)
  | enter h => exact h.happens.traced ht

lemma traced_empty : empty.Traced :=
  ⟨fun _ _ h => (nomatch h), fun _ _ h => (nomatch h), fun _ _ h => (nomatch h)⟩

lemma Path.traced (h : Path lib P empty t) : t.Traced := by
  induction h with
  | refl => exact traced_empty
  | tail _ h ih => exact h.traced ih

lemma Path.firstUsed (h : Path lib P empty t) {later earlier : List Moment} {start : Session}
    (ht : t.moments = later ++ ⟨.began n d, start⟩ :: earlier) :
    FirstUsed n d (⟨.began n d, start⟩ :: earlier) := by
  refine (h.at_moment ht).traced.used n d ?_
  obtain ⟨u, -, hhappens⟩ := h.happens_at ht
  cases hhappens with
  | began _ _ _ hr =>
    obtain ⟨hd, rfl⟩ | ⟨hnone, -, rfl⟩ := Registry.snapshot_eq_ok hr
    · exact hd
    · exact lookup_concat_self d hnone

end Transcript

/-- Whether the creation that starts so comes to that answer and that session: the factory of its
definition runs, and if it hands out an instance then the hooks get it and are shown the definition. -/
def Start.Concludes (lib : Catalog) (start : Start) (a : Except RegistryError Instance)
    (u : Session) : Prop :=
  ∃ depth made v w,
    Creation.manufacture lib (Creation.resolveWithin lib depth) start.definition start.session =
      (made, v) ∧
    (∀ e, made = .error e → a = .error e ∧ w = v) ∧
    (∀ i, made = .ok i → Creation.equip lib start.name start.definition i v = (a, w)) ∧
    v.Shows start.name start.definition w ∧
    u = { w with registry := w.registry.conclude start.name a }

lemma Start.concludes {lib : Catalog} {start : Start} {made a : Except RegistryError Instance}
    {v w : Session} (depth : Nat)
    (hmade : Creation.manufacture lib (Creation.resolveWithin lib depth) start.definition
      start.session = (made, v))
    (hanswer : Creation.furnish lib start.name start.definition made v = (a, w)) :
    start.Concludes lib a { w with registry := v.registry.conclude start.name a } := by
  rw [← Creation.registry_furnish hanswer]
  cases made with
  | error e =>
    obtain ⟨rfl, rfl⟩ := Prod.mk.inj hanswer
    refine ⟨depth, _, v, v, hmade, fun _ he => ?_, fun _ hi => (nomatch hi), .refl v, rfl⟩
    exact ⟨he, rfl⟩
  | ok i =>
    have hshows := Creation.equip_shows lib start.name start.definition i v
    rw [show Creation.equip lib start.name start.definition i v = (a, w) from hanswer] at hshows
    refine ⟨depth, _, v, w, hmade, fun e he => (nomatch he), fun j hj => ?_, hshows, rfl⟩
    exact Except.ok.inj hj ▸ hanswer

namespace Transcript

variable {lib : Catalog} {P : Extension → Prop}

lemma Path.concluded {t : Transcript} (h : Path lib P empty t) {later earlier : List Moment}
    {n : String} {a : Except RegistryError Instance} {u : Session}
    (ht : t.moments = later ++ ⟨.ended n a, u⟩ :: earlier) :
    ∃ during d start before, earlier = during ++ ⟨.began n d, start⟩ :: before ∧
      underway earlier = ⟨n, d, start⟩ :: underway before ∧
      Start.Concludes lib ⟨n, d, start⟩ a u := by
  obtain ⟨s, -, hhappens⟩ := h.happens_at ht
  cases hhappens with
  | @ended start rest depth _ _ _ hopen hmade hanswer =>
    have hsplit : underway earlier = [] ++ start :: rest := hopen
    obtain ⟨during, before, hearlier, rfl⟩ := exists_began hsplit
    exact ⟨during, start.definition, start.session, before, hearlier, hsplit,
      Start.concludes depth hmade hanswer⟩

/-- Each creation works from one snapshot, whatever it does to its own definition: its factory is the
one that runs, and it is what the hooks are shown. The snapshot is the definition as it stood at the
first creation of that name since its last registration and the last invalidation. Snapshots are of
registered names and agree with their definitions in all that setters leave as it is. -/
theorem Run.creations_from_snapshots {s : Session} {ms : List Moment} (h : Run lib s ms) :
    (∀ later n d start earlier, ms = later ++ ⟨.began n d, start⟩ :: earlier →
      FirstUsed n d (⟨.began n d, start⟩ :: earlier)) ∧
    (∀ later n a u earlier, ms = later ++ ⟨.ended n a, u⟩ :: earlier →
      ∃ during d start before, earlier = during ++ ⟨.began n d, start⟩ :: before ∧
        underway earlier = ⟨n, d, start⟩ :: underway before ∧
        Start.Concludes lib ⟨n, d, start⟩ a u) ∧
    underway ms = [] ∧
    ∀ u, u = s ∨ u ∈ ms.map (·.session) → ∀ n d, u.registry.snapshots.lookup n = some d →
      ∃ live, u.registry.find? n = some live ∧ live.name = d.name ∧
        live.capabilities = d.capabilities ∧ live.factory = d.factory := by
  obtain ⟨hpath, hidle⟩ := h.path
  refine ⟨fun later n d start earlier hm => hpath.firstUsed hm,
    fun later n a u earlier hm => hpath.concluded hm, hidle.underway_eq, fun u hu n d hd => ?_⟩
  have hcurrent : u.registry.Current := by
    rcases hu with rfl | hu
    · exact hpath.traced.current
    · obtain ⟨m, hm, rfl⟩ := List.mem_map.1 hu
      obtain ⟨later, earlier, hsplit⟩ := List.append_of_mem hm
      exact (hpath.at_moment hsplit).traced.current
  have hcore := hcurrent n d hd
  obtain ⟨live, hlive, hlive'⟩ := Option.map_eq_some_iff.1 hcore
  obtain ⟨hname, hrest⟩ := Prod.mk.inj hlive'
  obtain ⟨hcapabilities, hrest⟩ := Prod.mk.inj hrest
  exact ⟨live, hlive, hname, hcapabilities, (Prod.mk.inj hrest).1⟩

end Transcript

def Catalog.rewriting : Catalog where
  typeNames := ⟨"", "", "", "", "", "", ""⟩
  blueprints := [
    { (default : Blueprint) with
      name := "a"
      factory := ⟨[⟨.edit (.setRole "a" .infrastructure), false⟩], .fresh (.value (.integer 1))⟩ }]
  extensions := [.scripted none ⟨none, none, some (.rules [] []), some [], none⟩]

namespace Transcript

def rewritten : Transcript :=
  after .rewriting [.query (.addToPipeline "h" 0), .edit (.register 0), .inspect (.get "a"),
    .inspect .destroy, .inspect (.get "a")]

theorem rewritten_from_snapshot : ∃ (d : Definition) (start u : Session) (i : Instance)
    (later during before : List Moment),
    rewritten.moments =
      later ++ ⟨.ended "a" (.ok i), u⟩ :: (during ++ ⟨.began "a" d, start⟩ :: before) ∧
    d.role = .application ∧
    (start.registry.find? "a").map (·.role) = some .infrastructure ∧
    FirstUsed "a" d (⟨.began "a" d, start⟩ :: before) ∧
    Start.Concludes .rewriting ⟨"a", d, start⟩ (.ok i) u := by
  let d : Definition := ⟨Catalog.rewriting.blueprint 0, 2⟩
  let i : Instance := ⟨4, .value (.integer 1)⟩
  have hrun : Run .rewriting rewritten.session rewritten.moments := run_after .rewriting _
  obtain ⟨hused, hconcluded, -, -⟩ := hrun.creations_from_snapshots
  have hended : rewritten.moments[0]?.map (·.occurrence) = some (.ended "a" (.ok i)) := by
    decide +kernel
  have hbegan : (rewritten.moments.drop 1)[0]?.map (·.occurrence) = some (.began "a" d) := by
    decide +kernel
  have hrole : (rewritten.moments.drop 1)[0]?.bind
      (fun m => (m.session.registry.find? "a").map (·.role)) = some .infrastructure := by
    decide +kernel
  obtain ⟨u, -, hu⟩ := exists_split hended
  obtain ⟨start, hstart, hsplit⟩ := exists_split hbegan
  rw [hstart] at hrole
  obtain ⟨during, d', start', before, hearlier, hunder, hconcludes⟩ := hconcluded _ _ _ _ _ hu
  have hunder' := (congrArg underway hsplit).symm.trans hunder
  obtain ⟨rfl, rfl⟩ : d = d' ∧ start = start' := by
    obtain ⟨-, hd, hs⟩ := Start.mk.inj (List.cons.inj hunder').1
    exact ⟨hd, hs⟩
  have hmoments := hearlier ▸ hu
  have hfirst := hused _ "a" d start before (hmoments.trans (List.append_assoc _ (_ :: _) _).symm)
  exact ⟨d, start, u, i, _, during, before, hmoments, rfl, hrole, hfirst, hconcludes⟩

end Transcript

end ComponentContainer
