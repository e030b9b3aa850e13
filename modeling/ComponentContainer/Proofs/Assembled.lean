import ComponentContainer.Proofs.DependencySearch

/-! Registries that are only filled and asked for components, with factories that only ask for others:
what can be created is decided by what is reached along dependencies. -/

namespace ComponentContainer

open Act Dependencies

variable {lib : Catalog}

/-- What an empty session comes to by registrations of such definitions, additions to the pipeline and
requests for components, with stamps for extensions that are built meanwhile. -/
inductive Session.Assembled (lib : Catalog) : Session → Prop
  | empty : Assembled lib .empty
  | fresh {s : Session} : Assembled lib s → Assembled lib (Session.fresh s).2
  | register {s : Session} (entry : Nat) : Assembled lib s →
    (∀ r, s.registry.register ⟨lib.blueprint entry, s.nextStamp⟩ = .ok r →
      (lib.blueprint entry).factory.Plain) →
    Assembled lib (Session.perform lib (.edit (.register entry)) s).2
  | addToPipeline {s : Session} (name : String) (e : Extension) :
    Assembled lib s → Assembled lib (Session.addToPipeline name e s).2
  | get {s : Session} (name : String) :
    Assembled lib s → Assembled lib (Session.resolve lib name s).2

structure Registry.Plain (r : Registry) : Prop where
  ready : r.Ready r.definitions
  plain : ∀ n d, r.definitions.lookup n = some d → d.factory.Plain
  idle : r.inCreation = []

namespace Registry

variable {r t : Registry} {d : Definition}

lemma Plain.register (hr : r.Plain) (h : r.register d = .ok t) (hd : d.factory.Plain) :
    t.Plain := by
  obtain ⟨-, htaken, rfl⟩ := register_eq_ok h
  have hnew (n : String) (x : Definition) (hx : r.definitions.lookup n = some x) :
      (r.definitions ++ [(d.name, d)]).lookup n = some x := by
    have hne : n ≠ d.name := by
      rintro rfl
      cases htaken.symm.trans hx
    exact (lookup_concat_of_ne d hne).trans hx
  refine ⟨⟨rfl, fun n x hx => ?_, fun n hn => (hr.ready.resolvable n hn).mono hnew,
    fun n m hn hnm => ?_⟩, fun n x hx => ?_, hr.idle⟩
  · by_cases hn : n = d.name
    · rw [hn] at hx
      cases lookup_drop_self.symm.trans hx
    · exact hnew n x (hr.ready.snapshots n x ((lookup_drop_of_ne hn).symm.trans hx))
  · obtain ⟨x, hx, hm⟩ := hnm
    obtain ⟨y, hy⟩ := Option.isSome_iff_exists.1 (hr.ready.resolvable n hn).isSome
    obtain rfl := Option.some.inj ((hnew n y hy).symm.trans hx)
    exact hr.ready.closed n m hn ⟨y, hy, hm⟩
  · by_cases hn : n = d.name
    · subst n
      obtain rfl := Option.some.inj ((lookup_concat_self d htaken).symm.trans hx)
      exact hd
    · exact hr.plain n x ((lookup_concat_of_ne d hn).symm.trans hx)

lemma Plain.addToPipeline {name : String} {e : Extension} (hr : r.Plain)
    (h : r.addToPipeline name e = .ok t) : t.Plain := by
  obtain ⟨-, rfl⟩ := addToPipeline_eq_ok h
  exact ⟨⟨rfl, hr.ready.snapshots, hr.ready.resolvable, hr.ready.closed⟩, hr.plain, hr.idle⟩

lemma Ready.isSome_of_reaches {defs : List (String × Definition)} {n m : String}
    (hr : r.Ready defs) (hn : (r.singleton? n).isSome) (h : Reaches defs n m) :
    (r.singleton? m).isSome := by
  induction h with
  | refl => exact hn
  | tail _ hab ih => exact hr.closed _ _ ih hab

end Registry

namespace Session

variable {s : Session}

lemma resolve_searches (hs : s.registry.Plain) (n : String) :
    Creation.Searches lib s.registry.definitions n (resolve lib n) s := by
  have hlength : s.registry.definitions.length ≤ (Creation.roster lib s).length := by
    unfold Creation.roster
    simp only [List.length_append, List.length_map]
    omega
  refine Creation.resolveWithin_searches hs.plain (Creation.roster lib s).length hs.ready ?_
  rw [hs.idle]
  exact ⟨List.nodup_nil, fun _ h => absurd h List.not_mem_nil, hlength,
    fun _ h => absurd h List.not_mem_nil⟩

lemma plain_of_register (hs : s.registry.Plain) {entry : Nat}
    (hplain : ∀ r, s.registry.register ⟨lib.blueprint entry, s.nextStamp⟩ = .ok r →
      (lib.blueprint entry).factory.Plain) :
    (perform lib (.edit (.register entry)) s).2.registry.Plain := by
  have hedit : Stays ((Edit.register entry).perform lib) s (·.registry.Plain) := by
    refine ends_lift_bind (Ends.bind (ends_get_bind ?_) (fun _ _ hu => hu) (fun _ _ => id))
    change Ends (ofExcept (s.registry.register ⟨lib.blueprint entry, s.nextStamp⟩) >>= _) _ _ _
    cases hr : s.registry.register ⟨lib.blueprint entry, s.nextStamp⟩ with
    | error e => exact hs
    | ok r => exact hs.register hr (hplain r hr)
  exact hedit.adapt_const.state

lemma plain_of_addToPipeline (hs : s.registry.Plain) (name : String) (e : Extension) :
    (addToPipeline name e s).2.registry.Plain := by
  have hadd : Stays (addToPipeline name e) s (·.registry.Plain) := by
    apply ends_get_bind
    cases hr : s.registry.addToPipeline name e with
    | error e => exact hs
    | ok r => exact hs.addToPipeline hr
  exact hadd.state

lemma plain_of_resolve (hs : s.registry.Plain) (name : String) :
    (resolve lib name s).2.registry.Plain := by
  have hend {t : Session} (hready : t.registry.Ready s.registry.definitions)
      (hexplores : s.registry.Explores s.registry.definitions name t.registry) :
      t.registry.Plain := by
    obtain ⟨hdefs, -⟩ := id hready
    exact ⟨hdefs.symm ▸ hready, hdefs.symm ▸ hs.plain, hexplores.inCreation_eq.trans hs.idle⟩
  have hresolve : Stays (resolve lib name) s (·.registry.Plain) :=
    (resolve_searches hs name).mono (fun _ _ ht => hend ht.1.ready ht.1.explores)
      fun _ _ ht => hend ht.1.ready ht.1.explores
  exact hresolve.state

theorem Assembled.plain (h : s.Assembled lib) : s.registry.Plain := by
  induction h with
  | empty =>
    exact ⟨⟨rfl, fun _ _ h => (nomatch h), fun _ h => (nomatch h), fun _ _ h => (nomatch h)⟩,
      fun _ _ h => (nomatch h), rfl⟩
  | fresh _ ih => exact ih
  | register entry _ hplain ih => exact plain_of_register ih hplain
  | addToPipeline name e _ ih => exact plain_of_addToPipeline ih name e
  | get name _ ih => exact plain_of_resolve ih name

/-- If no hook fails then a request succeeds exactly if all that the name reaches is registered, and
free of cycles; then all that has a singleton has it still, and what the name reaches has got one. A
request that fails tells of a name that is not registered or on a cycle, and leaves singletons only
of names that can be resolved without it. -/
theorem Assembled.resolves_iff_reaches (h : s.Assembled lib) (hhooks : s.registry.Harmless lib)
    (n : String) :
    ((∃ i t, resolve lib n s = (.ok i, t)) ↔
      ∀ m, Reaches s.registry.definitions n m →
        (s.registry.find? m).isSome ∧ ¬Cyclic s.registry.definitions m) ∧
    (∀ m i, s.registry.singleton? m = some i →
      (resolve lib n s).2.registry.singleton? m = some i) ∧
    (∀ i t, resolve lib n s = (.ok i, t) → t.registry.singleton? n = some i ∧
      ∀ m, (t.registry.singleton? m).isSome ↔
        (s.registry.singleton? m).isSome ∨ Reaches s.registry.definitions n m) ∧
    (∀ e t, resolve lib n s = (.error e, t) → Blames s.registry.definitions n e ∧
      t.registry.singleton? n = none ∧
      ∀ m, (t.registry.singleton? m).isSome → (s.registry.singleton? m).isSome ∨
        Reaches s.registry.definitions n m ∧ ∃ i u, resolve lib m s = (.ok i, u)) := by
  have hplain := h.plain
  have hsearch (m : String) :
      Creation.Searches lib s.registry.definitions m (resolve lib m) s := resolve_searches hplain m
  have hblames {m : String} {e : RegistryError} {t : Session}
      (ht : resolve lib m s = (.error e, t)) : Blames s.registry.definitions m e :=
    ((hsearch m).error ht).1.blames hhooks
  have hresolvable {m : String} {i : Instance} {t : Session}
      (ht : resolve lib m s = (.ok i, t)) : Resolvable s.registry.definitions m := by
    obtain ⟨hfinds, -⟩ := (hsearch m).ok ht
    exact hfinds.ready.resolvable m (hfinds.found m List.mem_cons_self)
  refine ⟨⟨?_, fun hreach => ?_⟩, fun m i hi => ?_, fun i t ht => ?_, fun e t ht => ?_⟩
  · rintro ⟨i, t, ht⟩ m hm
    have hm := (hresolvable ht).of_reaches hm
    exact ⟨hm.isSome, hm.not_cyclic⟩
  · rcases ht : resolve lib n s with ⟨e | i, t⟩
    · obtain ⟨m, hm, hnone, -⟩ | ⟨m, hm, hcycle, -⟩ := hblames ht
      · have hsome := (hreach m hm).1
        unfold Registry.find? at hsome
        rw [hnone] at hsome
        cases hsome
      · exact absurd hcycle (hreach m hm).2
    · exact ⟨i, t, rfl⟩
  · rcases ht : resolve lib n s with ⟨e | j, t⟩
    · exact ((hsearch n).error ht).1.explores.kept m i hi
    · exact ((hsearch n).ok ht).1.explores.kept m i hi
  · obtain ⟨hfinds, hi⟩ := (hsearch n).ok ht
    refine ⟨hi, fun m => ⟨fun hm => (hfinds.explores.added m hm).imp_right (·.1), ?_⟩⟩
    rintro (hm | hm)
    · exact hfinds.explores.isSome hm
    · exact hfinds.ready.isSome_of_reaches (hfinds.found n List.mem_cons_self) hm
  · obtain ⟨hmisses, hnone⟩ := (hsearch n).error ht
    refine ⟨hblames ht, hnone, fun m hm => ?_⟩
    refine (hmisses.explores.added m hm).imp_right fun hadded => ⟨hadded.1, ?_⟩
    rcases hu : resolve lib m s with ⟨e' | i, u⟩
    · exact absurd (hblames hu) ((hmisses.ready.resolvable m hm).not_blames e')
    · exact ⟨i, u, rfl⟩

end Session

lemma Catalog.plain_blueprint (h : ∀ b ∈ lib.blueprints, b.factory.Plain) (entry : Nat) :
    (lib.blueprint entry).factory.Plain := by
  unfold blueprint
  rw [List.getD_eq_getElem?_getD]
  cases hget : lib.blueprints[entry]? with
  | none => exact ⟨[], rfl⟩
  | some b => exact h b (List.mem_of_getElem? hget)

def Blueprint.asking (name : String) (requests : List String) : Blueprint :=
  { (default : Blueprint) with name, factory := ⟨requests.map Step.get, .fresh (.value .unit)⟩ }

def Catalog.web : Catalog where
  typeNames := ⟨"", "", "", "", "", "", ""⟩
  blueprints := [.asking "a" ["b", "c"], .asking "b" ["d"], .asking "c" ["d"], .asking "d" [],
    .asking "x" ["c", "y"], .asking "y" ["z", "x"], .asking "z" []]
  extensions := []

lemma Catalog.plain_web (entry : Nat) : (web.blueprint entry).factory.Plain := by
  refine plain_blueprint (fun b hb => ?_) entry
  simp only [web, List.mem_cons, List.not_mem_nil, or_false] at hb
  rcases hb with rfl | rfl | rfl | rfl | rfl | rfl | rfl <;> exact ⟨_, rfl⟩

def Extension.observer : Extension :=
  ⟨Session.empty.nextStamp, .scripted "h" ⟨none, none, some (.rules [] []), some [], none⟩⟩

namespace Session

def registerAll (lib : Catalog) (entries : List Nat) (s : Session) : Session :=
  entries.foldl (fun s entry => (perform lib (.edit (.register entry)) s).2) s

lemma Assembled.registerAll {s : Session} (h : s.Assembled lib)
    (hplain : ∀ entry, (lib.blueprint entry).factory.Plain) (entries : List Nat) :
    (registerAll lib entries s).Assembled lib := by
  induction entries generalizing s with
  | nil => exact h
  | cons entry entries ih => exact ih (h.register entry fun _ _ => hplain entry)

def webbed : Session :=
  (resolve .web "x" (registerAll .web (List.range 7)
    (addToPipeline "h" Extension.observer (fresh .empty).2).2)).2

theorem webbed_resolves :
    (∃ e t, resolve .web "x" webbed = (.error e, t) ∧
      Blames webbed.registry.definitions "x" e ∧ t.registry.singleton? "x" = none) ∧
    ∃ i t, resolve .web "a" webbed = (.ok i, t) ∧ (t.registry.singleton? "b").isSome ∧
      ¬Cyclic webbed.registry.definitions "b" := by
  have hempty : (addToPipeline "h" Extension.observer (fresh .empty).2).2.Assembled .web :=
    .addToPipeline "h" _ (.fresh .empty)
  have hassembled : webbed.Assembled .web :=
    .get "x" (hempty.registerAll Catalog.plain_web (List.range 7))
  have hpipeline : webbed.registry.pipeline = [⟨"h", Extension.observer⟩] := by decide +kernel
  have hharmless : Extension.observer.Harmless .web :=
    ⟨fun _ _ => trivial, fun _ _ _ => trivial, fun _ _ _ => trivial⟩
  have hhooks : webbed.registry.Harmless .web := by
    intro entry he
    rw [hpipeline, List.mem_singleton] at he
    exact he ▸ hharmless
  have hx : (resolve .web "x" webbed).1.toOption.isSome = false := by decide +kernel
  have ha : (resolve .web "a" webbed).1.toOption.isSome = true := by decide +kernel
  have hlookup : webbed.registry.definitions.lookup "a" = some ⟨Catalog.web.blueprint 0, 2⟩ := by
    decide +kernel
  have hab : Reaches webbed.registry.definitions "a" "b" := .single ⟨_, hlookup, by decide⟩
  obtain ⟨-, -, -, hfails⟩ := hassembled.resolves_iff_reaches hhooks "x"
  obtain ⟨hiff, -, hsucceeds, -⟩ := hassembled.resolves_iff_reaches hhooks "a"
  constructor
  · rcases ht : resolve .web "x" webbed with ⟨e | i, t⟩
    · exact ⟨e, t, rfl, (hfails e t ht).1, (hfails e t ht).2.1⟩
    · rw [ht] at hx
      cases hx
  · rcases ht : resolve .web "a" webbed with ⟨e | i, t⟩
    · rw [ht] at ha
      cases ha
    · exact ⟨i, t, rfl, ((hsucceeds i t ht).2 "b").2 (.inr hab), (hiff.1 ⟨i, t, ht⟩ "b" hab).2⟩

end Session

end ComponentContainer
