import ComponentContainer.Proofs.Bystander.Requests
import ComponentContainer.Proofs.Orchestration.Traversal
import ComponentContainer.Proofs.Transcript.CreationStack
import ComponentContainer.Proofs.Transcript.Simulation

/-! Scripts, factories and creations keep sessions apart and come to the same in both. The
definition that only one of the sessions has lets creations nest deeper there, but none nests that
deep. -/

namespace ComponentContainer

open Act Session

variable {lib : Catalog} {z : String} {f : ℕ → ℕ} {s₀ : Session}

lemma Transcript.Ample.along {depth : ℕ} {P : Extension → Prop} {s : Session}
    (h : Ample lib depth s₀.registry) (hs : s₀.Leads lib P s) : Ample lib depth s.registry :=
  h.mono (fun _ => hs.path.known) hs.inCreation_eq

namespace Session

abbrev Abreast (lib : Catalog) (z : String) (f : ℕ → ℕ) (s₀ s' s : Session) : Prop :=
  s'.Apart lib z f s ∧ s₀.Leads lib (fun _ => True) s

section

variable {ε α α' : Type} {V : α' → α → Prop} {Q : α → Prop} {m' : Act Session ε α'}
  {m : Act Session ε α}

lemma abreast_of_leads (hm : ∀ s : Session, s.Leads lib (fun _ => True) (m s).2)
    (h : Simulates (Apart lib z f) V m' m) : Simulates (Abreast lib z f s₀) V m' m :=
  fun s' s hs => ⟨(h s' s hs.1).1, (h s' s hs.1).2, hs.2.trans (hm s)⟩

lemma abreast_of_walks (hm : Walks lib (fun _ => True) Q m)
    (h : Simulates (Apart lib z f) V m' m) : Simulates (Abreast lib z f s₀) V m' m :=
  abreast_of_leads (fun _ => hm.leads fun _ _ _ _ => trivial) h

lemma agree_abreast {x' x : StateM Session α}
    (hx : ∀ s : Session, s.Leads lib (fun _ => True) (x s).2)
    (h : Agree (Apart lib z f) x' x) : Agree (Abreast lib z f s₀) x' x :=
  fun s' s hs => ⟨(h s' s hs.1).1, (h s' s hs.1).2, hs.2.trans (hx s)⟩

end

lemma Apart.length_roster_le {s' s : Session} (h : s'.Apart lib z f s) :
    (Creation.roster lib s).length ≤ (Creation.roster lib s').length := by
  have hdefinitions : s.registry.definitions.length ≤ s'.registry.definitions.length := by
    have hle := List.length_filter_le (fun p : String × Definition => decide (p.1 ≠ z))
      s'.registry.definitions
    rwa [h.registry.definitions_eq, mapValues, List.length_map] at hle
  unfold Creation.roster
  rw [h.registry.index_eq, h.registry.snapshots_eq, mapValues]
  simp only [List.length_append, List.length_map]
  omega

end Session

namespace Creation

abbrev ResolvesAbreast (lib : Catalog) (z : String) (f : ℕ → ℕ) (s₀ : Session)
    (resolve' resolve : Resolver) : Prop :=
  ∀ name, name ≠ z →
    Simulates (Abreast lib z f s₀) (Instance.Twin lib z f) (resolve' name) (resolve name)

section

variable {resolve' resolve : Resolver} (hlib : lib.Spares z)
  (hr : ResolvesAbreast lib z f s₀ resolve' resolve)

include hr

lemma instantiate_abreast {name : String} (hname : name ≠ z) :
    Simulates (Abreast lib z f s₀) (fun e' e => e' = e.restamp f ∧ e.Spares lib z)
      (instantiate resolve' name) (instantiate resolve name) := by
  refine (hr name hname).bind fun i' i ⟨htwin, hi⟩ => ?_
  subst htwin
  rw [i.extension?_restamp]
  cases hextension : i.extension? with
  | some e => exact simulates_pure ⟨rfl, hi e hextension⟩
  | none => exact simulates_throw _

lemma inspect_abreast {i : Inspection} (hi : ∀ n ∈ i.mentioned, n ≠ z) :
    Simulates (Abreast lib z f s₀) (fun _ _ => True) (inspect lib resolve' i)
      (inspect lib resolve i) := by
  have hone {name : String} (hname : name ≠ z) (answer' answer : Instance → Answer) :
      Simulates (Abreast lib z f s₀) (fun _ _ => True) (do return answer' (← resolve' name))
        (do return answer (← resolve name)) :=
    (hr name hname).bind fun _ _ _ => simulates_pure trivial
  cases i with
  | get name => exact hone (hi name (.head _)) _ _
  | getAs name kind => exact hone (hi name (.head _)) _ _
  | same name other =>
    exact (hr name (hi name (.head _))).bind fun _ _ _ => hone (hi other (.tail _ (.head _))) _ _
  | describeInstance name => exact hone (hi name (.head _)) _ _
  | destroy =>
    exact (agree_abreast passage_leads.destroys destroySingletons_apart).matches.bind
      fun _ => simulates_pure trivial
  | definition | describe | describePipeline | size | created | createdCount | invalidations =>
    exact simulates_get_bind fun _ _ _ => simulates_pure trivial

include hlib

lemma surface_abreast : (surface lib resolve').SimulatesScripts lib (surface lib resolve)
    (Abreast lib z f s₀) (.beside lib z f) fun _ => True where
  find c := fun s' s h => ⟨congrArg (·.names c) h.1.registry.index_eq, h⟩
  found c _ s h n hn := ne_of_mem_of_not_mem hn (h.1.registry.unlisted c)
  precedenceOf name hname s' s h := by
    change (s'.registry.find? name).map _ = (s.registry.find? name).map _
    rw [h.1.registry.find?_eq hname, Option.map_map]
    rfl
  isInfrastructure name hname s' s h := by
    change (s'.registry.find? name).any _ = (s.registry.find? name).any _
    rw [h.1.registry.find?_eq hname, Option.any_map]
    rfl
  instantiate name hname := (instantiate_abreast hr hname).mono fun _ _ he => ⟨he, trivial⟩
  invalidate := agree_abreast passage_leads.invalidates invalidate_apart
  editable := fun _ _ h => ⟨rfl, h⟩
  edit e he := abreast_of_walks (e.perform_goes passage_leads) (e.perform_apart hlib he)
  pipeline _ _ h := h.1.registry.pipeline_eq
  addToPipeline name e' e he _ := he.1 ▸
    abreast_of_walks (passage_leads.adds name trivial) (addToPipeline_apart name e)
  arm target := abreast_of_walks (passage_leads.arm_goes target) <|
    fresh_apart.bind fun n' n hn => by
      subst hn
      exact (addToPipeline_apart _ ⟨n, .eligibilityChecker target⟩).bind fun _ =>
        simulates_pure rfl
  supply name entry := abreast_of_walks
    (passage_leads.bind (goes_of_along passage_leads.fresh) fun _ _ =>
      passage_leads.adds name trivial) <|
    fresh_apart.bind fun n' n hn => by
      subst hn
      exact addToPipeline_apart name ⟨n, (lib.extension entry).behaviour name⟩
  note e := agree_abreast (passage_leads.note e) (note_apart _ _)
  acted _ _ _ _ _ := agree_abreast (passage_leads.note _) (note_apart _ _)
  record level message := agree_abreast (passage_leads.record level message) (record_apart _ _ _)

lemma perform_abreast {a : Action} (ha : (Likeness.beside lib z f).Allows a) :
    Simulates (Abreast lib z f s₀) (fun _ _ => True) (perform lib resolve' a)
      (perform lib resolve a) := by
  have hS := surface_abreast hlib hr
  cases a with
  | note text => exact simulates_pure trivial
  | fail message => exact simulates_throw _
  | edit e => exact (hS.edit e ha).adapt _
  | query q =>
    exact ((Script.perform_query_simulates hS ha).adapt _).mono fun _ _ _ => trivial
  | inspect i => exact (inspect_abreast hr ha).adapt _

lemma manufacture_abreast {d : Definition} (hd : z ∉ d.factory.mentioned lib) :
    Simulates (Abreast lib z f s₀) (Instance.Twin lib z f) (manufacture lib resolve' (d.restamp f))
      (manufacture lib resolve d) := by
  obtain ⟨⟨own, role, capabilities, precedence, lazy, attributes, ⟨first, product⟩⟩, stamp⟩ := d
  have hS := surface_abreast hlib hr
  obtain ⟨hfirst, hproduct⟩ := not_or.1 fun h => hd (List.mem_append.2 h)
  have hscript := Script.run_simulates hS.note hS.acted (fun _ => perform_abreast hlib hr) own
    (Likeness.allows_steps hfirst)
  refine (hS.note _).matches.bind fun _ => (hscript.adapt _).bind fun _ _ _ => ?_
  cases product with
  | shared entry => exact simulates_pure (paired_extension (hlib.extension stamp entry own))
  | component name => exact hr name fun hz => hproduct (hz ▸ .head _)
  | fresh spec =>
    exact abreast_of_walks (build_goes passage_leads (fun _ _ _ => trivial) spec own)
      (spec.build_paired pairing_apart hlib.extension own)

lemma complete_abreast (name : String) {d : Definition} (hd : z ∉ d.factory.mentioned lib) :
    Simulates (Abreast lib z f s₀) (Instance.Twin lib z f)
      (complete lib resolve' name (d.restamp f)) (complete lib resolve name d) := by
  rw [complete_eq, complete_eq]
  refine (manufacture_abreast hlib hr hd).bind fun made' made hmade => ?_
  refine abreast_of_leads (fun s => ?_) (equip_paired pairing_apart hlib.extension name d hmade)
  have hequip : Stays (equip lib name d made) s fun t => s.Leads lib (fun _ => True) t :=
    (ends_equip (P := fun _ => True) (passage_leads.asides name) (fun _ _ _ => trivial) d
      (fun _ _ => trivial) s).mono (fun _ _ ht => ht.2.2) (fun _ _ ht => ht.2)
  exact hequip.state

end

lemma enter_refused {resolve : Resolver} {name : String} {s : Session} {e : RegistryError}
    (hnew : name ∉ s.registry.inCreation)
    (h : (s.registry.beginCreation name).snapshot name = .error e) :
    enter (create lib resolve) name s = (.error e, s) := by
  rw [enter_run, create_error h]
  simp only [Registry.endCreation_beginCreation hnew]

lemma resolvesAbreast_of_new {depth' depth : ℕ}
    (hnew : ∀ {s' s : Session} {name : String}, Abreast lib z f s₀ s' s → name ≠ z →
      s.registry.singleton? name = none → name ∉ s.registry.inCreation →
      s'.registry.singleton? name = none → name ∉ s'.registry.inCreation →
      Alike (Instance.Twin lib z f) (resolveWithin lib depth' name s').1
          (resolveWithin lib depth name s).1 ∧
        Apart lib z f (resolveWithin lib depth' name s').2 (resolveWithin lib depth name s).2) :
    ResolvesAbreast lib z f s₀ (resolveWithin lib depth') (resolveWithin lib depth) := by
  rintro name hname s' s ⟨h, hs⟩
  suffices hanswer : Alike (Instance.Twin lib z f) (resolveWithin lib depth' name s').1
        (resolveWithin lib depth name s).1 ∧
      Apart lib z f (resolveWithin lib depth' name s').2 (resolveWithin lib depth name s).2 from
    ⟨hanswer.1, hanswer.2, hs.trans <|
      (resolveWithin_walks (fun _ _ _ => trivial) depth name).leads fun _ _ _ _ => trivial⟩
  have hsingleton' := h.registry.singleton?_eq name
  cases hsingleton : s.registry.singleton? name with
  | some i =>
    rw [hsingleton, Option.map_some] at hsingleton'
    rw [resolveWithin_stored hsingleton, resolveWithin_stored hsingleton']
    exact ⟨⟨rfl, h.registry.held _ (mem_of_lookup hsingleton)⟩, h⟩
  | none =>
    rw [hsingleton, Option.map_none] at hsingleton'
    by_cases hmem : name ∈ s.registry.inCreation
    · rw [resolveWithin_refused hsingleton hmem,
        resolveWithin_refused hsingleton' (h.registry.inCreation_eq ▸ hmem)]
      exact ⟨rfl, h⟩
    · exact hnew ⟨h, hs⟩ hname hsingleton hmem hsingleton' (h.registry.inCreation_eq ▸ hmem)

section

variable (hlib : lib.Spares z)

include hlib

lemma enter_apart {depth' depth : ℕ} {name : String} {s' s : Session}
    (hr : ∀ {u : Session}, u.registry.inCreation = name :: s.registry.inCreation →
      Transcript.Ample lib depth u.registry →
      ResolvesAbreast lib z f u (resolveWithin lib depth') (resolveWithin lib depth))
    (h : s'.Apart lib z f s) (hname : name ≠ z) (hnew : name ∉ s.registry.inCreation)
    (hdepth : Transcript.Ample lib (depth + 1) s.registry) :
    Alike (Instance.Twin lib z f) (enter (create lib (resolveWithin lib depth')) name s').1
        (enter (create lib (resolveWithin lib depth)) name s).1 ∧
      Apart lib z f (enter (create lib (resolveWithin lib depth')) name s').2
        (enter (create lib (resolveWithin lib depth)) name s).2 := by
  -- the component is defined alike on both sides, or has no definition on both
  have hsnapshots := (h.registry.beginCreation name).snapshot hname
  cases hsnapshot : (s.registry.beginCreation name).snapshot name with
  | error e =>
    rw [hsnapshot] at hsnapshots
    rw [enter_refused hnew hsnapshot,
      enter_refused (h.registry.inCreation_eq ▸ hnew) hsnapshots.error_eq]
    exact ⟨rfl, h⟩
  | ok p =>
    obtain ⟨d, r⟩ := p
    rw [hsnapshot] at hsnapshots
    obtain ⟨⟨d', r'⟩, hsnapshot', ⟨hd', hd⟩, hr'⟩ := hsnapshots.exists_ok
    obtain rfl : d' = d.restamp f := hd'
    have hcreation : r.inCreation = name :: s.registry.inCreation := by
      obtain ⟨-, rfl⟩ | ⟨-, -, rfl⟩ := Registry.snapshot_eq_ok hsnapshot <;> rfl
    let u' : Session := { s' with registry := r' }
    let u : Session := { s with registry := r }
    obtain ⟨halike, ht, -⟩ := complete_abreast hlib
      (hr (u := u) hcreation (hdepth.began hsnapshot)) name hd u' u
      ⟨{ h with registry := hr' }, .refl⟩
    rw [enter_run, enter_run, create_ok hsnapshot', create_ok hsnapshot]
    revert halike ht
    rcases complete lib (resolveWithin lib depth') name (d.restamp f) u' with ⟨x', t'⟩
    rcases complete lib (resolveWithin lib depth) name d u with ⟨e | i, t⟩
    · intro halike ht
      obtain rfl : x' = .error e := halike.error_eq
      exact ⟨rfl, { ht with registry := ht.registry.endCreation name }⟩
    · intro halike ht
      obtain ⟨i', rfl, rfl, hi⟩ := halike.exists_ok
      exact ⟨⟨rfl, hi⟩, { ht with registry := (ht.registry.endCreation name).store name hi }⟩

theorem resolveWithin_abreast (depth extra : ℕ) (hnodup : s₀.registry.inCreation.Nodup)
    (hdepth : Transcript.Ample lib depth s₀.registry) :
    ResolvesAbreast lib z f s₀ (resolveWithin lib (depth + extra)) (resolveWithin lib depth) := by
  induction depth generalizing s₀ with
  | zero =>
    rw [Nat.zero_add]
    refine resolvesAbreast_of_new fun {s' s name} ⟨h, hs⟩ hname hnone hnew hnone' hnew' => ?_
    have hunknown := (hdepth.along hs).not_known (hs.inCreation_eq ▸ hnodup) hnew
    rw [resolveWithin_zero hnone hnew]
    cases extra with
    | zero =>
      rw [resolveWithin_zero hnone' hnew']
      exact ⟨rfl, h⟩
    | succ extra =>
      -- the first side enters the creation, where the second has no depth left, and finds nothing
      have hsnapshots := (h.registry.beginCreation name).snapshot hname
      cases hsnapshot : (s.registry.beginCreation name).snapshot name with
      | error e =>
        obtain ⟨rfl, -⟩ := Registry.snapshot_eq_error hsnapshot
        rw [hsnapshot] at hsnapshots
        rw [resolveWithin_succ hnone' hnew', enter_refused hnew' hsnapshots.error_eq]
        exact ⟨rfl, h⟩
      | ok p => exact absurd (Registry.known_of_snapshot hsnapshot) hunknown
  | succ depth ih =>
    rw [Nat.add_right_comm]
    refine resolvesAbreast_of_new fun ⟨h, hs⟩ hname hnone hnew hnone' hnew' => ?_
    rw [resolveWithin_succ hnone hnew, resolveWithin_succ hnone' hnew']
    refine enter_apart hlib (fun hcreation hample => ih ?_ hample) h hname hnew (hdepth.along hs)
    rw [hcreation, List.nodup_cons, hs.inCreation_eq]
    exact ⟨hs.inCreation_eq ▸ hnew, hnodup⟩

theorem resolve_abreast (hidle : s₀.registry.inCreation = []) :
    ResolvesAbreast lib z f s₀ (Session.resolve lib) (Session.resolve lib) := by
  rintro name hname s' s ⟨h, hs⟩
  obtain ⟨extra, hextra⟩ := Nat.exists_eq_add_of_le h.length_roster_le
  have hempty : s.registry.inCreation = [] := hs.inCreation_eq.trans hidle
  change Alike _ (resolveWithin lib (roster lib s').length name s').1 _ ∧
    Abreast _ _ _ _ (resolveWithin lib (roster lib s').length name s').2 _
  rw [hextra]
  obtain ⟨halike, ht, hl⟩ := resolveWithin_abreast hlib (roster lib s).length extra
    (hempty ▸ List.nodup_nil) (Transcript.ample_roster hempty) name hname s' s ⟨h, .refl⟩
  exact ⟨halike, ht, hs.trans hl⟩

end

end Creation

end ComponentContainer
