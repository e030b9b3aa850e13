import ComponentContainer.Proofs.Orchestration.Traversal
import ComponentContainer.Proofs.Transcript.CreationStack
import Mathlib.Data.Finset.Card

/-! How deep creations nest. A creation begins only for a name that is not in creation, so the names
that are left bound the nesting, whatever factories catch, drop or define anew on the way. The depth
that requests start out with therefore never decides an answer: they are what the unbounded
recursion comes to. -/

namespace ComponentContainer

open Act Session

variable {lib : Catalog}

namespace Creation

def request (finish : String → Definition → Act Session RegistryError Instance) : Resolver :=
  fun name => do
    let r := (← get).registry
    match r.singleton? name with
    | some i => return i
    | none =>
      if name ∈ r.inCreation then throw (.currentlyInCreation name)
      enter (fun name => do finish name (← Session.snapshot name)) name

/-- Requests for which creations nest `depth` deep; in the creations inside of these, `beyond` takes
the place of the factory and of the hooks. -/
def nested (lib : Catalog) (beyond : String → Definition → Act Session RegistryError Instance) :
    Nat → Resolver
  | 0 => request beyond
  | depth + 1 => request (complete lib (nested lib beyond depth))

def vacant (lib : Catalog) (s : Session) : Finset String :=
  (roster lib s).toFinset \ s.registry.inCreation.toFinset

section

lemma snapshot_run (name : String) (s : Session) : Session.snapshot name s =
    match s.registry.snapshot name with
    | .ok (d, r) => (.ok d, { s with registry := r })
    | .error e => (.error e, s) := by
  change (ofExcept (s.registry.snapshot name) >>= _ : Act Session _ Definition) s = _
  rcases s.registry.snapshot name with e | ⟨d, r⟩
  · rfl
  · rfl

variable {finish finish' : String → Definition → Act Session RegistryError Instance} {name : String}
  {s : Session}

lemma request_stored {i : Instance} (hi : s.registry.singleton? name = some i) :
    request finish name s = (.ok i, s) := by
  have hget : (get : Act Session RegistryError Session) s = (.ok s, s) := rfl
  rw [request, bind_run, hget]
  simp only [hi]
  rfl

lemma request_refused (hnone : s.registry.singleton? name = none)
    (hmem : name ∈ s.registry.inCreation) :
    request finish name s = (.error (.currentlyInCreation name), s) := by
  have hget : (get : Act Session RegistryError Session) s = (.ok s, s) := rfl
  rw [request, bind_run, hget]
  simp only [hnone, if_pos hmem]
  rfl

lemma request_new (hnone : s.registry.singleton? name = none)
    (hnew : name ∉ s.registry.inCreation) : request finish name s =
      enter (fun name => do finish name (← Session.snapshot name)) name s := by
  have hget : (get : Act Session RegistryError Session) s = (.ok s, s) := rfl
  rw [request, bind_run, hget]
  simp only [hnone, if_neg hnew]

lemma request_congr (h : ∀ d r, name ∉ s.registry.inCreation →
      (s.registry.beginCreation name).snapshot name = .ok (d, r) →
      finish' name d { s with registry := r } = finish name d { s with registry := r }) :
    request finish' name s = request finish name s := by
  cases hsingleton : s.registry.singleton? name with
  | some i => rw [request_stored hsingleton, request_stored hsingleton]
  | none =>
    by_cases hmem : name ∈ s.registry.inCreation
    · rw [request_refused hsingleton hmem, request_refused hsingleton hmem]
    rw [request_new hsingleton hmem, request_new hsingleton hmem, enter_run, enter_run, bind_run,
      bind_run, snapshot_run]
    cases hsnapshot : (s.registry.beginCreation name).snapshot name with
    | error e => rfl
    | ok p =>
      obtain ⟨d, r⟩ := p
      simp only [h d r hmem hsnapshot]

end

section

variable {R : Session → Session → Prop} {K : Likeness} {resolve' resolve : Resolver}

lemma manufacture_matches (hnote : ∀ e, Agree R (note e) (note e))
    (hacted : ∀ id word a' a, K.answer a' a →
      Agree R (note (.acted id word a')) (note (.acted id word a)))
    (hfresh : Agree R fresh fresh)
    (hperform : ∀ a, K.Allows a →
      Simulates R K.answer (perform lib resolve' a) (perform lib resolve a)) {d : Definition}
    (hfirst : ∀ step ∈ d.factory.first, K.Allows step.action)
    (hproduct : ∀ name, d.factory.product = .component name →
      Matches R (resolve' name) (resolve name)) :
    Matches R (manufacture lib resolve' d) (manufacture lib resolve d) := by
  have hscript := Script.run_simulates hnote hacted hperform d.name hfirst
  refine (hnote _).matches.bind fun _ => (hscript.adapt _).bind fun _ _ _ => ?_
  cases hproduct' : d.factory.product with
  | shared entry => exact matches_pure _
  | component name => exact hproduct name hproduct'
  | fresh spec =>
    refine Agree.matches fun s' s hR => ?_
    obtain ⟨hstamp, hnext⟩ := hfresh s' s hR
    cases spec with
    | extension entry =>
      let make (stamp : Nat) := Instance.ofExtension ⟨stamp, (lib.extension entry).behaviour d.name⟩
      exact ⟨congrArg make hstamp, hnext⟩
    | value v => exact ⟨congrArg (Instance.mk · (.value v)) hstamp, hnext⟩

end

/-! ### Requests that agree wherever a passage leads -/

section

variable {P : Extension → Prop} {A : String → Session → Session → Prop}
  {L : Session → Session → Prop} {s₀ : Session} {resolve' resolve : Resolver}
  (hL : Passage lib P A L) (hr : ResolvesAlong P L resolve)
  (heq : ∀ name t, L s₀ t → resolve' name t = resolve name t)
  (hP : ∀ stamp entry name, P ⟨stamp, (lib.extension entry).behaviour name⟩)
  (hs₀ : s₀.registry.Held P)

include hL hr heq hs₀

lemma onward_of_eq (name : String) :
    Simulates (Onward L s₀) (fun i' i => i' = i ∧ i.Admits P) (resolve' name) (resolve name) := by
  rintro s' s ⟨rfl, hs⟩
  rw [heq name s' hs]
  exact hL.simulates (hr name) hs₀ s' s' ⟨rfl, hs⟩

lemma instantiate_onward (name : String) : Simulates (Onward L s₀) (fun e' e => e' = e ∧ P e)
    (instantiate resolve' name) (instantiate resolve name) := by
  refine (onward_of_eq hL hr heq hs₀ name).bind fun i' i ⟨hi', hi⟩ => ?_
  subst hi'
  cases hextension : i'.extension? with
  | some e => exact simulates_pure ⟨rfl, hi e hextension⟩
  | none => exact simulates_throw _

lemma inspect_onward (i : Inspection) :
    Matches (Onward L s₀) (inspect lib resolve' i) (inspect lib resolve i) := by
  have hmatches (name : String) : Matches (Onward L s₀) (resolve' name) (resolve name) :=
    (onward_of_eq hL hr heq hs₀ name).mono fun _ _ => And.left
  cases i with
  | get name => exact (hmatches name).bind fun _ => matches_pure _
  | getAs name kind => exact (hmatches name).bind fun _ => matches_pure _
  | same name other =>
    exact (hmatches name).bind fun _ => (hmatches other).bind fun _ => matches_pure _
  | describeInstance name => exact (hmatches name).bind fun _ => matches_pure _
  | destroy => exact (hL.agree hL.destroys).matches.bind fun _ => matches_pure _
  | definition | describe | describePipeline | size | created | createdCount | invalidations =>
    exact simulates_get_bind fun | _, _, ⟨rfl, _⟩ => matches_pure _

include hP

lemma perform_onward (a : Action) :
    Matches (Onward L s₀) (perform lib resolve' a) (perform lib resolve a) := by
  have hS : (surface lib resolve').SimulatesScripts lib (surface lib resolve) (Onward L s₀) .same
      P :=
    { hL.surface_simulates hP hs₀ with
      instantiate := fun name _ => instantiate_onward hL hr heq hs₀ name }
  cases a with
  | note text => exact matches_pure _
  | fail message => exact simulates_throw _
  | edit e => exact (hS.edit e trivial).adapt _
  | query q =>
    exact (Script.perform_query_simulates hS fun _ _ => trivial).adapt _
  | inspect i => exact (inspect_onward hL hr heq hs₀ i).adapt _

lemma complete_congr (name : String) (d : Definition) :
    complete lib resolve' name d s₀ = complete lib resolve name d s₀ := by
  have hmade : Matches (Onward L s₀) (manufacture lib resolve' d) (manufacture lib resolve d) :=
    manufacture_matches (K := .same) (fun e => hL.agree (hL.note e))
      (fun _ _ _ _ h => h ▸ hL.agree (hL.note _)) (hL.agree hL.fresh)
      (fun a _ => perform_onward hL hr heq hP hs₀ a)
      (fun step _ => Likeness.allows_same step.action)
      fun name _ => (onward_of_eq hL hr heq hs₀ name).mono fun _ _ => And.left
  obtain ⟨halike, hsession, -⟩ := hmade s₀ s₀ ⟨rfl, hL.refl s₀⟩
  rw [complete_run, complete_run, halike.eq, hsession]

end

lemma complete_congr_leads {resolve' resolve : Resolver} {s : Session}
    (hr : ResolvesAlong (fun _ => True) (Leads lib fun _ => True) resolve)
    (heq : ∀ name t, s.Leads lib (fun _ => True) t → resolve' name t = resolve name t) (name : String)
    (d : Definition) : complete lib resolve' name d s = complete lib resolve name d s :=
  complete_congr passage_leads hr heq (fun _ _ _ => trivial) (fun _ _ _ _ => trivial) name d

/-! ### Names that are left -/

section

variable {P : Extension → Prop} {s t : Session} {n name : String}

lemma mem_vacant : n ∈ vacant lib s ↔ s.registry.Known lib n ∧ n ∉ s.registry.inCreation := by
  rw [vacant, Finset.mem_sdiff, List.mem_toFinset, List.mem_toFinset, mem_roster]

lemma vacant_subset (h : s.Leads lib P t) : vacant lib t ⊆ vacant lib s := by
  intro n hn
  obtain ⟨hknown, hnew⟩ := mem_vacant.1 hn
  exact mem_vacant.2 ⟨h.path.known hknown, h.inCreation_eq ▸ hnew⟩

variable (lib) in
lemma card_vacant_began {d : Definition} {r : Registry} (hnew : name ∉ s.registry.inCreation)
    (h : (s.registry.beginCreation name).snapshot name = .ok (d, r)) :
    (vacant lib { s with registry := r }).card < (vacant lib s).card := by
  have hcreation : r.inCreation = name :: s.registry.inCreation := by
    obtain ⟨-, rfl⟩ | ⟨-, -, rfl⟩ := Registry.snapshot_eq_ok h <;> rfl
  have hstep : (s.registry.beginCreation name).Step lib (fun _ => True) r := .snapshot name h
  have hknown (n : String) (hn : (s.registry.beginCreation name).Known lib n) :
      s.registry.Known lib n := hn
  refine Finset.card_lt_card ⟨fun n hn => ?_, fun hsub => ?_⟩
  · obtain ⟨hn, hvacant⟩ := mem_vacant.1 hn
    rw [hcreation, List.mem_cons, not_or] at hvacant
    exact mem_vacant.2 ⟨hknown n (hstep.known hn), hvacant.2⟩
  · have hname := hsub (mem_vacant.2 ⟨hknown name (Registry.known_of_snapshot h), hnew⟩)
    exact (mem_vacant.1 hname).2 (hcreation ▸ List.mem_cons_self)

lemma resolveWithin_eq_request {depth : Nat} :
    resolveWithin lib (depth + 1) name s =
      request (complete lib (resolveWithin lib depth)) name s := by
  cases hsingleton : s.registry.singleton? name with
  | some i => rw [resolveWithin_stored hsingleton, request_stored hsingleton]
  | none =>
    by_cases hmem : name ∈ s.registry.inCreation
    · rw [resolveWithin_refused hsingleton hmem, request_refused hsingleton hmem]
    · rw [resolveWithin_succ hsingleton hmem, request_new hsingleton hmem]
      rfl

lemma resolveWithin_eq_request_zero
    {finish : String → Definition → Act Session RegistryError Instance}
    (hvacant : (vacant lib s).card ≤ 0) : resolveWithin lib 0 name s = request finish name s := by
  cases hsingleton : s.registry.singleton? name with
  | some i => rw [resolveWithin_stored hsingleton, request_stored hsingleton]
  | none =>
    by_cases hmem : name ∈ s.registry.inCreation
    · rw [resolveWithin_refused hsingleton hmem, request_refused hsingleton hmem]
    rw [resolveWithin_zero hsingleton hmem, request_new hsingleton hmem, enter_run, bind_run,
      snapshot_run]
    cases hsnapshot : (s.registry.beginCreation name).snapshot name with
    | error e =>
      obtain ⟨rfl, -⟩ := Registry.snapshot_eq_error hsnapshot
      simp only [Registry.endCreation_beginCreation hmem]
    | ok p => exact absurd (card_vacant_began lib hmem hsnapshot) (by omega)

theorem resolveWithin_eq_nested
    {beyond : String → Definition → Act Session RegistryError Instance} (depth depth' : Nat)
    (h : (vacant lib s).card ≤ depth) (h' : (vacant lib s).card ≤ depth') (name : String) :
    resolveWithin lib depth name s = nested lib beyond depth' name s := by
  induction depth generalizing depth' s name with
  | zero =>
    cases depth' with
    | zero => exact resolveWithin_eq_request_zero h
    | succ depth' => exact resolveWithin_eq_request_zero h
  | succ depth ih =>
    rw [resolveWithin_eq_request]
    cases depth' with
    | zero =>
      refine request_congr fun d r hnew hsnapshot => ?_
      exact absurd (card_vacant_began lib hnew hsnapshot) (by omega)
    | succ depth' =>
      refine request_congr fun d r hnew hsnapshot => ?_
      have hfewer := card_vacant_began lib hnew hsnapshot
      refine (complete_congr_leads
        (resolveWithin_goes passage_leads (fun _ _ _ => trivial) depth) (fun n t ht => ?_) name d).symm
      have hsub := Finset.card_le_card (vacant_subset ht)
      exact (ih depth' (by omega) (by omega) n).symm

lemma resolve_eq_nested {beyond : String → Definition → Act Session RegistryError Instance}
    {depth : Nat} (h : (vacant lib s).card ≤ depth) (name : String) :
    Session.resolve lib name s = nested lib beyond depth name s := by
  have hroster : (vacant lib s).card ≤ (roster lib s).length :=
    (Finset.card_le_card Finset.sdiff_subset).trans (List.toFinset_card_le _)
  exact resolveWithin_eq_nested _ _ hroster h name

lemma resolve_eq_request (lib : Catalog) (name : String) (s : Session) :
    Session.resolve lib name s = request (complete lib (Session.resolve lib)) name s := by
  let beyond : String → Definition → Act Session RegistryError Instance := fun name _ =>
    throw (.noSuchDefinition name)
  have hnested : Session.resolve lib name s = nested lib beyond ((vacant lib s).card + 1) name s :=
    resolve_eq_nested (Nat.le_succ _) name
  rw [hnested, nested]
  refine request_congr fun d r hnew hsnapshot => ?_
  have hfewer := card_vacant_began lib hnew hsnapshot
  refine complete_congr_leads (resolve_goes passage_leads fun _ _ _ => trivial) (fun n t ht => ?_)
    name d
  have hsub := Finset.card_le_card (vacant_subset ht)
  exact (resolve_eq_nested (by omega) n).symm

lemma eq_nested {resolve : Resolver}
    (h : ∀ name s, resolve name s = request (complete lib resolve) name s) (depth : Nat) :
    resolve = nested lib (complete lib resolve) depth := by
  have hrequest : resolve = request (complete lib resolve) := funext fun name => funext (h name)
  induction depth with
  | zero => exact hrequest
  | succ depth ih => rw [nested, ← ih, ← hrequest]

end

end Creation

namespace Transcript

lemma Run.underway_subset {s : Session} {ms : List Moment} (h : Run lib s ms)
    {later during : List Moment} (hms : ms = later ++ during) :
    (underway during).map (·.name) ⊆ lib.blueprints.map (·.name) := by
  intro n hn
  obtain ⟨⟨name, d, v⟩, hstart, rfl⟩ := List.mem_map.1 hn
  obtain ⟨inner, rest, ho⟩ := List.append_of_mem hstart
  obtain ⟨inside, before, rfl, -⟩ := exists_began ho
  rw [← List.append_assoc] at hms
  obtain ⟨u, hpath, hbegan⟩ := h.path.path.happens_at hms
  cases hbegan with
  | began _ _ _ hr =>
    have hknown : (u.registry.beginCreation name).Known lib name := Registry.known_of_snapshot hr
    rcases hpath.known hknown with hdefined | hindexed | hstored | hblueprint
    · exact absurd hdefined List.not_mem_nil
    · exact absurd hindexed List.not_mem_nil
    · exact absurd hstored List.not_mem_nil
    · exact hblueprint

lemma Run.length_underway_le {s : Session} {ms : List Moment} (h : Run lib s ms)
    {later earlier : List Moment} {m : Moment} (hms : ms = later ++ m :: earlier) :
    ((underway (m :: earlier)).map (·.name)).Nodup ∧
      (underway (m :: earlier)).length ≤ (lib.blueprints.map (·.name)).toFinset.card := by
  obtain ⟨hcreation, hnodup, -⟩ := h.path.path.lawful hms
  rw [hcreation] at hnodup
  refine ⟨hnodup, ?_⟩
  rw [← List.length_map (f := (·.name)), ← List.toFinset_card_of_nodup hnodup]
  exact Finset.card_le_card fun n hn =>
    List.mem_toFinset.2 (h.underway_subset hms (List.mem_toFinset.1 hn))

end Transcript

namespace Creation

open Transcript (Run underway)

/-- Requests for components end: they are the one solution of the equation of the recursion, which
has no bound, and on no session do they enter a creation inside of as many others as there are names
that are not in creation yet. A name in creation is refused. During a run no name is under way twice,
and creations nest at most as deep as there are different names. -/
theorem resolve_unique_nesting (lib : Catalog) :
    (∀ resolve : Resolver, (∀ name s, resolve name s = request (complete lib resolve) name s) ↔
      resolve = Session.resolve lib) ∧
    (∀ beyond extra name s,
      nested lib beyond ((vacant lib s).card + extra) name s = Session.resolve lib name s) ∧
    (∀ name s, s.registry.singleton? name = none → name ∈ s.registry.inCreation →
      Session.resolve lib name s = (.error (.currentlyInCreation name), s)) ∧
    ∀ s ms, Run lib s ms → ∀ later m earlier, ms = later ++ m :: earlier →
      ((underway (m :: earlier)).map (·.name)).Nodup ∧
        (underway (m :: earlier)).length ≤ (lib.blueprints.map (·.name)).toFinset.card := by
  refine ⟨fun resolve => ⟨fun h => ?_, ?_⟩, fun beyond extra name s => ?_, fun name s => ?_,
    fun s ms h later m earlier hms => h.length_underway_le hms⟩
  · funext name s
    rw [eq_nested h (vacant lib s).card]
    exact (resolve_eq_nested le_rfl name).symm
  · rintro rfl
    exact resolve_eq_request lib
  · exact (resolve_eq_nested (Nat.le_add_right _ _) name).symm
  · exact fun hnone hmem => resolveWithin_refused hnone hmem _

theorem looped_nesting :
    (∃ later m earlier, Transcript.looped.moments = later ++ m :: earlier ∧
      (underway (m :: earlier)).map (·.name) = ["b", "a"]) ∧
    (∀ later m earlier, Transcript.looped.moments = later ++ m :: earlier →
      (underway (m :: earlier)).length ≤ 2) ∧
    let s : Session := { (∅ : Session) with registry := Registry.empty.beginCreation "a" }
    Session.resolve .looping "a" s = (.error (.currentlyInCreation "a"), s) := by
  obtain ⟨-, -, hrefused, hnesting⟩ := resolve_unique_nesting .looping
  have hnames : (Catalog.looping.blueprints.map (·.name)).toFinset.card = 2 := by decide
  refine ⟨?_, fun later m earlier hms => ?_, hrefused "a" _ rfl (.head _)⟩
  · have hrefused : Transcript.looped.moments[5]?.map (·.occurrence) =
        some (.answered "a" (.error (.currentlyInCreation "a"))) := by decide +kernel
    obtain ⟨u, -, hu⟩ := Transcript.exists_split hrefused
    refine ⟨_, _, _, hu, ?_⟩
    change (underway (Transcript.looped.moments.drop 6)).map (·.name) = ["b", "a"]
    decide +kernel
  · have hle := hnesting _ _ (Transcript.run_after .looping _) later m earlier hms
    exact hnames ▸ hle.2

end Creation

end ComponentContainer
