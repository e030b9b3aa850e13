import ComponentContainer.Proofs.Transcript.Stability

/-! The names in creation are the stack of the creations under way. A request leaves them as they are,
however it ends, and a name is refused exactly while it is on the stack. -/

namespace ComponentContainer

namespace Chronicle

variable {lib : Catalog} {P : Extension → Prop} {c c' : Chronicle} {base : List String}

structure Above (base : List String) (c : Chronicle) : Prop where
  inCreation_eq : c.session.registry.inCreation = (opened c.history).map (·.name) ++ base
  nodup : ((opened c.history).map (·.name)).Nodup
  disjoint : List.Disjoint ((opened c.history).map (·.name)) base

lemma Above.ended {s : Session} {h : History} {start : Start} {rest : List Start} {r : Registry}
    (hc : Above base ⟨s, h⟩) (ho : opened h = start :: rest)
    (hr : r.inCreation = s.registry.inCreation.filter (· ≠ start.name)) :
    r.inCreation = rest.map (·.name) ++ base ∧ (rest.map (·.name)).Nodup ∧
      List.Disjoint (rest.map (·.name)) base := by
  obtain ⟨hcreation, hnodup, hdisjoint⟩ := hc
  simp only [ho, List.map_cons] at hcreation hnodup hdisjoint
  obtain ⟨hrest, hnodup⟩ := List.nodup_cons.1 hnodup
  obtain ⟨hbase, hdisjoint⟩ := List.disjoint_cons_left.1 hdisjoint
  have hkept : (rest.map (·.name) ++ base).filter (· ≠ start.name) = rest.map (·.name) ++ base := by
    refine List.filter_eq_self.2 fun n hn => ?_
    rcases List.mem_append.1 hn with hn | hn
    · simpa using ne_of_mem_of_not_mem hn hrest
    · simpa using ne_of_mem_of_not_mem hn hbase
  refine ⟨?_, hnodup, hdisjoint⟩
  rw [hr, hcreation, List.cons_append, List.filter_cons_of_neg (by simp), hkept]

lemma Step.above (h : Step lib P c c') (hc : c.Above base) : c'.Above base := by
  cases h with
  | quiet h hk => exact ⟨hk.inCreation_eq.trans hc.inCreation_eq, hc.nodup, hc.disjoint⟩
  | register entry h =>
    obtain ⟨-, -, rfl⟩ := Registry.register_eq_ok h
    exact ⟨hc.inCreation_eq, hc.nodup, hc.disjoint⟩
  | remove name h =>
    obtain ⟨-, rfl⟩ := Registry.remove_eq_ok h
    exact ⟨hc.inCreation_eq, hc.nodup, hc.disjoint⟩
  | destroy => exact ⟨hc.inCreation_eq, hc.nodup, hc.disjoint⟩
  | @start s h r d name hnew _ hr =>
    have hcreation : r.inCreation = name :: s.registry.inCreation := by
      obtain ⟨-, rfl⟩ | ⟨-, -, rfl⟩ := Registry.snapshot_eq_ok hr <;> rfl
    -- a new name is neither open nor among those from before
    have hinner := hc.inCreation_eq
    simp only at hinner
    rw [hinner, List.mem_append, not_or] at hnew
    refine ⟨?_, List.nodup_cons.2 ⟨hnew.1, hc.nodup⟩,
      List.disjoint_cons_left.2 ⟨hnew.2, hc.disjoint⟩⟩
    exact hcreation.trans (congrArg (name :: ·) hinner)
  | @fail s h start rest ho =>
    obtain ⟨hcreation, hnodup, hdisjoint⟩ :=
      hc.ended (r := s.registry.endCreation start.name) ho rfl
    have hopened : opened (.failed start.name :: h) = rest := congrArg List.tail ho
    exact ⟨hopened ▸ hcreation, hopened ▸ hnodup, hopened ▸ hdisjoint⟩
  | @finish s h start rest i depth ho =>
    obtain ⟨hcreation, hnodup, hdisjoint⟩ :=
      hc.ended (r := (s.registry.endCreation start.name).store start.name i) ho rfl
    have hopened : opened (.finished start.name i :: h) = rest := congrArg List.tail ho
    exact ⟨hopened ▸ hcreation, hopened ▸ hnodup, hopened ▸ hdisjoint⟩

lemma Path.above (h : Path lib P c c') (hc : c.Above base) : c'.Above base := by
  induction h with
  | refl => exact hc
  | tail _ h ih => exact h.above ih

end Chronicle

variable {lib : Catalog}

lemma Session.Leads.inCreation_eq {P : Extension → Prop} {s t : Session} (h : s.Leads lib P t) :
    t.registry.inCreation = s.registry.inCreation := by
  obtain ⟨h', hpath, hopened⟩ := h []
  have habove : Chronicle.Above s.registry.inCreation ⟨s, []⟩ :=
    ⟨rfl, List.nodup_nil, List.disjoint_nil_left _⟩
  have hend := (hpath.above habove).inCreation_eq
  simp only [hopened] at hend
  exact hend

lemma Creation.inCreation_resolveWithin (lib : Catalog) (depth : Nat) (name : String)
    (s : Session) :
    (resolveWithin lib depth name s).2.registry.inCreation = s.registry.inCreation := by
  have hwalks : Session.Walks lib (fun _ => True) (·.Admits fun _ => True) (resolveWithin lib depth name) :=
    resolveWithin_walks (fun _ _ _ => trivial) depth name
  exact (hwalks.leads fun _ _ _ _ => trivial).inCreation_eq

def Occurrence.Fails (name : String) : Occurrence → Prop
  | answered other (.error _) | ended other (.error _) => other = name
  | answered _ (.ok _) | ended _ (.ok _) | registered _ | removed _ | destroyed | invalidated
  | began .. => False

namespace Transcript

variable {P : Extension → Prop} {t : Transcript} {n : String}

/-- The law of the creation stack at one moment of a transcript. -/
structure Lawful (m : Moment) (earlier : List Moment) : Prop where
  inCreation_eq : m.session.registry.inCreation = (underway (m :: earlier)).map (·.name)
  nodup : m.session.registry.inCreation.Nodup
  innermost : ∀ n a, m.occurrence = .ended n a → (underway earlier).head?.map (·.name) = some n
  refused_iff : ∀ n, m.occurrence.Asks n →
    (m.occurrence = .answered n (.error (.currentlyInCreation n)) ↔
      n ∈ (underway earlier).map (·.name))
  failed : ∀ n, m.occurrence.Fails n → m.session.registry.singleton? n = none

lemma Happens.refused_iff {o : Occurrence} {s : Session} (h : Happens lib t o s) (ht : t.Stacked)
    (ho : o.Asks n) : o = .answered n (.error (.currentlyInCreation n)) ↔
      n ∈ (underway t.moments).map (·.name) := by
  rw [← ht.inCreation_eq]
  rcases h.of_asks ho with ⟨i, hi, rfl⟩ | ⟨-, ⟨hmem, rfl⟩ | ⟨hnew, ⟨d, rfl⟩ | ⟨rfl, -⟩⟩⟩
  · refine ⟨fun h => (nomatch h), fun hmem => ?_⟩
    cases (ht.idle n hmem).symm.trans hi
  · exact ⟨fun _ => hmem, fun _ => rfl⟩
  · exact ⟨fun h => (nomatch h), fun hmem => absurd hmem hnew⟩
  · exact ⟨fun h => (nomatch h), fun hmem => absurd hmem hnew⟩

lemma Happens.singleton?_of_fails {o : Occurrence} {s : Session} (h : Happens lib t o s)
    (ht : t.Stacked) (ho : o.Fails n) : s.registry.singleton? n = none := by
  cases h with
  | refused name hnone | missed name hnone =>
    obtain rfl : name = n := ho
    exact hnone
  | @ended start rest depth made answer w hopen =>
    cases answer with
    | error e =>
      obtain rfl : start.name = n := ho
      exact ht.innermost_idle hopen
    | ok i => exact absurd ho id
  | registered | removed | destroyed | invalidated | handed | began => exact absurd ho id

lemma Path.lawful (h : Path lib P empty t) {later earlier : List Moment} {m : Moment}
    (hm : t.moments = later ++ m :: earlier) : Lawful m earlier := by
  obtain ⟨s, hbefore, hhappens⟩ := h.happens_at hm
  have hstacked := hbefore.stacked stacked_empty
  have hafter := (h.at_moment hm).stacked stacked_empty
  refine ⟨hafter.inCreation_eq, hafter.nodup, fun n a hn => ?_, fun n => ?_, fun n => ?_⟩
  · rcases m with ⟨o, u⟩
    obtain rfl : o = .ended n a := hn
    cases hhappens with
    | ended depth hopen =>
      rw [hopen]
      rfl
  · exact hhappens.refused_iff hstacked
  · exact hhappens.singleton?_of_fails hstacked

lemma Happens.began_of_asks {o : Occurrence} {s : Session} (h : Happens lib t o s)
    (hnone : t.session.registry.singleton? n = none) (hnew : n ∉ t.session.registry.inCreation)
    (ho : o.Asks n) : (∃ d, o = .began n d) ∨
      o = .answered n (.error (.noSuchDefinition n)) ∧ s.registry.find? n = none := by
  rcases h.of_asks ho with ⟨i, hi, -⟩ | ⟨-, ⟨hmem, -⟩ | ⟨-, hbegan⟩⟩
  · cases hnone.symm.trans hi
  · exact absurd hmem hnew
  · exact hbegan

lemma Made.of_append {i : Instance} {between ms : List Moment} (h : Made n i (between ++ ms))
    (hb : ∀ m ∈ between, m.occurrence ≠ .ended n (.ok i)) : Made n i ms := by
  induction between with
  | nil => exact h
  | cons m between ih =>
    obtain ⟨hm, hb⟩ := List.forall_mem_cons.1 hb
    rcases made_cons.1 h with hended | ⟨-, h⟩
    · exact absurd hended hm
    · exact ih h hb

lemma Path.singleton?_since_failed (h : Path lib P empty t) {between earlier : List Moment}
    {failed : Moment} (ht : t.moments = between ++ failed :: earlier)
    (hfailed : failed.occurrence.Fails n)
    (hb : ∀ m ∈ between, ∀ i, m.occurrence ≠ .ended n (.ok i)) :
    t.session.registry.singleton? n = none := by
  rw [Option.eq_none_iff_forall_not_mem]
  intro i hi
  have hmade := h.singleton?_eq_some.1 hi
  rw [ht] at hmade
  have hstored := (h.at_moment ht).singleton?_eq_some.2 (hmade.of_append fun m hm => hb m hm i)
  cases ((h.lawful ht).failed n hfailed).symm.trans hstored

/-- A request leaves the names in creation as they were in every state, so between the requests to a
session there are none. During a run they are the names of the creations under way, none twice;
creations end in the order of the stack, and a request is refused exactly for a name on the stack.
A request that fails leaves no singleton, and the next one starts over. -/
theorem Run.creation_stack {s : Session} {ms : List Moment} (h : Run lib s ms) :
    (∀ depth n u, (Creation.resolveWithin lib depth n u).2.registry.inCreation =
      u.registry.inCreation) ∧
    s.registry.inCreation = [] ∧
    (∀ later m earlier, ms = later ++ m :: earlier → Lawful m earlier) ∧
    ∀ later m between failed earlier n,
      ms = later ++ m :: (between ++ failed :: earlier) → failed.occurrence.Fails n →
      (∀ x ∈ between, ∀ i, x.occurrence ≠ .ended n (.ok i)) → m.occurrence.Asks n →
      n ∉ (underway (between ++ failed :: earlier)).map (·.name) →
      (∃ d, m.occurrence = .began n d) ∨
        m.occurrence = .answered n (.error (.noSuchDefinition n)) ∧
          m.session.registry.find? n = none := by
  obtain ⟨hpath, hidle⟩ := h.path
  refine ⟨Creation.inCreation_resolveWithin lib, hidle.inCreation_eq, ?_, ?_⟩
  · exact fun later m earlier hm => hpath.lawful hm
  · intro later m between failed earlier n hm hfailed hb hasks hnew
    obtain ⟨u, hbefore, hhappens⟩ := hpath.happens_at hm
    have hnone := hbefore.singleton?_since_failed rfl hfailed hb
    have hcreation := (hbefore.stacked stacked_empty).inCreation_eq
    exact hhappens.began_of_asks hnone (hcreation ▸ hnew) hasks

end Transcript

def Catalog.looping : Catalog where
  typeNames := ⟨"", "", "", "", "", "", ""⟩
  blueprints := [
    { (default : Blueprint) with
      name := "a"
      factory := ⟨[⟨.inspect (.get "b"), true⟩], .fresh (.value (.integer 1))⟩ },
    { (default : Blueprint) with
      name := "b"
      factory := ⟨[⟨.inspect (.get "a"), false⟩], .fresh (.value (.integer 2))⟩ }]
  extensions := []

namespace Transcript

def looped : Transcript :=
  after .looping [.edit (.register 0), .edit (.register 1), .inspect (.get "a"),
    .inspect (.get "b")]

theorem looped_stack :
    looped.session.registry.inCreation = [] ∧
    (∃ later earlier u, looped.moments =
        later ++ ⟨.answered "a" (.error (.currentlyInCreation "a")), u⟩ :: earlier ∧
      u.registry.inCreation.Nodup ∧ "a" ∈ (underway earlier).map (·.name)) ∧
    ∃ later m between failed earlier, looped.moments = later ++ m :: (between ++ failed :: earlier) ∧
      failed.occurrence = .ended "b" (.error (.currentlyInCreation "a")) ∧
      failed.session.registry.singleton? "b" = none ∧ ∃ d, m.occurrence = .began "b" d := by
  let d : Definition := ⟨Catalog.looping.blueprint 1, 2⟩
  have hrun : Run .looping looped.session looped.moments := run_after .looping _
  obtain ⟨-, hend, hlawful, hretry⟩ := hrun.creation_stack
  have hrefused : looped.moments[5]?.map (·.occurrence) =
      some (.answered "a" (.error (.currentlyInCreation "a"))) := by decide +kernel
  have hbegan : looped.moments[2]?.map (·.occurrence) = some (.began "b" d) := by decide +kernel
  have hfailed : (looped.moments.drop 3)[1]?.map (·.occurrence) =
      some (.ended "b" (.error (.currentlyInCreation "a"))) := by decide +kernel
  have hother : ((looped.moments.drop 3).take 1).map (·.occurrence) =
      [.ended "a" (.ok ⟨3, .value (.integer 1)⟩)] := by decide +kernel
  have hbetween : ∀ x ∈ (looped.moments.drop 3).take 1, ∀ i,
      x.occurrence ≠ .ended "b" (.ok i) := by
    intro x hx i hxi
    have hmem := List.mem_map_of_mem (f := (·.occurrence)) hx
    rw [hother, List.mem_singleton, hxi] at hmem
    simp at hmem
  have hnew : "b" ∉ (underway (looped.moments.drop 3)).map (·.name) := by decide +kernel
  obtain ⟨u, -, hu⟩ := exists_split hrefused
  obtain ⟨v, -, hv⟩ := exists_split hbegan
  obtain ⟨w, -, hw⟩ := exists_split hfailed
  have hsplit := hw ▸ hv
  have hlaw := hlawful _ _ _ hu
  have hlaw' := hlawful _ _ _ (hsplit.trans (List.append_assoc _ (_ :: _) _).symm)
  refine ⟨hend, ⟨_, _, u, hu, hlaw.nodup, (hlaw.refused_iff "a" rfl).1 rfl⟩, ?_⟩
  refine ⟨_, _, _, _, _, hsplit, rfl, hlaw'.failed "b" rfl, ?_⟩
  have hagain := hretry _ _ _ _ _ "b" hsplit rfl hbetween rfl (hw ▸ hnew)
  exact hagain.resolve_right fun h => nomatch h.1

end Transcript

end ComponentContainer
