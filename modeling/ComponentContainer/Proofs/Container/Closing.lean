import ComponentContainer.Proofs.Container.Listeners

/-! What a close leaves behind: nothing, unless the container was closed already and has come to
components since. -/

namespace ComponentContainer

namespace Session

structure Bare (s : Session) : Prop where
  singletons_eq : s.registry.singletons = []
  listeners_eq : s.listeners = []

end Session

structure Ledger.Cleared (ps : Ledger) : Prop where
  dropped : ∀ name i, ps.leaves name ≠ some (some i)
  forgotten : ps.sightings = []

lemma Ledger.firsts_eq_nil_iff {ps : Ledger} : ps.firsts = [] ↔ ps.sightings = [] := by
  constructor
  · intro h
    refine List.eq_nil_iff_forall_not_mem.2 fun p hp => ?_
    have hmem := mem_names_firsts.2 (List.mem_map_of_mem (f := (·.1)) hp)
    rw [h] at hmem
    cases hmem
  · intro h
    rw [firsts, h]
    rfl

lemma Holdings.Posts.singletons_eq_nil_iff {a b : Holdings} {ps : Ledger} (h : a.Posts ps b)
    (ha : a.singletons = []) : b.singletons = [] ↔ ∀ name i, ps.leaves name ≠ some (some i) := by
  have hlookup (name : String) (i : Instance) :
      b.singletons.lookup name = some i ↔ ps.leaves name = some (some i) := by
    rw [h.lookup_eq, ha, Option.getD_eq_iff]
    simp
  refine ⟨fun hb name i hi => ?_, fun hnone => ?_⟩
  · have hi := (hlookup name i).2 hi
    rw [hb] at hi
    cases hi
  · refine List.eq_nil_iff_forall_not_mem.2 fun p hp => ?_
    obtain ⟨i, hi⟩ := Option.isSome_iff_exists.1
      (lookup_isSome_iff_mem_keys.2 (List.mem_map_of_mem (f := (·.1)) hp))
    exact hnone p.1 i ((hlookup p.1 i).1 hi)

lemma Session.Bare.after_iff {s t : Session} (hs : s.Bare) {ps : Ledger}
    (h : s.holdings.Posts ps t.holdings) : t.Bare ↔ ps.Cleared := by
  have hsingletons : t.registry.singletons = [] ↔ _ := h.singletons_eq_nil_iff hs.singletons_eq
  have hlisteners : t.listeners = ps.firsts := h.listeners_eq hs.listeners_eq
  have hforgotten : t.listeners = [] ↔ ps.sightings = [] := hlisteners ▸ Ledger.firsts_eq_nil_iff
  exact ⟨fun ht => ⟨hsingletons.1 ht.singletons_eq, hforgotten.1 ht.listeners_eq⟩,
    fun hps => ⟨hsingletons.2 hps.dropped, hforgotten.2 hps.forgotten⟩⟩

namespace Container

variable {lib : Catalog} {c : Container}

lemma close_bare (h : c.state ≠ .closed) : (close c).2.session.Bare := by
  obtain ⟨log, hrun⟩ := close_run h
  rw [hrun]
  split
  · exact ⟨rfl, rfl⟩
  · exact ⟨rfl, rfl⟩

lemma Reachable.serve_close (hc : c.Reachable lib) : (close c).2.Reachable lib := hc.serve .close

lemma Reachable.exists_closed (hc : c.Reachable lib) (h : c.state = .closed) :
    ∃ b : Container, b.Reachable lib ∧ b.state ≠ .closed ∧
      ∃ since, c = (close b).2.after lib since := by
  induction hc with
  | new hnew =>
    rw [new_eq_ok hnew] at h
    cases h
  | @serve b r hb ih =>
    by_cases hbefore : b.state = .closed
    · obtain ⟨b', hreachable, hopen, since, rfl⟩ := ih hbefore
      exact ⟨b', hreachable, hopen, since ++ [r], (after_concat lib _ since r).symm⟩
    · have hstate := (serve_leads lib b r).state_eq
      rw [h] at hstate
      cases r with
      | close => exact ⟨b, hb, hbefore, [], rfl⟩
      | refresh run =>
        rw [stateAfter] at hstate
        split at hstate
        · split at hstate <;> cases hstate
        · exact absurd hstate.symm hbefore
      | publish | supply | perform | mutationPhase | buildPipeline =>
        exact absurd hstate.symm hbefore

/-- A close of a container that is not closed leaves nothing behind, whether or not a listener refuses
the event. A close of one that is closed does nothing at all; so it leaves nothing behind exactly if,
by the postings that were entered since the close that counted, the container has dropped and
forgotten all that it has come to. -/
theorem Reachable.close_bare_iff (hc : c.Reachable lib) :
    (c.state ≠ .closed → (close c).2.session.Bare) ∧
    (c.state = .closed → close c = (.ok (), c) ∧
      (∃ b : Container, b.Reachable lib ∧ b.state ≠ .closed ∧
        ∃ since, c = (close b).2.after lib since) ∧
      ∀ (b : Container) (since : List Request), b.state ≠ .closed →
        c = (close b).2.after lib since →
        let w := (Watch.start (close b).2).after lib since
        w.container = c ∧ (close b).2.session.holdings.Posts w.ledger c.session.holdings ∧
        ((close c).2.session.Bare ↔ w.ledger.Cleared)) := by
  refine ⟨close_bare, fun h => ⟨close_again h, hc.exists_closed h, ?_⟩⟩
  rintro b since hopen rfl
  obtain ⟨hcontainer, hkeeps⟩ := (Watch.over_self (close b).2).after lib since
  rw [close_again h]
  exact ⟨hcontainer, hkeeps.posts, (close_bare hopen).after_iff hkeeps.posts⟩

def tidying : List Request := [.perform (.inspect .destroy)]

def tidied : Container := (close listening).2.after .lateRefusal tidying

theorem listening_closed_bare :
    let w := (Watch.start (close listening).2).after .lateRefusal tidying
    listening.session.registry.singletons.map (·.1) = ["l"] ∧
    listening.session.listeners.map (·.1) = ["l"] ∧ (close listening).2.session.Bare ∧
    tidied.state = .closed ∧ close tidied = (.ok (), tidied) ∧ w.ledger = [.destroyed] ∧
    (close tidied).2.session.Bare := by
  intro w
  have hlistening : listening.Reachable .lateRefusal := (Reachable.new new_named).after _
  have hbare := hlistening.close_bare_iff.1 (by decide +kernel)
  have htidied : tidied.Reachable .lateRefusal := hlistening.serve_close.after tidying
  have hclosed : tidied.state = .closed := by decide +kernel
  have hledger : w.ledger = [.destroyed] := by decide +kernel
  have hcleared : w.ledger.Cleared := by
    rw [hledger]
    exact ⟨nofun, rfl⟩
  obtain ⟨hagain, -, hsince⟩ := htidied.close_bare_iff.2 hclosed
  obtain ⟨-, -, hiff⟩ := hsince listening tidying (by decide +kernel) rfl
  exact ⟨by decide +kernel, by decide +kernel, hbare, hclosed, hagain, hledger, hiff.2 hcleared⟩

def revived : Container :=
  (⟨.named "c", ∅, [], .created, none⟩ : Container).after .lateRefusal
    [.perform (.edit (.register 0)), .refresh "r", .close, .perform (.inspect (.get "l"))]

theorem revived_outlives_close : revived.Reachable .lateRefusal ∧ revived.state = .closed ∧
    (close revived).1 = .ok () ∧
    (close revived).2.session.registry.singletons.map (·.1) = ["l"] ∧
    (close revived).2.session.listeners.map (·.1) = ["l"] ∧ ¬(close revived).2.session.Bare := by
  have hsingletons : (close revived).2.session.registry.singletons.map (·.1) = ["l"] := by
    decide +kernel
  refine ⟨(Reachable.new new_named).after _, by decide +kernel, by decide +kernel, hsingletons,
    by decide +kernel, fun h => ?_⟩
  rw [h.singletons_eq] at hsingletons
  cases hsingletons

end Container

end ComponentContainer
