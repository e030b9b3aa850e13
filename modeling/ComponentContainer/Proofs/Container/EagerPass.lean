import ComponentContainer.Proofs.Container.Refreshed

/-! The eager pass goes through the names that are registered when it starts, while the factories
that it runs register, remove and drop. Which components are there in the end. -/

namespace ComponentContainer

variable {lib : Catalog}

lemma Creation.singleton?_of_resolveWithin {name : String} (depth : Nat) {s t : Session}
    {i : Instance} (h : resolveWithin lib depth name s = (.ok i, t)) : t.registry.singleton? name = some i := by
  cases hstored : s.registry.singleton? name with
  | some j =>
    rw [resolveWithin_stored hstored] at h
    cases h
    exact hstored
  | none =>
    by_cases hmem : name ∈ s.registry.inCreation
    · rw [resolveWithin_refused hstored hmem] at h
      cases h
    cases depth with
    | zero =>
      rw [resolveWithin_zero hstored hmem] at h
      cases h
    | succ depth =>
      rw [resolveWithin_succ hstored hmem, enter_run] at h
      split at h
      · cases h
        exact lookup_concat_self _ lookup_drop_self
      · cases h

namespace Container

variable {c c' : Container} {run name : String} {s t u : Session} {before after : List String}
  {summary : RefreshSummary}

def isLazy (s : Session) (name : String) : Bool := (s.registry.find? name).any (·.lazy)

lemma createEager_cons_ok (h : createEager lib (name :: after) s = (.ok (), u)) :
    ∃ t, createEager lib after t = (.ok (), u) ∧
      (isLazy s name = true ∧ t = s ∨
        isLazy s name = false ∧ ∃ i, Session.resolve lib name s = (.ok i, t)) := by
  obtain ⟨s', _, hget, h⟩ := Act.exists_of_bind_ok h
  cases hget
  dsimp only at h
  split at h
  · rename_i hlazy
    obtain ⟨_, t, hcreate, hrest⟩ := Act.exists_of_bind_ok h
    rw [Act.discard_eq] at hcreate
    obtain ⟨i, t', hresolve, ht⟩ := Act.exists_of_bind_ok hcreate
    cases ht
    exact ⟨t, hrest, .inr ⟨by simpa [isLazy] using hlazy, i, Act.adapt_eq_ok hresolve⟩⟩
  · rename_i hlazy
    exact ⟨s, h, .inl ⟨by simpa [isLazy] using hlazy, rfl⟩⟩

lemma createEager_append (lib : Catalog) (before after : List String) :
    createEager lib (before ++ after) =
      createEager lib before >>= fun _ => createEager lib after := by
  induction before with
  | nil => rfl
  | cons name before ih =>
    rw [List.cons_append, createEager, createEager, ih, bind_assoc]
    congr 1
    funext s
    dsimp only
    split
    · rw [bind_assoc]
    · rfl

/-- Where the eager pass that starts from `s` is past the name, and the names that are left: at its
start, if the name is not registered then; else after the turn of the name, which passes over what is
lazy by then. -/
inductive Passed (lib : Catalog) (s : Session) (name : String) : List String → Session → Prop
  | unlisted : name ∉ s.registry.names → Passed lib s name s.registry.names s
  | lazy {before after : List String} {t : Session} : s.registry.names = before ++ name :: after →
    createEager lib before s = (.ok (), t) → isLazy t name = true → Passed lib s name after t
  | created {before after : List String} {t u : Session} {i : Instance} :
    s.registry.names = before ++ name :: after → createEager lib before s = (.ok (), t) →
      isLazy t name = false → Session.resolve lib name t = (.ok i, u) →
      u.registry.singleton? name = some i → Passed lib s name after u

lemma exists_passed (h : createEager lib s.registry.names s = (.ok (), u)) (name : String) :
    ∃ rest t, Passed lib s name rest t ∧ createEager lib rest t = (.ok (), u) := by
  by_cases hlisted : name ∈ s.registry.names
  swap
  · exact ⟨_, s, .unlisted hlisted, h⟩
  obtain ⟨before, after, hnames⟩ := List.append_of_mem hlisted
  rw [hnames, createEager_append] at h
  obtain ⟨_, t, hbefore, hrest⟩ := Act.exists_of_bind_ok h
  obtain ⟨t', hafter, ⟨hlazy, rfl⟩ | ⟨hlazy, i, hresolve⟩⟩ := createEager_cons_ok hrest
  · exact ⟨after, t', .lazy hnames hbefore hlazy, hafter⟩
  · have hstored : t'.registry.singleton? name = some i :=
      Creation.singleton?_of_resolveWithin _ hresolve
    exact ⟨after, t', .created hnames hbefore hlazy hresolve hstored, hafter⟩

/-- Every name is passed, and from there on the postings decide that are entered along what is left of
the pass: the singleton is what the latest one makes of it that has to do with it. -/
theorem eager_singleton_eq (hpre : c.config.preInstantiate = true)
    (h : refresh lib run c = (.ok summary, c')) :
    ∃ s, c.Assembles lib run s ∧ ∀ name, ∃ rest t, Passed lib s name rest t ∧
      let pass := (Logbook.createEager lib rest (t, [])).2
      t.holdings.Posts pass.ledger c'.session.holdings ∧
      c'.session.registry.singleton? name =
        (pass.ledger.leaves name).getD (t.registry.singleton? name) := by
  obtain ⟨-, s, u, log, mutation, built, hs, hrun, hend, -⟩ := refresh_ok h
  obtain ⟨v, heager, hpublish⟩ := populate_ok hrun
  have hcreate : createEager lib s.registry.names s = (.ok (), v) := by
    unfold eagerPass at heager
    rwa [if_pos hpre] at heager
  have hholdings : c'.session.holdings = v.holdings := by
    rw [hend, hpublish]
    rfl
  refine ⟨s, hs, fun name => ?_⟩
  obtain ⟨rest, t, hpassed, hrest⟩ := exists_passed hcreate name
  have hkeeps := (Logbook.createEager_matches lib rest (t, []) t (Logbook.keeps_self t)).2
  rw [hrest] at hkeeps
  have hposts := hkeeps.posts
  rw [← hholdings] at hposts
  exact ⟨rest, t, hpassed, hposts, hposts.lookup_eq name⟩

end Container

def Catalog.nesting : Catalog where
  typeNames := ⟨"", "", "", "", "", "", ""⟩
  blueprints := [
    { (default : Blueprint) with
      name := "a"
      factory := ⟨[⟨.edit (.register 1), false⟩], .fresh (.value .unit)⟩ },
    { (default : Blueprint) with name := "b" },
    { (default : Blueprint) with name := "d", lazy := true }]
  extensions := []

namespace Container

def flat : Container :=
  (⟨.named "c", ∅, [], .created, none⟩ : Container).after .nesting
    [.perform (.edit (.register 1)), .perform (.edit (.register 2))]

def nesting : Container :=
  (⟨.named "c", ∅, [], .created, none⟩ : Container).after .nesting [.perform (.edit (.register 0))]

theorem flat_created : ∃ summary c' s, refresh .nesting "r" flat = (.ok summary, c') ∧
    flat.Assembles .nesting "r" s ∧
    (∃ rest t, Passed .nesting s "b" rest t ∧
      (((Logbook.createEager .nesting rest (t, [])).2.ledger.leaves "b").getD
        (t.registry.singleton? "b")).isSome) ∧
    ∃ rest t, Passed .nesting s "d" rest t ∧
      ((Logbook.createEager .nesting rest (t, [])).2.ledger.leaves "d").getD
        (t.registry.singleton? "d") = none := by
  have hok : (refresh .nesting "r" flat).1.map (·.singletons) = .ok 1 := by decide +kernel
  have hmade : ((refresh .nesting "r" flat).2.session.registry.singleton? "b").isSome := by
    decide +kernel
  have hlazy : (refresh .nesting "r" flat).2.session.registry.singleton? "d" = none := by
    decide +kernel
  obtain ⟨summary, c', hrun, -⟩ := Act.exists_of_map_ok hok
  rw [hrun] at hmade hlazy
  obtain ⟨s, hs, hpass⟩ := eager_singleton_eq (by decide +kernel) hrun
  obtain ⟨rest, t, ht, -, hb⟩ := hpass "b"
  obtain ⟨rest', u, hu, -, hd⟩ := hpass "d"
  exact ⟨summary, c', s, hrun, hs, ⟨rest, t, ht, hb ▸ hmade⟩, rest', u, hu, hd ▸ hlazy⟩

theorem nesting_left_out : nesting.Reachable .nesting ∧ nesting.config.preInstantiate = true ∧
    ∃ summary c', refresh .nesting "r" nesting = (.ok summary, c') ∧
      (c'.session.registry.find? "b").map (·.lazy) = some false ∧
      c'.session.registry.singleton? "b" = none := by
  have hok : (refresh .nesting "r" nesting).1.map (·.singletons) = .ok 1 := by decide +kernel
  have hregistered : ((refresh .nesting "r" nesting).2.session.registry.find? "b").map (·.lazy) =
      some false := by decide +kernel
  have hnone : (refresh .nesting "r" nesting).2.session.registry.singleton? "b" = none := by
    decide +kernel
  refine ⟨(Reachable.new new_named).after _, by decide +kernel, ?_⟩
  obtain ⟨summary, c', hrun, -⟩ := Act.exists_of_map_ok hok
  rw [hrun] at hregistered hnone
  exact ⟨summary, c', hrun, hregistered, hnone⟩

end Container

end ComponentContainer
