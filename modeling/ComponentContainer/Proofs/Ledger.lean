import ComponentContainer.Proofs.Outcome
import ComponentContainer.Proofs.Pipeline
import ComponentContainer.Proofs.Registry

/-! What a session holds of components, and the postings that account for it: how singletons, names
in creation, listeners and pipeline entries come and go. -/

namespace ComponentContainer

structure Holdings where
  singletons : List (String × Instance)
  inCreation : List String
  listeners : List (String × Extension)
  pipeline : Pipeline

def Session.holdings (s : Session) : Holdings :=
  ⟨s.registry.singletons, s.registry.inCreation, s.listeners, s.registry.pipeline⟩

structure Addition where
  name : String
  extension : Extension
  answer : Except RegistryError Unit
  deriving DecidableEq

def accepted (l : List Addition) : List PipelineEntry :=
  (l.filter (·.answer.isOk)).map fun x => ⟨x.name, x.extension⟩

/-- What happens to the holdings of a session. The detector may see a listener again, and an addition
may be refused; neither changes anything. -/
inductive Posting
  | began (name : String)
  | failed (name : String)
  | stored (name : String) (i : Instance)
  | removed (name : String)
  | destroyed
  | cleared
  | seen (name : String) (e : Extension)
  | added (x : Addition)
  deriving DecidableEq

namespace Posting

def heard (l : List (String × Extension)) : Posting → List (String × Extension)
  | seen name e => if name ∈ l.map (·.1) then l else l ++ [(name, e)]
  | cleared => []
  | began _ | failed _ | stored .. | removed _ | destroyed | added _ => l

def apply (h : Holdings) : Posting → Holdings
  | began name => { h with inCreation := name :: h.inCreation }
  | failed name => { h with inCreation := h.inCreation.filter (· ≠ name) }
  | stored name i =>
    { h with
      inCreation := h.inCreation.filter (· ≠ name)
      singletons := h.singletons.filter (·.1 ≠ name) ++ [(name, i)] }
  | removed name => { h with singletons := h.singletons.filter (·.1 ≠ name) }
  | destroyed => { h with singletons := [] }
  | cleared => { h with singletons := [], listeners := [] }
  | seen name e => { h with listeners := (seen name e).heard h.listeners }
  | added x => { h with pipeline := h.pipeline.addAll (accepted [x]) }

/-- When a posting is possible. Creations end in the reverse order of their beginnings, and a
listener is seen while its component is the innermost in creation. -/
def Fits (h : Holdings) : Posting → Prop
  | began name => name ∉ h.inCreation ∧ h.singletons.lookup name = none
  | failed name | stored name _ => h.inCreation.head? = some name
  | seen name e => h.inCreation.head? = some name ∧ e.behaviour.isListener = true
  | added x => x.answer = .ok () ↔ .instanceHook ∈ x.extension.behaviour.capabilities
  | removed _ | destroyed | cleared => True

def leaves (name : String) : Posting → Option (Option Instance)
  | stored other i => if other = name then some (some i) else none
  | removed other => if other = name then some none else none
  | destroyed | cleared => some none
  | began _ | failed _ | seen .. | added _ => none

def addition? : Posting → Option Addition
  | added x => some x
  | _ => none

end Posting

abbrev Ledger := List Posting

namespace Ledger

def leaves (name : String) (ps : Ledger) : Option (Option Instance) := ps.findSome? (·.leaves name)

def additions (ps : Ledger) : List Addition := (ps.filterMap (·.addition?)).reverse

def lastAdded (ps : Ledger) : Option PipelineEntry := (accepted ps.additions).getLast?

def sightings : Ledger → List (String × Extension)
  | [] | .cleared :: _ => []
  | .seen name e :: earlier => (name, e) :: sightings earlier
  | _ :: earlier => sightings earlier

def firsts (ps : Ledger) : List (String × Extension) :=
  (ps.sightings.pwFilter fun x y => x.1 ≠ y.1).reverse

variable {ps : Ledger}

lemma accepted_append (l l' : List Addition) : accepted (l ++ l') = accepted l ++ accepted l' := by
  unfold accepted
  rw [List.filter_append, List.map_append]

lemma additions_cons_added (x : Addition) (ps : Ledger) :
    additions (.added x :: ps) = ps.additions ++ [x] :=
  List.reverse_cons

lemma names_firsts (ps : Ledger) : ps.firsts.map (·.1) = (ps.sightings.map (·.1)).dedup.reverse := by
  rw [firsts, List.map_reverse]
  exact congrArg List.reverse (List.pwFilter_map (R := (· ≠ ·)) Prod.fst ps.sightings).symm

lemma nodup_firsts (ps : Ledger) : (ps.firsts.map (·.1)).Nodup := by
  rw [names_firsts]
  exact List.nodup_reverse.2 (List.nodup_dedup _)

lemma mem_names_firsts {name : String} :
    name ∈ ps.firsts.map (·.1) ↔ name ∈ ps.sightings.map (·.1) := by
  rw [names_firsts, List.mem_reverse, List.mem_dedup]

lemma firsts_cons_seen (name : String) (e : Extension) (ps : Ledger) :
    firsts (.seen name e :: ps) =
      if name ∈ ps.sightings.map (·.1) then ps.firsts else ps.firsts ++ [(name, e)] := by
  have hnew : (∀ y ∈ ps.sightings.pwFilter fun x y => x.1 ≠ y.1, name ≠ y.1) ↔
      name ∉ ps.sightings.map (·.1) := by
    rw [← mem_names_firsts, firsts, List.mem_map]
    exact ⟨fun h ⟨y, hy, hname⟩ => h y (List.mem_reverse.1 hy) hname.symm,
      fun h y hy hname => h ⟨y, List.mem_reverse.2 hy, hname.symm⟩⟩
  by_cases hname : name ∈ ps.sightings.map (·.1)
  · rw [if_pos hname, firsts, sightings, List.pwFilter_cons_of_neg fun h => hnew.1 h hname]
    rfl
  · rw [if_neg hname, firsts, sightings, List.pwFilter_cons_of_pos (hnew.2 hname),
      List.reverse_cons]
    rfl

lemma firsts_cons (p : Posting) (ps : Ledger) : firsts (p :: ps) = p.heard ps.firsts := by
  cases p with
  | seen name e =>
    rw [firsts_cons_seen, Posting.heard]
    simp only [mem_names_firsts]
  | began | failed | stored | removed | destroyed | cleared | added => rfl

lemma mem_firsts_iff {name : String} {e : Extension} : (name, e) ∈ ps.firsts ↔
    ∃ later earlier : Ledger, ps = later ++ .seen name e :: earlier ∧ .cleared ∉ later ∧
      name ∉ earlier.sightings.map (·.1) := by
  induction ps with
  | nil => exact ⟨fun h => absurd h List.not_mem_nil, fun ⟨_, _, h, _⟩ => by simp at h⟩
  | cons p ps ih =>
    have hlater (hp : p ≠ .cleared) (h : (name, e) ∈ firsts ps) :
        ∃ later earlier : Ledger, p :: ps = later ++ .seen name e :: earlier ∧ .cleared ∉ later ∧
          name ∉ earlier.sightings.map (·.1) := by
      obtain ⟨later, earlier, rfl, hclear, hnew⟩ := ih.1 h
      exact ⟨p :: later, earlier, rfl, List.not_mem_cons_of_ne_of_not_mem hp.symm hclear, hnew⟩
    have hearlier (h : ∃ later earlier : Ledger, p :: ps = later ++ .seen name e :: earlier ∧
        .cleared ∉ later ∧ name ∉ earlier.sightings.map (·.1)) :
        (p = .seen name e ∧ name ∉ (sightings ps).map (·.1)) ∨
          p ≠ .cleared ∧ (name, e) ∈ firsts ps := by
      obtain ⟨_ | ⟨q, later⟩, earlier, heq, hclear, hnew⟩ := h
      · obtain ⟨rfl, rfl⟩ := List.cons.inj heq
        exact .inl ⟨rfl, hnew⟩
      · obtain ⟨rfl, rfl⟩ := List.cons.inj heq
        obtain ⟨hq, hclear⟩ := List.ne_and_not_mem_of_not_mem_cons hclear
        exact .inr ⟨hq.symm, ih.2 ⟨later, earlier, rfl, hclear, hnew⟩⟩
    cases p with
    | cleared =>
      refine ⟨fun h => absurd h List.not_mem_nil, fun h => ?_⟩
      obtain ⟨h, -⟩ | ⟨h, -⟩ := hearlier h
      · cases h
      · exact absurd rfl h
    | seen other x =>
      rw [firsts_cons_seen]
      constructor
      · split
        · exact hlater nofun
        · intro h
          rcases List.mem_append.1 h with h | h
          · exact hlater nofun h
          · cases List.mem_singleton.1 h
            exact ⟨[], ps, rfl, List.not_mem_nil, ‹_›⟩
      · intro h
        obtain ⟨heq, hnew⟩ | ⟨-, h⟩ := hearlier h
        · cases heq
          rw [if_neg hnew]
          exact List.mem_append_right _ (List.mem_singleton_self _)
        · split
          · exact h
          · exact List.mem_append_left _ h
    | began | failed | stored | removed | destroyed | added =>
      refine ⟨hlater nofun, fun h => ?_⟩
      obtain ⟨h, -⟩ | ⟨-, h⟩ := hearlier h
      · cases h
      · exact h

end Ledger

inductive Holdings.Posts (a : Holdings) : Ledger → Holdings → Prop
  | nil : Posts a [] a
  | cons {ps : Ledger} {b : Holdings} (p : Posting) :
    Posts a ps b → p.Fits b → Posts a (p :: ps) (p.apply b)

namespace Holdings

variable {a b c : Holdings} {ps qs : Ledger} {name : String}

lemma Posts.split (h : a.Posts (qs ++ ps) c) : ∃ b, a.Posts ps b ∧ b.Posts qs c := by
  induction qs generalizing c with
  | nil => exact ⟨c, h, .nil⟩
  | cons q qs ih =>
    cases h with
    | cons _ h hfits =>
      obtain ⟨b, hb, hb'⟩ := ih h
      exact ⟨b, hb, .cons q hb' hfits⟩

lemma lookup_apply (p : Posting) (h : Holdings) (name : String) :
    (p.apply h).singletons.lookup name = (p.leaves name).getD (h.singletons.lookup name) := by
  cases p with
  | stored other i =>
    by_cases hname : other = name
    · subst hname
      rw [Posting.leaves, if_pos rfl]
      exact lookup_concat_self i lookup_drop_self
    · rw [Posting.leaves, if_neg hname]
      exact (lookup_concat_of_ne i (Ne.symm hname)).trans (lookup_drop_of_ne (Ne.symm hname))
  | removed other =>
    by_cases hname : other = name
    · subst hname
      rw [Posting.leaves, if_pos rfl]
      exact lookup_drop_self
    · rw [Posting.leaves, if_neg hname]
      exact lookup_drop_of_ne (Ne.symm hname)
  | destroyed | cleared | began | failed | seen | added => rfl

theorem Posts.lookup_eq (h : a.Posts ps b) (name : String) :
    b.singletons.lookup name = (ps.leaves name).getD (a.singletons.lookup name) := by
  induction h with
  | nil => rfl
  | @cons ps b p _ _ ih =>
    rw [lookup_apply, ih, Ledger.leaves, Ledger.leaves, List.findSome?_cons]
    cases p.leaves name with
    | none => rfl
    | some i => rfl

theorem Posts.pipeline_eq (h : a.Posts ps b) :
    b.pipeline = a.pipeline.addAll (accepted ps.additions) := by
  induction h with
  | nil => rfl
  | @cons ps b p _ _ ih =>
    cases p with
    | added x =>
      rw [Ledger.additions_cons_added, Ledger.accepted_append, Pipeline.addAll_append, ← ih]
      rfl
    | began | failed | stored | removed | destroyed | cleared | seen => exact ih

lemma Posts.getLast?_eq (h : a.Posts ps b) :
    b.pipeline.getLast? = ps.lastAdded.or a.pipeline.getLast? := by
  rw [h.pipeline_eq, Pipeline.getLast?_addAll]
  rfl

lemma Posts.accepted_iff (h : a.Posts ps b) : ∀ x ∈ ps.additions,
    x.answer = .ok () ↔ .instanceHook ∈ x.extension.behaviour.capabilities := by
  induction h with
  | nil => exact fun _ hx => absurd hx List.not_mem_nil
  | @cons ps b p _ hfits ih =>
    cases p with
    | added x =>
      rw [Ledger.additions_cons_added]
      exact List.forall_mem_append.2 ⟨ih, List.forall_mem_singleton.2 hfits⟩
    | began | failed | stored | removed | destroyed | cleared | seen => exact ih

theorem Posts.listeners_eq (h : a.Posts ps b) (ha : a.listeners = []) : b.listeners = ps.firsts := by
  induction h with
  | nil => exact ha
  | @cons ps b p _ _ ih =>
    have hheard : (p.apply b).listeners = p.heard b.listeners := by cases p <;> rfl
    rw [hheard, ih, Ledger.firsts_cons]

lemma Posts.isListener (h : a.Posts ps b) (ha : a.listeners = []) :
    ∀ l ∈ b.listeners, l.2.behaviour.isListener = true := by
  induction h with
  | nil =>
    rw [ha]
    exact fun _ hl => absurd hl List.not_mem_nil
  | @cons ps b p _ hfits ih =>
    cases p with
    | cleared => exact fun _ hl => absurd hl List.not_mem_nil
    | seen name e =>
      change ∀ l ∈ if name ∈ b.listeners.map (·.1) then _ else _, _
      split
      · exact ih
      · exact List.forall_mem_append.2 ⟨ih, List.forall_mem_singleton.2 hfits.2⟩
    | began | failed | stored | removed | destroyed | added => exact ih

def Unmade (h : Holdings) : Prop := ∀ name ∈ h.inCreation, h.singletons.lookup name = none

lemma Posts.unmade (h : a.Posts ps b) (ha : a.Unmade) : b.Unmade := by
  induction h with
  | nil => exact ha
  | @cons ps b p _ hfits ih =>
    have hkept (hp : ∀ name i, p ≠ .stored name i) (name : String) (hb : name ∈ b.inCreation) :
        (p.apply b).singletons.lookup name = none := by
      rw [lookup_apply, ih name hb]
      cases p with
      | stored other i => exact absurd rfl (hp other i)
      | removed other =>
        rw [Posting.leaves]
        split <;> rfl
      | destroyed | cleared | began | failed | seen | added => rfl
    intro name hname
    cases p with
    | began other =>
      rcases List.mem_cons.1 hname with rfl | hname
      · exact hfits.2
      · exact hkept nofun name hname
    | failed other => exact hkept nofun name (List.mem_filter.1 hname).1
    | stored other i =>
      obtain ⟨hb, hne⟩ := List.mem_filter.1 hname
      rw [lookup_apply, Posting.leaves, if_neg (Ne.symm (of_decide_eq_true hne))]
      exact ih name hb
    | removed | destroyed | cleared | seen | added => exact hkept nofun name hname

lemma Posts.lookup_eq_some_iff {later earlier : Ledger} {e : Extension} {i : Instance}
    (h : a.Posts (later ++ .seen name e :: earlier) b) (ha : a.Unmade) :
    b.singletons.lookup name = some i ↔ later.leaves name = some (some i) := by
  obtain ⟨d, hd, hb⟩ := h.split
  have hcreation : name ∈ d.inCreation := by
    cases hd with
    | cons _ _ hfits => exact List.mem_of_mem_head? hfits.1
  rw [hb.lookup_eq, hd.unmade ha name hcreation, Option.getD_eq_iff]
  simp

end Holdings

end ComponentContainer
