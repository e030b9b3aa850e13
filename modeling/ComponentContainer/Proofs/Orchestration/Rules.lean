import ComponentContainer.Orchestration.Mutation
import ComponentContainer.Orchestration.PipelineBuild
import ComponentContainer.Proofs.Outcome

/-! One rule for each function of an orchestrator that goes through a list or through rounds. A rule
asks what the function does about the head, and gives what it does about all. -/

namespace ComponentContainer

def Supplied.candidate (item : Supplied) : Candidate := ⟨item.name, .untagged, item.extension⟩

namespace Orchestration

section

variable {τ ε X R : Type} {P : τ → List X → Prop} {Q : τ → List X → R → τ → Prop}
  {E : τ → List X → ε → τ → Prop}

/-- From `s` to `u` the head was dealt with: what a walk over the rest comes to from `u`, changed by
`g`, is what one over the whole list comes to from `s`. -/
structure Advances (P : τ → List X → Prop) (Q : τ → List X → R → τ → Prop)
    (E : τ → List X → ε → τ → Prop) (s : τ) (x : X) (rest : List X) (u : τ) (g : R → R) :
    Prop where
  pre : P u rest
  post : ∀ r t, Q u rest r t → Q s (x :: rest) (g r) t
  fails : ∀ e t, E u rest e t → E s (x :: rest) e t

namespace Advances

variable {s u : τ} {x : X} {rest : List X} {g : R → R} {f : Act τ ε R}

lemma bind (h : Advances P Q E s x rest u g)
    (hf : P u rest → Act.Ends f u (Q u rest) (E u rest)) :
    Act.Ends (f >>= fun r => pure (g r)) u (Q s (x :: rest)) (E s (x :: rest)) :=
  (hf h.pre).bind h.post h.fails

lemma run (h : Advances P Q E s x rest u id)
    (hf : P u rest → Act.Ends f u (Q u rest) (E u rest)) :
    Act.Ends f u (Q s (x :: rest)) (E s (x :: rest)) :=
  (hf h.pre).mono h.post h.fails

end Advances

end

variable {σ : Type} {S : Surface σ} {hooks : Hooks σ}

/-! ### Creations -/

section

variable {create : String → Act (Orchestration σ) BootstrapError Candidate}
  {P : Orchestration σ → List String → Prop}
  {E : Orchestration σ → List String → BootstrapError → Orchestration σ → Prop}

section

variable {Q : Orchestration σ → List String → List Candidate → Orchestration σ → Prop}

lemma instantiateAll_rule {names : List String} {s : Orchestration σ} (h : P s names)
    (hnil : ∀ s, P s [] → Q s [] [] s)
    (hcons : ∀ s name rest, P s (name :: rest) → Act.Ends (create name) s
      (fun c u => Advances P Q E s name rest u (c :: ·)) (E s (name :: rest))) :
    Act.Ends (instantiateAll create names) s (Q s names) (E s names) := by
  induction names generalizing s with
  | nil => exact hnil s h
  | cons name rest ih =>
    exact (hcons s name rest h).bind (fun _ u hu => hu.bind ih) (fun _ _ => id)

lemma collectFrom_rule {tier : Option Tier} {phase : Phase} {names : List String}
    {s : Orchestration σ} (h : P s names) (hnil : ∀ s, P s [] → Q s [] [] s)
    (hskip : ∀ s name rest, P s (name :: rest) →
      name ∈ s.invoker.processed ∨ ¬tier.all (S.isTagged name · s.registry) = true →
      Advances P Q E s name rest s id)
    (htake : ∀ s name rest, P s (name :: rest) → name ∉ s.invoker.processed →
      tier.all (S.isTagged name · s.registry) = true →
      Act.Ends (instantiate S phase name) s
        (fun c u => Act.Ends (mark name : Act _ BootstrapError Unit) u
          (fun _ v => Advances P Q E s name rest v (c :: ·)) (E s (name :: rest)))
        (E s (name :: rest))) :
    Act.Ends (collectFrom S tier phase names) s (Q s names) (E s names) := by
  induction names generalizing s with
  | nil => exact hnil s h
  | cons name rest ih =>
    apply Act.ends_get_bind
    split
    · rename_i hold
      rw [Bool.or_eq_true, decide_eq_true_eq, Bool.not_eq_true', ← Bool.not_eq_true] at hold
      exact (hskip s name rest h hold).run ih
    · rename_i hnew
      rw [Bool.or_eq_true, decide_eq_true_eq, Bool.not_eq_true', not_or, Bool.not_eq_false] at hnew
      refine (htake s name rest h hnew.1 hnew.2).bind (fun _ _ hu => ?_) (fun _ _ => id)
      exact hu.bind (fun _ v hv => hv.bind ih) (fun _ _ => id)

end

variable {letIn : String → Act (Orchestration σ) BootstrapError Bool}
  {Q : Orchestration σ → List String → List Candidate × List String × List String →
    Orchestration σ → Prop}

inductive Classifying (S : Surface σ)
    (create : String → Act (Orchestration σ) BootstrapError Candidate)
    (P : Orchestration σ → List String → Prop)
    (Q : Orchestration σ → List String → List Candidate × List String × List String →
      Orchestration σ → Prop)
    (E : Orchestration σ → List String → BootstrapError → Orchestration σ → Prop)
    (s : Orchestration σ) (name : String) (rest : List String) (u : Orchestration σ) : Bool → Prop
  | skipped (h : Advances P Q E s name rest u id) : Classifying S create P Q E s name rest u false
  | isLetIn
      (priority : S.isTagged name .priority u.registry = true → Act.Ends (create name) u
        (fun c v => Advances P Q E s name rest v fun r => (c :: r.1, r.2)) (E s (name :: rest)))
      (ordered : ¬S.isTagged name .priority u.registry = true →
        S.isTagged name .ordered u.registry = true →
        Advances P Q E s name rest u fun r => (r.1, name :: r.2.1, r.2.2))
      (untagged : ¬S.isTagged name .priority u.registry = true →
        ¬S.isTagged name .ordered u.registry = true →
        Advances P Q E s name rest u fun r => (r.1, r.2.1, name :: r.2.2)) :
      Classifying S create P Q E s name rest u true

lemma classify_rule {names : List String} {s : Orchestration σ} (h : P s names)
    (hnil : ∀ s, P s [] → Q s [] ([], [], []) s)
    (hcons : ∀ s name rest, P s (name :: rest) → Act.Ends (letIn name) s
      (fun taken u => Classifying S create P Q E s name rest u taken) (E s (name :: rest))) :
    Act.Ends (classify S letIn create names) s (Q s names) (E s names) := by
  induction names generalizing s with
  | nil => exact hnil s h
  | cons name rest ih =>
    refine (hcons s name rest h).bind (fun _ u hu => ?_) (fun _ _ => id)
    cases hu with
    | skipped h => exact h.run ih
    | isLetIn priority ordered untagged =>
      rw [if_neg (by simp)]
      apply Act.ends_get_bind
      by_cases hpriority : S.isTagged name .priority u.registry = true
      · rw [if_pos hpriority]
        exact (priority hpriority).bind (fun _ v hv => hv.bind ih) (fun _ _ => id)
      rw [if_neg hpriority]
      apply Act.ends_get_bind
      by_cases hordered : S.isTagged name .ordered u.registry = true
      · rw [if_pos hordered]
        exact (ordered hpriority hordered).bind ih
      · rw [if_neg hordered]
        exact (untagged hpriority hordered).bind ih

end

/-! ### Mutations -/

lemma mutateAll_rule {phase : Phase} {P : Orchestration σ → List Candidate → Prop}
    {Q : Orchestration σ → List Candidate → List String → Orchestration σ → Prop}
    {E : Orchestration σ → List Candidate → BootstrapError → Orchestration σ → Prop}
    {cs : List Candidate} {s : Orchestration σ} (h : P s cs) (hnil : ∀ s, P s [] → Q s [] [] s)
    (hcons : ∀ s c rest, P s (c :: rest) → Act.Ends (mutate S hooks phase c) s
      (fun ran u => Advances P Q E s c rest u fun names => if ran then c.name :: names else names)
      (E s (c :: rest))) :
    Act.Ends (mutateAll S hooks phase cs) s (Q s cs) (E s cs) := by
  induction cs generalizing s with
  | nil => exact hnil s h
  | cons c rest ih =>
    exact (hcons s c rest h).bind (fun _ u hu => hu.bind ih) (fun _ _ => id)

section

variable {P : Orchestration σ → List Supplied → Prop}
  {E : Orchestration σ → List Supplied → BootstrapError → Orchestration σ → Prop}

inductive Supplying (S : Surface σ) (hooks : Hooks σ) (P : Orchestration σ → List Supplied → Prop)
    (Q : Orchestration σ → List Supplied → SuppliedOutcome → Orchestration σ → Prop)
    (E : Orchestration σ → List Supplied → BootstrapError → Orchestration σ → Prop)
    (s : Orchestration σ) (item : Supplied) (rest : List Supplied) (u : Orchestration σ) :
    Bool → Prop
  | old (h : ∀ line, Act.Ends (record S .debug line : Act _ BootstrapError Unit) u
      (fun _ v => Advances P Q E s item rest v id) (E s (item :: rest))) :
      Supplying S hooks P Q E s item rest u false
  | isNew
      (mutator : item.extension.behaviour.mutator.isSome = true →
        Act.Ends (mutate S hooks .suppliedMutation item.candidate) u
          (fun ran v => Advances P Q E s item rest v fun out => ⟨item.candidate :: out.invoked,
            if ran then item.name :: out.mutated else out.mutated, out.others⟩)
          (E s (item :: rest)))
      (other : ¬item.extension.behaviour.mutator.isSome = true →
        Advances P Q E s item rest u fun out => { out with others := item :: out.others }) :
      Supplying S hooks P Q E s item rest u true

lemma mutateSupplied_rule
    {Q : Orchestration σ → List Supplied → SuppliedOutcome → Orchestration σ → Prop}
    {supplied : List Supplied} {s : Orchestration σ} (h : P s supplied)
    (hnil : ∀ s, P s [] → Q s [] ⟨[], [], []⟩ s)
    (hcons : ∀ s item rest, P s (item :: rest) →
      Act.Ends (markNew item.name : Act _ BootstrapError Bool) s
        (fun isNew u => Supplying S hooks P Q E s item rest u isNew) (E s (item :: rest))) :
    Act.Ends (mutateSupplied S hooks supplied) s (Q s supplied) (E s supplied) := by
  induction supplied generalizing s with
  | nil => exact hnil s h
  | cons item rest ih =>
    refine (hcons s item rest h).bind (fun _ u hu => ?_) (fun _ _ => id)
    cases hu with
    | old h =>
      exact Act.ends_get_bind ((h _).bind (fun _ v hv => hv.run ih) (fun _ _ => id))
    | isNew mutator other =>
      rw [if_neg (by simp)]
      by_cases hmutator : item.extension.behaviour.mutator.isSome = true
      · rw [if_pos hmutator]
        exact (mutator hmutator).bind (fun _ v hv => hv.bind ih) (fun _ _ => id)
      · rw [if_neg hmutator]
        exact (other hmutator).bind ih

lemma finalizeSupplied_rule
    {Q : Orchestration σ → List Supplied → List String → Orchestration σ → Prop}
    {supplied : List Supplied} {s : Orchestration σ} (h : P s supplied)
    (hnil : ∀ s, P s [] → Q s [] [] s)
    (hcons : ∀ s item rest, P s (item :: rest) →
      Act.Ends (markNew item.name : Act _ BootstrapError Bool) s
        (fun isNew u => if isNew then Act.Ends (finalize S hooks item.name item.extension) u
            (fun ran v => Advances P Q E s item rest v (ran ++ ·)) (E s (item :: rest))
          else Advances P Q E s item rest u id)
        (E s (item :: rest))) :
    Act.Ends (finalizeSupplied S hooks supplied) s (Q s supplied) (E s supplied) := by
  induction supplied generalizing s with
  | nil => exact hnil s h
  | cons item rest ih =>
    refine (hcons s item rest h).bind (fun isNew u hu => ?_) (fun _ _ => id)
    cases isNew with
    | false => exact Advances.run hu ih
    | true => exact Act.Ends.bind hu (fun _ v hv => hv.bind ih) (fun _ _ => id)

end

lemma discover_rule {P : Orchestration σ → Nat → Prop}
    {Q : Orchestration σ → Nat → Discovery → Orchestration σ → Prop}
    {E : Orchestration σ → Nat → BootstrapError → Orchestration σ → Prop}
    {before budget : Nat} {s : Orchestration σ} (h : P s budget)
    (hzero : ∀ s, P s 0 → Q s 0 ⟨0, [], []⟩ s)
    (hsucc : ∀ s budget, P s (budget + 1) → Act.Ends (collect S none .discoveryMutation) s
      (fun batch u => (batch = [] → Q s (budget + 1) ⟨0, [], []⟩ u) ∧
        (batch ≠ [] → ∀ line, Act.Ends (record S .debug line : Act _ BootstrapError Unit) u
          (fun _ v => Act.Ends (mutateAll S hooks .discoveryMutation batch) v
            (fun names w => P w budget ∧
              (∀ later t, Q w budget later t → Q s (budget + 1)
                ⟨later.rounds + 1, batch ++ later.invoked, names ++ later.mutated⟩ t) ∧
              ∀ e t, E w budget e t → E s (budget + 1) e t)
            (E s (budget + 1)))
          (E s (budget + 1))))
      (E s (budget + 1))) :
    Act.Ends (discover S hooks before budget) s (Q s budget) (E s budget) := by
  induction budget generalizing before s with
  | zero => exact hzero s h
  | succ budget ih =>
    refine (hsucc s budget h).bind (fun batch u ⟨hempty, hround⟩ => ?_) (fun _ _ => id)
    by_cases hbatch : batch = []
    · rw [if_pos (List.isEmpty_iff.2 hbatch)]
      exact hempty hbatch
    rw [if_neg (mt List.isEmpty_iff.1 hbatch)]
    refine Act.ends_get_bind ((hround hbatch _).bind (fun _ v hv => ?_) (fun _ _ => id))
    refine hv.bind (fun names w ⟨hw, hok, herr⟩ => ?_) (fun _ _ => id)
    exact (ih hw).bind hok herr

/-! ### Finalizations -/

lemma finalizeAll_rule {P : Orchestration σ → List (String × Extension) → Prop}
    {Q : Orchestration σ → List (String × Extension) → List String → Orchestration σ → Prop}
    {E : Orchestration σ → List (String × Extension) → BootstrapError → Orchestration σ → Prop}
    {l : List (String × Extension)} {s : Orchestration σ} (h : P s l) (hnil : ∀ s, P s [] → Q s [] [] s)
    (hcons : ∀ s name e rest, P s ((name, e) :: rest) → Act.Ends (finalize S hooks name e) s
      (fun ran u => Advances P Q E s (name, e) rest u (ran ++ ·)) (E s ((name, e) :: rest))) :
    Act.Ends (finalizeAll S hooks l) s (Q s l) (E s l) := by
  induction l generalizing s with
  | nil => exact hnil s h
  | cons x rest ih =>
    exact (hcons s x.1 x.2 rest h).bind (fun _ u hu => hu.bind ih) (fun _ _ => id)

lemma finalizeEach_rule {P : Orchestration σ → List String → Prop}
    {Q : Orchestration σ → List String → List String → Orchestration σ → Prop}
    {E : Orchestration σ → List String → BootstrapError → Orchestration σ → Prop}
    {names : List String} {s : Orchestration σ} (h : P s names) (hnil : ∀ s, P s [] → Q s [] [] s)
    (hcons : ∀ s name rest, P s (name :: rest) → Act.Ends (instantiate S .finalization name) s
      (fun c u => Act.Ends (finalize S hooks c.name c.extension) u
        (fun ran v => Advances P Q E s name rest v (ran ++ ·)) (E s (name :: rest)))
      (E s (name :: rest))) :
    Act.Ends (finalizeEach S hooks names) s (Q s names) (E s names) := by
  induction names generalizing s with
  | nil => exact hnil s h
  | cons name rest ih =>
    refine (hcons s name rest h).bind (fun c u hu => ?_) (fun _ _ => id)
    exact hu.bind (fun _ v hv => hv.bind ih) (fun _ _ => id)

/-! ### Finalizations along a relation -/

structure Preserves {τ : Type} (R : τ → τ → Prop) (I : τ → Prop) (N : String → τ → Prop) :
    Prop where
  refl (o : τ) : R o o
  trans {o u t : τ} : R o u → R u t → R o t
  state {o t : τ} : R o t → I o → I t
  known {o t : τ} {n : String} : R o t → N n o → N n t

section

variable {R : Orchestration σ → Orchestration σ → Prop} {I : Orchestration σ → Prop}
  {N M : String → Orchestration σ → Prop}
  {F : BootstrapError → Orchestration σ → Prop}
  {o : Orchestration σ} {names : List String} (hR : Preserves R I N)

include hR

section

variable {C : Candidate → Prop}
  {create : String → Act (Orchestration σ) BootstrapError Candidate}
  (hcreate : ∀ o name, I o → N name o → Act.Ends (create name) o (fun c t => C c ∧ R o t) F)

include hcreate

lemma ends_instantiateAll_along (ho : I o) (hnames : ∀ n ∈ names, N n o) :
    Act.Ends (instantiateAll create names) o (fun cs t => (∀ c ∈ cs, C c) ∧ R o t) F := by
  apply instantiateAll_rule (P := fun o names => I o ∧ ∀ n ∈ names, N n o) ⟨ho, hnames⟩
    fun s _ => ⟨by simp, hR.refl s⟩
  rintro s name rest ⟨hs, hnames⟩
  obtain ⟨hname, hrest⟩ := List.forall_mem_cons.1 hnames
  refine (hcreate s name hs hname).mono (fun c u ⟨hc, hu⟩ => ?_) (fun _ _ => id)
  exact ⟨⟨hR.state hu hs, fun n hn => hR.known hu (hrest n hn)⟩,
    fun cs t ⟨hcs, ht⟩ => ⟨List.forall_mem_cons.2 ⟨hc, hcs⟩, hR.trans hu ht⟩, fun _ _ => id⟩

lemma ends_classify_along {letIn : String → Act (Orchestration σ) BootstrapError Bool}
    (hM : ∀ o t n, R o t → M n o → M n t)
    (hlet : ∀ o name, Act.Ends (letIn name) o (fun _ t => R o t ∧ M name t) fun _ _ => False)
    (ho : I o) (hnames : ∀ n ∈ names, N n o) :
    Act.Ends (classify S letIn create names) o
      (fun r t => R o t ∧ (∀ c ∈ r.1, C c) ∧ r.2.1 ⊆ names ∧ r.2.2 ⊆ names ∧ ∀ n ∈ names, M n t)
      F := by
  apply classify_rule (P := fun o names => I o ∧ ∀ n ∈ names, N n o) ⟨ho, hnames⟩
    fun s _ => ⟨hR.refl s, by simp⟩
  rintro s name rest ⟨hs, hnames⟩
  obtain ⟨hname, hrest⟩ := List.forall_mem_cons.1 hnames
  refine (hlet s name).mono (fun taken u ⟨hu, hmark⟩ => ?_) (fun _ _ => False.elim)
  have hpre {v : Orchestration σ} (hv : R u v) : I v ∧ ∀ n ∈ rest, N n v :=
    ⟨hR.state (hR.trans hu hv) hs, fun n hn => hR.known (hR.trans hu hv) (hrest n hn)⟩
  have hmarks {v t : Orchestration σ} (hv : R u v) (ht : R v t) (h : ∀ n ∈ rest, M n t) :
      ∀ n ∈ name :: rest, M n t :=
    List.forall_mem_cons.2 ⟨hM _ _ _ (hR.trans hv ht) hmark, h⟩
  cases taken with
  | false =>
    refine .skipped ⟨hpre (hR.refl u), fun r t ⟨ht, h⟩ => ?_, fun _ _ => id⟩
    exact ⟨hR.trans hu ht, h.1, List.subset_cons_of_subset _ h.2.1,
      List.subset_cons_of_subset _ h.2.2.1, hmarks (hR.refl u) ht h.2.2.2⟩
  | true =>
    refine .isLetIn (fun _ => ?priority)
      (fun _ _ => ⟨hpre (hR.refl u), fun r t ⟨ht, h⟩ => ?ordered, fun _ _ => id⟩)
      (fun _ _ => ⟨hpre (hR.refl u), fun r t ⟨ht, h⟩ => ?untagged, fun _ _ => id⟩)
    case priority =>
      refine (hcreate u name (hR.state hu hs) (hR.known hu hname)).mono (fun c v ⟨hc, hv⟩ => ?_)
        (fun _ _ => id)
      refine ⟨hpre hv, fun r t ⟨ht, h⟩ => ?_, fun _ _ => id⟩
      exact ⟨hR.trans hu (hR.trans hv ht), List.forall_mem_cons.2 ⟨hc, h.1⟩,
        List.subset_cons_of_subset _ h.2.1, List.subset_cons_of_subset _ h.2.2.1,
        hmarks hv ht h.2.2.2⟩
    case ordered =>
      exact ⟨hR.trans hu ht, h.1, List.cons_subset_cons _ h.2.1,
        List.subset_cons_of_subset _ h.2.2.1, hmarks (hR.refl u) ht h.2.2.2⟩
    case untagged =>
      exact ⟨hR.trans hu ht, h.1, List.subset_cons_of_subset _ h.2.1,
        List.cons_subset_cons _ h.2.2.1, hmarks (hR.refl u) ht h.2.2.2⟩

end

variable (hfinalize : ∀ o name e, I o → Act.Ends (finalize S hooks name e) o (fun _ => R o) F)

include hfinalize

lemma ends_finalizeAll_along (l : List (String × Extension)) (ho : I o) :
    Act.Ends (finalizeAll S hooks l) o (fun _ => R o) F := by
  apply finalizeAll_rule (P := fun o _ => I o) ho fun s _ => hR.refl s
  intro s name e rest hs
  refine (hfinalize s name e hs).mono (fun _ u hu => ?_) (fun _ _ => id)
  exact ⟨hR.state hu hs, fun _ _ => hR.trans hu, fun _ _ => id⟩

lemma ends_finalizeSettled_along (m : Settlement) (ho : I o) :
    Act.Ends (finalizeSettled S hooks m) o (fun _ => R o) F := by
  refine (ends_finalizeAll_along hR hfinalize _ ho).bind (fun _ u hu => ?_) (fun _ _ => id)
  refine (ends_finalizeAll_along hR hfinalize _ (hR.state hu ho)).bind (fun _ t ht => ?_)
    (fun _ _ => id)
  exact Act.ends_pure (hR.trans hu ht)

variable (hcreate : ∀ o name, I o → N name o →
  Act.Ends (instantiate S .finalization name) o (fun _ => R o) F)

include hcreate

lemma ends_finalizeEach_along (ho : I o) (hnames : ∀ n ∈ names, N n o) :
    Act.Ends (finalizeEach S hooks names) o (fun _ => R o) F := by
  apply finalizeEach_rule (P := fun o names => I o ∧ ∀ n ∈ names, N n o) ⟨ho, hnames⟩
    fun s _ => hR.refl s
  rintro s name rest ⟨hs, hnames⟩
  obtain ⟨hname, hrest⟩ := List.forall_mem_cons.1 hnames
  refine (hcreate s name hs hname).mono (fun c u hu => ?_) (fun _ _ => id)
  refine (hfinalize u c.name c.extension (hR.state hu hs)).mono (fun _ v hv => ?_) (fun _ _ => id)
  have hsv := hR.trans hu hv
  exact ⟨⟨hR.state hsv hs, fun n hn => hR.known hsv (hrest n hn)⟩, fun _ _ => hR.trans hsv,
    fun _ _ => id⟩

lemma ends_finalizeDiscovered_along {W : List String → Orchestration σ → Prop}
    (hM : ∀ o t n, R o t → M n o → M n t)
    (hfind : Act.Ends (ask (S.find .finalizer) : Act _ BootstrapError _) o
      (fun names u => I u ∧ (∀ n ∈ names, N n u) ∧ W names u) fun _ _ => False)
    (hlet : ∀ o name, Act.Ends (markNew name : Act _ BootstrapError Bool) o
      (fun _ t => R o t ∧ M name t) fun _ _ => False) :
    Act.Ends (finalizeDiscovered S hooks) o
      (fun _ t => ∃ names u, W names u ∧ R u t ∧ ∀ n ∈ names, M n t) F := by
  have hmade : ∀ o name, I o → N name o →
      Act.Ends (instantiate S .finalization name) o (fun _ t => True ∧ R o t) F :=
    fun o name ho hname => (hcreate o name ho hname).mono (fun _ _ ht => ⟨trivial, ht⟩)
      (fun _ _ => id)
  refine hfind.bind (fun names u ⟨hu, hnames, hW⟩ => ?_) (fun _ _ => False.elim)
  have hlater {rest : List String} {v : Orchestration σ} (hrest : rest ⊆ names) (hv : R u v) :
      ∀ n ∈ rest, N n v := fun n hn => hR.known hv (hnames n (hrest hn))
  refine (ends_classify_along (M := M) hR hmade hM hlet hu hnames).bind
    (fun (first, second, third) v ⟨hv, _, hsecond, hthird, hmarks⟩ => ?_) (fun _ _ => id)
  refine (ends_finalizeAll_along hR hfinalize _ (hR.state hv hu)).bind (fun _ w hw => ?_)
    (fun _ _ => id)
  have huw := hR.trans hv hw
  refine (ends_instantiateAll_along hR hmade (hR.state huw hu) (hlater hsecond huw)).bind
    (fun _ x ⟨_, hx⟩ => ?_) (fun _ _ => id)
  have hux := hR.trans huw hx
  refine (ends_finalizeAll_along hR hfinalize _ (hR.state hux hu)).bind (fun _ y hy => ?_)
    (fun _ _ => id)
  have huy := hR.trans hux hy
  refine (ends_finalizeEach_along hR hfinalize hcreate (hR.state huy hu)
    (hlater hthird huy)).bind (fun _ t ht => ?_) (fun _ _ => id)
  have hvt := hR.trans hw (hR.trans hx (hR.trans hy ht))
  exact Act.ends_pure ⟨names, u, hW, hR.trans hv hvt, fun n hn => hM _ _ _ hvt (hmarks n hn)⟩

end

/-! ### The phase -/

lemma mutationPhase_rule {supplied : List Supplied} {o : Orchestration σ}
    {Q : MutationSummary → Orchestration σ → Prop} {E : BootstrapError → Orchestration σ → Prop}
    (h : ∀ line, Act.Ends (record S .info line : Act _ BootstrapError Unit) o
      (fun _ u => Act.Ends (ask S.editable : Act _ BootstrapError Bool) u
        (fun editable v => Act.Ends (if editable then mutateRegistry S hooks supplied
            else mutateDegraded S hooks supplied) v
          (fun summary w => Act.Ends (ask S.invalidate : Act _ BootstrapError _) w
            (fun _ x => ∀ line, Act.Ends (record S .info line : Act _ BootstrapError Unit) x
              (fun _ => Q summary) E) E)
          (fun e w => ∀ line, Act.Ends (record S .error line : Act _ BootstrapError Unit) w
            (fun _ => E e) E))
        E) E) :
    Act.Ends (mutationPhase S hooks supplied) o Q E := by
  refine Act.ends_get_bind ((h _).bind (fun _ _ hu => ?_) (fun _ _ => id))
  refine hu.bind (fun _ _ hphase => ?_) (fun _ _ => id)
  refine (hphase.tryCatch fun e w hw => ?_).bind (fun summary w hw => ?_) (fun _ _ => id)
  · exact (hw _).bind (fun _ _ => id) (fun _ _ => id)
  · exact hw.bind (fun _ x hx => (hx _).bind (fun _ _ => id) (fun _ _ => id)) (fun _ _ => id)

/-! ### Additions to the pipeline -/

lemma enlist_rule {P : Orchestration σ → List Candidate → Prop}
    {Q : Orchestration σ → List Candidate → Unit → Orchestration σ → Prop}
    {E : Orchestration σ → List Candidate → BootstrapError → Orchestration σ → Prop}
    {cs : List Candidate} {s : Orchestration σ} (h : P s cs) (hnil : ∀ s, P s [] → Q s [] () s)
    (hcons : ∀ s c rest, P s (c :: rest) → Act.Ends (addToPipeline S c.name c.extension) s
      (fun _ u => ∀ line, Act.Ends (record S .debug line : Act _ BootstrapError Unit) u
        (fun _ v => Advances P Q E s c rest v id) (E s (c :: rest)))
      (E s (c :: rest))) :
    Act.Ends (enlist S cs) s (Q s cs) (E s cs) := by
  induction cs generalizing s with
  | nil => exact hnil s h
  | cons c rest ih =>
    refine (hcons s c rest h).bind (fun _ u hu => ?_) (fun _ _ => id)
    exact (hu _).bind (fun _ v hv => hv.run ih) (fun _ _ => id)

end Orchestration

end ComponentContainer
