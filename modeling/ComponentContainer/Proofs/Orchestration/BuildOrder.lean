import ComponentContainer.Proofs.Orchestration.Exchanges
import ComponentContainer.Proofs.Orchestration.PipelineOrder

/-! The order in which a build of the pipeline makes its exchanges with a registry, on any registry
and up to any point where it fails. -/

namespace ComponentContainer

variable {σ : Type}

/-- The names with the tiers that a build puts them in, one after the other. A name of the first
tier is created at once, and the names after it are looked at in the state that this leaves; if it
fails, they are not looked at. -/
def Surface.classes (S : Surface σ) : List String → σ → List (String × Tier)
  | [], _ => []
  | name :: rest, s =>
    if S.isTagged name .priority s then
      (name, .priority) :: match S.instantiate name s with
        | (.ok e, t) => if .instanceHook ∈ e.behaviour.capabilities then S.classes rest t else []
        | (.error _, _) => []
    else if S.isTagged name .ordered s then (name, .ordered) :: S.classes rest s
    else (name, .untagged) :: S.classes rest s

def Tier.members (tier : Tier) (classes : List (String × Tier)) : List String :=
  (classes.filter (·.2 = tier)).map (·.1)

section

variable {S : Surface σ} {name : String} {s : σ}

lemma Surface.classes_priority {e : Extension} {t : σ} (h : S.isTagged name .priority s = true)
    (hrun : S.instantiate name s = (.ok e, t))
    (he : Capability.instanceHook ∈ e.behaviour.capabilities) (rest : List String) :
    S.classes (name :: rest) s = (name, .priority) :: S.classes rest t := by
  rw [classes, if_pos h, hrun]
  exact congrArg _ (if_pos he)

lemma Surface.exists_classes_priority (h : S.isTagged name .priority s = true)
    (rest : List String) :
    ∃ l, S.classes (name :: rest) s = (name, .priority) :: l ∧
      (l = [] ∨ ∃ t, l = S.classes rest t) := by
  rw [classes, if_pos h]
  refine ⟨_, rfl, ?_⟩
  split
  · split
    · exact .inr ⟨_, rfl⟩
    · exact .inl rfl
  · exact .inl rfl

lemma Surface.classes_ordered (h : ¬S.isTagged name .priority s = true)
    (h' : S.isTagged name .ordered s = true) (rest : List String) :
    S.classes (name :: rest) s = (name, .ordered) :: S.classes rest s := by
  rw [classes, if_neg h, if_pos h']

lemma Surface.classes_untagged (h : ¬S.isTagged name .priority s = true)
    (h' : ¬S.isTagged name .ordered s = true) (rest : List String) :
    S.classes (name :: rest) s = (name, .untagged) :: S.classes rest s := by
  rw [classes, if_neg h, if_neg h']

lemma Surface.classes_isPrefix (S : Surface σ) (names : List String) (s : σ) :
    (S.classes names s).map (·.1) <+: names := by
  induction names generalizing s with
  | nil => exact List.prefix_rfl
  | cons name rest ih =>
    have hcons (t : σ) : name :: (S.classes rest t).map (·.1) <+: name :: rest :=
      (List.prefix_cons_inj name).2 (ih t)
    by_cases hpriority : S.isTagged name .priority s = true
    · obtain ⟨l, hl, rfl | ⟨t, rfl⟩⟩ := S.exists_classes_priority hpriority rest
      · rw [hl]
        exact List.prefix_append [name] rest
      · rw [hl]
        exact hcons t
    by_cases hordered : S.isTagged name .ordered s = true
    · rw [S.classes_ordered hpriority hordered]
      exact hcons s
    · rw [S.classes_untagged hpriority hordered]
      exact hcons s

end

lemma Tier.mem_members {tier : Tier} {classes : List (String × Tier)} {name : String} :
    name ∈ tier.members classes ↔ (name, tier) ∈ classes := by
  simp [members]

lemma Tier.members_cons_self (tier : Tier) (name : String) (classes : List (String × Tier)) :
    tier.members ((name, tier) :: classes) = name :: tier.members classes := by
  rw [members, List.filter_cons_of_pos (by simp)]
  rfl

lemma Tier.members_cons_of_ne {tier other : Tier} (h : other ≠ tier) (name : String)
    (classes : List (String × Tier)) :
    tier.members ((name, other) :: classes) = tier.members classes := by
  rw [members, List.filter_cons_of_neg (by simpa using h)]
  rfl

lemma Tier.members_perm (classes : List (String × Tier)) :
    (priority.members classes ++ ordered.members classes ++ untagged.members classes).Perm
      (classes.map (·.1)) := by
  induction classes with
  | nil => exact .refl _
  | cons p rest ih =>
    obtain ⟨name, tier⟩ := p
    cases tier with
    | priority =>
      rw [members_cons_self, members_cons_of_ne (by decide), members_cons_of_ne (by decide)]
      exact ih.cons name
    | ordered =>
      rw [members_cons_of_ne (by decide), members_cons_self, members_cons_of_ne (by decide),
        List.append_assoc]
      exact List.perm_middle.trans (((List.append_assoc .. ▸ ih).cons name))
    | untagged =>
      rw [members_cons_of_ne (by decide), members_cons_of_ne (by decide), members_cons_self]
      exact List.perm_middle.trans (ih.cons name)

namespace Exchange

def requested? (x : Exchange σ) : Option String :=
  match x.dealing with
  | .requested name _ => some name
  | _ => none

def added? (x : Exchange σ) : Option String :=
  match x.dealing with
  | .added name _ (.ok ()) => some name
  | _ => none

def requests (l : List (Exchange σ)) : List String := l.filterMap requested?

def additions (l : List (Exchange σ)) : List String := l.filterMap added?

def failure? (x : Exchange σ) : Option BootstrapError :=
  match x.dealing with
  | .requested name (.error source) => some (.registry name .pipelineRegistration source)
  | .requested name (.ok e) =>
    if .instanceHook ∈ e.behaviour.capabilities then none
    else some (.registry name .pipelineRegistration (.capabilityMismatch name .instanceHook))
  | .added name _ (.error source) => some (.registry name .pipelineRegistration source)
  | _ => none

def Arms (target : Nat) (answer : Except RegistryError Unit) (x : Exchange σ) : Prop :=
  ∃ checker : Extension, checker.behaviour = .eligibilityChecker target ∧
    x.dealing = .added eligibilityCheckerName checker answer

structure Ready (classes : List (String × Tier)) (added : List String) (name : String)
    (tier : Tier) : Prop where
  mem : (name, tier) ∈ classes
  priority_added : tier ≠ .priority → Tier.priority.members classes ⊆ added
  ordered_added : tier = .untagged → Tier.ordered.members classes ⊆ added

lemma Arms.sound {target : Nat} {x : Exchange σ} (h : x.Arms target (.ok ())) :
    x.failure? = none := by
  obtain ⟨checker, -, hx⟩ := h
  rw [failure?, hx]

lemma Arms.failure?_eq {target : Nat} {source : RegistryError} {x : Exchange σ}
    (h : x.Arms target (.error source)) :
    x.failure? = some (.registry eligibilityCheckerName .pipelineRegistration source) := by
  obtain ⟨checker, -, hx⟩ := h
  rw [failure?, hx]

lemma Ready.mono {classes : List (String × Tier)} {added added' : List String} {name : String}
    {tier : Tier} (h : Ready classes added name tier) (hadded : added ⊆ added') :
    Ready classes added' name tier :=
  ⟨h.mem, fun hne => List.Subset.trans (h.priority_added hne) hadded,
    fun heq => List.Subset.trans (h.ordered_added heq) hadded⟩

/-- After these exchanges the next may be made. A request is for a name that was not requested
before and is ready. An addition is of what was handed out for its name; if it is not the first of
the name, then it is of a merge-aware extension and every name was added before. -/
def MayFollow (classes : List (String × Tier)) (before : List (Exchange σ)) (x : Exchange σ) :
    Prop :=
  match x.dealing with
  | .requested name _ =>
    name ∉ requests before ∧ ∃ tier, Ready classes (additions before) name tier
  | .added name e _ => (∃ y ∈ before, y.dealing = .requested name (.ok e)) ∧
    (name ∈ additions before →
      e.behaviour.merge.isSome ∧ classes.map (·.1) ⊆ additions before)
  | _ => False

def Orderly (classes : List (String × Tier)) (l : List (Exchange σ)) : Prop :=
  ∀ before x after, l = before ++ x :: after → MayFollow classes before x

lemma requests_append (l l' : List (Exchange σ)) : requests (l ++ l') = requests l ++ requests l' :=
  List.filterMap_append

lemma additions_append (l l' : List (Exchange σ)) :
    additions (l ++ l') = additions l ++ additions l' := List.filterMap_append

lemma requests_of_requested {x : Exchange σ} {name : String}
    {answer : Except RegistryError Extension} (h : x.dealing = .requested name answer) :
    requests [x] = [name] ∧ additions [x] = [] := by
  have hrequested : x.requested? = some name := by rw [requested?, h]
  have hadded : x.added? = none := by rw [added?, h]
  simp [requests, additions, hrequested, hadded]

lemma additions_of_added {x : Exchange σ} {name : String} {e : Extension}
    (h : x.dealing = .added name e (.ok ())) : requests [x] = [] ∧ additions [x] = [name] := by
  have hrequested : x.requested? = none := by rw [requested?, h]
  have hadded : x.added? = some name := by rw [added?, h]
  simp [requests, additions, hrequested, hadded]

variable {classes : List (String × Tier)} {l l' : List (Exchange σ)} {x : Exchange σ}

lemma not_mem_requests_concat {name : String} {rest : List String} (hx : requests [x] = [name])
    (hname : name ∉ rest) (hrest : ∀ n ∈ rest, n ∉ requests l) :
    ∀ n ∈ rest, n ∉ requests (l ++ [x]) := by
  intro n hn
  rw [requests_append, hx, List.mem_append, List.mem_singleton, not_or]
  exact ⟨hrest n hn, fun heq => hname (heq ▸ hn)⟩

lemma orderly_nil : Orderly (σ := σ) classes [] := by
  intro before x after h
  simp at h

lemma Orderly.concat (h : Orderly classes l) (hx : MayFollow classes l x) :
    Orderly classes (l ++ [x]) := by
  intro before y after heq
  rcases List.eq_nil_or_concat after with rfl | ⟨init, z, rfl⟩
  · obtain ⟨rfl, hyx⟩ := List.append_inj' heq rfl
    obtain rfl : x = y := List.cons.inj hyx |>.1
    exact hx
  · rw [List.concat_eq_append, ← List.cons_append, ← List.append_assoc] at heq
    exact h before y init (List.append_inj' heq rfl).1

def HandedOut (l : List (Exchange σ)) (c : Candidate) : Prop :=
  ∃ y ∈ l, y.dealing = .requested c.name (.ok c.extension)

lemma HandedOut.append {c : Candidate} (h : HandedOut l c) (l' : List (Exchange σ)) :
    HandedOut (l ++ l') c := by
  obtain ⟨y, hy, hdealing⟩ := h
  exact ⟨y, List.mem_append_left _ hy, hdealing⟩

end Exchange

open Exchange

namespace Orchestration

structure Reached (classes : List (String × Tier)) (inv : Invoker) (first l : List (Exchange σ))
    (o : Orchestration (σ × List (Exchange σ))) : Prop where
  exchanges : o.exchanges = first ++ l
  invoker : o.invoker = inv
  orderly : Orderly classes l
  sound : ∀ x ∈ l, x.failure? = none

inductive Halted (classes : List (String × Tier)) (inv : Invoker) (first : List (Exchange σ))
    (e : BootstrapError) (o : Orchestration (σ × List (Exchange σ))) : Prop
  | intro {l : List (Exchange σ)} {x : Exchange σ} : o.exchanges = first ++ (l ++ [x]) →
    o.invoker = inv → Orderly classes (l ++ [x]) → (∀ y ∈ l, y.failure? = none) →
    x.failure? = some e → x.after = o.registry.1 → Halted classes inv first e o

structure Broken (classes : List (String × Tier)) (inv : Invoker) (search arm : Exchange σ)
    (rest : List (Exchange σ)) (e : BootstrapError) (o : Orchestration (σ × List (Exchange σ))) :
    Prop where
  exchanges : o.exchanges = search :: arm :: rest
  invoker : o.invoker = inv
  orderly : Orderly classes rest
  sound : ∀ x ∈ (arm :: rest).dropLast, x.failure? = none
  failed : ∃ x ∈ (arm :: rest).getLast?, x.failure? = some e ∧ x.after = o.registry.1

variable {S : Surface σ} {classes : List (String × Tier)} {inv : Invoker}
  {first l : List (Exchange σ)} {o t : Orchestration (σ × List (Exchange σ))}

def made (first : List (Exchange σ)) (o : Orchestration (σ × List (Exchange σ))) :
    List (Exchange σ) := o.exchanges.drop first.length

namespace Reached

lemma made_eq (h : Reached classes inv first l o) : made first o = l := by
  rw [made, h.exchanges, List.drop_left]

lemma of_eq (h : Reached classes inv first l o)
    (ht : t.invoker = o.invoker ∧ t.exchanges = o.exchanges) : Reached classes inv first l t :=
  ⟨ht.2.trans h.exchanges, ht.1.trans h.invoker, h.orderly, h.sound⟩

lemma concat {x : Exchange σ} (h : Reached classes inv first l o) (hx : MayFollow classes l x)
    (hsound : x.failure? = none) (hinvoker : t.invoker = o.invoker)
    (ht : t.exchanges = o.exchanges ++ [x]) : Reached classes inv first (l ++ [x]) t where
  exchanges := by rw [ht, h.exchanges, List.append_assoc]
  invoker := hinvoker.trans h.invoker
  orderly := h.orderly.concat hx
  sound := List.forall_mem_append.2 ⟨h.sound, List.forall_mem_singleton.2 hsound⟩

lemma halt {x : Exchange σ} {e : BootstrapError} (h : Reached classes inv first l o)
    (hx : MayFollow classes l x) (hfailure : x.failure? = some e) (hinvoker : t.invoker = o.invoker)
    (ht : t.exchanges = o.exchanges ++ [x]) (hafter : x.after = t.registry.1) :
    Halted classes inv first e t :=
  .intro (by rw [ht, h.exchanges, List.append_assoc]) (hinvoker.trans h.invoker)
    (h.orderly.concat hx) h.sound hfailure hafter

end Reached

lemma Halted.broken {search arm : Exchange σ} {e : BootstrapError}
    (h : Halted classes inv [search, arm] e o) (harm : arm.failure? = none) :
    ∃ rest, Broken classes inv search arm rest e o := by
  obtain @⟨l, x, hlog, hinvoker, horderly, hsound, hfailure, hafter⟩ := h
  refine ⟨l ++ [x], hlog, hinvoker, horderly, ?_, x, ?_, hfailure, hafter⟩
  · rw [← List.cons_append, List.dropLast_concat]
    exact List.forall_mem_cons.2 ⟨harm, hsound⟩
  · rw [← List.cons_append, List.getLast?_concat]
    rfl

lemma ends_instantiateHook_reached {name : String} {tier : Tier} (h : Reached classes inv first l o)
    (hnew : name ∉ requests l) (hready : Ready classes (additions l) name tier) :
    Act.Ends (instantiateHook S.audited name) o
      (fun c t => c.name = name ∧ Capability.instanceHook ∈ c.extension.behaviour.capabilities ∧
        S.instantiate name o.registry.1 = (.ok c.extension, t.registry.1) ∧
        ∃ x : Exchange σ, x.dealing = .requested name (.ok c.extension) ∧
          Reached classes inv first (l ++ [x]) t)
      (fun e t => Halted classes inv first e t) := by
  have hturn {x : Exchange σ} {answer : Except RegistryError Extension}
      (hx : x.dealing = .requested name answer) : MayFollow classes l x := by
    rw [MayFollow, hx]
    exact ⟨hnew, tier, hready⟩
  refine (ends_instantiate_exchange o _ name).bind
    (fun c t ⟨hc, hinvoker, x, hx, hbefore, hafter, ht⟩ => ?_)
    (fun e t ⟨x, source, he, hx, hafter, hinvoker, ht⟩ => ?_)
  · subst hc
    split
    · have hsound : x.failure? = none := by
        rw [failure?, hx.dealing]
        exact if_pos ‹_›
      refine Act.ends_pure
        ⟨rfl, ‹_›, ?_, x, hx.dealing, h.concat (hturn hx.dealing) hsound hinvoker ht⟩
      rw [← hbefore, ← hafter]
      exact hx.created
    · refine h.halt (hturn hx.dealing) ?_ hinvoker ht hafter
      rw [failure?, hx.dealing]
      exact if_neg ‹_›
  · rw [he]
    refine h.halt (hturn hx) ?_ hinvoker ht hafter
    rw [failure?, hx]

lemma ends_instantiateAll_reached {names : List String} (tier : Tier)
    (h : Reached classes inv first l o) (hnodup : names.Nodup) (hnew : ∀ n ∈ names, n ∉ requests l)
    (hready : ∀ n ∈ names, Ready classes (additions l) n tier) :
    Act.Ends (instantiateAll (instantiateHook S.audited) names) o
      (fun cs t => cs.map (·.name) = names ∧ ∃ l', Reached classes inv first (l ++ l') t ∧
        requests l' = names ∧ additions l' = [] ∧ ∀ c ∈ cs, HandedOut (l ++ l') c)
      (fun e t => Halted classes inv first e t) := by
  obtain rfl := h.made_eq
  apply instantiateAll_rule (P := fun o names => Reached classes inv first (made first o) o ∧
    names.Nodup ∧ (∀ n ∈ names, n ∉ requests (made first o)) ∧
    ∀ n ∈ names, Ready classes (additions (made first o)) n tier) ⟨h, hnodup, hnew, hready⟩
  · intro o ⟨h, _⟩
    refine ⟨rfl, [], ?_, rfl, rfl, fun _ hc => absurd hc List.not_mem_nil⟩
    rwa [List.append_nil]
  intro o name rest ⟨h, hnodup, hnew, hready⟩
  obtain ⟨hname, hrest⟩ := List.forall_mem_cons.1 hnew
  obtain ⟨hnotin, hnodup⟩ := List.nodup_cons.1 hnodup
  obtain ⟨hready, hreadyrest⟩ := List.forall_mem_cons.1 hready
  refine (ends_instantiateHook_reached h hname hready).mono
    (fun c u ⟨hc, _, _, x, hx, hu⟩ => ?_) (fun _ _ => id)
  obtain ⟨hrequests, hadditions⟩ := requests_of_requested hx
  have hmade := hu.made_eq
  refine ⟨⟨hmade.symm ▸ hu, hnodup, ?_, ?_⟩, fun cs t ⟨hcs, l', ht, hr, ha, hcreated⟩ => ?_,
    fun _ _ => id⟩
  · rw [hmade]
    exact not_mem_requests_concat hrequests hnotin hrest
  · rwa [hmade, additions_append, hadditions, List.append_nil]
  · rw [hmade, List.append_assoc] at ht hcreated
    refine ⟨by rw [List.map_cons, hc, hcs], [x] ++ l', ht, ?_, ?_, ?_⟩
    · rw [requests_append, hrequests, hr, List.singleton_append]
    · rw [additions_append, hadditions, ha, List.append_nil]
    · exact List.forall_mem_cons.2 ⟨⟨x, by simp, hc ▸ hx⟩, hcreated⟩

lemma ends_enlist_reached {cs : List Candidate} (h : Reached classes inv first l o)
    (hcreated : ∀ c ∈ cs, HandedOut l c)
    (hfirst : (additions l ++ cs.map (·.name)).Nodup ∨
      (∀ c ∈ cs, c.extension.behaviour.merge.isSome) ∧ classes.map (·.1) ⊆ additions l) :
    Act.Ends (enlist S.audited cs) o
      (fun _ t => ∃ l', Reached classes inv first (l ++ l') t ∧ requests l' = [] ∧
        additions l' = cs.map (·.name))
      (fun e t => Halted classes inv first e t) := by
  obtain rfl := h.made_eq
  apply enlist_rule (P := fun o cs => Reached classes inv first (made first o) o ∧
    (∀ c ∈ cs, HandedOut (made first o) c) ∧ ((additions (made first o) ++ cs.map (·.name)).Nodup ∨
      (∀ c ∈ cs, c.extension.behaviour.merge.isSome) ∧
        classes.map (·.1) ⊆ additions (made first o))) ⟨h, hcreated, hfirst⟩
  · intro o ⟨h, _⟩
    refine ⟨[], ?_, rfl, rfl⟩
    rwa [List.append_nil]
  intro o c rest ⟨h, hcreated, hfirst⟩
  obtain ⟨hc, hrest⟩ := List.forall_mem_cons.1 hcreated
  have hagain : c.name ∈ additions (made first o) →
      c.extension.behaviour.merge.isSome ∧ classes.map (·.1) ⊆ additions (made first o) := by
    intro hmem
    rcases hfirst with hnodup | ⟨hmerge, hall⟩
    · exact absurd rfl ((List.nodup_append.1 hnodup).2.2 _ hmem _ List.mem_cons_self)
    · exact ⟨hmerge c List.mem_cons_self, hall⟩
  have hturn {x : Exchange σ} {answer : Except RegistryError Unit}
      (hx : x.dealing = .added c.name c.extension answer) : MayFollow classes (made first o) x := by
    rw [MayFollow, hx]
    exact ⟨hc, hagain⟩
  refine (ends_attempt_keeping o (.added c.name c.extension) _ _).mono
    (fun _ u ⟨_, hinvoker, hu⟩ line => ?_) (fun e t ⟨source, he, _, hinvoker, ht⟩ => ?_)
  · refine (ends_record_aside u _ _).mono (fun _ v hv => ?_) (fun _ _ => False.elim)
    let x : Exchange σ := ⟨.added c.name c.extension (.ok ()), o.registry.1, u.registry.1⟩
    obtain ⟨hrequests, hadditions⟩ := additions_of_added (x := x) rfl
    have hreached : Reached classes inv first (made first o ++ [x]) v :=
      (h.concat (hturn rfl) rfl hinvoker hu).of_eq hv
    have hmade := hreached.made_eq
    refine ⟨⟨hmade.symm ▸ hreached, fun d hd => ?_, ?_⟩, fun _ t ⟨l', ht, hr, ha⟩ => ?_,
      fun _ _ => id⟩
    · rw [hmade]
      exact (hrest d hd).append _
    · rw [hmade, additions_append, hadditions, List.append_assoc]
      refine hfirst.imp id fun ⟨hmerge, hall⟩ => ?_
      exact ⟨fun d hd => hmerge d (List.mem_cons_of_mem _ hd),
        fun n hn => List.mem_append_left _ (hall hn)⟩
    · rw [hmade, List.append_assoc] at ht
      refine ⟨[x] ++ l', ht, ?_, ?_⟩
      · rw [requests_append, hrequests, hr, List.append_nil]
      · rw [additions_append, hadditions, ha, List.singleton_append, List.map_cons]
  · rw [he]
    exact h.halt (hturn rfl) rfl hinvoker ht rfl

lemma ends_classify_reached {names : List String} {before : List (String × Tier)}
    (h : Reached classes inv first l o)
    (hclasses : classes = before ++ S.classes names o.registry.1)
    (hnodup : names.Nodup) (hnew : ∀ n ∈ names, n ∉ requests l) :
    Act.Ends (classify S.audited (fun _ => pure true) (instantiateHook S.audited) names) o
      (fun (cs, second, third) t => (S.classes names o.registry.1).map (·.1) = names ∧
        cs.map (·.name) = Tier.priority.members (S.classes names o.registry.1) ∧
        second = Tier.ordered.members (S.classes names o.registry.1) ∧
        third = Tier.untagged.members (S.classes names o.registry.1) ∧
        ∃ l', Reached classes inv first (l ++ l') t ∧ requests l' = cs.map (·.name) ∧
          additions l' = [] ∧ ∀ c ∈ cs, HandedOut (l ++ l') c)
      (fun e t => Halted classes inv first e t) := by
  obtain rfl := h.made_eq
  apply classify_rule (P := fun o names => Reached classes inv first (made first o) o ∧
    (∃ before, classes = before ++ S.classes names o.registry.1) ∧ names.Nodup ∧
    ∀ n ∈ names, n ∉ requests (made first o)) ⟨h, ⟨before, hclasses⟩, hnodup, hnew⟩
  · intro o ⟨h, _⟩
    refine ⟨rfl, rfl, rfl, rfl, [], ?_, rfl, rfl, fun _ hc => absurd hc List.not_mem_nil⟩
    rwa [List.append_nil]
  intro o name rest ⟨h, ⟨before, hclasses⟩, hnodup, hnew⟩
  obtain ⟨hname, hrest⟩ := List.forall_mem_cons.1 hnew
  obtain ⟨hnotin, hnodup⟩ := List.nodup_cons.1 hnodup
  have hnext {tier : Tier} {s : σ}
      (hcons : S.classes (name :: rest) o.registry.1 = (name, tier) :: S.classes rest s) :
      ∃ before, classes = before ++ S.classes rest s := by
    refine ⟨before ++ [(name, tier)], ?_⟩
    rw [hclasses, hcons, List.append_assoc, List.singleton_append]
  refine Act.ends_pure (.isLetIn (fun hpriority => ?priority) (fun hpriority hordered => ?ordered)
    (fun hpriority hordered => ?untagged))
  case priority =>
    rw [S.isTagged_audited] at hpriority
    have hready : Ready classes (additions (made first o)) name .priority := by
      obtain ⟨l, hl, -⟩ := S.exists_classes_priority hpriority rest
      refine ⟨?_, fun hne => absurd rfl hne, nofun⟩
      rw [hclasses, hl]
      simp
    refine (ends_instantiateHook_reached h hname hready).mono
      (fun c u ⟨hc, hhook, hrun, x, hx, hu⟩ => ?_) (fun _ _ => id)
    obtain ⟨hrequests, hadditions⟩ := requests_of_requested hx
    have hcons := S.classes_priority hpriority hrun hhook rest
    have hmade := hu.made_eq
    refine ⟨⟨hmade.symm ▸ hu, hnext hcons, hnodup, ?_⟩,
      fun _ t ⟨hmap, hcs, hsecond, hthird, l', ht, hr, ha, hout⟩ => ?_, fun _ _ => id⟩
    · rw [hmade]
      exact not_mem_requests_concat hrequests hnotin hrest
    rw [hmade, List.append_assoc] at ht hout
    rw [hcons]
    refine ⟨by rw [List.map_cons, hmap], ?_, ?_, ?_, [x] ++ l', ht, ?_, ?_, ?_⟩
    · rw [List.map_cons, hc, hcs, Tier.members_cons_self]
    · rw [hsecond, Tier.members_cons_of_ne (by decide)]
    · rw [hthird, Tier.members_cons_of_ne (by decide)]
    · rw [requests_append, hrequests, hr, List.map_cons, hc, List.singleton_append]
    · rw [additions_append, hadditions, ha, List.append_nil]
    · exact List.forall_mem_cons.2 ⟨⟨x, by simp, hc ▸ hx⟩, hout⟩
  case ordered =>
    rw [S.isTagged_audited] at hpriority hordered
    have hcons := S.classes_ordered hpriority hordered rest
    refine ⟨⟨h, hnext hcons, hnodup, hrest⟩, fun _ t ⟨hmap, hcs, hsecond, hthird, ht⟩ => ?_,
      fun _ _ => id⟩
    rw [hcons]
    refine ⟨by rw [List.map_cons, hmap], ?_, ?_, ?_, ht⟩
    · rw [hcs, Tier.members_cons_of_ne (by decide)]
    · rw [hsecond, Tier.members_cons_self]
    · rw [hthird, Tier.members_cons_of_ne (by decide)]
  case untagged =>
    rw [S.isTagged_audited] at hpriority hordered
    have hcons := S.classes_untagged hpriority hordered rest
    refine ⟨⟨h, hnext hcons, hnodup, hrest⟩, fun _ t ⟨hmap, hcs, hsecond, hthird, ht⟩ => ?_,
      fun _ _ => id⟩
    rw [hcons]
    refine ⟨by rw [List.map_cons, hmap], ?_, ?_, ?_, ht⟩
    · rw [hcs, Tier.members_cons_of_ne (by decide)]
    · rw [hsecond, Tier.members_cons_of_ne (by decide)]
    · rw [hthird, Tier.members_cons_self]

lemma ends_arm_exchange (target : Nat) (s : σ × List (Exchange σ)) :
    Act.Ends (S.audited.arm target) s
      (fun checker t => S.arm target s.1 = (.ok checker, t.1) ∧
        ∃ arm : Exchange σ, arm.Arms target (.ok ()) ∧ t.2 = s.2 ++ [arm])
      (fun e t => ∃ arm : Exchange σ, arm.Arms target (.error e) ∧ arm.after = t.1 ∧
        t.2 = s.2 ++ [arm]) := by
  apply Act.ends_lift_bind
  refine (ends_keepingAct (.added eligibilityCheckerName _) _ _).bind (fun _ t ⟨hrun, ht⟩ => ?_)
    (fun e t ⟨_, ht⟩ => ⟨_, ⟨_, rfl, rfl⟩, rfl, ht⟩)
  refine Act.ends_pure ⟨?_, _, ⟨_, rfl, rfl⟩, ht⟩
  have harm : S.arm target s.1 = (S.addToPipeline eligibilityCheckerName
    ⟨(S.fresh s.1).1, .eligibilityChecker target⟩ >>= fun _ =>
      pure ⟨(S.fresh s.1).1, .eligibilityChecker target⟩ : Act σ RegistryError Extension)
      (S.fresh s.1).2 := rfl
  rw [harm]
  exact Act.bind_run_ok hrun

def Placed (classes : List (String × Tier)) (inv : Invoker) (first : List (Exchange σ))
    (asked added : List String) (cs : List Candidate)
    (o : Orchestration (σ × List (Exchange σ))) : Prop :=
  ∃ l, Reached classes inv first l o ∧ requests l = asked ∧ (additions l).Perm added ∧
    ∀ c ∈ cs, HandedOut l c

section

variable {asked added : List String} {cs : List Candidate}
  (h : Placed classes inv first asked added cs o)

include h

lemma Placed.perm {added' : List String} (hperm : added.Perm added') :
    Placed classes inv first asked added' cs o := by
  obtain ⟨l, hl, hasked, hadded, hout⟩ := h
  exact ⟨l, hl, hasked, hadded.trans hperm, hout⟩

lemma ends_create_placed {names : List String} (tier : Tier) (hnodup : (asked ++ names).Nodup)
    (hready : ∀ n ∈ names, Ready classes added n tier) :
    Act.Ends (instantiateAll (instantiateHook S.audited) names) o
      (fun ds t => ds.map (·.name) = names ∧
        Placed classes inv first (asked ++ names) added (cs ++ ds) t)
      (fun e t => Halted classes inv first e t) := by
  obtain ⟨l, hl, rfl, hadded, hout⟩ := h
  obtain ⟨-, hnames, hdisjoint⟩ := List.nodup_append.1 hnodup
  refine (ends_instantiateAll_reached tier hl hnames (fun n hn hmem => hdisjoint n hmem n hn rfl)
    fun n hn => (hready n hn).mono hadded.symm.subset).mono
    (fun ds t ⟨hds, l', ht, hr, ha, hout'⟩ => ?_) (fun _ _ => id)
  refine ⟨hds, l ++ l', ht, by rw [requests_append, hr], ?_, List.forall_mem_append.2 ⟨?_, hout'⟩⟩
  · rwa [additions_append, ha, List.append_nil]
  · exact fun c hc => (hout c hc).append l'

lemma ends_enlist_placed {batch : List Candidate} (hbatch : batch ⊆ cs)
    (hfirst : (added ++ batch.map (·.name)).Nodup ∨
      (∀ c ∈ batch, c.extension.behaviour.merge.isSome) ∧ classes.map (·.1) ⊆ added) :
    Act.Ends (enlist S.audited batch) o
      (fun _ t => Placed classes inv first asked (added ++ batch.map (·.name)) cs t)
      (fun e t => Halted classes inv first e t) := by
  obtain ⟨l, hl, rfl, hadded, hout⟩ := h
  refine (ends_enlist_reached hl (fun c hc => hout c (hbatch hc)) ?_).mono
    (fun _ t ⟨l', ht, hr, ha⟩ => ?_) (fun _ _ => id)
  · exact hfirst.imp (hadded.append_right _).nodup_iff.2
      (And.imp_right fun hall => List.Subset.trans hall hadded.symm.subset)
  · refine ⟨l ++ l', ht, ?_, ?_, fun c hc => (hout c hc).append l'⟩
    · rw [requests_append, hr, List.append_nil]
    · rw [additions_append, ha]
      exact hadded.append_right _

end

lemma ends_buildWith_reached {search : Exchange σ} {names : List String}
    (ho : o.exchanges = [search]) (hnodup : names.Nodup) :
    let target := (S.pipeline o.registry.1).length + 1 + names.length
    let classes := S.classes names (S.arm target o.registry.1).2
    Act.Ends (buildWith S.audited names) o
      (fun _ t => ∃ arm : Exchange σ, arm.Arms target (.ok ()) ∧ ∃ rest,
        Reached classes o.invoker [search, arm] rest t ∧ classes.map (·.1) = names ∧
        (requests rest).Perm names ∧ names ⊆ additions rest)
      (fun e t => ∃ arm : Exchange σ, (∃ answer, arm.Arms target answer) ∧
        ∃ rest, Broken classes o.invoker search arm rest e t) := by
  intro target classes
  apply Act.ends_get_bind
  refine (ends_attempt_of (ends_arm_exchange target o.registry) _).bind
    (fun checker u ⟨⟨hrun, arm, harm, hu⟩, hinvoker⟩ => ?_)
    (fun e t ⟨source, he, ⟨arm, harm, hafter, ht⟩, hinvoker⟩ => ?_)
  swap
  · refine ⟨arm, ⟨_, harm⟩, [], ht.trans (congrArg (· ++ [arm]) ho), hinvoker, orderly_nil,
      fun _ hx => absurd hx List.not_mem_nil, arm, rfl, ?_, hafter⟩
    rw [harm.failure?_eq, he]
  have hclasses : classes = [] ++ S.classes names u.registry.1 :=
    congrArg (fun r => S.classes names r.2) hrun
  have hstart : Reached classes o.invoker [search, arm] [] u :=
    ⟨hu.trans (congrArg (· ++ [arm]) ho), hinvoker, orderly_nil,
      fun _ hx => absurd hx List.not_mem_nil⟩
  refine Act.Ends.mono ?_ (fun _ _ h => ⟨arm, harm, h⟩)
    (fun _ _ h => ⟨arm, ⟨_, harm⟩, Halted.broken h harm.sound⟩)
  refine (ends_classify_reached hstart hclasses hnodup fun _ _ => List.not_mem_nil).bind
    (fun (found, second, third) v ⟨hmap, hfound, hsecond, hthird, l, hv, hr, ha, hout⟩ => ?_)
    (fun _ _ => id)
  rw [← hclasses.trans (List.nil_append _)] at hmap hfound hsecond hthird
  have hv : Placed classes o.invoker [search, arm] (found.map (·.name)) [] found v :=
    ⟨l, hv, hr, .of_eq ha, hout⟩
  have hperm := Tier.members_perm classes
  rw [hmap, ← hfound, ← hsecond, ← hthird] at hperm
  have hdistinct := hperm.nodup_iff.2 hnodup
  have hdistinct₂ := (List.nodup_append.1 hdistinct).1
  have hsort {cs : List Candidate} : ((sortByPrecedence (·.precedence) cs).map (·.name)).Perm
      (cs.map (·.name)) := (sortByPrecedence_perm _ cs).map _
  have hsubset {cs : List Candidate} : sortByPrecedence (·.precedence) cs ⊆ cs :=
    (sortByPrecedence_perm _ cs).subset
  -- the first tier, which is created by now
  refine (ends_enlist_placed hv hsubset
    (.inl (hsort.nodup_iff.2 (List.nodup_append.1 hdistinct₂).1))).bind (fun _ w hw => ?_)
    (fun _ _ => id)
  replace hw := hw.perm hsort
  -- the second tier
  refine (ends_create_placed hw .ordered hdistinct₂ fun n hn => ?_).bind
    (fun ordered x ⟨hordered, hx⟩ => ?_) (fun _ _ => id)
  · exact ⟨Tier.mem_members.1 (hsecond ▸ hn), fun _ => hfound ▸ List.Subset.refl _, nofun⟩
  have hsortOrdered : ((sortByPrecedence (·.precedence) ordered).map (·.name)).Perm second :=
    hordered ▸ hsort
  refine (ends_enlist_placed hx (fun c hc => List.mem_append_right _ (hsubset hc))
    (.inl ((hsortOrdered.append_left _).nodup_iff.2 hdistinct₂))).bind (fun _ y hy => ?_)
    (fun _ _ => id)
  replace hy := hy.perm (hsortOrdered.append_left _)
  -- the last tier
  refine (ends_create_placed hy .untagged hdistinct fun n hn => ?_).bind
    (fun untagged z ⟨huntagged, hz⟩ => ?_) (fun _ _ => id)
  · exact ⟨Tier.mem_members.1 (hthird ▸ hn), fun _ => hfound ▸ List.subset_append_left _ _,
      fun _ => hsecond ▸ List.subset_append_right _ _⟩
  refine (ends_enlist_placed hz (List.subset_append_right _ _)
    (.inl (huntagged.symm ▸ hdistinct))).bind (fun _ z' hz' => ?_) (fun _ _ => id)
  rw [huntagged] at hz'
  -- the merge-aware ones once more, when all names are in the pipeline
  refine (ends_enlist_placed hz' (fun c hc => ?_) (.inr ⟨fun c hc => ?_, ?_⟩)).bind
    (fun _ t ht => ?_) (fun _ _ => id)
  · exact (((sortByPrecedence_perm _ found).append (sortByPrecedence_perm _ ordered)).append_right
      untagged).subset (List.mem_filter.1 (hsubset hc)).1
  · exact (List.mem_filter.1 (hsubset hc)).2
  · rw [hmap]
    exact hperm.symm.subset
  refine Act.ends_get_bind ((ends_record_aside t _ _).bind (fun _ t' ht' => ?_)
    (fun _ _ => False.elim))
  obtain ⟨rest, hrest, hasked, hadded, -⟩ := ht
  refine Act.ends_pure ⟨rest, hrest.of_eq ht', hmap, hasked ▸ hperm, fun n hn => ?_⟩
  exact hadded.symm.subset (List.mem_append_left _ (hperm.symm.subset hn))

lemma ends_buildPipeline_reached (ho : o.exchanges = []) (hfirst : o.invoker.pipelineBuilt = false)
    (hdistinct : (S.find .instanceHook o.registry.1).1.Nodup) :
    let found := (S.find .instanceHook o.registry.1).1
    let s := (S.find .instanceHook o.registry.1).2
    let names := found.filter (· ∉ o.invoker.processed)
    let target := (S.pipeline s).length + 1 + names.length
    let classes := S.classes names (S.arm target s).2
    let spent : Invoker := { o.invoker with pipelineBuilt := true }
    Act.Ends (buildPipeline S.audited) o
      (fun _ t => ∃ search arm : Exchange σ, search.dealing = .searched .instanceHook found ∧
        arm.Arms target (.ok ()) ∧ ∃ rest, Reached classes spent [search, arm] rest t ∧
        classes.map (·.1) = names ∧ (requests rest).Perm names ∧ names ⊆ additions rest)
      (fun e t => ∃ search arm : Exchange σ, search.dealing = .searched .instanceHook found ∧
        (∃ answer, arm.Arms target answer) ∧
        ∃ rest, Broken classes spent search arm rest e t) := by
  intro found s names target classes spent
  apply Act.ends_get_bind
  rw [if_neg (by simp [hfirst])]
  refine Act.ends_modify_bind ?_
  refine (ends_ask_keeping _ (.searched .instanceHook) _).bind
    (fun found' u ⟨hfound, hinvoker, hu⟩ => ?_) (fun _ _ => False.elim)
  obtain ⟨rfl, hs⟩ := Prod.mk.inj hfound
  have hu : u.exchanges = [⟨.searched .instanceHook found, o.registry.1, u.registry.1⟩] :=
    hu.trans (congrArg (· ++ _) ho)
  have hbuild := ends_buildWith_reached (S := S) hu (hdistinct.filter (· ∉ o.invoker.processed))
  rw [hs, hinvoker] at hbuild
  exact hbuild.mono (fun _ _ ⟨arm, h⟩ => ⟨_, arm, rfl, h⟩) (fun _ _ ⟨arm, h⟩ => ⟨_, arm, rfl, h⟩)

lemma ends_buildPipeline_again (S : Surface σ) {o : Orchestration σ}
    (hbuilt : o.invoker.pipelineBuilt = true) :
    Act.Ends (buildPipeline S) o (fun _ _ => False)
      (fun e t => e = .pipelineAlreadyBuilt o.invoker.run ∧ ∃ level message,
        t = ⟨(S.record level message o.registry).2, o.invoker⟩) := by
  have hrecord (level : Level) (message : String) :
      Act.Ends (record S level message : Act _ BootstrapError Unit) o
        (fun _ t => t = ⟨(S.record level message o.registry).2, o.invoker⟩) (fun _ _ => False) :=
    rfl
  apply Act.ends_get_bind
  rw [if_pos hbuilt]
  exact (hrecord _ _).bind (fun _ t ht => ⟨rfl, _, _, ht⟩) (fun _ _ => False.elim)

lemma buildPipeline_again (S : Surface σ) {o : Orchestration σ}
    (hbuilt : o.invoker.pipelineBuilt = true) : ∃ level message, buildPipeline S o =
      (.error (.pipelineAlreadyBuilt o.invoker.run),
        ⟨(S.record level message o.registry).2, o.invoker⟩) := by
  have hends := ends_buildPipeline_again S hbuilt
  rcases hrun : buildPipeline S o with ⟨e | built, t⟩
  · obtain ⟨rfl, level, message, rfl⟩ := hends.error hrun
    exact ⟨level, message, rfl⟩
  · exact (hends.ok hrun).elim

lemma buildExchanges_again (S : Surface σ) {o : Orchestration σ}
    (hbuilt : o.invoker.pipelineBuilt = true) : buildExchanges S o = [] := by
  have hagain : ∃ level message, buildPipeline S.audited ⟨(o.registry, []), o.invoker⟩ =
      (_, ⟨(S.audited.record level message (o.registry, [])).2, o.invoker⟩) :=
    buildPipeline_again S.audited hbuilt
  obtain ⟨level, message, hrun⟩ := hagain
  rw [buildExchanges, hrun]
  rfl

end Orchestration

open Orchestration

/-- The exchanges of a build on any registry, whether it succeeds or fails, and wherever it fails:
it searches, adds its checker, and then makes each exchange when its turn has come. The first that
fails is the last. If none fails, every name was requested once and added. A build by the same
orchestrator after that makes no exchange with any registry. -/
theorem build_exchanges_in_order (S : Surface σ) (o : Orchestration σ)
    (hfirst : o.invoker.pipelineBuilt = false)
    (hdistinct : (S.find .instanceHook o.registry).1.Nodup) :
    let found := (S.find .instanceHook o.registry).1
    let s := (S.find .instanceHook o.registry).2
    let names := found.filter (· ∉ o.invoker.processed)
    let target := (S.pipeline s).length + 1 + names.length
    let classes := S.classes names (S.arm target s).2
    let run := buildPipeline S o
    (∃ (search arm : Exchange σ) (rest : List (Exchange σ)),
      buildExchanges S o = search :: arm :: rest ∧
      search.dealing = .searched .instanceHook found ∧ (∃ answer, arm.Arms target answer) ∧
      classes.map (·.1) <+: names ∧ Orderly classes rest ∧
      (∀ x ∈ (arm :: rest).dropLast, x.failure? = none) ∧
      (∀ e, run.1 = .error e → ∃ x ∈ (arm :: rest).getLast?,
        x.failure? = some e ∧ x.after = run.2.registry) ∧
      (∀ built, run.1 = .ok built → (∀ x ∈ arm :: rest, x.failure? = none) ∧
        classes.map (·.1) = names ∧ (requests rest).Perm names ∧ names ⊆ additions rest)) ∧
    run.2.invoker = { o.invoker with pipelineBuilt := true } ∧
    ∀ {τ : Type} (S' : Surface τ) (s' : τ), buildExchanges S' ⟨s', run.2.invoker⟩ = [] ∧
      ∃ level message, buildPipeline S' ⟨s', run.2.invoker⟩ =
        (.error (.pipelineAlreadyBuilt o.invoker.run),
          ⟨(S'.record level message s').2, run.2.invoker⟩) := by
  intro found s names target classes run
  have hends := ends_buildPipeline_reached (S := S) (o := ⟨(o.registry, []), o.invoker⟩) rfl hfirst
    hdistinct
  have haudited : run = _ := buildPipeline_audited S ⟨(o.registry, []), o.invoker⟩
  have hexchanges : buildExchanges S o =
    (buildPipeline S.audited ⟨(o.registry, []), o.invoker⟩).2.exchanges := rfl
  have hagain {inv : Invoker} (hinv : inv = { o.invoker with pipelineBuilt := true }) :
      ∀ {τ : Type} (S' : Surface τ) (s' : τ), buildExchanges S' ⟨s', inv⟩ = [] ∧
        ∃ level message, buildPipeline S' ⟨s', inv⟩ =
          (.error (.pipelineAlreadyBuilt o.invoker.run),
            ⟨(S'.record level message s').2, inv⟩) := by
    subst hinv
    exact fun S' s' => ⟨buildExchanges_again S' rfl, buildPipeline_again S' rfl⟩
  rcases hrun : buildPipeline S.audited ⟨(o.registry, []), o.invoker⟩ with ⟨e | built, t⟩
  · rw [hrun] at haudited hexchanges
    have hanswer {e' : BootstrapError} (he' : run.1 = .error e') : e' = e := by
      rw [haudited] at he'
      exact (Except.error.inj he').symm
    obtain ⟨search, arm, hsearch, harm, rest, hbroken⟩ := hends.error hrun
    have hinvoker : run.2.invoker = _ := (congrArg (·.2.invoker) haudited).trans hbroken.invoker
    refine ⟨⟨search, arm, rest, hexchanges.trans hbroken.exchanges, hsearch, harm,
      S.classes_isPrefix names _, hbroken.orderly, hbroken.sound, fun e' he' => ?_,
      fun built hok => ?_⟩, hinvoker, hagain hinvoker⟩
    · rw [hanswer he', haudited]
      exact hbroken.failed
    · rw [haudited] at hok
      cases hok
  · rw [hrun] at haudited hexchanges
    obtain ⟨search, arm, hsearch, harm, rest, hreached, hmap, hasked, hadded⟩ :=
      hends.ok hrun
    have hsound : ∀ x ∈ arm :: rest, x.failure? = none :=
      List.forall_mem_cons.2 ⟨harm.sound, hreached.sound⟩
    have hinvoker : run.2.invoker = _ := (congrArg (·.2.invoker) haudited).trans hreached.invoker
    refine ⟨⟨search, arm, rest, hexchanges.trans hreached.exchanges, hsearch, ⟨_, harm⟩,
      S.classes_isPrefix names _, hreached.orderly,
      fun x hx => hsound x ((List.dropLast_sublist _).subset hx), fun e he => ?_,
      fun _ _ => ⟨hsound, hmap, hasked, hadded⟩⟩, hinvoker, hagain hinvoker⟩
    rw [haudited] at he
    cases he

theorem merging_exchanges_in_order : ∃ (search arm : Exchange Session)
    (rest : List (Exchange Session)) (classes : List (String × Tier)),
    buildExchanges (Session.surface .merging) ⟨.merging, .new ""⟩ = search :: arm :: rest ∧
    classes = [("old", .untagged), ("merging", .priority), ("first", .priority),
      ("ordered", .ordered)] ∧
    Orderly classes rest ∧ (requests rest).Perm ["old", "merging", "first", "ordered"] := by
  have hok : (buildPipeline (Session.surface .merging) ⟨.merging, .new ""⟩).1.isOk = true := by
    decide +kernel
  obtain ⟨⟨search, arm, rest, hlog, -, -, -, horderly, -, -, hcomplete⟩, -⟩ :=
    build_exchanges_in_order (Session.surface .merging) ⟨.merging, .new ""⟩ rfl (by decide +kernel)
  rcases hrun : (buildPipeline (Session.surface .merging) ⟨.merging, .new ""⟩).1 with e | built
  · rw [hrun] at hok
    cases hok
  obtain ⟨-, -, hperm, -⟩ := hcomplete built hrun
  refine ⟨search, arm, rest, _, hlog, ?_, horderly, hperm.trans ?_⟩
  · decide +kernel
  · decide +kernel

end ComponentContainer
