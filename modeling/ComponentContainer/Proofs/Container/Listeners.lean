import ComponentContainer.Proofs.Container.Watch

/-! Which of the listeners that a container keeps are components that it still has. -/

namespace ComponentContainer

def Session.ListenersLive (s : Session) : Prop :=
  ∀ l ∈ s.listeners, (s.registry.singleton? l.1).bind (·.extension?) = some l.2

instance (s : Session) : Decidable s.ListenersLive :=
  inferInstanceAs (Decidable (∀ l ∈ s.listeners, _))

namespace Ledger

/-- Wherever a listener was seen first and not forgotten since, the latest posting that has to do with
its singleton since then has stored the listener itself. -/
def DetectionsKept (ps : Ledger) : Prop :=
  ∀ (later earlier : Ledger) (name : String) (e : Extension),
    ps = later ++ .seen name e :: earlier → .cleared ∉ later →
    name ∉ earlier.sightings.map (·.1) →
    ∃ i, later.leaves name = some (some i) ∧ i.extension? = some e

def keptThrough (later : Ledger) : Ledger → Bool
  | .seen name e :: earlier =>
    decide (.cleared ∈ later) || decide (name ∈ (sightings earlier).map (·.1)) ||
      decide (((later.leaves name).bind id).bind (·.extension?) = some e)
  | _ => true

lemma keptThrough_seen {later earlier : Ledger} {name : String} {e : Extension} :
    keptThrough later (.seen name e :: earlier) = true ↔
      (.cleared ∉ later → name ∉ (sightings earlier).map (·.1) →
        ∃ i, later.leaves name = some (some i) ∧ i.extension? = some e) := by
  have hstored : ((later.leaves name).bind id).bind (·.extension?) = some e ↔
      ∃ i, later.leaves name = some (some i) ∧ i.extension? = some e := by
    rcases later.leaves name with _ | _ | i <;> simp
  rw [keptThrough, Bool.or_eq_true, Bool.or_eq_true, decide_eq_true_eq, decide_eq_true_eq,
    decide_eq_true_eq, hstored, or_assoc, or_iff_not_imp_left, or_iff_not_imp_left]

lemma detectionsKept_iff {ps : Ledger} : ps.DetectionsKept ↔
    ∀ n ∈ List.range ps.length, keptThrough (ps.take n) (ps.drop n) = true := by
  constructor
  · intro h n _
    have hsplit := List.take_append_drop n ps
    generalize ps.take n = later at hsplit ⊢
    generalize ps.drop n = rest at hsplit ⊢
    cases rest with
    | nil => rfl
    | cons p earlier =>
      cases p with
      | seen name e => exact keptThrough_seen.2 (h later earlier name e hsplit.symm)
      | began | failed | stored | removed | destroyed | cleared | added => rfl
  · rintro h later earlier name e rfl
    have hkept := h later.length (by simp)
    rw [List.take_left, List.drop_left] at hkept
    exact keptThrough_seen.1 hkept

instance (ps : Ledger) : Decidable ps.DetectionsKept := decidable_of_iff _ detectionsKept_iff.symm

end Ledger

lemma Holdings.Posts.listenersLive_iff {ps : Ledger} {s : Session}
    (h : Session.empty.holdings.Posts ps s.holdings) : s.ListenersLive ↔ ps.DetectionsKept := by
  have hunmade : Session.empty.holdings.Unmade := fun _ h => nomatch h
  have hlisteners : s.listeners = ps.firsts := h.listeners_eq rfl
  constructor
  · rintro hlive later earlier name e rfl hclear hnew
    have hmem : (name, e) ∈ s.listeners := by
      rw [hlisteners]
      exact Ledger.mem_firsts_iff.2 ⟨later, earlier, rfl, hclear, hnew⟩
    obtain ⟨i, hi, he⟩ := Option.bind_eq_some_iff.1 (hlive _ hmem)
    exact ⟨i, (h.lookup_eq_some_iff hunmade).1 hi, he⟩
  · rintro hkept ⟨name, e⟩ hl
    rw [hlisteners] at hl
    obtain ⟨later, earlier, rfl, hclear, hnew⟩ := Ledger.mem_firsts_iff.1 hl
    obtain ⟨i, hi, he⟩ := hkept later earlier name e rfl hclear hnew
    exact Option.bind_eq_some_iff.2 ⟨i, (h.lookup_eq_some_iff hunmade).2 hi, he⟩

namespace Container

/-- Whatever is asked of a new container, the postings that are entered meanwhile account for all that
it holds in the end; and the listeners are live exactly if, by these postings, whatever the detector
has seen was kept. -/
theorem listeners_live_iff {config : ContainerConfig} {c : Container}
    (hnew : Container.new config = .ok c) (lib : Catalog) (requests : List Request) :
    let w := (Watch.start c).after lib requests
    w.container = c.after lib requests ∧
    Session.empty.holdings.Posts w.ledger (c.after lib requests).session.holdings ∧
    ((c.after lib requests).session.ListenersLive ↔ w.ledger.DetectionsKept) := by
  obtain ⟨hcontainer, hkeeps⟩ := Watch.over_of_new lib hnew requests
  exact ⟨hcontainer, hkeeps.posts, hkeeps.posts.listenersLive_iff⟩

end Container

def Catalog.lateRefusal : Catalog where
  typeNames := ⟨"", "", "", "", "", "", ""⟩
  blueprints := [
    { (default : Blueprint) with
      name := "l"
      lazy := true
      factory := ⟨[], .fresh (.extension 0)⟩ }]
  extensions := [
    .scripted none ⟨none, none, none, none, some []⟩,
    .scripted none ⟨none, none, some (.rules [] [⟨some "l", none, .fail "no"⟩]), none, none⟩]

namespace Container

def listens : List Request :=
  [.perform (.edit (.register 0)), .refresh "r", .perform (.inspect (.get "l"))]

def listening : Container :=
  (⟨.named "c", ∅, [], .created, none⟩ : Container).after .lateRefusal listens

theorem listening_live :
    let w := (Watch.start ⟨.named "c", ∅, [], .created, none⟩).after .lateRefusal listens
    w.ledger.sightings.map (·.1) = ["l"] ∧ w.ledger.DetectionsKept ∧
    listening.session.listeners.map (·.1) = ["l"] ∧ listening.session.ListenersLive := by
  intro w
  have hkept : w.ledger.DetectionsKept := by decide +kernel
  obtain ⟨-, -, hiff⟩ := listeners_live_iff new_named .lateRefusal listens
  exact ⟨by decide +kernel, hkept, by decide +kernel, hiff.2 hkept⟩

def desertion : List Request :=
  [.perform (.edit (.register 0)),
    .supply "s" (.scripted none ⟨none,
      some [⟨.query (.addToPipeline "late" 1), false⟩, ⟨.query (.instantiate "l"), true⟩],
      none, none, none⟩),
    .refresh "r"]

def deserted : Container :=
  (⟨.named "c", ∅, [], .created, none⟩ : Container).after .lateRefusal desertion

theorem deserted_outlived :
    deserted.Reachable .lateRefusal ∧ deserted.state = .active ∧
    deserted.session.listeners.map (·.1) = ["l"] ∧
    deserted.session.registry.singleton? "l" = none ∧
    .refreshed "l" "c" 0 ∈ deserted.session.journal ∧ ¬deserted.session.ListenersLive :=
  ⟨(Reachable.new new_named).after _, by decide +kernel, by decide +kernel, by decide +kernel,
    by decide +kernel, by decide +kernel⟩

end Container

end ComponentContainer
