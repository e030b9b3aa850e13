import ComponentContainer.Proofs.Bystander.Refresh
import ComponentContainer.Proofs.Container.Failure

/-! Containers that are asked the same, but for a lazy definition that is registered in one of them
and that nothing else mentions. -/

namespace ComponentContainer

open Act Session

variable {lib : Catalog} {z : String} {f : ℕ → ℕ}

def skip (k n : ℕ) : ℕ := if n < k then n else n + 1

lemma skip_of_lt {k n : ℕ} (h : n < k) : skip k n = n := if_pos h

lemma skip_add (k n : ℕ) : skip k (k + n) = k + 1 + n := by
  unfold skip
  rw [if_neg (Nat.not_lt.2 (Nat.le_add_right k n))]
  omega

lemma skip_injective (k : ℕ) : (skip k).Injective := by
  intro m n h
  unfold skip at h
  split at h <;> split at h <;> omega

lemma map_eq_self {α : Type} {g : α → α} {l : List α} (h : ∀ a ∈ l, g a = a) : l.map g = l :=
  (List.map_congr_left h).trans (List.map_id l)

lemma mapValues_eq_self {α β : Type} {g : β → β} {l : List (α × β)} (h : ∀ p ∈ l, g p.2 = p.2) :
    mapValues g l = l := map_eq_self fun p hp => congrArg (p.1, ·) (h p hp)

structure Registry.Numbered (k : ℕ) (r : Registry) : Prop where
  definitions : ∀ p ∈ r.definitions, p.2.stamp < k
  snapshots : ∀ p ∈ r.snapshots, p.2.stamp < k
  singletons : ∀ p ∈ r.singletons, p.2.stamp < k
  pipeline : ∀ entry ∈ r.pipeline, entry.extension.stamp < k

lemma Registry.Numbered.apart_of_register {k : ℕ} {r t : Registry} {d : Definition}
    (hr : r.Numbered k) (hspares : r.Spares lib d.name) (hnames : d.name ∉ r.names)
    (hsnapshots : d.name ∉ r.snapshots.map (·.1)) (hlazy : d.lazy = true)
    (hbare : d.capabilities = ∅) (h : r.register d = .ok t) : t.Apart lib d.name (skip k) r := by
  have hdefinitions {l : List (String × Definition)} (hl : ∀ p ∈ l, p.2.stamp < k) :
      mapValues (·.restamp (skip k)) l = l :=
    mapValues_eq_self fun p hp => by rw [Definition.restamp, skip_of_lt (hl p hp)]
  have hkept {l : List (String × Definition)} (hl : d.name ∉ l.map (·.1)) :
      l.filter (·.1 ≠ d.name) = l :=
    List.filter_eq_self.2 fun p hp =>
      decide_eq_true (ne_of_mem_of_not_mem (List.mem_map_of_mem hp) hl)
  obtain ⟨-, hnew, rfl⟩ := register_eq_ok h
  have hkeys : d.name ∉ r.definitions.map (·.1) := fun hd => by
    have hfind := lookup_isSome_iff_mem_keys.2 hd
    unfold find? at hnew
    rw [hnew] at hfind
    cases hfind
  refine { hspares with
    bystander := ⟨d, lookup_concat_self d hnew, hlazy⟩
    definitions_eq := ?_, order_eq := ?_, index_eq := ?_, snapshots_eq := ?_, singletons_eq := ?_
    inCreation_eq := rfl, pipeline_eq := ?_, invalidations_eq := rfl }
  · rw [List.filter_append, hkept hkeys, hdefinitions hr.definitions]
    simp
  · have horder : r.order.filter (· ≠ d.name) = r.order :=
      List.filter_eq_self.2 fun n hn => decide_eq_true (ne_of_mem_of_not_mem hn hnames)
    rw [List.filter_append, horder]
    simp
  · rw [hbare]
    rfl
  · rw [hkept hsnapshots, hdefinitions hr.snapshots]
  · exact (mapValues_eq_self fun p hp => by
      rw [Instance.restamp, skip_of_lt (hr.singletons p hp)]).symm
  · exact (map_eq_self fun entry hentry => by
      rw [PipelineEntry.restamp, Extension.restamp, skip_of_lt (hr.pipeline entry hentry)]).symm

namespace Container

structure Numbered (c : Container) : Prop where
  registry : c.session.registry.Numbered c.session.nextStamp
  reports : ∀ r ∈ c.session.reports, r.checker < c.session.nextStamp
  listeners : ∀ p ∈ c.session.listeners, p.2.stamp < c.session.nextStamp
  supplied : ∀ item ∈ c.supplied, item.extension.stamp < c.session.nextStamp
  checker : ∀ k ∈ c.checker, k < c.session.nextStamp
  detector : detectorStamp < c.session.nextStamp

structure Unaware (lib : Catalog) (z : String) (c : Container) : Prop where
  registry : c.session.registry.Spares lib z
  names : z ∉ c.session.registry.names
  snapshots : z ∉ c.session.registry.snapshots.map (·.1)
  supplied : ∀ item ∈ c.supplied, item.extension.Spares lib z

variable {c : Container} {entry : ℕ} {r : Registry}

lemma serve_register
    (h : c.session.registry.register ⟨lib.blueprint entry, c.session.nextStamp⟩ = .ok r) :
    ∃ log, c.serve lib (.perform (.edit (.register entry))) = { c with session := { c.session with
      registry := r, log, nextStamp := c.session.nextStamp + 1 } } := by
  have hperform : Stays (Session.perform lib (.edit (.register entry))) c.session fun s =>
      ∃ log, s = { c.session with registry := r, log, nextStamp := c.session.nextStamp + 1 } := by
    have hregister : Stays ((Edit.register entry).perform lib) c.session fun s =>
        ∃ log, s = { c.session with registry := r, log, nextStamp := c.session.nextStamp + 1 } := by
      refine ends_lift_bind (Ends.bind (ends_get_bind ?_) (fun _ u hu => hu) (fun _ _ => id))
      change Ends (Session.ofExcept (c.session.registry.register
        ⟨lib.blueprint entry, c.session.nextStamp⟩) >>= _) _ _ _
      rw [h]
      exact ⟨_, rfl⟩
    exact hregister.adapt_const
  obtain ⟨log, hlog⟩ := hperform.state
  exact ⟨log, congrArg (fun s : Session => { c with session := s }) hlog⟩

theorem Numbered.register_apart (hc : c.Numbered) (hz : c.Unaware lib (lib.blueprint entry).name)
    (hidle : c.session.registry.inCreation = []) (hlazy : (lib.blueprint entry).lazy = true)
    (hbare : (lib.blueprint entry).capabilities = ∅)
    (h : c.session.registry.register ⟨lib.blueprint entry, c.session.nextStamp⟩ = .ok r) :
    (c.serve lib (.perform (.edit (.register entry)))).Apart lib (lib.blueprint entry).name
      (skip c.session.nextStamp) c := by
  have hstamp {n : ℕ} (hn : n < c.session.nextStamp) : skip c.session.nextStamp n = n :=
    skip_of_lt hn
  obtain ⟨log, hserve⟩ := serve_register h
  rw [hserve]
  refine ⟨rfl, rfl, ?_, ?_, ⟨?_, ?_, ?_, skip_add _⟩, hidle, skip_injective _, hstamp hc.detector⟩
  · refine List.forall₂_same.2 fun item hitem => ⟨rfl, ?_, hz.supplied item hitem⟩
    rw [Extension.restamp, hstamp (hc.supplied item hitem)]
  · change c.checker = c.checker.map _
    cases hchecker : c.checker with
    | none => rfl
    | some k => rw [Option.map_some, hstamp (hc.checker k hchecker)]
  · exact hc.registry.apart_of_register hz.registry hz.names hz.snapshots hlazy hbare h
  · exact (map_eq_self fun report hreport => by
      rw [Report.restamp, hstamp (hc.reports report hreport)]).symm
  · exact (mapValues_eq_self fun p hp => by
      rw [Extension.restamp, hstamp (hc.listeners p hp)]).symm

def Request.Spares (lib : Catalog) (z : String) (f : ℕ → ℕ) : Request → Prop
  | .refresh _ | .close | .publish _ | .buildPipeline _ => True
  | .supply name spec => z ∉ (spec.behaviour name).mentioned lib
  | .perform a => z ∉ a.mentioned lib
  | .mutationPhase supplied _ =>
    ∀ item ∈ supplied, f item.extension.stamp = item.extension.stamp ∧ item.extension.Spares lib z

variable {c' : Container}

lemma Apart.close (h : c'.Apart lib z f c) : (close c').2.Apart lib z f (close c).2 := by
  by_cases hstate : c.state = .closed
  · rw [close_again hstate, close_again (h.state_eq.trans hstate)]
    exact h
  obtain ⟨log', hrun'⟩ := close_run (h.state_eq ▸ hstate)
  obtain ⟨log, hrun⟩ := close_run hstate
  rw [hrun', hrun]
  by_cases hactive : c.state = .active
  · have hevent : Event.closed c'.config.name = .closed c.config.name :=
      congrArg (Event.closed ·.name) h.config_eq
    rw [if_pos hactive, if_pos (h.state_eq.trans hactive), hevent]
    have hpublish := (onSession_apart (fun _ _ => publish_abreast (.closed c.config.name)) c' c h).2
    exact hpublish.tornDown _ _ _
  · rw [if_neg hactive, if_neg (h.state_eq ▸ hactive)]
    exact h.tornDown _ _ _

lemma Apart.supply (h : c'.Apart lib z f c) {name : String} {spec : ExtensionSpec}
    (hspec : z ∉ (spec.behaviour name).mentioned lib) :
    (c'.serve lib (.supply name spec)).Apart lib z f (c.serve lib (.supply name spec)) := by
  let e : Extension := ⟨c.session.nextStamp, spec.behaviour name⟩
  let e' : Extension := ⟨c'.session.nextStamp, spec.behaviour name⟩
  obtain ⟨log', hrun'⟩ := addExtension_run name e'
    { c' with session := { c'.session with nextStamp := c'.session.nextStamp + 1 } }
  obtain ⟨log, hrun⟩ := addExtension_run name e
    { c with session := { c.session with nextStamp := c.session.nextStamp + 1 } }
  have he : e' = e.restamp f :=
    congrArg (Extension.mk · (spec.behaviour name)) (h.session.nextStamp_eq 0).symm
  change (addExtension name e' { c' with session := { c'.session with
    nextStamp := c'.session.nextStamp + 1 } }).2.Apart lib z f (addExtension name e { c with
      session := { c.session with nextStamp := c.session.nextStamp + 1 } }).2
  rw [hrun', hrun]
  refine { h with
    supplied := ?_
    session := { h.session with nextStamp_eq := h.session.nextStamp_succ } }
  dsimp only
  rw [h.state_eq]
  split
  · exact List.rel_append h.supplied (.cons ⟨rfl, he, hspec⟩ .nil)
  · exact h.supplied

theorem Apart.serve (h : c'.Apart lib z f c) (hlib : lib.Spares z) {r : Request}
    (hr : r.Spares lib z f) : (c'.serve lib r).Apart lib z f (c.serve lib r) := by
  cases r with
  | refresh run => exact (refresh_apart hlib run c' c h).2
  | close => exact h.close
  | publish event => exact (onSession_apart (fun _ _ => publish_abreast event) c' c h).2
  | supply name spec => exact h.supply hr
  | perform a =>
    exact (onSession_apart (fun _ hidle => Creation.perform_abreast hlib
      (Creation.resolve_abreast hlib hidle) (Likeness.allows_beside hr)) c' c h).2
  | mutationPhase supplied i =>
    refine (orchestrate_apart (fun _ hidle =>
      Orchestration.mutationPhase_abreast hlib hidle ?_) i c' c h).2
    refine List.forall₂_same.2 fun item hitem => ⟨rfl, ?_, (hr item hitem).2⟩
    rw [Extension.restamp, (hr item hitem).1]
  | buildPipeline i =>
    exact (orchestrate_apart (fun _ hidle => Orchestration.buildPipeline_abreast hlib hidle) i
      c' c h).2

theorem Apart.after (h : c'.Apart lib z f c) (hlib : lib.Spares z) {requests : List Request}
    (hrequests : ∀ r ∈ requests, r.Spares lib z f) :
    (c'.after lib requests).Apart lib z f (c.after lib requests) := by
  induction requests generalizing c' c with
  | nil => exact h
  | cons r requests ih =>
    obtain ⟨hr, hrequests⟩ := List.forall_mem_cons.1 hrequests
    exact ih (h.serve hlib hr) hrequests

/-- A refresh comes to the same without the definition: it fails with the same error, or its summary
is the same but for the stamp of the checker that reported. -/
theorem Apart.refresh_same (h : c'.Apart lib z f c) (hlib : lib.Spares z) (run : String) :
    (refresh lib run c').1 = (refresh lib run c).1.map (·.restamp f) ∧
      (refresh lib run c').2.state = (refresh lib run c).2.state ∧
      (refresh lib run c').2.session.registry.singletons.map (·.1) =
        (refresh lib run c).2.session.registry.singletons.map (·.1) := by
  obtain ⟨halike, hend⟩ := refresh_apart hlib run c' c h
  refine ⟨?_, hend.state_eq, ?_⟩
  · generalize (refresh lib run c).1 = x at halike
    rcases x with e | summary
    · exact halike.error_eq
    · obtain ⟨_, hx', rfl⟩ := halike.exists_ok
      exact hx'
  · rw [hend.session.registry.singletons_eq, mapValues, List.map_map]
    rfl

end Container

def Catalog.bystanding : Catalog where
  typeNames := ⟨"", "", "", "", "", "", ""⟩
  blueprints := [
    { (default : Blueprint) with name := "a" },
    { (default : Blueprint) with name := "z", lazy := true },
    { (default : Blueprint) with
      name := "h"
      capabilities := .ofList [.instanceHook]
      factory := ⟨[⟨.inspect (.get "a"), false⟩], .shared 0⟩ }]
  extensions := [.scripted none ⟨none, none, some (.rules [] []), none, none⟩]

namespace Container

def alone : Container :=
  (⟨.named "c", ∅, [], .created, none⟩ : Container).after .bystanding
    [.perform (.edit (.register 0))]

def accompanied : Container := alone.serve .bystanding (.perform (.edit (.register 1)))

def hooked : List Request :=
  [.perform (.edit (.register 2)),
    .supply "m" (.scripted none ⟨some ⟨[⟨.edit .names, false⟩], []⟩, none, none, none, none⟩)]

lemma accompanied_apart : accompanied.Apart .bystanding "z" (skip 2) alone := by
  have hempty : alone.session.registry.singletons = [] := by decide +kernel
  have hnumbered : alone.Numbered := by
    refine ⟨⟨?_, ?_, ?_, ?_⟩, ?_, ?_, ?_, ?_, ?_⟩ <;> decide +kernel
  have hunaware : alone.Unaware .bystanding "z" := by
    refine ⟨⟨fun c => ?_, ?_, ?_, fun p hp => ?_⟩, ?_, ?_, ?_⟩
    case refine_1 => cases c <;> decide +kernel
    case refine_4 =>
      rw [hempty] at hp
      cases hp
    all_goals decide +kernel
  have hok : (alone.session.registry.register
      ⟨Catalog.bystanding.blueprint 1, alone.session.nextStamp⟩).isOk = true := by
    decide +kernel
  have hnext : alone.session.nextStamp = 2 := by decide +kernel
  rw [← hnext]
  cases h : alone.session.registry.register
      ⟨Catalog.bystanding.blueprint 1, alone.session.nextStamp⟩ with
  | error e =>
    rw [h] at hok
    cases hok
  | ok r =>
    exact hnumbered.register_apart hunaware (by decide +kernel) (by decide +kernel)
      (by decide +kernel) h

theorem accompanied_refresh_same :
    (accompanied.after .bystanding hooked).Apart .bystanding "z" (skip 2)
      (alone.after .bystanding hooked) ∧
    Catalog.bystanding.Spares "z" ∧
    (accompanied.after .bystanding hooked).session.registry.names = ["a", "z", "h"] ∧
    (refresh .bystanding "r" (alone.after .bystanding hooked)).1.map (fun s =>
      (s.mutation.mutated, s.target, s.ineligible.map (·.name))) = .ok (["m"], 3, ["a"]) ∧
    (refresh .bystanding "r" (accompanied.after .bystanding hooked)).1 =
      (refresh .bystanding "r" (alone.after .bystanding hooked)).1.map (·.restamp (skip 2)) ∧
    (refresh .bystanding "r" (accompanied.after .bystanding hooked)).2.state =
      (refresh .bystanding "r" (alone.after .bystanding hooked)).2.state ∧
    (refresh .bystanding "r"
        (accompanied.after .bystanding hooked)).2.session.registry.singletons.map (·.1) =
      (refresh .bystanding "r"
        (alone.after .bystanding hooked)).2.session.registry.singletons.map (·.1) := by
  have hlib : Catalog.bystanding.Spares "z" := ⟨by decide +kernel, by decide +kernel⟩
  have hhooked : ∀ r ∈ hooked, r.Spares .bystanding "z" (skip 2) := by
    refine List.forall_mem_cons.2 ⟨?_, List.forall_mem_singleton.2 ?_⟩
    · change "z" ∉ (Action.edit (.register 2)).mentioned .bystanding
      decide +kernel
    · change "z" ∉ (ExtensionSpec.behaviour "m" _).mentioned _
      decide +kernel
  have hapart := accompanied_apart.after hlib hhooked
  exact ⟨hapart, hlib, by decide +kernel, by decide +kernel, hapart.refresh_same hlib "r"⟩

end Container

end ComponentContainer
