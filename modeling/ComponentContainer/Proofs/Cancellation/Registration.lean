import ComponentContainer.Proofs.Cancellation.Creation
import ComponentContainer.Proofs.Names
import ComponentContainer.Proofs.PipelineHistory

/-! Which definitions a registry takes and gives back, and that a definition which is removed again
leaves nothing behind, whatever was asked of the registry meanwhile without naming it. -/

namespace ComponentContainer

/-! ### What is taken and given back -/

namespace Registry

variable {r : Registry} {d : Definition} {name : String}

lemma register_of_not_definable (h : ¬Name.Definable d.name) :
    r.register d = .error (.invalidName d.name) := by
  have hname : Name.isDefinable d.name = false := by
    rwa [← Bool.not_eq_true, Name.isDefinable_iff]
  unfold register
  rw [hname]
  rfl

lemma register_of_definable (h : Name.Definable d.name) : r.register d =
    if r.contains d.name then .error (.duplicateDefinition d.name)
    else .ok { r with
      definitions := r.definitions ++ [(d.name, d)]
      order := r.order ++ [d.name]
      index := r.index.enterAll d.capabilities d.name
      snapshots := r.snapshots.filter (·.1 ≠ d.name) } := by
  unfold register
  rw [Name.isDefinable_iff.2 h]
  rfl

end Registry

namespace Session

variable {s t : Session} {d : Definition} {name : String} {r : Registry} {e : RegistryError}

lemma register_error (h : s.registry.register d = .error e) : register d s = (.error e, s) := by
  change (ofExcept (s.registry.register d) >>= _ : Act Session RegistryError Unit) s = _
  rw [h]
  rfl

lemma register_ok (h : s.registry.register d = .ok r) :
    ∃ log, register d s = (.ok (), { s with registry := r, log }) := by
  change ∃ log, (ofExcept (s.registry.register d) >>= _ : Act Session RegistryError Unit) s = _
  rw [h]
  exact ⟨_, rfl⟩

lemma remove_error (h : s.registry.remove name = .error e) : remove name s = (.error e, s) := by
  change (ofExcept (s.registry.remove name) >>= _ : Act Session RegistryError Definition) s = _
  rw [h]
  rfl

lemma remove_ok (h : s.registry.remove name = .ok (d, r)) :
    ∃ log, remove name s = (.ok d, { s with registry := r, log }) := by
  change ∃ log, (ofExcept (s.registry.remove name) >>= _ : Act Session RegistryError Definition) s = _
  rw [h]
  exact ⟨_, rfl⟩

lemma register_not_definable (h : ¬Name.Definable d.name) :
    register d s = (.error (.invalidName d.name), s) :=
  register_error (Registry.register_of_not_definable h)

section

variable (hs : s.WellFormed)

include hs

lemma register_taken (h : Name.Definable d.name) (hmem : d.name ∈ s.registry.names) :
    register d s = (.error (.duplicateDefinition d.name), s) := by
  have hregister := Registry.register_of_definable (r := s.registry) h
  rw [Registry.contains, if_pos (hs.registry.find?_isSome.2 hmem)] at hregister
  exact register_error hregister

lemma register_free (h : Name.Definable d.name) (hmem : d.name ∉ s.registry.names) :
    ∃ t, register d s = (.ok (), t) := by
  have hregister := Registry.register_of_definable (r := s.registry) h
  rw [Registry.contains, if_neg (mt hs.registry.find?_isSome.1 hmem)] at hregister
  obtain ⟨log, hrun⟩ := register_ok hregister
  exact ⟨_, hrun⟩

lemma register_ok_iff : (register d s).1 = .ok () ↔
    Name.Definable d.name ∧ d.name ∉ s.registry.names := by
  constructor
  · intro hok
    by_cases hname : Name.Definable d.name
    · refine ⟨hname, fun hmem => ?_⟩
      rw [register_taken hs hname hmem] at hok
      cases hok
    · rw [register_not_definable hname] at hok
      cases hok
  · rintro ⟨hname, hmem⟩
    obtain ⟨t, hrun⟩ := register_free hs hname hmem
    exact congrArg Prod.fst hrun

lemma remove_missing (hmem : name ∉ s.registry.names) :
    remove name s = (.error (.noSuchDefinition name), s) := by
  have hremove : s.registry.remove name = .error (.noSuchDefinition name) := by
    unfold Registry.remove
    rw [hs.registry.find?_eq_none.2 hmem]
  exact remove_error hremove

lemma remove_registered (hmem : name ∈ s.registry.names) :
    ∃ x t, s.registry.find? name = some x ∧ remove name s = (.ok x, t) := by
  obtain ⟨x, hfind⟩ := Option.isSome_iff_exists.1 (hs.registry.find?_isSome.2 hmem)
  have hremove : ∃ r, s.registry.remove name = .ok (x, r) := by
    unfold Registry.remove
    rw [hfind]
    exact ⟨_, rfl⟩
  obtain ⟨r, hr⟩ := hremove
  obtain ⟨log, hrun⟩ := remove_ok hr
  exact ⟨x, _, hfind, hrun⟩

lemma find?_of_remove {x : Definition} (hok : (remove name s).1 = .ok x) :
    s.registry.find? name = some x := by
  by_cases hmem : name ∈ s.registry.names
  · obtain ⟨y, t, hfind, hrun⟩ := remove_registered hs hmem
    rw [hrun] at hok
    exact hfind.trans (congrArg some (Except.ok.inj hok))
  · rw [remove_missing hs hmem] at hok
    cases hok

lemma remove_ok_iff : (∃ x, (remove name s).1 = .ok x) ↔ name ∈ s.registry.names := by
  constructor
  · rintro ⟨x, hok⟩
    exact hs.registry.find?_isSome.1 (Option.isSome_of_eq_some (find?_of_remove hs hok))
  · intro hmem
    obtain ⟨x, t, -, hrun⟩ := remove_registered hs hmem
    exact ⟨x, congrArg Prod.fst hrun⟩

end

end Session

/-! ### Between the registration and the removal -/

namespace Session

/-- Operations on the registry, from `s` on, during which nothing that is performed names `z`. -/
inductive Bypasses (lib : Catalog) (z : String) : Session → List Operation → Prop
  | nil (s : Session) : Bypasses lib z s []
  | perform {s : Session} {a : Action} {ops : List Operation} : s.Avoids lib z a →
    Bypasses lib z (s.serve lib (.perform a)) ops → Bypasses lib z s (.perform a :: ops)
  | addToPipeline {s : Session} {name : String} {e : Extension} {ops : List Operation} : name ≠ z →
    Bypasses lib z (s.serve lib (.addToPipeline name e)) ops →
    Bypasses lib z s (.addToPipeline name e :: ops)

variable {lib : Catalog} {z : String} {d : Definition} {s' s t : Session} {ops : List Operation}

lemma beside_of_register (hs : s.WellFormed) (h : register d s = (.ok (), t)) : t.Beside d s := by
  cases hr : s.registry.register d with
  | error e =>
    rw [register_error hr] at h
    cases h
  | ok r =>
    obtain ⟨log, hrun⟩ := register_ok hr
    obtain ⟨-, rfl⟩ := Prod.mk.inj (hrun.symm.trans h)
    exact ⟨Registry.beside_register hs.registry hr, rfl, rfl, rfl⟩

lemma Bypasses.beside (hops : s'.Bypasses lib d.name ops) (h : s'.Beside d s) :
    (s'.serveAll lib ops).Beside d (s.serveAll lib ops) := by
  induction hops generalizing s with
  | nil => exact h
  | perform havoids _ ih => exact ih (perform_beside h havoids)
  | addToPipeline _ _ ih => exact ih (addToPipeline_beside _ _ _ _ h).2

lemma bypasses_of_spared (hlib : ∀ b ∈ lib.blueprints, b.name ≠ z → z ∉ b.factory.mentioned lib)
    (hs : s.registry.Spared lib z) {actions : List Action}
    (hactions : ∀ a ∈ actions, z ∉ a.mentioned lib) :
    s.Bypasses lib z (actions.map .perform) := by
  induction actions generalizing s with
  | nil => exact .nil s
  | cons a actions ih =>
    obtain ⟨ha, hactions⟩ := List.forall_mem_cons.1 hactions
    have hgoes := perform_goes (passage_spared hlib) (fun _ _ _ => trivial) a
    exact .perform (avoids_of_spared hlib hs ha) <|
      ih (hgoes.along (fun _ _ _ _ => trivial) hs) hactions

/-- A registry takes a definition exactly if its name is definable and free, gives back exactly what it
has, and stays as it is otherwise. What is registered and, after operations that do not name it, is
removed again leaves of the other names all as it would be without. -/
theorem register_remove_cancel (lib : Catalog) {s : Session} (hs : s.Reachable lib)
    (d : Definition) :
    ((register d s).1 = .ok () ↔ Name.Definable d.name ∧ d.name ∉ s.registry.names) ∧
    (¬Name.Definable d.name → register d s = (.error (.invalidName d.name), s)) ∧
    (Name.Definable d.name → d.name ∈ s.registry.names →
      register d s = (.error (.duplicateDefinition d.name), s)) ∧
    (∀ name, (∃ x, (remove name s).1 = .ok x) ↔ name ∈ s.registry.names) ∧
    (∀ name x, (remove name s).1 = .ok x → s.registry.find? name = some x) ∧
    (∀ name, name ∉ s.registry.names → remove name s = (.error (.noSuchDefinition name), s)) ∧
    ∀ t, register d s = (.ok (), t) → ∀ ops, t.Bypasses lib d.name ops →
      ∃ u, remove d.name (t.serveAll lib ops) = (.ok d, u) ∧
        let other := s.serveAll lib ops
        u.registry.definitions = other.registry.definitions ∧
        u.registry.names = other.registry.names ∧
        (∀ c, u.registry.declaring c = other.registry.declaring c) ∧
        ∀ name, name ≠ d.name →
          u.registry.snapshots.lookup name = other.registry.snapshots.lookup name ∧
          u.registry.singleton? name = other.registry.singleton? name := by
  have hwell := hs.wellFormed
  refine ⟨register_ok_iff hwell, register_not_definable, register_taken hwell,
    fun _ => remove_ok_iff hwell, fun _ _ => find?_of_remove hwell, fun _ => remove_missing hwell,
    fun t ht ops hops => ?_⟩
  have hbeside := (hops.beside (beside_of_register hwell ht)).registry
  obtain ⟨r, hr, hdefinitions, hnames, hdeclaring, hsnapshots, hsingletons⟩ :=
    hbeside.exists_remove
  obtain ⟨log, hrun⟩ := remove_ok hr
  refine ⟨_, hrun, hdefinitions, hnames, hdeclaring, fun name hname => ⟨?_, ?_⟩⟩
  · change r.snapshots.lookup name = _
    rw [hsnapshots, lookup_drop_of_ne hname]
  · change r.singletons.lookup name = _
    rw [hsingletons, lookup_drop_of_ne hname]
    rfl

end Session

def Catalog.passing : Catalog where
  typeNames := ⟨"", "", "", "", "", "", ""⟩
  blueprints := [
    { (default : Blueprint) with
      name := "a"
      factory := ⟨[⟨.query (.find .instanceHook), false⟩, ⟨.edit (.register 1), false⟩,
        ⟨.inspect (.get "b"), false⟩], .component "b"⟩ },
    { (default : Blueprint) with
      name := "b"
      capabilities := .ofList [.instanceHook]
      factory := ⟨[], .fresh (.value (.integer 7))⟩ }]
  extensions := [.scripted none ⟨none, none, some .silent, none, none⟩]

namespace Session

def passing : Session := after .passing [⟨.edit (.register 0), false⟩]

def passingHook : Definition :=
  { (default : Blueprint) with
    name := "d"
    capabilities := .ofList [.instanceHook]
    factory := ⟨[], .fresh (.extension 0)⟩
    stamp := 0 }

theorem passing_cancels :
    let t := (register passingHook passing).2
    let requests : List Action := [.query (.find .instanceHook), .inspect (.get "a"),
      .edit (.setLazy "a" true), .query (.addToPipeline "e" 0)]
    let ops : List Operation := requests.map .perform
    (t.serveAll .passing ops).registry.declaring .instanceHook = ["d", "b"] ∧
    ∃ u, remove "d" (t.serveAll .passing ops) = (.ok passingHook, u) ∧
      u.registry.names = ["a", "b"] ∧ u.registry.declaring .instanceHook = ["b"] ∧
      (u.registry.singleton? "a").isSome = true ∧ (u.registry.snapshots.lookup "b").isSome = true ∧
      u.registry.singleton? "a" = (passing.serveAll .passing ops).registry.singleton? "a" := by
  intro t requests ops
  have hreachable : passing.Reachable .passing := after_reachable _ _
  have hrun : register passingHook passing = (.ok (), t) := Prod.ext (by decide +kernel) rfl
  have hbypasses : t.Bypasses .passing "d" ops :=
    bypasses_of_spared (by decide +kernel) ⟨by decide +kernel, by decide +kernel⟩ (by decide +kernel)
  obtain ⟨-, -, -, -, -, -, hcancel⟩ :=
    register_remove_cancel .passing hreachable passingHook
  obtain ⟨u, hremoved, hdefinitions, hnames, hdeclaring, hother⟩ := hcancel t hrun ops hbypasses
  obtain ⟨hsnapshot, hsingleton⟩ := hother "a" (by decide)
  refine ⟨by decide +kernel, u, hremoved, hnames.trans (by decide +kernel),
    (hdeclaring _).trans (by decide +kernel), ?_, ?_, hsingleton⟩
  · rw [hsingleton]
    decide +kernel
  · rw [(hother "b" (by decide)).1]
    decide +kernel

end Session

end ComponentContainer
