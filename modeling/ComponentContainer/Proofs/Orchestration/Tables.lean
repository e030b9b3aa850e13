import ComponentContainer.Proofs.Orchestration.Traversal
import ComponentContainer.Proofs.Reachable

/-! The tables of a registry tell the same in every reachable session. Requests, with all that the
factories do meanwhile, and phases, with all that mutators and finalizers do, lead from one reachable
session to another. -/

namespace ComponentContainer

namespace Session

variable {lib : Catalog} {s : Session}

theorem Reachable.perform (hs : s.Reachable lib) (a : Action) :
    (Session.perform lib a s).2.Reachable lib :=
  hs.trans ((perform_walks (unarmed_of_catalog lib) a).path hs.held)

theorem Reachable.mutationPhase (hs : s.Reachable lib) (supplied : List Supplied) (i : Invoker) :
    (Orchestration.mutationPhase (surface lib) (.scripted lib (surface lib)) supplied
      ⟨s, i⟩).2.registry.Reachable lib :=
  hs.trans (mutationPhase_stays (unarmed_of_catalog lib) hs.held supplied i).state

theorem Reachable.buildPipeline (hs : s.Reachable lib) (i : Invoker) :
    (Orchestration.buildPipeline (surface lib) ⟨s, i⟩).2.registry.Reachable lib :=
  hs.trans (buildPipeline_stays (unarmed_of_catalog lib) hs.held i).state

/-- Order, definitions and index agree: each name that was registered stands once in the order and
has a definition of that name, and the names that declare a capability stand in the order of
registration. -/
theorem Reachable.tables_agree (hs : s.Reachable lib) :
    s.registry.names.Nodup ∧
    s.registry.definitions.map (·.1) = s.registry.names ∧
    (∀ n d, s.registry.find? n = some d → d.name = n) ∧
    (∀ c, s.registry.declaring c =
      s.registry.names.filter fun n => (s.registry.find? n).any (c ∈ ·.capabilities)) ∧
    (s.registry.declaring .registryMutator).Sublist (s.registry.declaring .finalizer) ∧
    (s.registry.declaring .mergeAware).Sublist (s.registry.declaring .instanceHook) ∧
    ∀ n ∈ s.registry.names, Name.isComponent n = true ∧ Name.isReserved n = false := by
  have hr := hs.wellFormed.registry
  refine ⟨hr.nodup, hr.keys_eq, fun n d => hr.name_of_find?, hr.declaring_eq,
    hr.declaring_implied rfl, hr.declaring_implied rfl, fun n hn => ?_⟩
  have hdefinable := hr.definable n hn
  simpa [Name.isDefinable] using hdefinable

end Session

def Catalog.turnover : Catalog where
  typeNames := ⟨"", "", "", "", "", "", ""⟩
  blueprints := [
    { (default : Blueprint) with
      name := "m"
      capabilities := .ofList [.registryMutator]
      factory := ⟨[], .fresh (.extension 0)⟩ },
    { (default : Blueprint) with
      name := "h"
      capabilities := .ofList [.mergeAware]
      factory := ⟨[⟨.edit (.remove "m"), false⟩, ⟨.edit (.register 0), false⟩],
        .fresh (.extension 1)⟩ }]
  extensions := [
    .scripted none ⟨some ⟨[⟨.edit (.register 1), false⟩], [⟨.query (.instantiate "h"), false⟩]⟩,
      none, none, none, none⟩,
    .scripted none ⟨none, none, some .silent, some [], none⟩]

def Session.turnover : Session :=
  (Orchestration.mutationPhase (surface .turnover) (.scripted .turnover (surface .turnover)) []
    ⟨after .turnover [⟨.edit (.register 0), false⟩], .new ""⟩).2.registry

theorem turnover_tables_agree : Session.turnover.registry.names = ["h", "m"] ∧
    ∀ c, Session.turnover.registry.declaring c = ["h", "m"].filter fun n =>
      (Session.turnover.registry.find? n).any (c ∈ ·.capabilities) := by
  have hnames : Session.turnover.registry.names = ["h", "m"] := by decide +kernel
  have hreachable : Session.turnover.Reachable .turnover :=
    (Session.after_reachable _ _).mutationPhase [] (.new "")
  obtain ⟨-, -, -, hindex, -⟩ := Session.Reachable.tables_agree hreachable
  rw [hnames] at hindex
  exact ⟨hnames, hindex⟩

end ComponentContainer
