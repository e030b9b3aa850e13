import ComponentContainer.Proofs.Traversal

/-! Computations on sessions that make history: whatever they ask of a session is entered, and what
they begin they end. Requests, scripts, factories and creations are such computations. -/

namespace ComponentContainer

variable {lib : Catalog} {P : Extension → Prop}

namespace Session

variable {ε α : Type} {Q : α → Prop} {m : Act Session ε α} {s t : Session}

abbrev Walks (lib : Catalog) (P : Extension → Prop) (Q : α → Prop) (m : Act Session ε α) : Prop :=
  Goes P (Leads lib P) Q m

lemma Walks.leads (h : Walks lib P Q m) (hs : s.registry.Held P) : s.Leads lib P (m s).2 :=
  h.along hs

lemma Walks.path (h : Walks lib P Q m) (hs : s.registry.Held P) : s.Path lib P (m s).2 :=
  (h.leads hs).path

lemma leads_of_write (hregistry : t.registry = s.registry) (hreports : t.reports = s.reports)
    (hstamp : s.nextStamp ≤ t.nextStamp) : s.Leads lib P t :=
  .quiet (.write hregistry hreports hstamp) (hregistry ▸ .refl _)

def Aside (lib : Catalog) (P : Extension → Prop) (s t : Session) : Prop :=
  t.registry = s.registry ∧ s.Leads lib P t

lemma asides_leads (name : String) : Asides name (Aside lib P) where
  registry_eq h := h.1
  refl _ := ⟨rfl, .refl⟩
  trans h h' := ⟨h'.1.trans h.1, h.2.trans h'.2⟩
  write hregistry hreports _ hstamp := ⟨hregistry, leads_of_write hregistry hreports hstamp⟩
  report report he hb hc hbelow := ⟨rfl, .quiet (.report report he hb hc hbelow) (.refl _)⟩
  detect _ _ := ⟨rfl, leads_of_write rfl rfl (Nat.le_refl _)⟩

lemma passage_leads : Passage lib P (fun _ => Aside lib P) (Leads lib P) where
  asides := asides_leads
  refl _ := .refl
  trans := .trans
  held h := h.path.held
  write hregistry hreports _ := leads_of_write hregistry hreports
  amend s name f hf := by
    have hkept (d : Definition) : (f d).name = d.name ∧ (f d).capabilities = d.capabilities :=
      ⟨congrArg (·.1) (hf d), congrArg (·.2.1) (hf d)⟩
    exact .quiet (.registry (.amend name f hkept)) (.amend name hf)
  invalidate _ := .quiet (.registry .invalidate) (.invalidate _)
  destroy _ := fun _ => ⟨_, .single .destroy, rfl⟩
  register entry hr := fun _ => ⟨_, .single (.register entry hr), rfl⟩
  remove name hr := fun _ => ⟨_, .single (.remove name hr), rfl⟩
  addToPipeline name _ he hr := .quiet (.registry (.addToPipeline name _ he hr)) (.addToPipeline hr)
  arm name target hr := .quiet (.arm name target hr) (.addToPipeline hr)
  fail hnew hnone hsnapshot hu ht h := by
    obtain ⟨h', hpath, hopened⟩ := (hu.trans ht.2) (.began ⟨_, _, _⟩ :: h)
    exact ⟨.failed _ :: h', .trans (.single (.start _ hnew hnone hsnapshot))
      (hpath.tail (.fail hopened)), congrArg List.tail hopened⟩
  finish hnew hnone hsnapshot hu ht hi hrun h := by
    obtain ⟨h', hpath, hopened⟩ := (hu.trans ht.2) (.began ⟨_, _, _⟩ :: h)
    exact ⟨.finished _ _ :: h', .trans (.single (.start _ hnew hnone hsnapshot))
      (hpath.tail (.finish _ _ hopened hi hrun)), congrArg List.tail hopened⟩

lemma record_leads (level : Level) (message : String) (s : Session) :
    s.Leads lib P (record level message s).2 :=
  passage_leads.record level message s

end Session

open Session

lemma Script.run_walks {perform : Action → Act Session ScriptError Answer}
    (hperform : ∀ a, Walks lib P (fun _ => True) (perform a)) (id : String) (steps : List Step) :
    Walks lib P (fun _ => True) (Script.run note perform id steps) :=
  Script.run_goes passage_leads hperform id steps

variable (hP : ∀ stamp entry name, P ⟨stamp, (lib.extension entry).behaviour name⟩)

include hP

lemma Creation.resolveWithin_walks (depth : Nat) (name : String) :
    Walks lib P (·.Admits P) (resolveWithin lib depth name) :=
  resolveWithin_goes passage_leads hP depth name

theorem Session.perform_walks (a : Action) : Walks lib P (fun _ => True) (perform lib a) :=
  perform_goes passage_leads hP a

end ComponentContainer
