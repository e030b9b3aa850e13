import ComponentContainer.Proofs.Path

/-! Histories of sessions, as far as they decide where singletons come from. A creation that began is
open until it fails or finishes; creations nest, so the innermost that is open is the next to end. -/

namespace ComponentContainer

def Definition.core (d : Definition) : String × CapabilitySet × Factory × Nat :=
  (d.name, d.capabilities, d.factory, d.stamp)

def Registry.core? (r : Registry) (name : String) : Option (String × CapabilitySet × Factory × Nat) :=
  (r.find? name).map (·.core)

/-- The start of a creation: the snapshot that it works from, and the session that it starts in. -/
structure Start where
  name : String
  definition : Definition
  session : Session

def Start.Makes (lib : Catalog) (start : Start) (i : Instance) : Prop :=
  ∃ depth t, Creation.complete lib (Creation.resolveWithin lib depth) start.name start.definition
    start.session = (.ok i, t)

inductive Change
  | registered (d : Definition)
  | removed (name : String)
  | destroyed
  | began (start : Start)
  | failed (name : String)
  | finished (name : String) (i : Instance)

def Change.Drops (name : String) : Change → Prop
  | removed other => other = name
  | destroyed => True
  | finished other _ => other = name
  | registered _ | began _ | failed _ => False

abbrev History := List Change

def opened : History → List Start
  | [] => []
  | .began start :: earlier => start :: opened earlier
  | .failed _ :: earlier | .finished .. :: earlier => (opened earlier).tail
  | .registered _ :: earlier | .removed _ :: earlier | .destroyed :: earlier => opened earlier

structure Chronicle where
  session : Session
  history : History

structure Registry.Keeps (r t : Registry) : Prop where
  core?_eq : ∀ n, t.core? n = r.core? n
  snapshots : ∀ n d, t.snapshots.lookup n = some d → r.snapshots.lookup n = some d
  singletons_eq : t.singletons = r.singletons
  inCreation_eq : t.inCreation = r.inCreation

/-- One change with its entry in the history. A definition gets a stamp that is new; a creation
begins only for a name without a singleton that is not in creation; what is stored is what the
creation made from its snapshot. -/
inductive Chronicle.Step (lib : Catalog) (P : Extension → Prop) : Chronicle → Chronicle → Prop
  | quiet {s t : Session} {h : History} :
    s.Step lib P t → s.registry.Keeps t.registry → Step lib P ⟨s, h⟩ ⟨t, h⟩
  | register {s : Session} {h : History} {r : Registry} (entry : Nat) :
    s.registry.register ⟨lib.blueprint entry, s.nextStamp⟩ = .ok r →
      Step lib P ⟨s, h⟩ ⟨{ s with registry := r, nextStamp := s.nextStamp + 1 },
        .registered ⟨lib.blueprint entry, s.nextStamp⟩ :: h⟩
  | remove {s : Session} {h : History} {r : Registry} {d : Definition} (name : String) :
    s.registry.remove name = .ok (d, r) →
      Step lib P ⟨s, h⟩ ⟨{ s with registry := r }, .removed name :: h⟩
  | destroy {s : Session} {h : History} :
    Step lib P ⟨s, h⟩ ⟨{ s with registry := s.registry.destroySingletons }, .destroyed :: h⟩
  | start {s : Session} {h : History} {r : Registry} {d : Definition} (name : String) :
    name ∉ s.registry.inCreation → s.registry.singleton? name = none →
      (s.registry.beginCreation name).snapshot name = .ok (d, r) →
      Step lib P ⟨s, h⟩ ⟨{ s with registry := r },
        .began ⟨name, d, { s with registry := r }⟩ :: h⟩
  | fail {s : Session} {h : History} {start : Start} {rest : List Start} :
    opened h = start :: rest →
      Step lib P ⟨s, h⟩ ⟨{ s with registry := s.registry.endCreation start.name },
        .failed start.name :: h⟩
  | finish {s : Session} {h : History} {start : Start} {rest : List Start} (i : Instance)
    (depth : Nat) : opened h = start :: rest → i.Admits P →
      Creation.complete lib (Creation.resolveWithin lib depth) start.name start.definition
        start.session = (.ok i, s) →
      Step lib P ⟨s, h⟩ ⟨{ s with registry := (s.registry.endCreation start.name).store start.name i },
        .finished start.name i :: h⟩

variable {lib : Catalog} {P : Extension → Prop}

lemma exists_began {h : History} {inner rest : List Start} {start : Start}
    (ho : opened h = inner ++ start :: rest) :
    ∃ during before, h = during ++ .began start :: before ∧ opened before = rest := by
  induction h generalizing inner with
  | nil =>
    cases inner with
    | nil => cases ho
    | cons first inner => cases ho
  | cons e earlier ih =>
    have hlater (inner : List Start) (ho : opened earlier = inner ++ start :: rest) :
        ∃ during before, e :: earlier = during ++ .began start :: before ∧
          opened before = rest := by
      obtain ⟨during, before, rfl, hbefore⟩ := ih ho
      exact ⟨e :: during, before, rfl, hbefore⟩
    -- what ended was open inside the creation that is looked for
    have hended (ho : (opened earlier).tail = inner ++ start :: rest) :
        ∃ during before, e :: earlier = during ++ .began start :: before ∧
          opened before = rest := by
      cases hopened : opened earlier with
      | nil =>
        rw [hopened] at ho
        simp at ho
      | cons last others =>
        rw [hopened, List.tail_cons] at ho
        rw [ho] at hopened
        exact hlater (last :: inner) hopened
    cases e with
    | began other =>
      cases inner with
      | nil =>
        obtain ⟨rfl, rfl⟩ := List.cons.inj ho
        exact ⟨[], earlier, rfl, rfl⟩
      | cons first inner => exact hlater inner (List.cons.inj ho).2
    | failed name => exact hended ho
    | finished name i => exact hended ho
    | registered d => exact hlater inner ho
    | removed name => exact hlater inner ho
    | destroyed => exact hlater inner ho

namespace Registry.Keeps

variable {r t : Registry}

lemma refl (r : Registry) : r.Keeps r := ⟨fun _ => rfl, fun _ _ => id, rfl, rfl⟩

lemma amend (name : String) {f : Definition → Definition} (hf : ∀ d, (f d).core = d.core) :
    r.Keeps (r.amend name f) := by
  refine ⟨fun n => ?_, fun _ _ => id, rfl, rfl⟩
  rw [core?, find?_amend, Option.map_map]
  congr 1
  funext d
  by_cases h : n = name <;> simp [h, hf]

lemma invalidate (r : Registry) : r.Keeps r.invalidate :=
  ⟨fun _ => rfl, fun _ _ h => (nomatch h), rfl, rfl⟩

lemma addToPipeline {name : String} {e : Extension} (h : r.addToPipeline name e = .ok t) :
    r.Keeps t := by
  obtain ⟨-, rfl⟩ := addToPipeline_eq_ok h
  exact ⟨fun _ => rfl, fun _ _ => id, rfl, rfl⟩

end Registry.Keeps

namespace Chronicle

variable {c c' : Chronicle}

lemma Step.path (h : Step lib P c c') : c.session.Path lib P c'.session := by
  cases h with
  | quiet h => exact .single h
  | @register s _ r entry h =>
    have hstamp : s.Path lib P { s with nextStamp := s.nextStamp + 1 } :=
      .single (.write rfl rfl (Nat.le_succ _))
    exact hstamp.tail (.registry (.register entry s.nextStamp h))
  | remove name h => exact .single (.registry (.remove name h))
  | destroy => exact .single (.registry .destroySingletons)
  | @start s _ r d name _ _ h =>
    have hbegin : s.Path lib P { s with registry := s.registry.beginCreation name } :=
      .single (.registry (.beginCreation name))
    exact hbegin.tail (.registry (.snapshot name h))
  | fail => exact .single (.registry (.endCreation _))
  | @finish s _ start _ i _ _ hi =>
    have hend : s.Path lib P { s with registry := s.registry.endCreation start.name } :=
      .single (.registry (.endCreation _))
    exact hend.tail (.registry (.store _ i hi))

abbrev Path (lib : Catalog) (P : Extension → Prop) : Chronicle → Chronicle → Prop :=
  Relation.ReflTransGen (Step lib P)

lemma Path.session (h : Path lib P c c') : c.session.Path lib P c'.session := by
  induction h with
  | refl => exact .refl
  | tail _ h ih => exact ih.trans h.path

end Chronicle

namespace Session

variable {s t u : Session}

def Leads (lib : Catalog) (P : Extension → Prop) (s t : Session) : Prop :=
  ∀ h, ∃ h', Chronicle.Path lib P ⟨s, h⟩ ⟨t, h'⟩ ∧ opened h' = opened h

namespace Leads

lemma refl : s.Leads lib P s := fun h => ⟨h, .refl, rfl⟩

lemma trans (h : s.Leads lib P t) (h' : t.Leads lib P u) : s.Leads lib P u := by
  intro h₀
  obtain ⟨h₁, hpath₁, hopened₁⟩ := h h₀
  obtain ⟨h₂, hpath₂, hopened₂⟩ := h' h₁
  exact ⟨h₂, hpath₁.trans hpath₂, hopened₂.trans hopened₁⟩

lemma path (h : s.Leads lib P t) : s.Path lib P t := by
  obtain ⟨h', hpath, -⟩ := h []
  exact hpath.session

lemma quiet (h : s.Step lib P t) (hk : s.registry.Keeps t.registry) : s.Leads lib P t :=
  fun h₀ => ⟨h₀, .single (.quiet h hk), rfl⟩

end Leads

end Session

end ComponentContainer
