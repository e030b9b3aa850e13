import ComponentContainer.Proofs.Cancellation.Beside
import ComponentContainer.Proofs.Cancellation.Involvement

/-! Actions that avoid a definition do the same whether it is there or not. They do so for what they
ask for, if requests do; and requests do, as each creation on the way uses up a name. -/

namespace ComponentContainer

open Act

namespace Session

variable {lib : Catalog} {d : Definition} {s' s : Session}

lemma perform_meets {a : Action} (h : s'.Beside d s) (ha : d.name ∉ a.mentioned lib)
    (hr : ∀ name t', Asks lib a.asked s' name t' → ∀ t, t'.Beside d t →
      Meets (Beside d) Eq (resolve lib name t') (resolve lib name t)) :
    Meets (Beside d) (fun _ _ => True) (perform lib a s') (perform lib a s) := by
  have hone {name : String} {t' t : Session} (hname : Asks lib a.asked s' name t')
      (ht : t'.Beside d t) (answer : Instance → Answer) :
      Meets (Beside d) (fun _ _ => True)
        ((do return answer (← resolve lib name) : Act Session RegistryError Answer) t')
        ((do return answer (← resolve lib name) : Act Session RegistryError Answer) t) :=
    Meets.bind (hr name t' hname t ht) fun _ _ _ _ _ _ hu => ⟨trivial, hu⟩
  cases a with
  | note text => exact ⟨trivial, h⟩
  | fail message => exact ⟨rfl, h⟩
  | edit e => exact (e.perform_beside ha).adapt _ s' s h
  | query q =>
    cases q with
    | instantiate name =>
      have hextension : Meets (Beside d) Eq (Creation.instantiate (resolve lib) name s')
          (Creation.instantiate (resolve lib) name s) := by
        refine Meets.bind (hr name s' .first s h) fun i' i t' t _ hi ht => ?_
        subst hi
        cases i'.extension? with
        | some e => exact ⟨rfl, ht⟩
        | none => exact ⟨rfl, ht⟩
      exact Meets.adapt (Meets.bind hextension fun _ _ t' t _ _ ht =>
        simulates_pure trivial t' t ht) _
    | invalidate =>
      exact (invalidate_beside.matches.bind fun _ => simulates_pure trivial).adapt _ s' s h
    | addToPipeline name entry =>
      refine (fresh_beside.matches.bind fun stamp => ?_).adapt _ s' s h
      exact (addToPipeline_beside name _).bind fun _ => simulates_pure trivial
    | find | precedence | tagged | infrastructure | editable | pipeline => exact ⟨trivial, h⟩
  | inspect i =>
    cases i with
    | get name => exact (hone .first h _).adapt _
    | getAs name kind => exact (hone .first h _).adapt _
    | describeInstance name => exact (hone .first h _).adapt _
    | same name other =>
      refine Meets.adapt (Meets.bind (hr name s' .first s h) fun i' i t' t hrun hi ht => ?_) _
      subst hi
      exact hone (.later hrun .first) ht _
    | destroy =>
      exact (destroySingletons_beside.matches.bind fun _ => simulates_pure trivial).adapt _ s' s h
    | definition | describe | describePipeline | size | created | createdCount | invalidations =>
      exact ⟨trivial, h⟩

lemma script_meets {id : String} {steps : List ComponentContainer.Step} (h : s'.Beside d s)
    (hperform : ∀ a t', Runs lib id steps s' a t' → ∀ t, t'.Beside d t →
      Meets (Beside d) (fun _ _ => True) (perform lib a t') (perform lib a t)) :
    Meets (Beside d) Eq (Script.run note (perform lib) id steps s')
      (Script.run note (perform lib) id steps s) := by
  induction steps generalizing s' s with
  | nil => exact ⟨rfl, h⟩
  | cons step steps ih =>
    have hstep : Meets (Beside d) Eq (Script.runStep note (perform lib) id step s')
        (Script.runStep note (perform lib) id step s) := by
      refine Meets.tryCatch (Meets.bind (hperform _ s' .first s h) fun _ _ t' t _ _ ht => ?_)
        fun e => ?_
      · exact (note_beside _ _).matches t' t ht
      · exact simulates_ite (note_beside _ _).matches (simulates_throw e)
    exact Meets.bind hstep fun _ _ _ _ hrun _ ht => ih ht fun a t' ha => hperform a t' (.later hrun ha)

lemma manufacture_meets {x : Definition} (h : s'.Beside d s)
    (hperform : ∀ a t', Runs lib x.name x.factory.first (note (.factory x.name) s').2 a t' →
      ∀ t, t'.Beside d t →
        Meets (Beside d) (fun _ _ => True) (perform lib a t') (perform lib a t))
    (hproduct : ∀ name t', Script.run note (perform lib) x.name x.factory.first
        (note (.factory x.name) s').2 = (.ok (), t') → x.factory.product = .component name →
      ∀ t, t'.Beside d t → Meets (Beside d) Eq (resolve lib name t') (resolve lib name t)) :
    Meets (Beside d) Eq (Creation.manufacture lib (resolve lib) x s')
      (Creation.manufacture lib (resolve lib) x s) := by
  refine Meets.bind ((note_beside _ _).matches s' s h) fun _ _ u' u hnoted _ hu => ?_
  obtain rfl : (note (.factory x.name) s').2 = u' := (Prod.mk.inj hnoted).2
  refine Meets.bind (Meets.adapt (script_meets hu hperform) _) fun _ _ t' t hrun _ ht => ?_
  cases hmade : x.factory.product with
  | shared entry => exact ⟨rfl, ht⟩
  | component name => exact hproduct name t' (adapt_eq_ok hrun) hmade t ht
  | fresh spec => exact spec.build_beside x.name t' t ht

lemma enter_meets {name : String} (h : s'.Beside d s) (hname : name ≠ d.name)
    (hcomplete : ∀ x r' r, (s'.registry.beginCreation name).snapshot name = .ok (x, r') →
      r'.Beside d r → Meets (Beside d) Eq
        (Creation.complete lib (resolve lib) name x { s' with registry := r' })
        (Creation.complete lib (resolve lib) name x { s with registry := r })) :
    Meets (Beside d) Eq (Creation.enter (Creation.create lib (resolve lib)) name s')
      (Creation.enter (Creation.create lib (resolve lib)) name s) := by
  have hbegun := h.registry.beginCreation name
  have hsnapshots := hbegun.snapshot hname
  rw [Creation.enter_run, Creation.enter_run]
  cases hsnapshot : (s.registry.beginCreation name).snapshot name with
  | error e =>
    rw [hsnapshot] at hsnapshots
    rw [Creation.create_error hsnapshots.error_eq, Creation.create_error hsnapshot]
    exact ⟨rfl, { h with registry := hbegun.endCreation name }⟩
  | ok p =>
    obtain ⟨x, r⟩ := p
    rw [hsnapshot] at hsnapshots
    obtain ⟨⟨x', r'⟩, hsnapshot', hx, hr⟩ := hsnapshots.exists_ok
    obtain rfl : x = x' := hx.symm
    have hmade := hcomplete x r' r hsnapshot' hr
    rw [Creation.create_ok hsnapshot', Creation.create_ok hsnapshot]
    revert hmade
    rcases Creation.complete lib (resolve lib) name x { s' with registry := r' } with ⟨made', t'⟩
    rcases Creation.complete lib (resolve lib) name x { s with registry := r } with ⟨e | i, t⟩
    · rintro ⟨halike, ht⟩
      obtain rfl : made' = .error e := halike.error_eq
      exact ⟨rfl, { ht with registry := ht.registry.endCreation name }⟩
    · rintro ⟨halike, ht⟩
      obtain rfl : made' = .ok i := halike.eq
      exact ⟨rfl, { ht with registry := (ht.registry.endCreation name).store name i }⟩

theorem resolve_meets {name : String} (h : s'.Beside d s)
    (havoids : s'.Avoids lib d.name (.inspect (.get name))) :
    Meets (Beside d) Eq (resolve lib name s') (resolve lib name s) := by
  -- a creation that begins leaves fewer names for those inside of it
  induction hvacant : (Creation.vacant lib s').card using Nat.strong_induction_on
    generalizing s' s name with
  | _ vacant ih =>
  have hsingleton' := h.registry.singleton?_eq name
  rw [Creation.resolve_eq_request, Creation.resolve_eq_request]
  cases hsingleton : s.registry.singleton? name with
  | some i =>
    rw [Creation.request_stored hsingleton, Creation.request_stored (hsingleton'.trans hsingleton)]
    exact ⟨rfl, h⟩
  | none =>
    have hnone := hsingleton'.trans hsingleton
    by_cases hmem : name ∈ s.registry.inCreation
    · rw [Creation.request_refused hsingleton hmem,
        Creation.request_refused hnone (h.registry.inCreation_eq ▸ hmem)]
      exact ⟨rfl, h⟩
    have hnew : name ∉ s'.registry.inCreation := h.registry.inCreation_eq ▸ hmem
    rw [Creation.request_new hsingleton hmem, Creation.request_new hnone hnew]
    refine enter_meets h havoids.ne fun x r' r hsnapshot hr => ?_
    rw [Creation.complete_eq]
    refine Meets.bind (manufacture_meets { h with registry := hr } (fun a t' ha t ht => ?_)
      fun other t' hrun hother t ht => ?_) fun made' made t' t _ hmade ht =>
        hmade ▸ Creation.equip_beside name x made' t' t ht
    · have hbegins : Begins name s' x _ := ⟨hnone, hnew, r', hsnapshot, rfl⟩
      have hinside := havoids.script hbegins ha
      refine perform_meets ht hinside.not_mem fun other w' hother w hw => ?_
      have hfewer := hbegins.card_vacant_lt lib
      have hsub := (Creation.vacant_subset (hother.along passage_leads)).trans
        (Creation.vacant_subset (ha.along passage_leads))
      have hle := Finset.card_le_card hsub
      exact ih _ (by omega) hw (hinside.request hother) rfl
    · have hbegins : Begins name s' x _ := ⟨hnone, hnew, r', hsnapshot, rfl⟩
      have hfewer := hbegins.card_vacant_lt lib
      have hle := Finset.card_le_card (Creation.vacant_subset (run_along passage_leads hrun))
      exact ih _ (by omega) ht (havoids.product hbegins hrun hother) rfl

theorem perform_beside {a : Action} (h : s'.Beside d s) (havoids : s'.Avoids lib d.name a) :
    (perform lib a s').2.Beside d (perform lib a s).2 :=
  (perform_meets h havoids.not_mem fun _ _ hname _ ht =>
    resolve_meets ht (havoids.request hname)).2

end Session

end ComponentContainer
