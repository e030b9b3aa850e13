import ComponentContainer.Proofs.Reporting
import ComponentContainer.Proofs.Transcript.Course

/-! The reports of eligibility checkers over a whole course of operations: each creation adds what the
checker has to report of it, and nothing else adds anything. -/

namespace ComponentContainer

namespace Transcript

variable {lib : Catalog} {t t' : Transcript} {checker : Nat} {n : String} {d : Definition}
  {m : Moment} {later earlier : List Moment} {made : Except RegistryError Instance} {v : Session}

def Ending (lib : Catalog) (m : Moment) (earlier : List Moment) (n : String) (d : Definition)
    (made : Except RegistryError Instance) (v : Session) : Prop :=
  ∃ start rest depth a w, underway earlier = ⟨n, d, start⟩ :: rest ∧
    Creation.manufacture lib (Creation.resolveWithin lib depth) d start = (made, v) ∧
    Creation.furnish lib n d made v = (a, w) ∧
    m = ⟨.ended n a, { w with registry := v.registry.conclude n a }⟩

lemma Path.reachable (h : Path lib Extension.Unarmed empty t) : t.session.Reachable lib := h.session

lemma Path.exists_ending (h : Path lib Extension.Unarmed empty t)
    (hm : t.moments = later ++ m :: earlier) {a : Except RegistryError Instance}
    (hended : m.occurrence = .ended n a) :
    ∃ d made v, Ending lib m earlier n d made v ∧ v.reports = (latest earlier).reports := by
  obtain ⟨s, hbefore, hoccurs⟩ := h.occurs_at hm
  obtain ⟨o, u⟩ := m
  obtain rfl : o = .ended n a := hended
  cases hoccurs.happens with
  | @ended start rest depth made _ w hopen hmade hanswer =>
    exact ⟨start.definition, made, s, ⟨start.session, rest, depth, a, w, hopen, hmade, hanswer, rfl⟩,
      hbefore.reports_eq⟩

lemma Ending.verdict (he : Ending lib m earlier n d made v)
    (h : Path lib Extension.Unarmed empty t) (hm : t.moments = later ++ m :: earlier)
    (checker : Nat) : Creation.Verdict lib checker n d made v m.session := by
  obtain ⟨start, rest, depth, a, w, hopen, hmade, hanswer, rfl⟩ := he
  -- the creation began in a session that the course went through, so its factory left one as well
  obtain ⟨during, before, hbegan, -⟩ :=
    exists_began (show underway earlier = [] ++ ⟨n, d, start⟩ :: rest from hopen)
  have hstart : start.Reachable lib := by
    rw [hbegan, ← List.cons_append, ← List.append_assoc] at hm
    exact (h.at_moment hm).reachable
  have hgoes := Creation.manufacture_goes Session.passage_leads
    (Creation.resolveWithin_goes Session.passage_leads (unarmed_of_catalog lib) depth)
    (unarmed_of_catalog lib) d
  have hpath := (hgoes.along hstart.held).path
  rw [hmade] at hpath
  have hv : v.Reachable lib := hstart.trans hpath
  have hverdict : Creation.Verdict lib checker n d made v w :=
    Creation.furnish_verdict hv.checkersApart hanswer
  exact ⟨hverdict.reported, hverdict.spared, hverdict.handed_on⟩

structure Judged (lib : Catalog) (checker : Nat) (m : Moment) (earlier : List Moment) : Prop where
  kept : (∀ n a, m.occurrence ≠ .ended n a) →
    m.session.reportsOf checker = (latest earlier).reportsOf checker
  ended : ∀ n a, m.occurrence = .ended n a → ∃ d made v, Ending lib m earlier n d made v ∧
    v.reportsOf checker = (latest earlier).reportsOf checker ∧
    Creation.Verdict lib checker n d made v m.session

lemma Path.judged (h : Path lib Extension.Unarmed empty t)
    (hm : t.moments = later ++ m :: earlier) (checker : Nat) : Judged lib checker m earlier := by
  refine ⟨fun hother => ?_, fun n a hended => ?_⟩
  · obtain ⟨s, hbefore, hoccurs⟩ := h.occurs_at hm
    exact Session.reportsOf_congr ((hoccurs.reports_eq hother).trans hbefore.reports_eq) checker
  · obtain ⟨d, made, v, hending, hreports⟩ := h.exists_ending hm hended
    exact ⟨d, made, v, hending, Session.reportsOf_congr hreports checker,
      hending.verdict h hm checker⟩

/-- Every creation ends, and adds exactly one report if its hooks come to the checker's entry with an
instance that has to be reported there, and else none; no other operation changes the reports. The
pipeline never gets shorter, and once it is as long as the target the checker has no more to report,
neither in the rest of the course nor in what comes after it. -/
theorem Course.reports_exact (h : Course lib empty t) (checker : Nat) :
    (∀ later m earlier, t.moments = later ++ m :: earlier → Judged lib checker m earlier) ∧
    underway t.moments = [] ∧
    t.session.reportsOf checker = (latest t.moments).reportsOf checker ∧
    (∀ later m earlier, t.moments = later ++ m :: earlier →
      ∀ s ∈ t.session :: later.map (·.session), m.session.Precedes checker s) ∧
    ∀ t', Course lib t t' → ∃ since, t'.moments = since ++ t.moments ∧
      ∀ s ∈ t'.session :: since.map (·.session), t.session.Precedes checker s := by
  obtain ⟨hpath, hsound⟩ := h.path sound_empty
  refine ⟨fun later m earlier hm => hpath.judged hm checker, hsound.idle.underway_eq, ?_,
    fun later m earlier hm s hs => ?_, fun t' h' => ?_⟩
  · exact Session.reportsOf_congr hpath.reports_eq checker
  · exact (hpath.at_moment hm).reachable.precedes (hpath.onward hm hs) checker
  · obtain ⟨hrest, -⟩ := h'.path hsound
    obtain ⟨since, hmoments, hthrough⟩ := hrest.through
    refine ⟨since, hmoments, fun s hs => hpath.reachable.precedes ?_ checker⟩
    rcases List.mem_cons.1 hs with rfl | hs
    · exact hrest.session
    · obtain ⟨m, hm, rfl⟩ := List.mem_map.1 hs
      obtain ⟨later, earlier, hsplit⟩ := List.append_of_mem hm
      exact (hthrough later m earlier hsplit).1.session

end Transcript

def Catalog.crowding : Catalog where
  typeNames := ⟨"", "", "", "", "", "", ""⟩
  blueprints := [
    { (default : Blueprint) with
      name := "h"
      capabilities := .ofList [.instanceHook]
      factory := ⟨[], .fresh (.extension 0)⟩ },
    { (default : Blueprint) with name := "a" }]
  extensions := [.scripted none ⟨none, none, some .silent, none, none⟩]

namespace Transcript

def crowded : Transcript :=
  performAll .crowding [.inspect (.get "a"), .query (.addToPipeline "x" 0), .inspect .destroy,
    .inspect (.get "a")]
    (afterBuild .crowding (.new "") (after .crowding
      [.query (.addToPipeline "h" 0), .edit (.register 0), .edit (.register 1)]))

lemma course_crowded : Course .crowding empty crowded :=
  course_performAll _ ((course_after .crowding _).tail (.buildPipeline (.new "")))

theorem crowded_reports : ∃ (i : Instance) (later earlier : List Moment) (m : Moment),
    crowded.moments = later ++ m :: earlier ∧ m.occurrence = .ended "a" (.ok i) ∧
    Judged .crowding 4 m earlier ∧ m.session.Precedes 4 crowded.session ∧
    (latest earlier).reportsOf 4 = [] ∧ (m.session.reportsOf 4).map (·.name) = ["a"] ∧
    (crowded.session.reportsOf 4).map (·.name) = ["a"] := by
  let i : Instance := ⟨6, .value .unit⟩
  have hended : crowded.moments[3]?.map (·.occurrence) = some (.ended "a" (.ok i)) := by
    decide +kernel
  have hreported : crowded.moments[3]?.map (fun m => (m.session.reportsOf 4).map (·.name)) =
      some ["a"] := by decide +kernel
  have hbefore : (latest (crowded.moments.drop 4)).reportsOf 4 = [] := by decide +kernel
  have hend : (crowded.session.reportsOf 4).map (·.name) = ["a"] := by decide +kernel
  obtain ⟨u, hu, hsplit⟩ := exists_split hended
  rw [hu] at hreported
  obtain ⟨hjudged, -, -, hprecedes, -⟩ := Course.reports_exact course_crowded 4
  exact ⟨i, _, _, _, hsplit, rfl, hjudged _ _ _ hsplit,
    hprecedes _ _ _ hsplit _ List.mem_cons_self, hbefore, Option.some.inj hreported, hend⟩

end Transcript

end ComponentContainer
