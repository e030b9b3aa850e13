import ComponentContainer.Logging
import ComponentContainer.Proofs.Settings

/-! A log starts once: the first call that can start it decides the level and the directory, whatever
is called later. -/

namespace ComponentContainer

namespace Path

def names (path : String) : List (List Char) :=
  (path.toList.splitOn '/').filter fun p => p ≠ [] ∧ p ≠ ['.']

lemma pieces_eq_splitOn (s : List Char) : pieces s = s.splitOn '/' := by
  induction s with
  | nil => rfl
  | cons c s ih =>
    rw [pieces, ih, List.splitOn_cons_eq_if_modifyHead]
    by_cases h : c = '/'
    · simp only [h, if_true, beq_self_eq_true]
    · simp only [if_neg h, beq_iff_eq]
      cases hpieces : s.splitOn '/' with
      | nil => exact absurd hpieces (List.splitOn_ne_nil _ _)
      | cons p ps => rfl

lemma components_eq (path : String) : components path = (names path).map String.ofList := by
  unfold components steps names
  rw [pieces_eq_splitOn, List.filter_filter, List.filter_map]
  refine congrArg _ (List.filter_congr fun p _ => ?_)
  have hempty : String.ofList p = "" ↔ p = [] := String.ofList_inj
  have hdot : String.ofList p = "." ↔ p = ['.'] := String.ofList_inj
  simp [hempty, hdot, Bool.and_comm]

lemma same_iff {a b : String} : same a b = true ↔ names a = names b := by
  unfold same
  rw [decide_eq_true_eq, components_eq, components_eq]
  exact List.map_inj_right fun _ _ => String.ofList_inj.1

end Path

namespace Logging

structure Call where
  settings : LoggingConfig
  create : String → Except FileError Unit × FileTree

namespace Call

structure Requests (call : Call) (a : ActiveLog) : Prop where
  dir : call.settings.dir = some a.dir
  level : Level.Reads call.settings.level a.level
  absolute : Path.Absolute a.dir

structure Starts (call : Call) (a : ActiveLog) : Prop extends call.Requests a where
  created : (call.create a.dir).1 = .ok ()

def log? (call : Call) : Option ActiveLog := do
  let dir ← call.settings.dir
  let level ← Level.parse? call.settings.level
  if Path.isAbsolute dir ∧ (call.create dir).1 = .ok () then some ⟨level, dir⟩ else none

lemma log?_eq_some_iff {call : Call} {a : ActiveLog} : call.log? = some a ↔ call.Starts a := by
  unfold log?
  constructor
  · intro h
    obtain ⟨dir, hdir, h⟩ := Option.bind_eq_some_iff.1 h
    obtain ⟨level, hlevel, h⟩ := Option.bind_eq_some_iff.1 h
    obtain ⟨⟨habsolute, hcreated⟩, h⟩ := Option.ite_none_right_eq_some.1 h
    cases h
    exact ⟨⟨hdir, Level.parse?_eq_some_iff.1 hlevel, Path.isAbsolute_iff.1 habsolute⟩, hcreated⟩
  · rintro ⟨⟨hdir, hlevel, habsolute⟩, hcreated⟩
    rw [hdir, Level.parse?_eq_some_iff.2 hlevel]
    exact if_pos ⟨Path.isAbsolute_iff.2 habsolute, hcreated⟩

end Call

def serve (l : Logging) (call : Call) : Except LoggingError Unit × Logging :=
  l.initWith call.create call.settings

example (l : Logging) (c : LoggingConfig) : l.init c = l.serve ⟨c, l.files.makeDirectories⟩ := rfl

def after (l : Logging) (calls : List Call) : Logging :=
  calls.foldl (fun l call => (l.serve call).2) l

variable {l : Logging} {call : Call} {a : ActiveLog}

lemma active_write (l : Logging) (r : Record) : (l.write r).active = l.active := by
  unfold write
  split
  · split <;> rfl
  · rfl

/-! ### One call -/

lemma serve_idle (h : call.settings.dir = none) : l.serve call = (.ok (), l) := by
  rw [serve, initWith, h]

lemma serve_wrong {e : SettingError} (hdir : call.settings.dir ≠ none) (h : call.settings.Wrong e) :
    l.serve call = (.error (.setting e), l) := by
  obtain ⟨dir, hdir⟩ := Option.ne_none_iff_exists'.1 hdir
  rw [serve, initWith, hdir]
  cases h with
  | level hunread hcore => simp only [LoggingConfig.checkLevel_of_unread hunread hcore]
  | emptyDirectory hl h =>
    cases hdir.symm.trans h
    simp only [LoggingConfig.checkLevel_eq_ok_iff.2 hl]
    rfl
  | relativeDirectory hl h hempty hrelative =>
    cases hdir.symm.trans h
    simp only [LoggingConfig.checkLevel_eq_ok_iff.2 hl,
      LoggingConfig.checkDir_of_relative hempty hrelative]

lemma serve_requested {b : ActiveLog} (h : call.Requests b) (hactive : l.active = some a) :
    l.serve call =
      if Path.names a.dir ≠ Path.names b.dir then (.error (.otherDirectory a.dir b.dir), l)
      else if a.level ≠ b.level then (.error (.otherLevel a.level b.level), l)
      else (.ok (), l) := by
  rw [serve, initWith, h.dir]
  simp only [LoggingConfig.checkLevel_eq_ok_iff.2 h.level,
    LoggingConfig.checkDir_of_absolute h.absolute, hactive]
  by_cases hsame : Path.names a.dir = Path.names b.dir
  · rw [Path.same_iff.2 hsame, if_neg (not_not_intro hsame)]
    rfl
  · rw [Bool.eq_false_iff.2 (mt Path.same_iff.1 hsame), if_pos hsame]
    rfl

lemma serve_first (h : call.Requests a) (hactive : l.active = none) :
    (l.serve call).1 = (call.create a.dir).1.mapError (.createDirectory a.dir) ∧
      (l.serve call).2.active = if (call.create a.dir).1 = .ok () then some a else none := by
  rw [serve, initWith, h.dir]
  simp only [LoggingConfig.checkLevel_eq_ok_iff.2 h.level,
    LoggingConfig.checkDir_of_absolute h.absolute, hactive]
  rcases call.create a.dir with ⟨e | ⟨⟩, files⟩
  · exact ⟨rfl, rfl⟩
  · exact ⟨rfl, active_write _ _⟩

lemma Call.cases (call : Call) : call.settings.dir = none ∨
    (call.settings.dir ≠ none ∧ ∃ e, call.settings.Wrong e) ∨ ∃ a, call.Requests a := by
  cases hdir : call.settings.dir with
  | none => exact .inl rfl
  | some dir =>
    refine .inr (call.settings.acceptable_or_wrong.symm.imp (fun h => ⟨nofun, h⟩) fun h => ?_)
    obtain ⟨level, hlevel⟩ := h.level
    exact ⟨⟨level, dir⟩, hdir, hlevel, (h.dir dir hdir).2⟩

lemma Call.Requests.unique {b : ActiveLog} (h : call.Requests a) (hb : call.Requests b) :
    a = b := by
  obtain ⟨level, dir⟩ := a
  obtain rfl : dir = b.dir := Option.some.inj (h.dir.symm.trans hb.dir)
  obtain rfl : level = b.level := Option.some.inj
    ((Level.parse?_eq_some_iff.2 h.level).symm.trans (Level.parse?_eq_some_iff.2 hb.level))
  rfl

lemma Call.Requests.acceptable (h : call.Requests a) : call.settings.Acceptable := by
  refine ⟨⟨a.level, h.level⟩, fun dir hdir => ?_⟩
  cases h.dir.symm.trans hdir
  exact ⟨h.absolute.ne_empty, h.absolute⟩

lemma Call.log?_eq_none (h : ∀ a, ¬call.Requests a) : call.log? = none :=
  Option.eq_none_iff_forall_ne_some.2 fun a ha => h a (log?_eq_some_iff.1 ha).toRequests

lemma active_serve (l : Logging) (call : Call) :
    (l.serve call).2.active = l.active.or call.log? := by
  rcases call.cases with hidle | ⟨hdir, e, he⟩ | ⟨b, hb⟩
  · have hnone : ∀ a, ¬call.Requests a := fun a ha => nomatch hidle.symm.trans ha.dir
    rw [serve_idle hidle, Call.log?_eq_none hnone, Option.or_none]
  · have hnone : ∀ a, ¬call.Requests a := fun a ha => he.not_acceptable ha.acceptable
    rw [serve_wrong hdir he, Call.log?_eq_none hnone, Option.or_none]
  · cases hactive : l.active with
    | some a =>
      rw [serve_requested hb hactive]
      split
      · exact hactive
      · split
        · exact hactive
        · exact hactive
    | none =>
      rw [(serve_first hb hactive).2, Option.none_or]
      split
      · exact (Call.log?_eq_some_iff.2 ⟨hb, ‹_›⟩).symm
      · refine (Option.eq_none_iff_forall_ne_some.2 fun a ha => ?_).symm
        have hstarts := Call.log?_eq_some_iff.1 ha
        obtain rfl := hstarts.toRequests.unique hb
        exact absurd hstarts.created ‹_›

lemma active_after (l : Logging) (calls : List Call) :
    (l.after calls).active = l.active.or (calls.findSome? (·.log?)) := by
  induction calls generalizing l with
  | nil => exact (Option.or_none).symm
  | cons call calls ih =>
    rw [List.findSome?_cons]
    refine (ih _).trans ?_
    rw [active_serve, Option.or_assoc]
    cases call.log? <;> rfl

/-! ### The law of all calls -/

lemma serve_eq_setting_iff (hdir : call.settings.dir ≠ none) {e : SettingError} :
    (l.serve call).1 = .error (.setting e) ↔ call.settings.Wrong e := by
  rcases call.cases with hidle | ⟨-, e', he'⟩ | ⟨b, hb⟩
  · exact absurd hidle hdir
  · rw [serve_wrong hdir he', ← (LoggingConfig.check_tells _).2, he'.check_eq]
    simp
  · refine iff_of_false (fun h => ?_) fun h => h.not_acceptable hb.acceptable
    cases hactive : l.active with
    | none =>
      rw [(serve_first hb hactive).1] at h
      cases hcreate : (call.create b.dir).1 with
      | error e => simp [hcreate, Except.mapError] at h
      | ok _ => simp [hcreate, Except.mapError] at h
    | some a =>
      rw [serve_requested hb hactive] at h
      split at h
      · simp at h
      · split at h <;> simp at h

lemma validate_eq_logging_iff {config : ContainerConfig} (h : Name.ForContainer config.name)
    {e : SettingError} : config.validate = .error (.logging e) ↔ config.logging.Wrong e := by
  rw [config.validate_tells.2]
  refine ⟨fun hwrong => ?_, .logging h⟩
  cases hwrong with
  | logging _ he => exact he

lemma active_of_failed {e : LoggingError} (h : (l.serve call).1 = .error e) :
    (l.serve call).2.active = l.active := by
  rw [active_serve]
  cases hactive : l.active with
  | some a => rfl
  | none =>
    refine Option.eq_none_iff_forall_ne_some.2 fun a ha => ?_
    have hstarts := Call.log?_eq_some_iff.1 ha
    rw [(serve_first hstarts.toRequests hactive).1, hstarts.created] at h
    cases h

lemma serve_again {b : ActiveLog} (hactive : l.active = some a) (h : call.Requests b) :
    ((l.serve call).1 = .ok () ↔ Path.names a.dir = Path.names b.dir ∧ a.level = b.level) ∧
    ((l.serve call).1 = .error (.otherDirectory a.dir b.dir) ↔
      Path.names a.dir ≠ Path.names b.dir) ∧
    ((l.serve call).1 = .error (.otherLevel a.level b.level) ↔
      Path.names a.dir = Path.names b.dir ∧ a.level ≠ b.level) := by
  rw [serve_requested h hactive]
  by_cases hdir : Path.names a.dir = Path.names b.dir
  · by_cases hlevel : a.level = b.level
    · simp [hdir, hlevel]
    · simp [hdir, hlevel]
  · simp [hdir]

/-- The law of a call, whatever was called before. -/
structure Law (l : Logging) (call : Call) : Prop where
  failed : ∀ e, (l.serve call).1 = .error e → (l.serve call).2.active = l.active
  idle : call.settings.dir = none → l.serve call = (.ok (), l)
  wrong : call.settings.dir ≠ none → ∀ e,
    (l.serve call).1 = .error (.setting e) ↔ call.settings.Wrong e
  validated : call.settings.dir ≠ none → ∀ config : ContainerConfig,
    Name.ForContainer config.name → config.logging = call.settings → ∀ e,
      (l.serve call).1 = .error (.setting e) ↔ config.validate = .error (.logging e)
  first : ∀ a, l.active = none → call.Requests a →
    (l.serve call).1 = (call.create a.dir).1.mapError (.createDirectory a.dir)
  again : ∀ a b, l.active = some a → call.Requests b →
    ((l.serve call).1 = .ok () ↔ Path.names a.dir = Path.names b.dir ∧ a.level = b.level) ∧
    ((l.serve call).1 = .error (.otherDirectory a.dir b.dir) ↔
      Path.names a.dir ≠ Path.names b.dir) ∧
    ((l.serve call).1 = .error (.otherLevel a.level b.level) ↔
      Path.names a.dir = Path.names b.dir ∧ a.level ≠ b.level)

lemma law (l : Logging) (call : Call) : l.Law call where
  failed _ := active_of_failed
  idle := serve_idle
  wrong hdir _ := serve_eq_setting_iff hdir
  validated hdir config hname hsettings e := by
    rw [serve_eq_setting_iff hdir, ← hsettings, validate_eq_logging_iff hname]
  first _ hactive h := (serve_first h hactive).1
  again _ _ := serve_again

/-- Whatever is called, and whatever comes of the directories: the log that is active is that of the
first call which could start one, and stays so. What is called fails without a trace in the status, as
the settings are wrong in the eyes of a container too, as the directory is not created, or as the log
that is active has another directory or else another level. -/
theorem starts_once (files : FileTree) (calls : List Call) :
    let l := after ⟨none, [], files⟩ calls
    (∀ a, l.active = some a ↔ ∃ before call later, calls = before ++ call :: later ∧
      (∀ x ∈ before, ∀ b, ¬x.Starts b) ∧ call.Starts a) ∧
    (∀ a, l.active = some a → ∀ more, (l.after more).active = some a) ∧
    ∀ call, l.Law call := by
  intro l
  refine ⟨fun a => ?_, fun a ha more => ?_, law l⟩
  · have hactive : l.active = calls.findSome? (·.log?) := active_after _ _
    simp only [hactive, List.findSome?_eq_some_iff, Call.log?_eq_some_iff,
      Option.eq_none_iff_forall_ne_some, ne_eq, and_comm]
  · rw [active_after, ha]
    rfl

example : (after ⟨none, [], ⟨[], [], []⟩⟩
    [⟨⟨"info", some "/refused"⟩, fun _ => (.error .notDirectory, ⟨[], [], []⟩)⟩,
      ⟨⟨" WARNING", some "/made"⟩, fun _ => (.ok (), ⟨[], [], []⟩)⟩,
      ⟨⟨"error", some "/later"⟩, fun _ => (.ok (), ⟨[], [], []⟩)⟩]).active =
    some ⟨.warn, "/made"⟩ := by decide

end Logging

end ComponentContainer
