import ComponentContainer.Container
import ComponentContainer.Proofs.Levels
import ComponentContainer.Proofs.Names

/-! Which settings are accepted, described without the functions that check them, and what is wrong
with the others: the first of name, level and directory that is wrong decides. -/

namespace ComponentContainer

lemma tells_apart {ε : Type} {x : Except ε Unit} {accepted : Prop} {wrong : ε → Prop}
    (hok : accepted → x = .ok ()) (herror : ∀ e, wrong e → x = .error e)
    (hcases : accepted ∨ ∃ e, wrong e) :
    (x = .ok () ↔ accepted) ∧ ∀ e, x = .error e ↔ wrong e := by
  refine ⟨⟨fun h => hcases.resolve_right ?_, hok⟩, fun e => ⟨fun h => ?_, herror e⟩⟩
  · rintro ⟨e, he⟩
    cases h.symm.trans (herror e he)
  · rcases hcases with h' | ⟨e', he'⟩
    · cases h.symm.trans (hok h')
    · cases h.symm.trans (herror e' he')
      exact he'

def Path.Absolute (path : String) : Prop := ∃ rest, path.toList = '/' :: rest

lemma Path.isAbsolute_iff {path : String} : Path.isAbsolute path = true ↔ Path.Absolute path := by
  unfold isAbsolute Absolute
  rw [decide_eq_true_eq, List.head?_eq_some_iff]

lemma Path.Absolute.ne_empty {path : String} (h : Path.Absolute path) : path ≠ "" := by
  rintro rfl
  obtain ⟨rest, hrest⟩ := h
  cases hrest

namespace LoggingConfig

inductive Wrong (c : LoggingConfig) : SettingError → Prop
  | level {core : List Char} : (∀ l, ¬Level.Reads c.level l) → Text.Trims c.level.toList core →
    Wrong c (.unsupportedLevel (String.ofList (core.map Char.toLower)))
  | emptyDirectory {l : Level} : Level.Reads c.level l → c.dir = some "" → Wrong c .emptyDirectory
  | relativeDirectory {l : Level} {dir : String} : Level.Reads c.level l → c.dir = some dir →
    dir ≠ "" → ¬Path.Absolute dir → Wrong c (.relativeDirectory dir)

structure Acceptable (c : LoggingConfig) : Prop where
  level : ∃ l, Level.Reads c.level l
  dir : ∀ dir ∈ c.dir, dir ≠ "" ∧ Path.Absolute dir

variable {c : LoggingConfig} {setting dir : String} {l : Level} {e : SettingError}

lemma checkLevel_eq_ok_iff : checkLevel setting = .ok l ↔ Level.Reads setting l := by
  rw [← Level.parse?_eq_some_iff, checkLevel]
  cases Level.parse? setting with
  | none => simp
  | some l' => simp

lemma checkLevel_of_unread {core : List Char} (h : ∀ l, ¬Level.Reads setting l)
    (hcore : Text.Trims setting.toList core) : checkLevel setting =
      .error (.unsupportedLevel (String.ofList (core.map Char.toLower))) := by
  rw [checkLevel, Level.parse?_eq_none_iff.2 h, Level.normalise_eq hcore]

lemma checkDir_of_absolute (h : Path.Absolute dir) : checkDir dir = .ok () := by
  rw [checkDir, if_neg h.ne_empty, if_pos (Path.isAbsolute_iff.2 h)]

lemma checkDir_of_relative (h : dir ≠ "") (habsolute : ¬Path.Absolute dir) :
    checkDir dir = .error (.relativeDirectory dir) := by
  rw [checkDir, if_neg h, if_neg (mt Path.isAbsolute_iff.1 habsolute)]

lemma check_of_level (hlevel : checkLevel c.level = .ok l) :
    c.check = c.dir.elim (.ok ()) checkDir := by
  rw [check, hlevel]
  cases c.dir <;> rfl

lemma Acceptable.check_eq (h : c.Acceptable) : c.check = .ok () := by
  obtain ⟨l, hl⟩ := h.level
  rw [check_of_level (checkLevel_eq_ok_iff.2 hl)]
  cases hdir : c.dir with
  | none => rfl
  | some dir => exact checkDir_of_absolute (h.dir dir hdir).2

lemma Wrong.check_eq (h : c.Wrong e) : c.check = .error e := by
  cases h with
  | level hunread hcore =>
    rw [check, checkLevel_of_unread hunread hcore]
    rfl
  | emptyDirectory hl hdir =>
    rw [check_of_level (checkLevel_eq_ok_iff.2 hl), hdir]
    rfl
  | relativeDirectory hl hdir hempty hrelative =>
    rw [check_of_level (checkLevel_eq_ok_iff.2 hl), hdir]
    exact checkDir_of_relative hempty hrelative

lemma Wrong.not_acceptable (h : c.Wrong e) : ¬c.Acceptable :=
  fun hc => nomatch hc.check_eq.symm.trans h.check_eq

lemma acceptable_or_wrong (c : LoggingConfig) : c.Acceptable ∨ ∃ e, c.Wrong e := by
  by_cases hlevel : ∃ l, Level.Reads c.level l
  · by_cases hdir : ∀ dir ∈ c.dir, dir ≠ "" ∧ Path.Absolute dir
    · exact .inl ⟨hlevel, hdir⟩
    obtain ⟨l, hl⟩ := hlevel
    push Not at hdir
    obtain ⟨dir, hmem, hrelative⟩ := hdir
    by_cases hempty : dir = ""
    · exact .inr ⟨_, .emptyDirectory hl (hempty ▸ hmem)⟩
    · exact .inr ⟨_, .relativeDirectory hl hmem hempty (hrelative hempty)⟩
  · exact .inr ⟨_, .level (not_exists.1 hlevel) (Text.trims_trim _)⟩

lemma check_tells (c : LoggingConfig) :
    (c.check = .ok () ↔ c.Acceptable) ∧ ∀ e, c.check = .error e ↔ c.Wrong e :=
  tells_apart Acceptable.check_eq (fun _ => Wrong.check_eq) c.acceptable_or_wrong

end LoggingConfig

namespace ContainerConfig

structure Acceptable (c : ContainerConfig) : Prop where
  name : Name.ForContainer c.name
  logging : c.logging.Acceptable

inductive Wrong (c : ContainerConfig) : ConfigError → Prop
  | name : ¬Name.ForContainer c.name → Wrong c (.invalidName c.name)
  | logging {e : SettingError} : Name.ForContainer c.name → c.logging.Wrong e →
    Wrong c (.logging e)

variable {c : ContainerConfig} {e : ConfigError}

lemma validate_of_name (h : Name.ForContainer c.name) :
    c.validate = c.logging.check.mapError .logging := by
  rw [validate, Name.isContainer_iff.2 h]
  rfl

lemma Acceptable.validate_eq (h : c.Acceptable) : c.validate = .ok () := by
  rw [validate_of_name h.name, h.logging.check_eq]
  rfl

lemma Wrong.validate_eq (h : c.Wrong e) : c.validate = .error e := by
  cases h with
  | name hname =>
    rw [validate, Bool.eq_false_iff.2 (mt Name.isContainer_iff.1 hname)]
    rfl
  | logging hname hwrong =>
    rw [validate_of_name hname, hwrong.check_eq]
    rfl

lemma acceptable_or_wrong (c : ContainerConfig) : c.Acceptable ∨ ∃ e, c.Wrong e := by
  by_cases hname : Name.ForContainer c.name
  · rcases c.logging.acceptable_or_wrong with hlogging | ⟨e, he⟩
    · exact .inl ⟨hname, hlogging⟩
    · exact .inr ⟨_, .logging hname he⟩
  · exact .inr ⟨_, .name hname⟩

lemma validate_tells (c : ContainerConfig) :
    (c.validate = .ok () ↔ c.Acceptable) ∧ ∀ e, c.validate = .error e ↔ c.Wrong e :=
  tells_apart Acceptable.validate_eq (fun _ => Wrong.validate_eq) c.acceptable_or_wrong

end ContainerConfig

namespace Container

variable {config : ContainerConfig}

lemma new_of_ok (h : config.validate = .ok ()) :
    Container.new config = .ok ⟨config, ∅, [], .created, none⟩ := by
  rw [Container.new, h]
  rfl

lemma new_of_error {e : ConfigError} (h : config.validate = .error e) :
    Container.new config = .error e := by
  rw [Container.new, h]
  rfl

/-- A container is made exactly if its settings are acceptable, and is empty then; otherwise the error
tells what is wrong, in the order of name, level and directory. The level that a setting comes to is
written as it is read. -/
theorem new_accepts (config : ContainerConfig) :
    (∀ c, Container.new config = .ok c ↔
      config.Acceptable ∧ c = ⟨config, ∅, [], .created, none⟩) ∧
    (∀ e, Container.new config = .error e ↔ config.Wrong e) ∧
    ∀ setting l, LoggingConfig.checkLevel setting = .ok l → LoggingConfig.checkLevel l.text = .ok l := by
  obtain ⟨hok, herror⟩ := config.validate_tells
  refine ⟨fun c => ?_, fun e => ?_, fun _ l _ =>
    LoggingConfig.checkLevel_eq_ok_iff.2 (Level.reads_text l)⟩
  · rw [← hok]
    cases hvalid : config.validate with
    | error e =>
      rw [new_of_error hvalid]
      exact ⟨nofun, nofun⟩
    | ok u =>
      rw [new_of_ok hvalid]
      exact ⟨fun h => ⟨rfl, (Except.ok.inj h).symm⟩, fun h => congrArg Except.ok h.2.symm⟩
  · rw [← herror]
    cases hvalid : config.validate with
    | error e' =>
      rw [new_of_error hvalid]
      exact ⟨fun h => congrArg _ (Except.error.inj h), fun h => congrArg _ (Except.error.inj h)⟩
    | ok u =>
      rw [new_of_ok hvalid]
      exact ⟨nofun, nofun⟩

example : (Container.new ⟨"a", true, true, ⟨"\u00a0Warning\n", some "/"⟩⟩).isOk = true := by decide

end Container

end ComponentContainer
