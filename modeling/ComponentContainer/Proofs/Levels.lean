import ComponentContainer.Level
import Mathlib.Data.List.DropRight
import Mathlib.Data.List.TakeWhile
import Mathlib.Tactic.Lemma

/-! How the level of a log may be written: white space around it, and the case of its letters, do not
count. -/

namespace ComponentContainer

namespace Text

def WhiteSpace (c : Char) : Prop :=
  '\t' ≤ c ∧ c ≤ '\r' ∨ '\u2000' ≤ c ∧ c ≤ '\u200a' ∨
    c ∈ [' ', '\u0085', '\u00a0', '\u1680', '\u2028', '\u2029', '\u202f', '\u205f', '\u3000']

structure Trims (s core : List Char) : Prop where
  around : ∃ before after, s = before ++ core ++ after ∧ ∀ c ∈ before ++ after, WhiteSpace c
  first : ∀ c ∈ core.head?, ¬WhiteSpace c
  last : ∀ c ∈ core.getLast?, ¬WhiteSpace c

lemma isBlank_iff {c : Char} : isBlank c = true ↔ WhiteSpace c := by
  simp only [isBlank, blankRanges, WhiteSpace, List.any_cons, List.any_nil, Bool.or_eq_true,
    Bool.and_eq_true, decide_eq_true_eq, List.mem_cons, List.not_mem_nil, Char.le_def,
    UInt32.le_iff_toNat_le, ← Char.toNat_inj, Bool.or_false, or_false]
  have hval (c : Char) : c.val.toNat = c.toNat := rfl
  simp only [hval, Char.reduceToNat]
  omega

variable {s core : List Char}

lemma dropWhile_of_head? (h : ∀ c ∈ s.head?, ¬WhiteSpace c) : s.dropWhile isBlank = s := by
  cases s with
  | nil => rfl
  | cons c s => exact List.dropWhile_cons_of_neg fun hc => h c rfl (isBlank_iff.1 hc)

lemma head?_dropWhile_isBlank {c : Char} (hc : c ∈ (s.dropWhile isBlank).head?) :
    ¬WhiteSpace c := by
  have hhead := List.head?_dropWhile_not isBlank s
  rw [hc] at hhead
  simpa [← isBlank_iff] using hhead

lemma trims_trim (s : List Char) : Trims s (trim s) := by
  have hrest : trim s ++ (s.dropWhile isBlank).rtakeWhile isBlank = s.dropWhile isBlank :=
    List.rdropWhile_append_rtakeWhile
  refine ⟨⟨s.takeWhile isBlank, (s.dropWhile isBlank).rtakeWhile isBlank, ?_, ?_⟩, ?_, ?_⟩
  · rw [List.append_assoc, hrest, List.takeWhile_append_dropWhile]
  · intro c hc
    rw [← isBlank_iff]
    exact (List.mem_append.1 hc).elim List.mem_takeWhile_imp List.mem_rtakeWhile_imp
  · intro c hc
    refine head?_dropWhile_isBlank (s := s) ?_
    rw [← hrest, List.head?_append, hc]
    rfl
  · intro c hc
    unfold trim trimEnd at hc
    rw [List.getLast?_reverse] at hc
    exact head?_dropWhile_isBlank hc

lemma Trims.eq_trim (h : Trims s core) : core = trim s := by
  obtain ⟨⟨before, after, rfl, hblank⟩, hfirst, hlast⟩ := h
  have hbefore : ∀ c ∈ before, isBlank c = true := fun c hc =>
    isBlank_iff.2 (hblank c (List.mem_append_left _ hc))
  have hafter : ∀ c ∈ after.reverse, isBlank c = true := fun c hc =>
    isBlank_iff.2 (hblank c (List.mem_append_right _ (List.mem_reverse.1 hc)))
  have hend : trimEnd (core ++ after) = core := by
    unfold trimEnd
    rw [List.reverse_append, List.dropWhile_append_of_pos hafter, dropWhile_of_head?,
      List.reverse_reverse]
    rwa [List.head?_reverse]
  unfold trim
  rw [List.append_assoc, List.dropWhile_append_of_pos hbefore]
  cases core with
  | nil =>
    have hnone : ([] ++ after).dropWhile isBlank = [] :=
      List.dropWhile_eq_nil_iff.2 fun c hc => hafter c (List.mem_reverse.2 hc)
    rw [hnone]
    rfl
  | cons c core => rw [dropWhile_of_head? (s := c :: core ++ after) hfirst, hend]

end Text

namespace Level

def spellings : Level → List String
  | warn => ["warn", "warning"]
  | l => [l.text]

def Reads (setting : String) (l : Level) : Prop :=
  ∃ core, Text.Trims setting.toList core ∧ String.ofList (core.map Char.toLower) ∈ l.spellings

lemma ofNormal?_eq_some_iff {s : String} {l : Level} : ofNormal? s = some l ↔ s ∈ l.spellings := by
  unfold ofNormal?
  split <;> cases l <;> simp_all [spellings, text]

lemma normalise_eq {setting : String} {core : List Char} (h : Text.Trims setting.toList core) :
    normalise setting = String.ofList (core.map Char.toLower) := by
  rw [normalise, h.eq_trim]

lemma parse?_eq_some_iff {setting : String} {l : Level} :
    parse? setting = some l ↔ Reads setting l := by
  rw [parse?, ofNormal?_eq_some_iff]
  refine ⟨fun h => ⟨_, Text.trims_trim _, h⟩, ?_⟩
  rintro ⟨core, hcore, hl⟩
  rwa [normalise_eq hcore]

lemma parse?_eq_none_iff {setting : String} :
    parse? setting = none ↔ ∀ l, ¬Reads setting l := by
  simp only [← parse?_eq_some_iff, Option.eq_none_iff_forall_ne_some]

lemma reads_text (l : Level) : Reads l.text l := by
  rw [← parse?_eq_some_iff]
  cases l <;> decide

end Level

end ComponentContainer
