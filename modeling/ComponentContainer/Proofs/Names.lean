import ComponentContainer.Config
import ComponentContainer.Registry
import Mathlib.Tactic.Lemma

/-! The names that definitions and containers may have, described without the functions that test
them. -/

namespace ComponentContainer.Name

def Alphanumeric (c : Char) : Prop :=
  'a' ≤ c ∧ c ≤ 'z' ∨ 'A' ≤ c ∧ c ≤ 'Z' ∨ '0' ≤ c ∧ c ≤ '9'

def Regular (name : String) : Prop :=
  ∃ c rest, name.toList = c :: rest ∧ Alphanumeric c ∧
    ∀ x ∈ rest, Alphanumeric x ∨ x ∈ ['_', '.', ':', '#', '-']

def Definable (name : String) : Prop := Regular name ∧ ¬"internal.".toList <+: name.toList

def ForContainer (name : String) : Prop :=
  ∃ c rest, name.toList = c :: rest ∧ ('a' ≤ c ∧ c ≤ 'z') ∧ rest.length ≤ 63 ∧
    ∀ x ∈ rest, 'a' ≤ x ∧ x ≤ 'z' ∨ '0' ≤ x ∧ x ≤ '9' ∨ x ∈ ['_', '-']

variable {name : String}

lemma isAlphanum_iff {c : Char} : c.isAlphanum = true ↔ Alphanumeric c := by
  unfold Char.isAlphanum Char.isAlpha Char.isUpper Char.isLower Char.isDigit Alphanumeric
  simp only [Bool.or_eq_true, Bool.and_eq_true, decide_eq_true_eq, Char.le_def, ge_iff_le]
  rw [or_assoc, or_left_comm]

lemma isComponentChar_iff {c : Char} :
    isComponentChar c = true ↔ Alphanumeric c ∨ c ∈ ['_', '.', ':', '#', '-'] := by
  unfold isComponentChar
  simp only [Bool.or_eq_true, beq_iff_eq, isAlphanum_iff, or_assoc, List.mem_cons, List.not_mem_nil,
    or_false]

lemma isComponent_iff : isComponent name = true ↔ Regular name := by
  unfold isComponent Regular
  cases name.toList with
  | nil => simp
  | cons c rest =>
    simp only [Bool.and_eq_true, List.all_eq_true, isAlphanum_iff, isComponentChar_iff,
      List.cons.injEq]
    constructor
    · rintro ⟨hc, hrest⟩
      exact ⟨c, rest, ⟨rfl, rfl⟩, hc, hrest⟩
    · rintro ⟨_, _, ⟨rfl, rfl⟩, hc, hrest⟩
      exact ⟨hc, hrest⟩

lemma isReserved_iff : isReserved name = true ↔ "internal.".toList <+: name.toList :=
  List.isPrefixOf_iff_prefix

lemma isDefinable_iff : isDefinable name = true ↔ Definable name := by
  unfold isDefinable Definable
  rw [Bool.and_eq_true, isComponent_iff, Bool.not_eq_true', ← Bool.not_eq_true, isReserved_iff]

lemma isLower_iff {c : Char} : c.isLower = true ↔ 'a' ≤ c ∧ c ≤ 'z' := by
  unfold Char.isLower
  simp only [Bool.and_eq_true, decide_eq_true_eq, Char.le_def, ge_iff_le]

lemma isContainerChar_iff {c : Char} : isContainerChar c = true ↔
    'a' ≤ c ∧ c ≤ 'z' ∨ '0' ≤ c ∧ c ≤ '9' ∨ c ∈ ['_', '-'] := by
  unfold isContainerChar Char.isDigit
  simp only [Bool.or_eq_true, isLower_iff, Bool.and_eq_true, decide_eq_true_eq, beq_iff_eq,
    Char.le_def, ge_iff_le, or_assoc, List.mem_cons, List.not_mem_nil, or_false]

lemma isContainer_iff : isContainer name = true ↔ ForContainer name := by
  unfold isContainer ForContainer
  cases name.toList with
  | nil => simp
  | cons c rest =>
    simp only [Bool.and_eq_true, List.all_eq_true, isLower_iff, isContainerChar_iff,
      decide_eq_true_eq, List.cons.injEq]
    constructor
    · rintro ⟨⟨hc, hrest⟩, hlength⟩
      exact ⟨c, rest, ⟨rfl, rfl⟩, hc, hlength, hrest⟩
    · rintro ⟨_, _, ⟨rfl, rfl⟩, hc, hlength, hrest⟩
      exact ⟨⟨hc, hrest⟩, hlength⟩

end ComponentContainer.Name
