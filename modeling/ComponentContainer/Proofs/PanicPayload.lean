import ComponentContainer.Logging
import Mathlib.Data.List.Forall2
import Mathlib.Tactic.Lemma

/-! What the log shows of a panic: one line, cut off at a bound. A text in that form is shown as it
is, also one that the dots have made longer than the bound. -/

namespace ComponentContainer

namespace Logging

/-- The character that a line has in the place of a character of the text. -/
inductive Shows : Char → Char → Prop
  | lineFeed : Shows '\n' ' '
  | carriageReturn : Shows '\r' ' '
  | other {c : Char} (hfeed : c ≠ '\n') (hreturn : c ≠ '\r') : Shows c c

def SingleLine (t : List Char) : Prop := '\n' ∉ t ∧ '\r' ∉ t

structure Sanitary (max : ℕ) (t : List Char) : Prop where
  single : SingleLine t
  bounded : t.length ≤ max ∨ ∃ kept : List Char, kept.length = max ∧ t = kept ++ ['.', '.', '.']

variable {max : ℕ} {s line t : List Char}

/-! ### The line of a text -/

lemma shows_iff {c d : Char} : Shows c d ↔ (if c = '\n' || c = '\r' then ' ' else c) = d := by
  constructor
  · intro h
    cases h with
    | lineFeed => rfl
    | carriageReturn => rfl
    | other hfeed hreturn => simp [hfeed, hreturn]
  · rintro rfl
    by_cases hfeed : c = '\n'
    · subst hfeed
      exact .lineFeed
    · by_cases hreturn : c = '\r'
      · subst hreturn
        exact .carriageReturn
      · simpa [hfeed, hreturn] using Shows.other hfeed hreturn

lemma forall₂_shows_iff : List.Forall₂ Shows s line ↔
    (s.map fun c => if c = '\n' || c = '\r' then ' ' else c) = line := by
  have hshows : Shows = fun c d => (if c = '\n' || c = '\r' then ' ' else c) = d := by
    funext c d
    exact propext shows_iff
  rw [hshows, ← List.forall₂_map_left_iff (R := Eq), List.forall₂_eq_eq_eq]

lemma exists_line (s : List Char) : ∃ line, List.Forall₂ Shows s line :=
  ⟨_, forall₂_shows_iff.2 rfl⟩

lemma singleLine_of_shows (h : List.Forall₂ Shows s line) : SingleLine line := by
  induction h with
  | nil => exact ⟨List.not_mem_nil, List.not_mem_nil⟩
  | cons hc _ ih =>
    obtain ⟨hfeed, hreturn⟩ := ih
    cases hc with
    | lineFeed => exact ⟨by simp [hfeed], by simp [hreturn]⟩
    | carriageReturn => exact ⟨by simp [hfeed], by simp [hreturn]⟩
    | other hf hr => exact ⟨by simp [hfeed, Ne.symm hf], by simp [hreturn, Ne.symm hr]⟩

lemma SingleLine.shows (h : SingleLine t) : List.Forall₂ Shows t t := by
  rw [List.forall₂_same]
  intro c hc
  exact .other (fun hfeed => h.1 (hfeed ▸ hc)) fun hreturn => h.2 (hreturn ▸ hc)

lemma SingleLine.cut (h : SingleLine line) (max : ℕ) :
    SingleLine (line.take max ++ ['.', '.', '.']) := by
  constructor
  · simp [mt List.mem_of_mem_take h.1]
  · simp [mt List.mem_of_mem_take h.2]

/-! ### The bound -/

lemma sanitise_of_shows (h : List.Forall₂ Shows s line) :
    sanitise max s = if max < line.length then line.take max ++ ['.', '.', '.'] else line := by
  rw [sanitise, forall₂_shows_iff.1 h]

lemma sanitise_of_fits (h : List.Forall₂ Shows s line) (hfits : line.length ≤ max) :
    sanitise max s = line := by
  rw [sanitise_of_shows h, if_neg (Nat.not_lt.2 hfits)]

lemma sanitise_of_exceeds (h : List.Forall₂ Shows s line) (hexceeds : max < line.length) :
    sanitise max s = line.take max ++ ['.', '.', '.'] := by
  rw [sanitise_of_shows h, if_pos hexceeds]

lemma sanitary_sanitise (max : ℕ) (s : List Char) : Sanitary max (sanitise max s) := by
  obtain ⟨line, hline⟩ := exists_line s
  have hsingle : SingleLine line := singleLine_of_shows hline
  by_cases hfits : line.length ≤ max
  · rw [sanitise_of_fits hline hfits]
    exact ⟨hsingle, .inl hfits⟩
  · have hexceeds : max < line.length := Nat.lt_of_not_le hfits
    rw [sanitise_of_exceeds hline hexceeds]
    exact ⟨hsingle.cut max, .inr ⟨_, List.length_take_of_le (Nat.le_of_lt hexceeds), rfl⟩⟩

lemma Sanitary.length_le (h : Sanitary max t) : t.length ≤ max + 3 := by
  rcases h.bounded with hfits | ⟨kept, hkept, rfl⟩
  · omega
  · simp [hkept]

lemma Sanitary.sanitise_eq (h : Sanitary max t) : sanitise max t = t := by
  have hline : List.Forall₂ Shows t t := h.single.shows
  rcases h.bounded with hfits | ⟨kept, hkept, rfl⟩
  · exact sanitise_of_fits hline hfits
  · have hexceeds : max < (kept ++ ['.', '.', '.']).length := by simp [hkept]
    rw [sanitise_of_exceeds hline hexceeds, List.take_left' hkept]

lemma sanitise_eq_self_iff : sanitise max t = t ↔ Sanitary max t := by
  constructor
  · intro h
    exact h ▸ sanitary_sanitise max t
  · exact Sanitary.sanitise_eq

/-! ### Texts -/

@[simp] lemma toList_oneLine (max : ℕ) (s : String) :
    (oneLine max s).toList = sanitise max s.toList :=
  String.toList_ofList

lemma oneLine_eq_self_iff {s : String} : oneLine max s = s ↔ Sanitary max s.toList := by
  rw [← String.toList_inj, toList_oneLine, sanitise_eq_self_iff]

lemma oneLine_oneLine (max : ℕ) (s : String) : oneLine max (oneLine max s) = oneLine max s := by
  rw [oneLine_eq_self_iff, toList_oneLine]
  exact sanitary_sanitise max s.toList

theorem capture_oneLine (l : Logging) (p : Payload) :
    l.capture (.text (oneLine maxPayload p.shown)) = l.capture p := by
  rw [capture, capture, Payload.shown, oneLine_oneLine]

lemma exists_line_oneLine (max : ℕ) (s : String) :
    ∃ line : String, List.Forall₂ Shows s.toList line.toList ∧
      (line.length ≤ max → oneLine max s = line) ∧
      (max < line.length → oneLine max s = String.ofList (line.toList.take max) ++ "...") := by
  obtain ⟨line, hline⟩ := exists_line s.toList
  refine ⟨String.ofList line, by rwa [String.toList_ofList], fun hfits => ?_, fun hexceeds => ?_⟩
  · rw [String.length_ofList] at hfits
    rw [oneLine, sanitise_of_fits hline hfits]
  · rw [String.length_ofList] at hexceeds
    rw [oneLine, sanitise_of_exceeds hline hexceeds, String.ofList_append, String.toList_ofList]

/-- Whatever the text and the bound, what is shown is one line, at most three characters longer than
the bound. It is the whole line where that is within the bound, and otherwise as much of it as the
bound admits, with three dots; shown again, it stays as it is. -/
theorem oneLine_bounded_stable (max : ℕ) (s : String) :
    SingleLine (oneLine max s).toList ∧ (oneLine max s).length ≤ max + 3 ∧
    (∃ line : String, List.Forall₂ Shows s.toList line.toList ∧
      (line.length ≤ max → oneLine max s = line) ∧
      (max < line.length → oneLine max s = String.ofList (line.toList.take max) ++ "...")) ∧
    oneLine max (oneLine max s) = oneLine max s := by
  have hsanitary : Sanitary max (oneLine max s).toList :=
    toList_oneLine max s ▸ sanitary_sanitise max s.toList
  refine ⟨hsanitary.single, ?_, exists_line_oneLine max s, oneLine_oneLine max s⟩
  rw [← String.length_toList]
  exact hsanitary.length_le

example : oneLine 8 "line1\nline2\rline3" = "line1 li..." := by decide

end Logging

end ComponentContainer
