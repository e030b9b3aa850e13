/-! The precedence of extensions and the stable sort by it. -/

namespace ComponentContainer

inductive Tier
  | priority
  | ordered
  | untagged
  deriving DecidableEq

namespace Tier

def rank : Tier → Nat
  | priority => 0
  | ordered => 1
  | untagged => 2

def text : Tier → String
  | priority => "priority"
  | ordered => "ordered"
  | untagged => "untagged"

end Tier

inductive Precedence
  | priority (order : Int)
  | ordered (order : Int)
  | untagged
  deriving DecidableEq

namespace Precedence

instance : Inhabited Precedence := ⟨untagged⟩

def tier : Precedence → Tier
  | priority _ => .priority
  | ordered _ => .ordered
  | untagged => .untagged

def order : Precedence → Option Int
  | priority n | ordered n => some n
  | untagged => none

def compare (a b : Precedence) : Ordering :=
  (Ord.compare a.tier.rank b.tier.rank).then <|
    match a.order, b.order with
    | some m, some n => Ord.compare m n
    | _, _ => .eq

def describe : Precedence → String
  | priority n => s!"Priority({n})"
  | ordered n => s!"Ordered({n})"
  | untagged => "Untagged"

end Precedence

section

variable {α : Type} (precedence : α → Precedence)

def insertByPrecedence (x : α) : List α → List α
  | [] => [x]
  | y :: ys =>
    if (precedence x).compare (precedence y) = .gt then y :: insertByPrecedence x ys
    else x :: y :: ys

def sortByPrecedence (l : List α) : List α := l.foldr (insertByPrecedence precedence) []

theorem insertByPrecedence_perm (x : α) (l : List α) :
    (insertByPrecedence precedence x l).Perm (x :: l) := by
  induction l with
  | nil => exact .refl _
  | cons y ys ih =>
    unfold insertByPrecedence
    split
    · exact (ih.cons y).trans (.swap x y ys)
    · exact .refl _

theorem sortByPrecedence_perm (l : List α) : (sortByPrecedence precedence l).Perm l := by
  induction l with
  | nil => exact .refl _
  | cons x l ih => exact (insertByPrecedence_perm precedence x _).trans (ih.cons x)

def sortCompares (l : List α) : Bool := 1 < l.length

end

end ComponentContainer
