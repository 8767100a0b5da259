import SellerDirectory.Text.Blank

-- Cutting text, or bytes, at the first occurrence of a mark or at each of them.

namespace SellerDirectory.Text

variable {α : Type} [DecidableEq α]

def cut? (mark : α) : List α → Option (List α × List α)
  | [] => none
  | c :: rest =>
    if c = mark then some ([], rest)
    else (cut? mark rest).map fun (before, after) => (c :: before, after)

-- Where there is no mark, all of the text stands before it.
def cut (mark : α) (text : List α) : List α × List α :=
  (cut? mark text).getD (text, [])

theorem eq_of_cut? {mark : α} {text before after : List α}
    (found : cut? mark text = some (before, after)) : text = before ++ mark :: after := by
  induction text generalizing before with
  | nil => simp [cut?] at found
  | cons c rest ih =>
    by_cases same : c = mark
    · simp [cut?, same] at found
      simp [same, ← found.1, ← found.2]
    · simp only [cut?, same, if_false, Option.map_eq_some_iff, Prod.mk.injEq] at found
      obtain ⟨⟨front, back⟩, further, rfl, rfl⟩ := found
      rw [ih further, List.cons_append]

theorem not_mem_of_cut? {mark : α} {text before after : List α}
    (found : cut? mark text = some (before, after)) : mark ∉ before := by
  induction text generalizing before with
  | nil => simp [cut?] at found
  | cons c rest ih =>
    by_cases same : c = mark
    · simp [cut?, same] at found
      obtain ⟨rfl, _⟩ := found
      exact List.not_mem_nil
    · simp only [cut?, same, if_false, Option.map_eq_some_iff, Prod.mk.injEq] at found
      obtain ⟨⟨front, back⟩, further, rfl, rfl⟩ := found
      simp [Ne.symm same, ih further]

theorem cut?_append {mark : α} {front : List α} (unmarked : mark ∉ front) (back : List α) :
    cut? mark (front ++ mark :: back) = some (front, back) := by
  induction front with
  | nil => simp [cut?]
  | cons c rest ih =>
    rw [List.mem_cons, not_or] at unmarked
    rw [List.cons_append, cut?, if_neg (Ne.symm unmarked.1), ih unmarked.2]
    rfl

-- What stands between the separators, in order; a list without separators is one piece.
def pieces (separator : α) : List α → List (List α)
  | [] => [[]]
  | c :: rest =>
    match pieces separator rest with
    | [] => [[c]]
    | piece :: others =>
      if c = separator then [] :: piece :: others else (c :: piece) :: others

def parts (text : String) : List String :=
  (((pieces ',' text.toList).map trimmed).filter fun part => !part.isEmpty).map String.ofList

end SellerDirectory.Text
