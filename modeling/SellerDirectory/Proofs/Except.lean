import Mathlib.Data.List.Basic
import Mathlib.Data.List.Forall2

-- Chains of steps of which each may fail: a chain succeeds if every step of it does.

namespace SellerDirectory

variable {ε α β γ : Type}

theorem bind_ok {first : Except ε α} {next : α → Except ε β} {b : β} :
    (first >>= next) = .ok b ↔ ∃ a, first = .ok a ∧ next a = .ok b := by
  cases first with
  | error failure =>
    constructor
    · intro done
      cases done
    · rintro ⟨_, found, _⟩
      cases found
  | ok a =>
    constructor
    · exact fun done => ⟨a, rfl, done⟩
    · rintro ⟨_, found, done⟩
      cases found
      exact done

theorem map_ok {first : Except ε α} {f : α → β} {b : β} :
    first.map f = .ok b ↔ ∃ a, first = .ok a ∧ f a = b := by
  cases first <;> simp [Except.map]

theorem map_error {first : Except ε α} {f : α → β} {failure : ε} :
    first.map f = .error failure ↔ first = .error failure := by
  cases first <;> simp [Except.map]

theorem mapError_ok {δ : Type} {first : Except ε α} {f : ε → δ} {a : α} :
    first.mapError f = .ok a ↔ first = .ok a := by
  cases first <;> simp [Except.mapError]

section Sequence

variable {read : α → Except ε β} {l : List α} {out : List β}

theorem mapM_isOk :
    (∃ out, l.mapM read = .ok out) ↔ ∀ a ∈ l, ∃ b, read a = .ok b := by
  induction l with
  | nil => exact ⟨fun _ a member => absurd member List.not_mem_nil, fun _ => ⟨[], rfl⟩⟩
  | cons first rest ih =>
    rw [List.forall_mem_cons, ← ih, List.mapM_cons]
    simp only [bind_ok]
    constructor
    · rintro ⟨_, b, head, bs, tail, _⟩
      exact ⟨⟨b, head⟩, bs, tail⟩
    · rintro ⟨⟨b, head⟩, bs, tail⟩
      exact ⟨b :: bs, b, head, bs, tail, rfl⟩

theorem mapM_eq_ok :
    l.mapM read = .ok out ↔ List.Forall₂ (fun a b => read a = .ok b) l out := by
  induction l generalizing out with
  | nil =>
    rw [List.forall₂_nil_left_iff]
    constructor
    · intro done
      cases done
      rfl
    · rintro rfl
      rfl
  | cons first rest ih =>
    rw [List.mapM_cons, List.forall₂_cons_left_iff]
    simp only [bind_ok, ih]
    constructor
    · rintro ⟨b, head, bs, tail, done⟩
      cases done
      exact ⟨b, bs, head, tail, rfl⟩
    · rintro ⟨b, bs, head, tail, rfl⟩
      exact ⟨b, head, bs, tail, rfl⟩

theorem mem_of_mapM (done : l.mapM read = .ok out) {b : β} (member : b ∈ out) :
    ∃ a ∈ l, read a = .ok b := by
  have each := mapM_eq_ok.mp done
  clear done
  induction each with
  | nil => cases member
  | cons head _ ih =>
    rcases List.mem_cons.mp member with rfl | later
    · exact ⟨_, List.mem_cons_self, head⟩
    · obtain ⟨a, there, found⟩ := ih later
      exact ⟨a, List.mem_cons_of_mem _ there, found⟩

theorem map_of_mapM {before : α → γ} {after : β → γ}
    (same : ∀ a b, read a = .ok b → after b = before a) (done : l.mapM read = .ok out) :
    out.map after = l.map before := by
  induction l generalizing out with
  | nil =>
    cases done
    rfl
  | cons first rest ih =>
    rw [List.mapM_cons] at done
    obtain ⟨b, head, done⟩ := bind_ok.mp done
    obtain ⟨bs, tail, done⟩ := bind_ok.mp done
    cases done
    rw [List.map_cons, List.map_cons, same first b head, ih tail]

end Sequence

end SellerDirectory
