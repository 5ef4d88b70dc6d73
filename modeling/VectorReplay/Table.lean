/-!
Tables of keyed entries in the order in which their keys were first written.
-/
namespace VectorReplay

abbrev Table (α β : Type) := List (α × β)

namespace Table

variable {α β : Type} [DecidableEq α]

def get? : Table α β → α → Option β
  | [], _ => none
  | (x, y) :: t, a => if x = a then some y else get? t a

/-- Overwrites the entry of a key, or appends a new one. -/
def set : Table α β → α → β → Table α β
  | [], a, b => [(a, b)]
  | (x, y) :: t, a, b => if x = a then (a, b) :: t else (x, y) :: set t a b

@[simp] theorem get?_nil (a : α) : get? ([] : Table α β) a = none := rfl

@[simp] theorem get?_set_self (t : Table α β) (a : α) (b : β) : get? (set t a b) a = some b := by
  induction t with
  | nil => simp [set, get?]
  | cons e t ih => by_cases h : e.1 = a <;> simp [set, get?, h, ih]

theorem get?_set_ne (t : Table α β) {a a' : α} (b : β) (h : a ≠ a') :
    get? (set t a b) a' = get? t a' := by
  induction t with
  | nil => simp [set, get?, h]
  | cons e t ih => by_cases ha : e.1 = a <;> simp_all [set, get?]

/-- Writing what is there already changes nothing. -/
theorem set_of_get? {t : Table α β} {a : α} {b : β} (h : t.get? a = some b) : t.set a b = t := by
  induction t with
  | nil => cases h
  | cons e t ih =>
    obtain ⟨x, y⟩ := e
    rw [get?] at h
    by_cases hx : x = a
    · rw [if_pos hx] at h
      cases h
      rw [set, if_pos hx, hx]
    · rw [if_neg hx] at h
      rw [set, if_neg hx, ih h]

theorem get?_eq_none {t : Table α β} {a : α} (h : a ∉ t.map Prod.fst) : t.get? a = none := by
  induction t with
  | nil => rfl
  | cons e t ih =>
    simp only [List.map_cons, List.mem_cons, not_or] at h
    rw [get?, if_neg (Ne.symm h.1), ih h.2]

theorem get?_of_mem {t : Table α β} {a : α} {b : β} (distinct : (t.map Prod.fst).Nodup)
    (h : (a, b) ∈ t) : t.get? a = some b := by
  induction t with
  | nil => cases h
  | cons e t ih =>
    obtain ⟨hnew, hrest⟩ := List.nodup_cons.mp distinct
    rcases List.mem_cons.mp h with rfl | h
    · exact if_pos rfl
    · have hne : e.1 ≠ a := fun heq => hnew (heq ▸ List.mem_map_of_mem h)
      rw [get?, if_neg hne, ih hrest h]

theorem not_mem_of_get? {t : Table α β} {a : α} (h : t.get? a = none) : a ∉ t.map Prod.fst := by
  induction t with
  | nil => exact List.not_mem_nil
  | cons e t ih =>
    rw [get?] at h
    split at h
    · cases h
    · rename_i hne
      simp only [List.map_cons, List.mem_cons, not_or]
      exact ⟨fun heq => hne heq.symm, ih h⟩

theorem set_of_not_mem {t : Table α β} {a : α} (b : β) (h : a ∉ t.map Prod.fst) :
    t.set a b = t ++ [(a, b)] := by
  induction t with
  | nil => rfl
  | cons e t ih =>
    simp only [List.map_cons, List.mem_cons, not_or] at h
    rw [set, if_neg (Ne.symm h.1), ih h.2]
    rfl

end Table

end VectorReplay
