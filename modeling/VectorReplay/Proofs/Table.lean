import Mathlib.Data.List.Dedup
import Mathlib.Data.List.Induction
import Mathlib.Data.List.Nodup
import Mathlib.Data.List.Perm.Basic
import VectorReplay.Table

/-!
Tables that are written entry by entry: every key has one place, where its last value stands.
-/
namespace VectorReplay.Table

variable {α β : Type} [DecidableEq α]

theorem mem_of_get? {t : Table α β} {a : α} {b : β} (h : t.get? a = some b) : (a, b) ∈ t := by
  induction t with
  | nil => cases h
  | cons e t ih =>
    rw [get?] at h
    split at h
    · rename_i heq
      cases h
      exact heq ▸ List.mem_cons_self
    · exact List.mem_cons_of_mem _ (ih h)

/-- A key that has a place keeps it. -/
theorem keys_set (t : Table α β) (a : α) (b : β) : (t.set a b).map Prod.fst =
    if a ∈ t.map Prod.fst then t.map Prod.fst else t.map Prod.fst ++ [a] := by
  induction t with
  | nil => rfl
  | cons e t ih =>
    by_cases he : e.1 = a
    · rw [set, if_pos he, if_pos (by simp [he]), List.map_cons, List.map_cons, he]
    · rw [set, if_neg he, List.map_cons, ih]
      by_cases ha : a ∈ t.map Prod.fst
      · rw [if_pos ha, if_pos (by simp [ha]), List.map_cons]
      · have hnew : a ∉ (e :: t).map Prod.fst := by
          rw [List.map_cons, List.mem_cons, not_or]
          exact ⟨Ne.symm he, ha⟩
        rw [if_neg ha, if_neg hnew, List.map_cons, List.cons_append]

/-- Entries written one after the other. -/
def ofEntries (es : List (α × β)) : Table α β :=
  es.foldl (fun t e => t.set e.1 e.2) []

theorem ofEntries_concat (es : List (α × β)) (e : α × β) :
    ofEntries (es ++ [e]) = (ofEntries es).set e.1 e.2 := by
  rw [ofEntries, List.foldl_append]
  rfl

theorem nodup_keys_ofEntries (es : List (α × β)) : ((ofEntries es).map Prod.fst).Nodup := by
  induction es using List.reverseRecOn with
  | nil => exact List.nodup_nil
  | append_singleton es e ih =>
    rw [ofEntries_concat, keys_set]
    split
    · exact ih
    · rename_i hnew
      exact List.concat_eq_append ▸ ih.concat hnew

theorem mem_keys_ofEntries {es : List (α × β)} {a : α} :
    a ∈ (ofEntries es).map Prod.fst ↔ a ∈ es.map Prod.fst := by
  induction es using List.reverseRecOn with
  | nil => rfl
  | append_singleton es e ih =>
    rw [ofEntries_concat, keys_set, List.map_append, List.mem_append, ← ih]
    split
    · rename_i hold
      constructor
      · exact Or.inl
      · rintro (h | h)
        · exact h
        · rw [List.map_singleton, List.mem_singleton] at h
          exact h ▸ hold
    · exact List.mem_append

/-- There are as many entries as different keys. -/
theorem length_ofEntries (es : List (α × β)) :
    (ofEntries es).length = (es.map Prod.fst).dedup.length := by
  have hperm : ((ofEntries es).map Prod.fst).Perm (es.map Prod.fst).dedup := by
    rw [List.perm_ext_iff_of_nodup (nodup_keys_ofEntries es) (List.nodup_dedup _)]
    intro a
    rw [mem_keys_ofEntries, List.mem_dedup]
  rw [← hperm.length_eq, List.length_map]

/-- Entries under different keys stand as they were written. -/
theorem ofEntries_of_nodup {es : List (α × β)} (h : (es.map Prod.fst).Nodup) :
    ofEntries es = es := by
  induction es using List.reverseRecOn with
  | nil => rfl
  | append_singleton es e ih =>
    rw [List.map_append, List.nodup_append] at h
    have hnew : e.1 ∉ es.map Prod.fst := fun hmem => h.2.2 _ hmem _ (by simp) rfl
    rw [ofEntries_concat, ih h.1, set_of_not_mem _ hnew]

/-- What is written under other keys afterwards leaves the value of a key. -/
theorem get?_ofEntries (before : List (α × β)) (a : α) (b : β) {after : List (α × β)}
    (h : a ∉ after.map Prod.fst) : (ofEntries (before ++ (a, b) :: after)).get? a = some b := by
  induction after using List.reverseRecOn with
  | nil => rw [ofEntries_concat, get?_set_self]
  | append_singleton after e ih =>
    rw [List.map_append, List.map_singleton, List.mem_append, List.mem_singleton, not_or] at h
    rw [← List.cons_append, ← List.append_assoc, ofEntries_concat, get?_set_ne _ _ (Ne.symm h.2)]
    exact ih h.1

/-- Among keys that are not distinct, one is the first to come again. -/
theorem exists_repeated {t : Table α β} (h : ¬ (t.map Prod.fst).Nodup) :
    ∃ before e after, t = before ++ e :: after ∧ (before.map Prod.fst).Nodup ∧
      e.1 ∈ before.map Prod.fst := by
  induction t using List.reverseRecOn with
  | nil => exact absurd List.nodup_nil h
  | append_singleton t e ih =>
    by_cases hdistinct : (t.map Prod.fst).Nodup
    · refine ⟨t, e, [], rfl, hdistinct, ?_⟩
      by_contra hnew
      rw [List.map_append, List.map_singleton, List.nodup_append_comm] at h
      exact h (List.nodup_cons.mpr ⟨hnew, hdistinct⟩)
    · obtain ⟨before, d, after, rfl, hbefore, hmem⟩ := ih hdistinct
      exact ⟨before, d, after ++ [e], by simp, hbefore, hmem⟩

end VectorReplay.Table
