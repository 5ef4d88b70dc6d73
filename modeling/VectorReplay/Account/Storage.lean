import VectorReplay.Word

/-!
Account storage: a finite map of words that lists its entries by ascending key. A key without an entry
reads zero.
-/
namespace VectorReplay

structure Storage where
  entries : List (Word × Word)
  ascending : entries.Pairwise fun a b => a.1 < b.1

namespace Storage

instance : DecidableEq Storage := fun a b =>
  match decEq a.entries b.entries with
  | .isTrue h => .isTrue (by cases a; cases b; cases h; rfl)
  | .isFalse h => .isFalse fun e => h (by rw [e])

def empty : Storage := ⟨[], .nil⟩

def get? (s : Storage) (key : Word) : Option Word :=
  s.entries.lookup key

def contains (s : Storage) (key : Word) : Bool :=
  (s.get? key).isSome

def size (s : Storage) : Nat :=
  s.entries.length

/-- Puts an entry before the first larger key; an entry of the same key gives way. -/
def place (key value : Word) : List (Word × Word) → List (Word × Word)
  | [] => [(key, value)]
  | (k, v) :: rest =>
    if key < k then (key, value) :: (k, v) :: rest
    else if key = k then (key, value) :: rest
    else (k, v) :: place key value rest

theorem key_of_mem_place {key value : Word} {es : List (Word × Word)} {e : Word × Word}
    (h : e ∈ place key value es) : e = (key, value) ∨ e ∈ es := by
  induction es with
  | nil => simpa [place] using h
  | cons d es ih =>
    simp only [place] at h
    grind

theorem ascending_place {key value : Word} {es : List (Word × Word)}
    (h : es.Pairwise fun a b => a.1 < b.1) :
    (place key value es).Pairwise fun a b => a.1 < b.1 := by
  induction es with
  | nil => simp [place]
  | cons d es ih =>
    rw [List.pairwise_cons] at h
    simp only [place]
    split
    · rename_i hlt
      refine List.pairwise_cons.2 ⟨?_, List.pairwise_cons.2 h⟩
      intro e he
      rcases List.mem_cons.1 he with rfl | he
      · exact hlt
      · exact BitVec.lt_trans hlt (h.1 e he)
    · split
      · rename_i heq
        exact List.pairwise_cons.2 ⟨fun e he => heq ▸ h.1 e he, h.2⟩
      · rename_i hlt hne
        refine List.pairwise_cons.2 ⟨?_, ih h.2⟩
        intro e he
        rcases key_of_mem_place he with rfl | he
        · grind
        · exact h.1 e he

def insert (s : Storage) (key value : Word) : Storage :=
  ⟨place key value s.entries, ascending_place s.ascending⟩

end Storage

end VectorReplay
