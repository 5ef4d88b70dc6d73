import VectorReplay.Rlp.Extent

/-!
Splitting a list payload into its items: the items lie side by side and cover the payload.
-/
namespace VectorReplay.Rlp

/-- The raw items of a payload, from left to right. -/
def split (b : Bytes) : Except Error (List Bytes) :=
  if _h : b = [] then .ok []
  else match _hx : Extent.read b with
    | .error e => .error e
    | .ok x =>
      match split (b.drop x.total) with
      | .error e => .error e
      | .ok rest => .ok (b.take x.total :: rest)
termination_by b.length
decreasing_by
  have h1 := Extent.total_pos_of_read _hx
  have h2 := (Extent.read_eq_ok _hx).2
  simp only [List.length_drop]
  omega

@[simp] theorem split_nil : split [] = .ok [] := by
  rw [split]; simp

/-- The raw items of the list that the bytes begin with. -/
def items (b : Bytes) : Except Error (List Bytes) := do
  let inner ← payload b
  split inner

theorem flatten_split {b : Bytes} {xs : List Bytes} (h : split b = .ok xs) : xs.flatten = b := by
  fun_induction split b generalizing xs with
  | case1 => cases h; rfl
  | case2 => simp at h
  | case3 => simp at h
  | case4 b _ x hx rest hr ih =>
    cases h
    simp [ih hr]

end VectorReplay.Rlp
