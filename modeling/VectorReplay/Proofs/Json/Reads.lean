import VectorReplay.Json.Record
import VectorReplay.Json.Write
import VectorReplay.Proofs.Json.Strings

/-!
Decoders that read a value off its rendering, whatever text may follow it: strings, numbers, lists,
objects of any keys and records, each from what its parts read.
-/
namespace VectorReplay.Json

variable {α β σ : Type}

/-! ### Text that does not start with a blank -/

theorem skipSpace_cons {c : Char} (h : isSpace c = false) (s : List Char) :
    skipSpace (c :: s) = c :: s := by
  rw [skipSpace, List.dropWhile_cons_of_neg]
  rw [h]
  exact Bool.false_ne_true

theorem Reader.dispatch_cons (choose : Char → Reader α) {c : Char} (h : isSpace c = false)
    (s : List Char) : Reader.dispatch choose (c :: s) = choose c (c :: s) := by
  rw [Reader.dispatch, skipSpace_cons h]

theorem Reader.afterColon_cons (read : Reader α) (s : List Char) :
    Reader.afterColon read (':' :: s) = read s := rfl

/-! ### Rendered members and elements -/

/-- Text that may stand behind a value: none, or some from a comma or a closing bracket on. -/
def Delimited : List Char → Prop
  | [] => True
  | c :: _ => c = ',' ∨ c = ']' ∨ c = '\x7d'

theorem delimited_bracket (rest : List Char) : Delimited (']' :: rest) :=
  Or.inr (Or.inl rfl)

theorem delimited_brace (rest : List Char) : Delimited ('\x7d' :: rest) :=
  Or.inr (Or.inr rfl)

theorem delimited_flatMap {γ : Type} (piece : γ → List Char) (cs : List γ) {rest : List Char}
    (h : Delimited rest) : Delimited ((cs.flatMap fun c => ',' :: piece c) ++ rest) := by
  cases cs with
  | nil => exact h
  | cons c cs => exact Or.inl rfl

def memberText (m : String × Value) : List Char :=
  quote m.1 ++ ':' :: m.2.render

theorem renderMembers_cons (m : String × Value) (ms : List (String × Value)) :
    Value.renderMembers (m :: ms) = memberText m ++ ms.flatMap fun m => ',' :: memberText m := by
  induction ms generalizing m with
  | nil =>
    rw [Value.renderMembers, List.flatMap_nil, List.append_nil]
    rfl
  | cons n ms ih =>
    rw [Value.renderMembers, ih, List.flatMap_cons]
    simp only [memberText, List.append_assoc, List.cons_append]

theorem renderItems_cons (v : Value) (vs : List Value) :
    Value.renderItems (v :: vs) = v.render ++ vs.flatMap fun v => ',' :: v.render := by
  induction vs generalizing v with
  | nil => rw [Value.renderItems, List.flatMap_nil, List.append_nil]
  | cons w vs ih =>
    rw [Value.renderItems, ih, List.flatMap_cons, List.cons_append]

theorem render_text_append (s : String) (rest : List Char) :
    (Value.text s).render ++ rest = '"' :: (s.toList.flatMap escape ++ '"' :: rest) := by
  simp only [Value.render, quote, List.append_assoc, List.cons_append, List.nil_append]

theorem render_list_append (vs : List Value) (rest : List Char) :
    (Value.list vs).render ++ rest = '[' :: (Value.renderItems vs ++ ']' :: rest) := by
  simp only [Value.render, List.append_assoc, List.cons_append, List.nil_append]

theorem render_object_append (ms : List (String × Value)) (rest : List Char) :
    (Value.object ms).render ++ rest = '{' :: (Value.renderMembers ms ++ '\x7d' :: rest) := by
  simp only [Value.render, List.append_assoc, List.cons_append, List.nil_append]

/-- Every piece takes a character, so there are no more pieces than characters. -/
theorem length_le_length_flatMap {γ : Type} (piece : γ → List Char) (cs : List γ) :
    cs.length ≤ (cs.flatMap fun c => ',' :: piece c).length := by
  induction cs with
  | nil => simp
  | cons c cs ih =>
    simp only [List.flatMap_cons, List.cons_append, List.length_cons, List.length_append]
    omega

/-! ### Objects -/

namespace Reader

variable {step : σ → String → Reader σ}

/-- Members that the steps of an object take in, one after the other. -/
inductive Folds (step : σ → String → Reader σ) : σ → List (String × Value) → σ → Prop
  | nil (acc : σ) : Folds step acc [] acc
  | cons {acc acc' acc'' : σ} {key : String} {v : Value} {ms : List (String × Value)} :
    (∀ rest, Delimited rest → step acc key (':' :: (v.render ++ rest)) = .ok (acc', rest)) →
    Folds step acc' ms acc'' → Folds step acc ((key, v) :: ms) acc''

theorem Folds.append {acc acc' acc'' : σ} {ms ms' : List (String × Value)}
    (h : Folds step acc ms acc') (h' : Folds step acc' ms' acc'') :
    Folds step acc (ms ++ ms') acc'' := by
  induction h with
  | nil => exact h'
  | cons hstep _ ih => exact .cons hstep (ih h')

theorem members_close (fuel : Nat) (first : Bool) (acc : σ) (rest : List Char) :
    members step (fuel + 1) first acc ('\x7d' :: rest) = .ok (acc, '\x7d' :: rest) := by
  cases first <;> rfl

/-- One member is taken in, and the others are read on. -/
theorem members_step (fuel : Nat) {first : Bool} {acc acc' : σ} {key : String} {v : Value}
    {s rest : List Char} (hnext : nextMember first s =
      .ok (true, key.toList.flatMap escape ++ '"' :: ':' :: (v.render ++ rest)))
    (hstep : step acc key (':' :: (v.render ++ rest)) = .ok (acc', rest)) :
    members step (fuel + 1) first acc s = members step fuel false acc' rest := by
  have hkey := stringBody_flatMap_escape key.toList (':' :: (v.render ++ rest))
  simp only [members, hnext, bind, Except.bind, if_true, hkey, String.ofList_toList, hstep]

theorem members_tail {acc acc' : σ} {ms : List (String × Value)} (h : Folds step acc ms acc')
    {fuel : Nat} (hfuel : ms.length < fuel) (rest : List Char) :
    members step fuel false acc ((ms.flatMap fun m => ',' :: memberText m) ++ '\x7d' :: rest) =
      .ok (acc', '\x7d' :: rest) := by
  induction h generalizing fuel with
  | nil acc =>
    obtain ⟨fuel, rfl⟩ := Nat.exists_eq_succ_of_ne_zero (Nat.ne_of_gt hfuel)
    exact members_close fuel false acc rest
  | @cons acc acc₁ acc₂ key v ms hstep _ ih =>
    obtain ⟨fuel, rfl⟩ := Nat.exists_eq_succ_of_ne_zero (Nat.ne_of_gt (Nat.zero_lt_of_lt hfuel))
    rw [List.length_cons] at hfuel
    have hnext : nextMember false ((((key, v) :: ms).flatMap fun m => ',' :: memberText m) ++
        '\x7d' :: rest) = .ok (true, key.toList.flatMap escape ++ '"' :: ':' ::
          (v.render ++ ((ms.flatMap fun m => ',' :: memberText m) ++ '\x7d' :: rest))) := by
      simp only [List.flatMap_cons, memberText, quote, List.append_assoc, List.cons_append,
        List.nil_append]
      rfl
    have hrest := delimited_flatMap memberText ms (delimited_brace rest)
    rw [members_step fuel hnext (hstep _ hrest)]
    exact ih (by omega)

/-- An object reads back behind its opening bracket. -/
theorem members_render {acc acc' : σ} {ms : List (String × Value)} (h : Folds step acc ms acc')
    {fuel : Nat} (rest : List Char)
    (hfuel : (Value.renderMembers ms ++ '\x7d' :: rest).length < fuel) :
    members step fuel true acc (Value.renderMembers ms ++ '\x7d' :: rest) =
      .ok (acc', '\x7d' :: rest) := by
  obtain ⟨fuel, rfl⟩ := Nat.exists_eq_succ_of_ne_zero (Nat.ne_of_gt (Nat.zero_lt_of_lt hfuel))
  cases h with
  | nil => exact members_close fuel true acc rest
  | @cons _ acc₁ _ key v ms hstep htail =>
    rw [renderMembers_cons] at hfuel ⊢
    have hnext : nextMember true ((memberText (key, v) ++ ms.flatMap fun m => ',' :: memberText m) ++
        '\x7d' :: rest) = .ok (true, key.toList.flatMap escape ++ '"' :: ':' ::
          (v.render ++ ((ms.flatMap fun m => ',' :: memberText m) ++ '\x7d' :: rest))) := by
      simp only [memberText, quote, List.append_assoc, List.cons_append, List.nil_append]
      rfl
    have hrest := delimited_flatMap memberText ms (delimited_brace rest)
    rw [members_step fuel hnext (hstep _ hrest)]
    apply members_tail htail
    have hcount := length_le_length_flatMap memberText ms
    simp only [List.length_append, List.length_cons] at hfuel
    omega

end Reader

/-! ### Decoders -/

/-- The decoder reads the value as `a`, whatever may follow it. -/
def Decoder.Reads (d : Decoder α) (v : Value) (a : α) : Prop :=
  ∀ rest, Delimited rest → d.read (v.render ++ rest) = .ok (a, rest)

/-- The rendering starts with a character that is no blank, closes no list and starts no `null`. -/
def Value.IsOpened (v : Value) : Prop :=
  ∃ c s, v.render = c :: s ∧ isSpace c = false ∧ c ≠ ']' ∧ c ≠ 'n'

theorem Value.isOpened_text (s : String) : (Value.text s).IsOpened :=
  ⟨'"', _, rfl, by decide⟩

theorem Value.isOpened_object (ms : List (String × Value)) : (Value.object ms).IsOpened :=
  ⟨'{', _, rfl, by decide⟩

theorem nextElement_first {v : Value} (h : v.IsOpened) (rest : List Char) :
    nextElement true (v.render ++ rest) = .ok (true, v.render ++ rest) := by
  obtain ⟨c, s, hrender, hspace, hclose, -⟩ := h
  rw [hrender, List.cons_append]
  simp only [nextElement, skipSpace_cons hspace, if_neg hclose, if_true]

theorem nextElement_further {v : Value} (h : v.IsOpened) (rest : List Char) :
    nextElement false (',' :: (v.render ++ rest)) = .ok (true, v.render ++ rest) := by
  obtain ⟨c, s, hrender, hspace, hclose, -⟩ := h
  rw [hrender, List.cons_append]
  simp only [nextElement, skipSpace_cons (show isSpace ',' = false from rfl), skipSpace_cons hspace,
    if_neg hclose]
  rfl

namespace Decoder

variable {d : Decoder α} {v : Value} {a : α}

theorem Reads.decode (h : d.Reads v a) : d.decode v.toText = .ok a := by
  have hread := h [] trivial
  rw [List.append_nil] at hread
  rw [Decoder.decode, Reader.run, Value.toText, String.toList_ofList, hread]
  rfl

theorem Reads.andThen {f : α → Except Error β} {b : β} (h : d.Reads v a) (hf : f a = .ok b) :
    (d.andThen f).Reads v b := by
  intro rest hrest
  simp only [Decoder.andThen, h rest hrest, bind, Except.bind, hf]
  rfl

theorem reads_text {expected : String} {convert : String → Except Error α} {s : String}
    (h : convert s = .ok a) : (Decoder.text expected convert).Reads (.text s) a := by
  intro rest _
  have hbody := stringBody_flatMap_escape s.toList rest
  rw [render_text_append]
  simp only [Decoder.text, Reader.dispatch_cons _ (show isSpace '"' = false from rfl), if_true,
    List.drop_succ_cons, List.drop_zero, hbody, bind, Except.bind, String.ofList_toList, h]
  rfl

theorem reads_string (s : String) : Decoder.string.Reads (.text s) s :=
  reads_text rfl

/-- What starts with a quote or a bracket is not taken for `null`. -/
theorem Reads.nullable (h : d.Reads v a) (hopen : v.IsOpened) : d.nullable.Reads v (some a) := by
  obtain ⟨c, s, hrender, hspace, -, hnull⟩ := hopen
  intro rest hrest
  have hread := h rest hrest
  rw [hrender, List.cons_append] at hread ⊢
  simp only [Decoder.nullable, Reader.dispatch_cons _ hspace, if_neg hnull, hread]
  rfl

theorem reads_entries {κ : Type} {expected : String} {key : String → Except Error κ}
    {value : Decoder β} {blank acc : σ} {add : σ → κ → β → Except Error σ}
    {ms : List (String × Value)}
    (h : Reader.Folds (Decoder.entries.step key value add) blank ms acc) :
    (Decoder.entries expected key value blank add).Reads (.object ms) acc := by
  intro rest _
  have hmembers := Reader.members_render h rest (Nat.lt_succ_self _)
  rw [render_object_append]
  simp only [Decoder.entries, Reader.dispatch_cons _ (show isSpace '{' = false from rfl), if_true,
    List.drop_succ_cons, List.drop_zero, Reader.objectBody, hmembers, bind, Except.bind]
  rfl

/-- An object of strings, whatever is made of its members. -/
theorem reads_strings {expected : String} (f : σ → String × String → σ) (blank : σ)
    (ms : List (String × String)) :
    (Decoder.entries expected .ok Decoder.string blank fun acc key b => .ok (f acc (key, b))).Reads
      (.object (ms.map fun m => (m.1, .text m.2))) (ms.foldl f blank) := by
  apply reads_entries
  induction ms generalizing blank with
  | nil => exact .nil blank
  | cons m ms ih =>
    refine .cons (fun rest hdelimited => ?_) (ih (f blank m))
    have hvalue := reads_string m.2 rest hdelimited
    simp only [Decoder.entries.step, Reader.afterColon_cons, hvalue, bind, Except.bind]
    rfl

/-- An object whose entries are appended one after the other, each under a key that is new. -/
theorem reads_table {γ κ : Type} {expected : String} (key : String → Except Error κ)
    (value : Decoder β) (add : List (κ × β) → κ → β → Except Error (List (κ × β)))
    (name : γ → String) (render : γ → Value) (entry : γ → κ × β)
    (hkey : ∀ c, key (name c) = .ok (entry c).1) (hvalue : ∀ c, value.Reads (render c) (entry c).2)
    (hadd : ∀ t c, (entry c).1 ∉ t.map Prod.fst →
      add t (entry c).1 (entry c).2 = .ok (t ++ [entry c]))
    {cs : List γ} (hnodup : (cs.map fun c => (entry c).1).Nodup) :
    (Decoder.entries expected key value [] add).Reads
      (.object (cs.map fun c => (name c, render c))) (cs.map entry) := by
  have hfolds (t : List (κ × β)) (cs : List γ)
      (h : (t.map Prod.fst ++ cs.map fun c => (entry c).1).Nodup) :
      Reader.Folds (Decoder.entries.step key value add) t (cs.map fun c => (name c, render c))
        (t ++ cs.map entry) := by
    induction cs generalizing t with
    | nil =>
      rw [List.map_nil, List.map_nil, List.append_nil]
      exact .nil t
    | cons c cs ih =>
      have hnew : (entry c).1 ∉ t.map Prod.fst := by
        intro hmem
        exact (List.nodup_append.mp h).2.2 _ hmem _ (by simp) rfl
      have hrest := ih (t ++ [entry c]) (by simpa using h)
      rw [List.append_assoc] at hrest
      refine .cons (fun rest hdelimited => ?_) hrest
      simp only [Decoder.entries.step, hkey c, Reader.afterColon_cons, hvalue c rest hdelimited,
        hadd t c hnew,
        bind, Except.bind]
      rfl
  exact reads_entries (hfolds [] cs hnodup)

/-! ### Lists -/

theorem elements_close (read : Reader α) (fuel : Nat) (first : Bool) (rest : List Char) :
    Reader.elements read (fuel + 1) first (']' :: rest) = .ok ([], ']' :: rest) := by
  cases first <;> rfl

theorem elements_step (h : d.Reads v a) (fuel : Nat) {first : Bool} {s rest r : List Char}
    {as : List α} (hnext : nextElement first s = .ok (true, v.render ++ rest))
    (hdelimited : Delimited rest) (hrest : Reader.elements d.read fuel false rest = .ok (as, r)) :
    Reader.elements d.read (fuel + 1) first s = .ok (a :: as, r) := by
  simp only [Reader.elements, hnext, bind, Except.bind, if_true, h rest hdelimited, hrest]
  rfl

section
variable {render : α → Value} {as : List α} (hreads : ∀ a ∈ as, d.Reads (render a) a)
  (hopen : ∀ a ∈ as, (render a).IsOpened)
include hreads hopen

theorem elements_tail {fuel : Nat} (hfuel : as.length < fuel) (rest : List Char) :
    Reader.elements d.read fuel false
      ((as.flatMap fun a => ',' :: (render a).render) ++ ']' :: rest) = .ok (as, ']' :: rest) := by
  induction as generalizing fuel with
  | nil =>
    obtain ⟨fuel, rfl⟩ := Nat.exists_eq_succ_of_ne_zero (Nat.ne_of_gt hfuel)
    exact elements_close d.read fuel false rest
  | cons a as ih =>
    obtain ⟨fuel, rfl⟩ := Nat.exists_eq_succ_of_ne_zero (Nat.ne_of_gt (Nat.zero_lt_of_lt hfuel))
    rw [List.length_cons] at hfuel
    rw [List.forall_mem_cons] at hreads hopen
    have hdelimited :=
      delimited_flatMap (fun a => (render a).render) as (delimited_bracket rest)
    refine elements_step hreads.1 fuel ?_ hdelimited (ih hreads.2 hopen.2 (by omega))
    rw [List.flatMap_cons, List.cons_append, List.cons_append, List.append_assoc]
    exact nextElement_further hopen.1 _

theorem reads_list : (Decoder.list d).Reads (.list (as.map render)) as := by
  intro rest _
  have helements : Reader.elements d.read
      ((Value.renderItems (as.map render) ++ ']' :: rest).length + 1) true
      (Value.renderItems (as.map render) ++ ']' :: rest) = .ok (as, ']' :: rest) := by
    cases as with
    | nil => exact elements_close d.read _ true rest
    | cons a as =>
      rw [List.forall_mem_cons] at hreads hopen
      rw [List.map_cons, renderItems_cons, List.flatMap_map]
      have hcount := length_le_length_flatMap (fun a => (render a).render) as
      have hdelimited :=
        delimited_flatMap (fun a => (render a).render) as (delimited_bracket rest)
      refine elements_step hreads.1 _ ?_ hdelimited (elements_tail hreads.2 hopen.2 ?_ rest)
      · rw [List.append_assoc]
        exact nextElement_first hopen.1 _
      · simp only [List.length_append, List.length_cons]
        omega
  rw [render_list_append]
  simp only [Decoder.list, Reader.dispatch_cons _ (show isSpace '[' = false from rfl), if_true,
    List.drop_succ_cons, List.drop_zero, Reader.listBody, helements, bind, Except.bind]
  rfl

end

/-! ### Records -/

theorem reads_field {δ : Type} {name : String} {optional : Bool} {get : δ → Option α}
    {set : α → δ → δ} (h : d.Reads v a) :
    (Field.of name optional get set d).decoder.Reads v (set a) :=
  h.andThen (f := fun a => .ok (set a)) rfl

end Decoder

namespace Record

variable {δ : Type} {r : Record δ α}

/-- A member of a known name is read by its field. -/
theorem readMember_field {f : Field δ} {draft : δ} {name : String} {v : Value} {set : δ → δ}
    (hfield : r.field? name = some f) (hnew : f.known draft = false) (h : f.decoder.Reads v set)
    (rest : List Char) (hrest : Delimited rest) :
    r.readMember draft name (':' :: (v.render ++ rest)) = .ok (set draft, rest) := by
  simp only [readMember, hfield, hnew, Bool.false_eq_true, if_false, Reader.afterColon_cons,
    h rest hrest, bind, Except.bind]
  rfl

theorem reads_object {ms : List (String × Value)} {draft : δ} {a : α}
    (h : Reader.Folds r.readMember r.blank ms draft) (hbuild : r.build draft = .ok a) :
    r.decoder.Reads (.object ms) a := by
  intro rest _
  have hmembers := Reader.members_render h rest (Nat.lt_succ_of_lt (Nat.lt_succ_self _))
  have hdecoder : r.decoder.read = r.read := rfl
  rw [render_object_append, hdecoder, Record.read, Reader.dispatch_cons _ (show isSpace '{' = false from rfl)]
  simp only [if_true, List.length_cons, List.drop_succ_cons, List.drop_zero, hmembers, bind,
    Except.bind, hbuild]
  rfl

end Record

end VectorReplay.Json
