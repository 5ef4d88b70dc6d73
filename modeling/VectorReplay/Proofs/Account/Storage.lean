import Mathlib.Data.List.Nodup
import Mathlib.Data.List.Perm.Basic
import VectorReplay.Account.Document
import VectorReplay.Proofs.Computation

/-!
Account storage as a map of words, and when it is put together from texts: exactly if its entries are,
in some order, the words of all the texts.
-/
namespace VectorReplay.Storage

open Json

theorem mem_entries {s : Storage} {key value : Word} (h : s.get? key = some value) :
    (key, value) ∈ s.entries := by
  unfold get? at h
  obtain ⟨before, after, heq, -⟩ := List.lookup_eq_some_iff.mp h
  rw [heq]
  simp

theorem get?_of_mem {s : Storage} {e : Word × Word} (h : e ∈ s.entries) :
    s.get? e.1 = some e.2 := by
  obtain ⟨before, after, heq⟩ := List.append_of_mem h
  have hascending := s.ascending
  rw [heq, List.pairwise_append] at hascending
  have hbefore : ∀ d ∈ before, e.1 != d.1 := by
    intro d hd
    have hlt : d.1 < e.1 := hascending.2.2 d hd e List.mem_cons_self
    simpa using (BitVec.ne_of_lt hlt).symm
  exact List.lookup_eq_some_iff.mpr ⟨before, after, heq, hbefore⟩

theorem ne_of_get? {s : Storage} {key : Word} (h : s.get? key = none) {e : Word × Word}
    (he : e ∈ s.entries) : e.1 ≠ key := by
  rintro rfl
  rw [get?_of_mem he] at h
  cases h

theorem contains_iff {s : Storage} {key : Word} :
    s.contains key = true ↔ key ∈ s.entries.map Prod.fst := by
  rw [contains, Option.isSome_iff_exists]
  constructor
  · rintro ⟨value, hget⟩
    exact List.mem_map_of_mem (mem_entries hget)
  · intro hmem
    obtain ⟨e, he, rfl⟩ := List.mem_map.mp hmem
    exact ⟨e.2, get?_of_mem he⟩

theorem nodup_words (s : Storage) : (s.entries.map Prod.fst).Nodup := by
  rw [List.Nodup, List.pairwise_map]
  exact s.ascending.imp BitVec.ne_of_lt

/-- The entries in any order determine the storage. -/
theorem eq_of_perm {s s' : Storage} (h : s.entries.Perm s'.entries) : s = s' := by
  have hentries : s.entries = s'.entries := by
    refine List.Perm.eq_of_pairwise (fun d e _ _ hde hed => ?_) s.ascending s'.ascending h
    exact absurd hed (BitVec.not_lt.mpr (BitVec.le_of_lt hde))
  cases s
  cases s'
  cases hentries
  rfl

theorem place_perm {key : Word} (value : Word) {es : List (Word × Word)}
    (h : key ∉ es.map Prod.fst) : (place key value es).Perm ((key, value) :: es) := by
  induction es with
  | nil => exact .refl _
  | cons e es ih =>
    rw [List.map_cons, List.mem_cons, not_or] at h
    rw [place]
    split
    · exact .refl _
    · rw [if_neg h.1]
      exact ((ih h.2).cons e).trans (.swap _ _ _)

/-! ### Texts of entries -/

/-- The words that the texts of an entry stand for. -/
def words (entry : String × String) : Except Json.Error (Word × Word) := do
  let key ← HexText.parseInteger entry.1
  let value ← HexText.parseInteger entry.2
  pure (key, value)

theorem words_eq_ok {t : String × String} {e : Word × Word} : words t = .ok e ↔
    HexText.parseInteger t.1 = .ok e.1 ∧ HexText.parseInteger t.2 = .ok e.2 := by
  simp only [words, bind_eq_ok]
  constructor
  · rintro ⟨key, hkey, value, hvalue, ⟨⟩⟩
    exact ⟨hkey, hvalue⟩
  · rintro ⟨hkey, hvalue⟩
    exact ⟨e.1, hkey, e.2, hvalue, rfl⟩

/-- An entry is taken in exactly if its texts stand for words and its key is new. -/
theorem addText_eq_ok {s s' : Storage} {t : String × String} : s.addText t = .ok s' ↔
    ∃ e, words t = .ok e ∧ e.1 ∉ s.entries.map Prod.fst ∧ s' = s.insert e.1 e.2 := by
  simp only [addText, bind_eq_ok, words_eq_ok, ← contains_iff]
  constructor
  · rintro ⟨key, hkey, value, hvalue, h⟩
    split at h
    · cases h
    · rename_i hnew
      cases h
      exact ⟨(key, value), ⟨hkey, hvalue⟩, hnew, rfl⟩
  · rintro ⟨e, ⟨hkey, hvalue⟩, hnew, rfl⟩
    exact ⟨e.1, hkey, e.2, hvalue, if_neg hnew⟩

/-- The key of an entry whose texts were read. -/
abbrev keyOf : Except Json.Error (Word × Word) → Except Json.Error Word :=
  Except.map Prod.fst

theorem map_keyOf {ts : List (String × String)} (h : ∀ t ∈ ts, ∃ e, words t = .ok e) :
    (ts.map words).map keyOf = ts.map fun t => HexText.parseInteger t.1 := by
  rw [List.map_map]
  refine List.map_congr_left fun t ht => ?_
  obtain ⟨e, he⟩ := h t ht
  rw [Function.comp_apply, he, (words_eq_ok.mp he).1]
  rfl

theorem keyOf_entries (es : List (Word × Word)) :
    (es.map .ok).map keyOf = (es.map Prod.fst).map .ok := by
  rw [List.map_map, List.map_map]
  rfl

theorem nodup_keyOf (s : Storage) : ((s.entries.map .ok).map keyOf).Nodup := by
  rw [keyOf_entries]
  exact s.nodup_words.map ok_injective

/-- Of words that are the entries of one storage, none has the key of another. -/
theorem not_mem_of_perm {s : Storage} {e : Word × Word} {es : List (Word × Word)}
    {rs : List (Except Json.Error (Word × Word))}
    (h : (Except.ok e :: (rs ++ es.map .ok)).Perm (s.entries.map .ok)) :
    e.1 ∉ es.map Prod.fst := by
  have hnew := (List.nodup_cons.mp ((h.map keyOf).nodup_iff.mpr s.nodup_keyOf)).1
  intro hmem
  obtain ⟨d, hd, heq⟩ := List.mem_map.mp hmem
  rw [List.map_append, List.map_map, List.mem_append] at hnew
  exact hnew (.inr (List.mem_map.mpr ⟨d, hd, congrArg Except.ok heq⟩))

/-- Taking texts in leads to `s` exactly if their words and the entries that were there are, in some
order, the entries of `s`. -/
theorem foldlM_addText_eq_ok {acc s : Storage} {ts : List (String × String)} :
    ts.foldlM addText acc = .ok s ↔
      (ts.map words ++ acc.entries.map Except.ok).Perm (s.entries.map .ok) := by
  induction ts generalizing acc with
  | nil =>
    rw [List.map_nil, List.nil_append, List.map_perm_map_iff ok_injective]
    constructor
    · rintro ⟨⟩
      exact .refl _
    · intro h
      rw [eq_of_perm h]
      rfl
  | cons t ts ih =>
    rw [List.foldlM_cons, bind_eq_ok, List.map_cons, List.cons_append]
    constructor
    · rintro ⟨taken, htaken, h⟩
      obtain ⟨e, he, hnew, rfl⟩ := addText_eq_ok.mp htaken
      rw [he]
      have hperm := ((place_perm e.2 hnew).map Except.ok).append_left (ts.map words)
      exact List.perm_middle.symm.trans (hperm.symm.trans (ih.mp h))
    · intro h
      obtain ⟨e, -, he⟩ := List.mem_map.mp (h.mem_iff.mp List.mem_cons_self)
      rw [← he] at h
      have hnew := not_mem_of_perm h
      refine ⟨acc.insert e.1 e.2, addText_eq_ok.mpr ⟨e, he.symm, hnew, rfl⟩, ih.mpr ?_⟩
      have hperm := ((place_perm e.2 hnew).map Except.ok).append_left (ts.map words)
      exact hperm.trans (List.perm_middle.trans h)

/-- A storage is put together from texts exactly if its entries are their words, in some order. -/
theorem ofTexts_eq_ok {s : Storage} {ts : List (String × String)} :
    ofTexts ts = .ok s ↔ (ts.map words).Perm (s.entries.map .ok) := by
  rw [ofTexts, foldlM_addText_eq_ok, empty, List.map_nil, List.append_nil]

section
variable {s : Storage} {ts : List (String × String)} (h : ofTexts ts = .ok s)
include h

theorem size_of_ofTexts : s.size = ts.length := by
  have hlength := (ofTexts_eq_ok.mp h).length_eq
  rw [List.length_map, List.length_map] at hlength
  exact hlength.symm

theorem mem_entries_of_ofTexts {e : Word × Word} : e ∈ s.entries ↔ ∃ t ∈ ts, words t = .ok e := by
  have hmem := (ofTexts_eq_ok.mp h).mem_iff (a := .ok e)
  rw [List.mem_map, List.mem_map] at hmem
  rw [hmem]
  constructor
  · exact fun he => ⟨e, he, rfl⟩
  · rintro ⟨d, hd, ⟨⟩⟩
    exact hd

theorem exists_words_of_ofTexts {t : String × String} (ht : t ∈ ts) : ∃ e, words t = .ok e := by
  have hmem := (ofTexts_eq_ok.mp h).mem_iff.mp (List.mem_map_of_mem ht)
  obtain ⟨e, -, he⟩ := List.mem_map.mp hmem
  exact ⟨e, he.symm⟩

theorem get?_of_ofTexts {t : String × String} (ht : t ∈ ts) :
    ∃ e, words t = .ok e ∧ s.get? e.1 = some e.2 := by
  obtain ⟨e, he⟩ := exists_words_of_ofTexts h ht
  exact ⟨e, he, get?_of_mem ((mem_entries_of_ofTexts h).mpr ⟨t, ht, he⟩)⟩

theorem nodup_keys_of_ofTexts : (ts.map fun t => HexText.parseInteger t.1).Nodup := by
  rw [← map_keyOf fun t => exists_words_of_ofTexts h]
  exact ((ofTexts_eq_ok.mp h).map keyOf).nodup_iff.mpr s.nodup_keyOf

/-- No two texts have keys that stand for one word. -/
theorem eq_of_ofTexts {t t' : String × String} (ht : t ∈ ts) (ht' : t' ∈ ts) {key : Word}
    (hkey : HexText.parseInteger t.1 = .ok key) (hkey' : HexText.parseInteger t'.1 = .ok key) :
    t = t' :=
  List.inj_on_of_nodup_map (nodup_keys_of_ofTexts h) ht ht' (hkey.trans hkey'.symm)

end

end VectorReplay.Storage
