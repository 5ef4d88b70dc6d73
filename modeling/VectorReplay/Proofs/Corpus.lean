import Mathlib.Data.List.Infix
import VectorReplay.Corpus
import VectorReplay.Proofs.Computation
import VectorReplay.Proofs.Text.Utf8

/-!
What a lookup and a load answer, by the entries of the directory whose names contain the name and the
folder. None and several are told apart without reading a file; of one entry only its own text counts.
-/
namespace VectorReplay.Corpus

/-! ### Selected entries -/

/-- Entries whose names, as they are listed, contain the name and the folder of a filter. -/
def selected (f : Filter) (entries : List Bytes) : List Bytes :=
  entries.filter fun e => f.name.toList <:+: (Text.decodeLossy e).toList ∧
    f.folder.toList <:+: (Text.decodeLossy e).toList

theorem admits_iff (f : Filter) (name : String) : f.admits name = true ↔
    f.name.toList <:+: name.toList ∧ f.folder.toList <:+: name.toList := by
  rw [Filter.admits, Bool.and_eq_true, occursIn_iff, occursIn_iff]

theorem filter_admits (f : Filter) (entries : List Bytes) :
    (entries.map Text.decodeLossy).filter f.admits =
      (selected f entries).map Text.decodeLossy := by
  rw [List.filter_map, selected]
  congr 2
  funext e
  rw [Bool.eq_iff_iff, decide_eq_true_iff]
  exact admits_iff f _

/-- Longer names and folders select fewer entries. -/
theorem selected_sublist {f g : Filter} (name : f.name.toList <:+: g.name.toList)
    (folder : f.folder.toList <:+: g.folder.toList) (entries : List Bytes) :
    (selected g entries).Sublist (selected f entries) := by
  apply List.monotone_filter_right
  intro e he
  rw [decide_eq_true_iff] at he ⊢
  exact ⟨name.trans he.1, folder.trans he.2⟩

/-! ### Candidates -/

theorem candidates_perm (f : Filter) (names : List String) :
    (candidates f names).Perm (names.filter f.admits) :=
  List.mergeSort_perm _ _

theorem pairwise_candidates (f : Filter) (names : List String) :
    (candidates f names).Pairwise (· ≤ ·) := by
  have hsorted : (candidates f names).Pairwise fun a b => decide (a ≤ b) = true := by
    apply List.pairwise_mergeSort
    · intro a b c hab hbc
      exact decide_eq_true (String.le_trans (of_decide_eq_true hab) (of_decide_eq_true hbc))
    · intro a b
      simpa using String.le_total a b
  exact hsorted.imp of_decide_eq_true

/-- The order in which names are listed does not matter. -/
theorem candidates_congr (f : Filter) {names names' : List String} (h : names'.Perm names) :
    candidates f names' = candidates f names := by
  apply List.Perm.eq_of_pairwise (fun a b _ _ hab hba => String.le_antisymm hab hba)
    (pairwise_candidates f names') (pairwise_candidates f names)
  exact ((candidates_perm f names').trans (h.filter _)).trans (candidates_perm f names).symm

/-! ### Lookups and loads -/

variable {c : Corpus} {f : Filter} {entries : List Bytes}

theorem candidates_listed (f : Filter) (entries : List Bytes) :
    (candidates f (entries.map Text.decodeLossy)).Perm
      ((selected f entries).map Text.decodeLossy) := by
  rw [← filter_admits]
  exact candidates_perm f _

theorem lookup_eq (listed : c.files.list = .ok (entries.map Text.decodeLossy)) :
    c.lookup f = match candidates f (entries.map Text.decodeLossy) with
      | [] => .ok .notFound
      | [name] => (c.read name).map .found
      | names => .ok (.ambiguous names) := by
  have hmatching : c.matching f = .ok (candidates f (entries.map Text.decodeLossy)) := by
    rw [matching, listed]
  unfold lookup
  rw [hmatching]
  rfl

theorem load_eq (c : Corpus) (f : Filter) :
    c.load f = match c.lookup f with
      | .error e => .error e
      | .ok (.found v) => .ok v
      | .ok .notFound =>
        if maxNameLength < f.name.length then .error (.invalidName f.name)
        else .error (.notFound f.name)
      | .ok (.ambiguous names) =>
        if f.hasFolder then .error (.notFound f.name) else .error (.ambiguous f.name names) := by
  unfold load
  rcases c.lookup f with e | _ | _ | _ <;> rfl

theorem lookup_of_none (listed : c.files.list = .ok (entries.map Text.decodeLossy))
    (h : selected f entries = []) : c.lookup f = .ok .notFound := by
  have hperm := candidates_listed f entries
  rw [h] at hperm
  rw [lookup_eq listed, hperm.eq_nil]

theorem lookup_of_one (listed : c.files.list = .ok (entries.map Text.decodeLossy)) {e : Bytes}
    (h : selected f entries = [e]) : c.lookup f = (c.read (Text.decodeLossy e)).map .found := by
  have hperm := candidates_listed f entries
  rw [h] at hperm
  rw [lookup_eq listed, hperm.eq_singleton]

theorem lookup_of_several (listed : c.files.list = .ok (entries.map Text.decodeLossy))
    (h : 2 ≤ (selected f entries).length) :
    c.lookup f = .ok (.ambiguous (candidates f (entries.map Text.decodeLossy))) := by
  have hlength := (candidates_listed f entries).length_eq
  rw [List.length_map] at hlength
  rw [lookup_eq listed]
  match candidates f (entries.map Text.decodeLossy), hlength with
  | [], hlength => simp [← hlength] at h
  | [_], hlength => simp [← hlength] at h
  | _ :: _ :: _, _ => rfl

theorem load_of_none (h : c.lookup f = .ok .notFound) : c.load f =
    .error (if 255 < f.name.length then .invalidName f.name else .notFound f.name) := by
  rw [load_eq, h, apply_ite Except.error]
  rfl

theorem load_of_one {name : String} (h : c.lookup f = (c.read name).map .found) :
    c.load f = c.read name := by
  rw [load_eq, h]
  cases c.read name <;> rfl

theorem load_of_several {names : List String} (h : c.lookup f = .ok (.ambiguous names)) :
    c.load f = .error (if f.folder = "" then .ambiguous f.name names else .notFound f.name) := by
  rw [load_eq, h, apply_ite Except.error]
  simp only [Filter.hasFolder, decide_eq_true_eq, ite_not]

/-! ### Classification -/

/-- What a lookup and a load answer in a directory with these entries. Answers depend on the order of
the entries as little as on the texts of other files: directories that differ in nothing else are not
told apart. -/
structure Classified (c : Corpus) (f : Filter) (entries : List Bytes) : Prop where
  none : selected f entries = [] → c.lookup f = .ok .notFound
  one : ∀ e, selected f entries = [e] → c.lookup f =
    match c.files.read (Text.decodeLossy e) with
    | .error x => .error (.file (Files.join c.path (Text.decodeLossy e)) x)
    | .ok text =>
      match TestVector.decode text with
      | .error x => .error (.vector (Files.join c.path (Text.decodeLossy e)) x)
      | .ok v => .ok (.found v)
  several : 2 ≤ (selected f entries).length → ∃ names, c.lookup f = .ok (.ambiguous names) ∧
    names.Perm ((selected f entries).map Text.decodeLossy) ∧
    names.Pairwise fun a b => Text.Ascends (Text.utf8 a.toList) (Text.utf8 b.toList)
  loaded : ∀ v, c.load f = .ok v ↔ c.lookup f = .ok (.found v)
  failed : ∀ x, c.lookup f = .error x → c.load f = .error x
  invalidName : ∀ name, c.load f = .error (.invalidName name) ↔
    f.name = name ∧ selected f entries = [] ∧ 255 < f.name.length
  ambiguous : ∀ name names, c.load f = .error (.ambiguous name names) ↔
    f.name = name ∧ c.lookup f = .ok (.ambiguous names) ∧
      2 ≤ (selected f entries).length ∧ f.folder = ""
  notFound : ∀ name, c.load f = .error (.notFound name) ↔ f.name = name ∧
    (selected f entries = [] ∧ f.name.length ≤ 255 ∨
      2 ≤ (selected f entries).length ∧ f.folder ≠ "")
  unread : ∀ (files : Files) (entries' : List Bytes), entries'.Perm entries →
    files.list = .ok (entries'.map Text.decodeLossy) →
    (∀ e, selected f entries = [e] →
      files.read (Text.decodeLossy e) = c.files.read (Text.decodeLossy e)) →
    (⟨c.path, files⟩ : Corpus).lookup f = c.lookup f ∧ (⟨c.path, files⟩ : Corpus).load f = c.load f
  narrows : ∀ g : Filter, f.name.toList <:+: g.name.toList → f.folder.toList <:+: g.folder.toList →
    selected g entries ⊆ selected f entries

/-- Nothing, one entry or several are selected. -/
theorem selected_cases (f : Filter) (entries : List Bytes) : selected f entries = [] ∨
    (∃ e, selected f entries = [e]) ∨ 2 ≤ (selected f entries).length := by
  match selected f entries with
  | [] => exact .inl rfl
  | [e] => exact .inr (.inl ⟨e, rfl⟩)
  | _ :: _ :: _ => exact .inr (.inr (by simp))

theorem read_eq (c : Corpus) (name : String) : c.read name =
    match c.files.read name with
    | .error x => .error (.file (Files.join c.path name) x)
    | .ok text =>
      match TestVector.decode text with
      | .error x => .error (.vector (Files.join c.path name) x)
      | .ok v => .ok v := by
  unfold read
  cases c.files.read name with
  | error x => rfl
  | ok text => cases hdecode : TestVector.decode text <;> simp only [Except.mapError, hdecode]

/-- A file that cannot be read is a matter of the file or of its text. -/
theorem read_ne_error {x : Error} (file : ∀ path cause, x ≠ .file path cause)
    (vector : ∀ path cause, x ≠ .vector path cause) (c : Corpus) (name : String) :
    c.read name ≠ .error x := by
  rw [read_eq]
  split
  next => exact fun h => file _ _ (Except.error.inj h).symm
  next =>
    split
    next => exact fun h => vector _ _ (Except.error.inj h).symm
    next => nofun

/-- Neither the order of the entries nor the texts of entries that are not the only one matter. -/
theorem lookup_congr {files : Files} {entries' : List Bytes}
    (listed : c.files.list = .ok (entries.map Text.decodeLossy)) (perm : entries'.Perm entries)
    (listed' : files.list = .ok (entries'.map Text.decodeLossy))
    (read : ∀ e, selected f entries = [e] →
      files.read (Text.decodeLossy e) = c.files.read (Text.decodeLossy e)) :
    (⟨c.path, files⟩ : Corpus).lookup f = c.lookup f := by
  have hselected : (selected f entries').Perm (selected f entries) := perm.filter _
  rcases selected_cases f entries with h | ⟨e, h⟩ | h
  · rw [h] at hselected
    rw [lookup_of_none listed h]
    exact lookup_of_none listed' hselected.eq_nil
  · have hread : (⟨c.path, files⟩ : Corpus).read (Text.decodeLossy e) =
        c.read (Text.decodeLossy e) := by
      rw [read_eq, read_eq, read e h]
    rw [h] at hselected
    rw [lookup_of_one listed h, ← hread]
    exact lookup_of_one listed' hselected.eq_singleton
  · rw [lookup_of_several listed h, ← candidates_congr f (perm.map _)]
    exact lookup_of_several listed' (by rwa [hselected.length_eq])

theorem load_cases (listed : c.files.list = .ok (entries.map Text.decodeLossy)) :
    (selected f entries = [] ∧ c.load f =
      .error (if 255 < f.name.length then .invalidName f.name else .notFound f.name)) ∨
    (∃ e, selected f entries = [e] ∧ c.load f = c.read (Text.decodeLossy e) ∧
      c.lookup f = (c.read (Text.decodeLossy e)).map .found) ∨
    2 ≤ (selected f entries).length ∧ ∃ candidates, c.lookup f = .ok (.ambiguous candidates) ∧
      c.load f = .error (if f.folder = "" then .ambiguous f.name candidates else .notFound f.name) := by
  rcases selected_cases f entries with h | ⟨e, h⟩ | h
  · exact .inl ⟨h, load_of_none (lookup_of_none listed h)⟩
  · have hlookup := lookup_of_one listed h
    exact .inr (.inl ⟨e, h, load_of_one hlookup, hlookup⟩)
  · have hlookup := lookup_of_several listed h
    exact .inr (.inr ⟨h, _, hlookup, load_of_several hlookup⟩)

theorem lookup_classified (c : Corpus) (f : Filter) {entries : List Bytes}
    (listed : c.files.list = .ok (entries.map Text.decodeLossy)) : c.Classified f entries := by
  refine ⟨lookup_of_none listed, ?one, ?several, ?loaded, ?failed, ?invalidName, ?ambiguous,
    ?notFound, ?unread, ?narrows⟩
  case one =>
    intro e he
    rw [lookup_of_one listed he, read_eq]
    split
    next => rfl
    next => split <;> rfl
  case several =>
    intro hseveral
    refine ⟨_, lookup_of_several listed hseveral, candidates_listed f entries, ?_⟩
    exact (pairwise_candidates f _).imp Text.ascends_utf8
  case loaded =>
    intro v
    rw [load_eq]
    rcases c.lookup f with _ | _ | _ | _
    · simp
    · simp
    · simp only [reduceCtorEq, Except.ok.injEq, iff_false]
      split <;> nofun
    · simp only [reduceCtorEq, Except.ok.injEq, iff_false]
      split <;> nofun
  case failed =>
    intro x hx
    rw [load_eq, hx]
  case invalidName =>
    intro name
    rcases load_cases (f := f) listed with ⟨h, hload⟩ | ⟨e, h, hload, -⟩ | ⟨h, names, -, hload⟩
    · rw [hload, h]
      by_cases hlong : 255 < f.name.length <;> simp [hlong]
    · have hread : c.read (Text.decodeLossy e) ≠ .error (.invalidName name) :=
        read_ne_error (by simp) (by simp) c _
      simp [hload, h, hread]
    · have hne : selected f entries ≠ [] := List.ne_nil_of_length_pos (by omega)
      rw [hload]
      by_cases hfolder : f.folder = "" <;> simp [hfolder, hne]
  case ambiguous =>
    intro name names
    rcases load_cases (f := f) listed with ⟨h, hload⟩ | ⟨e, h, hload, -⟩ | ⟨h, names', hlookup, hload⟩
    · rw [hload, h]
      by_cases hlong : 255 < f.name.length <;> simp [hlong]
    · have hread : c.read (Text.decodeLossy e) ≠ .error (.ambiguous name names) :=
        read_ne_error (by simp) (by simp) c _
      simp [hload, h, hread]
    · rw [hload, hlookup]
      by_cases hfolder : f.folder = "" <;> simp [hfolder, h]
  case notFound =>
    intro name
    rcases load_cases (f := f) listed with ⟨h, hload⟩ | ⟨e, h, hload, -⟩ | ⟨h, names, -, hload⟩
    · rw [hload, h]
      by_cases hlong : 255 < f.name.length
      · simp [hlong, Nat.not_le.mpr hlong]
      · simp [hlong, Nat.not_lt.mp hlong]
    · have hread : c.read (Text.decodeLossy e) ≠ .error (.notFound name) :=
        read_ne_error (by simp) (by simp) c _
      simp [hload, h, hread]
    · have hne : selected f entries ≠ [] := List.ne_nil_of_length_pos (by omega)
      rw [hload]
      by_cases hfolder : f.folder = "" <;> simp [hfolder, hne, h]
  case unread =>
    intro files entries' perm listed' read
    have hlookup := lookup_congr listed perm listed' read
    exact ⟨hlookup, by rw [load_eq, load_eq, hlookup]⟩
  case narrows =>
    intro g name folder
    exact (selected_sublist name folder entries).subset

/-! ### Two transfers -/

namespace Transfers

/-- Two names contain the text; one of them is not UTF-8. -/
def names : List Bytes :=
  [Text.utf8 "b_transfer".toList, 0xFF :: Text.utf8 "_transfer".toList, Text.utf8 "call".toList]

/-- None of the files can be opened, and none is. -/
def corpus : Corpus where
  path := "vectors"
  files := {
    list := (FileTree.directory (names.map fun n => (n, .file []))).names
    read := fun _ => .error .notFound }

def filter : Filter where
  name := "transfer"
  folder := ""

end Transfers

open Transfers in
theorem lookup_classified_transfers : corpus.files.list = .ok (names.map Text.decodeLossy) ∧
    corpus.Classified filter names ∧ (selected filter names).length = 2 :=
  ⟨rfl, lookup_classified corpus filter rfl, by decide +kernel⟩

end VectorReplay.Corpus
