import Mathlib
import VectorReplay.Node.Remote
import VectorReplay.Proofs.Json.Grammar
import VectorReplay.Proofs.Json.Rereading

/-!
How replies are told apart. A reply is the result of a call exactly if its body is an object without an
error object whose result decodes; all others are errors under the name of the call.
-/
namespace VectorReplay

open Json (Decoder Members Reader Record Value)

/-! ### Members of an answer -/

namespace Answer

/-- Results in answers, under the brackets of the answer. -/
abbrev readResult : Reader Value :=
  Value.read (Json.depthLimit - 1)

theorem field?_result : record.field? "result" = some (.of "result" true Draft.result
    (fun a d => { d with result := some a }) (Decoder.value (Json.depthLimit - 1))) :=
  rfl

theorem field?_error : record.field? "error" = some (.of "error" false Draft.error
    (fun a d => { d with error := some a }) Complaint.record.decoder.nullable) :=
  rfl

theorem field?_other {name : String} (hresult : name ≠ "result") (herror : name ≠ "error") :
    record.field? name = none := by
  simp only [Record.field?, record, Json.Field.of, List.find?_cons, List.find?_nil,
    hresult.symm, herror.symm, decide_false]

theorem passes_fields : ∀ f ∈ record.fields, f.decoder.read.Passes := by
  have hcomplaint : ∀ f ∈ Complaint.record.fields, f.decoder.read.Passes := by
    simp only [Complaint.record, List.forall_mem_cons, List.not_mem_nil, false_implies,
      implies_true, and_true]
    exact ⟨Decoder.passes_andThen Decoder.passes_int64 _,
      Decoder.passes_andThen Decoder.passes_text _⟩
  simp only [record, List.forall_mem_cons, List.not_mem_nil, false_implies, implies_true, and_true]
  exact ⟨Decoder.passes_andThen (Value.passes_read _) _,
    Decoder.passes_andThen
      (Decoder.passes_nullable (Record.passes_read hcomplaint)) _⟩

section
variable {draft draft' : Draft} {key : String} {b : Value} {u v w : List Char}
  {ms : List (String × Value)}

/-! #### Without an error object -/

/-- A draft with one more member. The error is null if it is there. -/
def Draft.put (draft : Draft) (m : String × Value) : Draft :=
  if m.1 = "result" then { draft with result := some m.2 }
  else if m.1 = "error" then { draft with error := some none }
  else draft

theorem Draft.put_other (draft : Draft) (b : Value) (hresult : key ≠ "result")
    (herror : key ≠ "error") : draft.put (key, b) = draft := by
  simp [Draft.put, hresult, herror]

/-- What may still come: one result and one error at most, and no error object. -/
structure Draft.Admits (draft : Draft) (ms : List (String × Value)) : Prop where
  result : draft.result.toList.length + (ms.map Prod.fst).count "result" ≤ 1
  error : draft.error.toList.length + (ms.map Prod.fst).count "error" ≤ 1
  quiet : ∀ v, ("error", v) ∈ ms → v = .null

theorem Draft.Admits.of_cons (h : draft.Admits ((key, b) :: ms)) :
    (key = "result" → draft.result = none) ∧ (key = "error" → draft.error = none ∧ b = .null) ∧
      (draft.put (key, b)).Admits ms := by
  have hquiet : ∀ v, ("error", v) ∈ ms → v = .null := fun v hv =>
    h.quiet v (List.mem_cons_of_mem _ hv)
  have hnone {α : Type} {o : Option α} {n : Nat} (ho : o.toList.length + (n + 1) ≤ 1) :
      o = none ∧ n = 0 := by
    cases o with
    | none => exact ⟨rfl, by simpa using ho⟩
    | some a => simp at ho
  obtain ⟨hresult, herror, hall⟩ := h
  rw [List.map_cons] at hresult herror
  by_cases hkey : key = "result"
  · subst hkey
    rw [List.count_cons_self] at hresult
    rw [List.count_cons_of_ne (by simp)] at herror
    obtain ⟨hnew, hcount⟩ := hnone hresult
    exact ⟨fun _ => hnew, nofun, by simp [Draft.put, hcount], herror, hquiet⟩
  rw [List.count_cons_of_ne hkey] at hresult
  by_cases hkey' : key = "error"
  · subst hkey'
    rw [List.count_cons_self] at herror
    obtain ⟨hnew, hcount⟩ := hnone herror
    exact ⟨nofun, fun _ => ⟨hnew, hall b List.mem_cons_self⟩, hresult,
      by simp [Draft.put, hcount], hquiet⟩
  · rw [List.count_cons_of_ne hkey'] at herror
    refine ⟨fun heq => absurd heq hkey, fun heq => absurd heq hkey', ?_⟩
    rw [Draft.put_other draft b hkey hkey']
    exact ⟨hresult, herror, hquiet⟩

theorem readMember_of_admits (h : draft.Admits ((key, b) :: ms)) (hcolon : Json.colon u = .ok v)
    (hvalue : readResult v = .ok (b, w)) :
    record.readMember draft key u = .ok (draft.put (key, b), w) := by
  obtain ⟨hresult, herror, -⟩ := h.of_cons
  by_cases hkey : key = "result"
  · subst hkey
    exact (Record.readMember_eq_ok_iff field?_result).mpr
      ⟨hresult rfl, v, b, hcolon, hvalue, rfl⟩
  by_cases hkey' : key = "error"
  · subst hkey'
    obtain ⟨hnew, rfl⟩ := herror rfl
    have hnull : Complaint.record.decoder.nullable.read v = .ok (none, w) :=
      Decoder.read_nullable_eq_none_iff.mpr (Value.read_eq_null_iff.mp hvalue)
    exact (Record.readMember_eq_ok_iff field?_error).mpr
      ⟨hnew, v, none, hcolon, hnull, rfl⟩
  · rw [Record.readMember_unknown_eq_ok_iff (field?_other hkey hkey')]
    exact ⟨Draft.put_other draft b hkey hkey', v, hcolon,
      (Value.passes_read _).skipValue_eq hvalue⟩

/-- Members are taken in as they stand, up to the closing bracket. -/
theorem members_of_admits {first : Bool} {s rest : List Char}
    (h : Members readResult first s ms rest) (hadmits : draft.Admits ms) {fuel : Nat}
    (hfuel : s.length < fuel) : Reader.members record.readMember fuel first draft s =
      .ok (ms.foldl Draft.put draft, '\x7d' :: rest) := by
  induction h generalizing draft fuel with
  | close bracket =>
    obtain ⟨fuel, rfl⟩ := Nat.exists_eq_succ_of_ne_zero (Nat.ne_of_gt (Nat.zero_lt_of_lt hfuel))
    simp only [Reader.members, Json.nextMember_of_close _ bracket]
    rfl
  | @member first s t u v w rest name b ms opens named parted value further ih =>
    obtain ⟨fuel, rfl⟩ := Nat.exists_eq_succ_of_ne_zero (Nat.ne_of_gt (Nat.zero_lt_of_lt hfuel))
    have hw : w.length < fuel := by
      have hopens := opens.length_lt
      have hname := Json.length_of_stringBody named
      have hcolon := Json.length_of_colon parted
      have hle := (Value.passes_read _).consumes _ _ _ value
      omega
    have hread := readMember_of_admits hadmits parted value
    simp only [Reader.members, Json.nextMember_of_opens opens, named, hread, bind, Except.bind,
      if_true, List.foldl_cons]
    exact ih hadmits.of_cons.2.2 hw

/-- The draft of such members has the result, if there is one, and no error object. -/
theorem foldl_put (hadmits : draft.Admits ms) :
    (ms.foldl Draft.put draft).result = draft.result.or (ms.lookup "result") ∧
      (draft.error.join = none → (ms.foldl Draft.put draft).error.join = none) := by
  induction ms generalizing draft with
  | nil => exact ⟨Option.or_none.symm, id⟩
  | cons m ms ih =>
    obtain ⟨key, b⟩ := m
    obtain ⟨hresult, herror, hrest⟩ := hadmits.of_cons
    obtain ⟨hfold, hquiet⟩ := ih hrest
    rw [List.foldl_cons, hfold, List.lookup_cons]
    by_cases hkey : key = "result"
    · subst hkey
      rw [hresult rfl]
      exact ⟨rfl, hquiet⟩
    rw [beq_false_of_ne (Ne.symm hkey)]
    by_cases hkey' : key = "error"
    · subst hkey'
      exact ⟨rfl, fun _ => hquiet rfl⟩
    · rw [Draft.put_other draft b hkey hkey'] at hquiet ⊢
      exact ⟨rfl, hquiet⟩

/-! #### With an error object -/

/-- There is an error object, in the draft or among the members that come. -/
def Draft.Errs (draft : Draft) (ms : List (String × Value)) : Prop :=
  (∃ c, draft.error = some (some c)) ∨ ∃ v, ("error", v) ∈ ms ∧ v ≠ .null

/-- A member is read up to where it ends as a value, and an error object stays. -/
theorem errs_of_readMember (h : draft.Errs ((key, b) :: ms)) {w' : List Char}
    (hread : record.readMember draft key u = .ok (draft', w')) (hcolon : Json.colon u = .ok v)
    (hvalue : readResult v = .ok (b, w)) : w' = w ∧ draft'.Errs ms := by
  have hsame : w' = w := by
    obtain ⟨v', hcolon', hskip⟩ := Record.passes_readMember passes_fields _ _ _ _ _ hread
    cases hcolon.symm.trans hcolon'
    have hpass : Json.skipFrom [] v = .ok w := Value.passes_read _ _ _ _ hvalue []
    exact Except.ok.inj ((hskip []).symm.trans hpass)
  have hlater (hne : key ≠ "error") (herror : draft'.error = draft.error) : draft'.Errs ms := by
    obtain ⟨c, hc⟩ | ⟨x, hx, hnull⟩ := h
    · exact .inl ⟨c, herror.trans hc⟩
    · exact .inr ⟨x, (List.mem_cons.mp hx).resolve_left (by simp [hne.symm]), hnull⟩
  refine ⟨hsame, ?_⟩
  by_cases hkey : key = "result"
  · subst hkey
    obtain ⟨-, v', b', -, -, rfl⟩ := (Record.readMember_eq_ok_iff field?_result).mp hread
    exact hlater (by decide) rfl
  by_cases hkey' : key = "error"
  · subst hkey'
    obtain ⟨hnew, v', complaint, hcolon', hread', rfl⟩ :=
      (Record.readMember_eq_ok_iff field?_error).mp hread
    cases hcolon.symm.trans hcolon'
    obtain ⟨c, hc⟩ | ⟨x, hx, hnull⟩ := h
    · cases hnew.symm.trans hc
    · obtain heq | hx := List.mem_cons.mp hx
      · cases heq
        cases complaint with
        | none =>
          have hnull' : readResult v = .ok (.null, w') :=
            Value.read_eq_null_iff.mpr (Decoder.read_nullable_eq_none_iff.mp hread')
          cases hvalue.symm.trans hnull'
          exact absurd rfl hnull
        | some c => exact .inl ⟨c, rfl⟩
      · exact .inr ⟨x, hx, hnull⟩
  · obtain ⟨rfl, -⟩ :=
      (Record.readMember_unknown_eq_ok_iff (field?_other hkey hkey')).mp hread
    exact hlater hkey' rfl

/-- An error object stays up to the end, since none may come twice. -/
theorem error_of_members {first : Bool} {s t rest : List Char}
    (h : Members readResult first s ms rest) (herrs : draft.Errs ms) {fuel : Nat}
    (hread : Reader.members record.readMember fuel first draft s = .ok (draft', t)) :
    ∃ c, draft'.error = some (some c) := by
  induction h generalizing draft fuel with
  | close bracket =>
    cases fuel with
    | zero => cases hread
    | succ fuel =>
      simp only [Reader.members, Json.nextMember_of_close _ bracket] at hread
      cases hread
      obtain hfound | ⟨v, hv, -⟩ := herrs
      · exact hfound
      · cases hv
  | @member first s u v w x rest name b ms opens named parted value further ih =>
    cases fuel with
    | zero => cases hread
    | succ fuel =>
      simp only [Reader.members, Json.nextMember_of_opens opens, named, bind, Except.bind,
        if_true] at hread
      split at hread
      next => cases hread
      next taken htaken =>
        obtain ⟨rfl, hrest⟩ := errs_of_readMember herrs htaken parted value
        exact ih hrest hread

/-! #### Outcomes -/

/-- No more than one result, and no more than one error. -/
structure Unambiguous (ms : List (String × Value)) : Prop where
  result : (ms.map Prod.fst).count "result" ≤ 1
  error : (ms.map Prod.fst).count "error" ≤ 1

variable {α : Type} {decode : Value → Except Json.Error α} {text : String} {x : α}

/-- The result of an answer without an error object. It is null if it is missing. -/
theorem read_of_quiet (hobject : Json.IsObject readResult text ms) (hms : Unambiguous ms)
    (hquiet : ∀ v, ("error", v) ∈ ms → v = .null) :
    read decode text = (decode ((ms.lookup "result").getD .null)).mapError fun e =>
      "invalid result: " ++ e.message := by
  obtain ⟨s, rest, hopen, hmembers, hrest⟩ := hobject
  have hadmits : record.blank.Admits ms :=
    ⟨by simpa [record] using hms.result, by simpa [record] using hms.error, hquiet⟩
  have hread : Reader.members record.readMember (s.length + 2) true record.blank s =
      .ok (ms.foldl Draft.put record.blank, '\x7d' :: rest) :=
    members_of_admits hmembers hadmits (by omega)
  obtain ⟨hresult, herror⟩ := foldl_put hadmits
  have hanswer : record.decoder.decode text = .ok ⟨(ms.lookup "result").getD .null, none⟩ := by
    rw [Record.decode_eq_build hopen hrest hread]
    exact congrArg Except.ok (congrArg₂ Answer.mk (by rw [hresult]; rfl) (herror rfl))
  rw [read, hanswer]

/-- An error object wins, whatever else there is. -/
theorem exists_error_of_loud (hobject : Json.IsObject readResult text ms) {v : Value}
    (hv : ("error", v) ∈ ms) (hloud : v ≠ .null) : ∃ reason, read decode text = .error reason := by
  rw [read]
  split
  next e _ => exact ⟨_, rfl⟩
  next answer hanswer =>
    obtain ⟨s, rest, hopen, hmembers, -⟩ := hobject
    obtain ⟨draft, t, hread, hbuild⟩ := Record.exists_draft_of_decode hopen hanswer
    obtain ⟨c, hc⟩ := error_of_members hmembers (.inr ⟨v, hv, hloud⟩) hread
    cases hbuild
    simp only [hc, Option.join_some]
    exact ⟨_, rfl⟩

theorem read_eq_ok_iff (hobject : Json.IsObject readResult text ms) (hms : Unambiguous ms) :
    read decode text = .ok x ↔
      (∀ v, ("error", v) ∈ ms → v = .null) ∧ decode ((ms.lookup "result").getD .null) = .ok x := by
  by_cases hquiet : ∀ v, ("error", v) ∈ ms → v = .null
  · rw [read_of_quiet hobject hms hquiet, and_iff_right hquiet]
    cases decode ((ms.lookup "result").getD .null) <;> simp [Except.mapError]
  · rw [iff_false_intro (mt And.left hquiet), iff_false]
    intro hread
    simp only [not_forall] at hquiet
    obtain ⟨v, hv, hloud⟩ := hquiet
    obtain ⟨reason, herror⟩ := exists_error_of_loud hobject hv hloud
    cases herror.symm.trans hread

/-- An answer is a text of the grammar. -/
theorem isText_of_read (h : read decode text = .ok x) : Json.IsText text.toList := by
  rw [read] at h
  split at h
  next => cases h
  next answer hanswer =>
    exact Decoder.isText_of_decode (Record.passes_read passes_fields) hanswer

end

end Answer

/-! ### Replies -/

namespace Call

/-- Whether a reply tells that there is no receipt yet. -/
def Pending : (c : Call) → c.Reply → Prop
  | .receipt _, x => x = none
  | _, _ => False

theorem exists_decodeReply_iff_again {c : Call} (h : c.isAdministrative) {v : Value} :
    (∃ x, c.decodeReply v = .ok x) ↔ ∃ w, v.again = .ok w := by
  have hunit : (∃ x, v.again.map (fun _ => ()) = .ok x) ↔ ∃ w, v.again = .ok w := by
    cases v.again <;> simp [Except.map]
  cases c with
  | balance | transactionCount | code | storage | submit | receipt => cases h
  | _ => exact hunit

/-- The result of an answer is null or was read with it, so that administrative calls take it exactly if
it is ordinary. -/
theorem exists_decodeReply_iff_ordinary {c : Call} (h : c.isAdministrative) {text : String}
    {ms : List (String × Value)} (hobject : Json.IsObject Answer.readResult text ms) :
    (∃ x, c.decodeReply ((ms.lookup "result").getD .null) = .ok x) ↔
      ((ms.lookup "result").getD .null).Ordinary := by
  rw [exists_decodeReply_iff_again h]
  cases hlookup : ms.lookup "result" with
  | none => exact ⟨fun _ => .null, fun _ => ⟨.null, rfl⟩⟩
  | some v =>
    obtain ⟨before, after, rfl, -⟩ := List.lookup_eq_some_iff.mp hlookup
    obtain ⟨s, rest, -, hmembers, -⟩ := hobject
    have hagain : ∀ w, v.again = .ok w ↔ v.Ordinary ∧ w = v :=
      hmembers.forall_value (Value.ensures_again _) ("result", v) (by simp)
    show (∃ w, v.again = .ok w) ↔ v.Ordinary
    simp only [hagain, exists_eq_right]

theorem exists_decodeReply_null_iff {c : Call} :
    (∃ x, c.decodeReply .null = .ok x) ↔ c.isAdministrative ∨ ∃ h, c = .receipt h := by
  cases c with
  | receipt h => exact ⟨fun _ => .inr ⟨h, rfl⟩, fun _ => ⟨none, rfl⟩⟩
  | balance | transactionCount | code | storage | submit =>
    constructor
    · rintro ⟨x, hx⟩
      cases hx
    · rintro (hadmin | ⟨h, heq⟩)
      · cases hadmin
      · cases heq
  | _ => exact ⟨fun _ => .inl rfl, fun _ => ⟨(), rfl⟩⟩

theorem pending_iff_of_decodeReply {c : Call} {v : Value} {x : c.Reply}
    (hx : c.decodeReply v = .ok x) : c.Pending x ↔ v = .null ∧ ∃ h, c = .receipt h := by
  cases c with
  | receipt h =>
    have hreceipt : Receipt.decoder.nullable.ofValue v = .ok x := hx
    unfold Decoder.nullable at hreceipt
    dsimp only at hreceipt
    split at hreceipt
    next =>
      cases hreceipt
      exact ⟨fun _ => ⟨rfl, h, rfl⟩, fun _ => rfl⟩
    next hnull =>
      obtain ⟨receipt, -, rfl⟩ := map_eq_ok.mp hreceipt
      exact ⟨nofun, fun hv => absurd hv.1 hnull⟩
  | _ => exact ⟨False.elim, nofun⟩

end Call

namespace Http

variable {reply : Reply} {u : Url}

theorem Reply.text_of_ok (h : reply.status = 200) : reply.text u = .ok (bodyText reply.body) := by
  simp [Reply.text, isEmptyStatus, h]

theorem Reply.cases_of_text_eq_ok {text : String} (h : reply.text u = .ok text) :
    ¬ (400 ≤ reply.status ∧ reply.status < 600) ∧ (text = "" ∨ text = bodyText reply.body) := by
  unfold Reply.text at h
  split_ifs at h with hfailed hempty
  all_goals
    cases h
    simp only [Bool.and_eq_true, decide_eq_true_eq] at hfailed
  · exact ⟨hfailed, .inl rfl⟩
  · exact ⟨hfailed, .inr rfl⟩

end Http

namespace Remote

variable {ω : Type}

/-- Faults are under the name of the call. -/
def Refused (c : Call) (outcome : Except Fault c.Reply) : Prop :=
  ∃ reason, outcome = .error (.failed (.node c.method reason))

/-- Which replies are results of a call. All others are refused. -/
structure Classified (c : Call) (reply : Http.Reply) (outcome : Except Fault c.Reply) : Prop where
  /-- The bodies that are objects as values are those that spell members which are values, and do not
  begin with the number key. -/
  object :
    (∃ vs, (Decoder.value Json.depthLimit).decode (Http.bodyText reply.body) = .ok (.object vs)) ↔
      ∃ ms, Json.IsObject Answer.readResult (Http.bodyText reply.body) ms ∧ Value.NoNumber ms
  /-- Such a body gives a result if there is no error object in it and its result decodes. -/
  result : reply.status = 200 →
    ∀ ms, Json.IsObject Answer.readResult (Http.bodyText reply.body) ms → Answer.Unambiguous ms →
      ∀ x, outcome = .ok x ↔ (∀ v, ("error", v) ∈ ms → v = .null) ∧
        c.decodeReply ((ms.lookup "result").getD .null) = .ok x
  /-- There is no outcome besides. -/
  either : (∃ x, outcome = .ok x) ∨ Refused c outcome
  text : ¬ Json.IsText (Http.bodyText reply.body).toList → Refused c outcome
  status : 400 ≤ reply.status → reply.status < 600 → Refused c outcome
  /-- Administrative calls take any result in which no object begins with the number key. -/
  administrative : c.isAdministrative → reply.status = 200 →
    ∀ ms, Json.IsObject Answer.readResult (Http.bodyText reply.body) ms → Answer.Unambiguous ms →
      ((∃ x, outcome = .ok x) ↔ (∀ v, ("error", v) ∈ ms → v = .null) ∧
        ((ms.lookup "result").getD .null).Ordinary)
  null : (∃ x, c.decodeReply .null = .ok x) ↔ c.isAdministrative ∨ ∃ h, c = .receipt h
  pending : ∀ v x, c.decodeReply v = .ok x → (c.Pending x ↔ v = .null ∧ ∃ h, c = .receipt h)

variable (t : Transport ω) (r : Remote ω) (c : Call)

theorem ok_or_refused :
    (∃ x, ((node t).answer c r).1 = .ok x) ∨ Refused c ((node t).answer c r).1 := by
  simp only [node, exchange, Refused]
  generalize (t.post ⟨r.nextId, c.method, c.params⟩ r.world).1 = posted
  cases posted with
  | error f => exact .inr ⟨_, rfl⟩
  | ok body =>
    dsimp only
    cases Answer.read c.decodeReply body with
    | error reason => exact .inr ⟨_, rfl⟩
    | ok x => exact .inl ⟨x, rfl⟩

theorem answer_eq_ok_iff {x : c.Reply} : ((node t).answer c r).1 = .ok x ↔ ∃ body,
    (t.post ⟨r.nextId, c.method, c.params⟩ r.world).1 = .ok body ∧
      Answer.read c.decodeReply body = .ok x := by
  simp only [node, exchange]
  generalize (t.post ⟨r.nextId, c.method, c.params⟩ r.world).1 = posted
  cases posted with
  | error f => simp [Except.mapError]
  | ok body => cases hread : Answer.read c.decodeReply body <;> simp [Except.mapError, hread]

/-- Every reply is told apart by its status and its body, whatever the call. -/
theorem answer_classified (u : Url) (reply : Http.Reply)
    (replied : (t.post ⟨r.nextId, c.method, c.params⟩ r.world).1 = reply.text u) :
    Classified c reply ((node t).answer c r).1 := by
  have hok {x : c.Reply} : ((node t).answer c r).1 = .ok x ↔
      ∃ body, reply.text u = .ok body ∧ Answer.read c.decodeReply body = .ok x := by
    rw [answer_eq_ok_iff, replied]
  have hrefused (h : ∀ body x, reply.text u = .ok body → Answer.read c.decodeReply body ≠ .ok x) :
      Refused c ((node t).answer c r).1 := by
    refine (ok_or_refused t r c).resolve_left ?_
    rintro ⟨x, hx⟩
    obtain ⟨body, hbody, hread⟩ := hok.mp hx
    exact h body x hbody hread
  have hresult (hstatus : reply.status = 200) {ms : List (String × Value)}
      (hobject : Json.IsObject Answer.readResult (Http.bodyText reply.body) ms)
      (hms : Answer.Unambiguous ms) (x : c.Reply) : ((node t).answer c r).1 = .ok x ↔
        (∀ v, ("error", v) ∈ ms → v = .null) ∧
          c.decodeReply ((ms.lookup "result").getD .null) = .ok x := by
    rw [hok, Http.Reply.text_of_ok hstatus, ← Answer.read_eq_ok_iff hobject hms]
    simp
  exact {
    object := Json.exists_decode_object_iff (Json.depthLimit - 1) _
    result := fun hstatus _ => hresult hstatus
    either := ok_or_refused t r c
    text := by
      intro htext
      apply hrefused
      intro body x hbody hread
      obtain ⟨-, rfl | rfl⟩ := Http.Reply.cases_of_text_eq_ok hbody
      · cases hread
      · exact htext (Answer.isText_of_read hread)
    status := by
      intro hleast hmost
      apply hrefused
      intro body x hbody
      exact absurd ⟨hleast, hmost⟩ (Http.Reply.cases_of_text_eq_ok hbody).1
    administrative := by
      intro hadmin hstatus ms hobject hms
      simp only [hresult hstatus hobject hms, exists_and_left,
        Call.exists_decodeReply_iff_ordinary hadmin hobject]
    null := Call.exists_decodeReply_null_iff
    pending := fun _ _ => Call.pending_iff_of_decodeReply }

/-- The body of an answer that has an error object and a result. -/
def torn : String :=
  "\x7b\"error\":\x7b\"code\":1,\"message\":\"\"\x7d,\"result\":\"0x0\"\x7d"

def tornMembers : List (String × Value) :=
  [("error", .object [("code", .number "1"), ("message", .text "")]), ("result", .text "0x0")]

theorem isObject_torn : Json.IsObject Answer.readResult torn tornMembers := by
  have hresult : Members Answer.readResult false ",\"result\":\"0x0\"\x7d".toList
      [("result", .text "0x0")] [] := by
    have hopens : Json.Opens false ",\"result\":\"0x0\"\x7d".toList "result\":\"0x0\"\x7d".toList :=
      .further (r := "\"result\":\"0x0\"\x7d".toList) (by decide +kernel) (by decide +kernel)
    have hname : Json.stringBody "result\":\"0x0\"\x7d".toList =
        .ok ("result".toList, ":\"0x0\"\x7d".toList) := by cbv
    have hvalue : Answer.readResult "\"0x0\"\x7d".toList = .ok (.text "0x0", "\x7d".toList) := by cbv
    exact .member hopens hname (by decide +kernel) hvalue (.close (by decide +kernel))
  have hopens : Json.Opens true
      "\"error\":\x7b\"code\":1,\"message\":\"\"\x7d,\"result\":\"0x0\"\x7d".toList
      "error\":\x7b\"code\":1,\"message\":\"\"\x7d,\"result\":\"0x0\"\x7d".toList :=
    .first (by decide +kernel)
  have hname : Json.stringBody
      "error\":\x7b\"code\":1,\"message\":\"\"\x7d,\"result\":\"0x0\"\x7d".toList =
        .ok ("error".toList, ":\x7b\"code\":1,\"message\":\"\"\x7d,\"result\":\"0x0\"\x7d".toList) := by
    cbv
  have hvalue : Answer.readResult "\x7b\"code\":1,\"message\":\"\"\x7d,\"result\":\"0x0\"\x7d".toList =
      .ok (.object [("code", .number "1"), ("message", .text "")],
        ",\"result\":\"0x0\"\x7d".toList) := by
    cbv
  have hmembers := Members.member hopens hname (by decide +kernel) hvalue hresult
  exact ⟨_, [], by decide +kernel, hmembers, by decide +kernel⟩

/-- Gives every request the same reply. -/
def repeating (u : Url) (reply : Http.Reply) : Transport Unit :=
  ⟨fun _ w => (reply.text u, w)⟩

/-- A balance that comes with an error object is refused. -/
theorem answer_classified_torn : Refused (.balance (FixedBytes.zero 20))
    ((node (repeating ⟨"http", none, "/"⟩ ⟨200, torn⟩)).answer (.balance (FixedBytes.zero 20))
      ⟨1, ()⟩).1 := by
  have hclassified := answer_classified (repeating ⟨"http", none, "/"⟩ ⟨200, torn⟩) ⟨1, ()⟩
    (.balance (FixedBytes.zero 20)) ⟨"http", none, "/"⟩ ⟨200, torn⟩ rfl
  refine hclassified.either.resolve_left ?_
  rintro ⟨x, hx⟩
  have htext : Http.bodyText torn = torn := by cbv
  have hresult := hclassified.result rfl tornMembers (by rw [htext]; exact isObject_torn)
    ⟨by decide, by decide⟩ x
  cases (hresult.mp hx).1 _ List.mem_cons_self

/-! ### A result that no call takes -/

/-- The body of an answer whose result has the number key, behind another key. -/
def disguised : String :=
  "\x7b\"result\":\x7b\"a\":0,\"$serde_json::private::Number\":\"\"\x7d\x7d"

/-- The result as it was read. Its members are sorted, and the number key stands in front. -/
def disguisedResult : Value :=
  .object [(Value.numberKey, .text ""), ("a", .number "0")]

theorem decode_disguised : (Decoder.value Json.depthLimit).decode disguised =
    .ok (.object [("result", disguisedResult)]) := by
  cbv

theorem isObject_disguised :
    Json.IsObject Answer.readResult disguised [("result", disguisedResult)] := by
  have hopens : Json.Opens true
      "\"result\":\x7b\"a\":0,\"$serde_json::private::Number\":\"\"\x7d\x7d".toList
      "result\":\x7b\"a\":0,\"$serde_json::private::Number\":\"\"\x7d\x7d".toList :=
    .first (by decide +kernel)
  have hname : Json.stringBody
      "result\":\x7b\"a\":0,\"$serde_json::private::Number\":\"\"\x7d\x7d".toList =
        .ok ("result".toList,
          ":\x7b\"a\":0,\"$serde_json::private::Number\":\"\"\x7d\x7d".toList) := by
    cbv
  have hvalue : Answer.readResult
      "\x7b\"a\":0,\"$serde_json::private::Number\":\"\"\x7d\x7d".toList =
        .ok (disguisedResult, "\x7d".toList) := by
    cbv
  have hend : Members Answer.readResult false "\x7d".toList [] [] := .close (by decide +kernel)
  have hmembers := Members.member hopens hname (by decide +kernel) hvalue hend
  exact ⟨_, [], by decide +kernel, hmembers, by decide +kernel⟩

/-- An administrative call is refused on account of its result. -/
theorem not_answered_disguised : ¬ ∀ (c : Call) (reply : Http.Reply) (vs ms : List (String × Value)),
    c.isAdministrative → reply.status = 200 →
    (Decoder.value Json.depthLimit).decode (Http.bodyText reply.body) = .ok (.object vs) →
    Json.IsObject Answer.readResult (Http.bodyText reply.body) ms → Answer.Unambiguous ms →
    (∀ v, ("error", v) ∈ ms → v = .null) →
    ∃ x, ((node (repeating ⟨"http", none, "/"⟩ reply)).answer c ⟨1, ()⟩).1 = .ok x := by
  intro hany
  have htext : Http.bodyText disguised = disguised := by cbv
  have hunambiguous : Answer.Unambiguous [("result", disguisedResult)] := ⟨by decide, by decide⟩
  obtain ⟨x, hx⟩ := hany (.setChainId 1) ⟨200, disguised⟩ _ [("result", disguisedResult)] rfl rfl
    (by rw [htext]; exact decode_disguised) (by rw [htext]; exact isObject_disguised) hunambiguous
    (by simp)
  obtain ⟨body, hbody, hread⟩ := (answer_eq_ok_iff _ _ _).mp hx
  have hsame : body = disguised := (Except.ok.inj hbody).symm.trans htext
  rw [hsame, Answer.read_eq_ok_iff isObject_disguised hunambiguous] at hread
  have hrefused : disguisedResult.again = .error (.rejected Json.Error.eofInValue.message) := by rfl
  obtain ⟨-, hdecode⟩ := hread
  have hagain : disguisedResult.again.map (fun _ => ()) = .ok x := hdecode
  rw [hrefused] at hagain
  cases hagain

end Remote

end VectorReplay
