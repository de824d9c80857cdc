import TaskEngine.Memory.RecordStore
import TaskEngine.Proofs.Cluster.Forms

/-!
# What the cluster promises

The cluster keeps the objects of a kind under their names. It shows the one that is asked for, makes
a new one under a free name only, replaces and removes one only where there is one, and lists all of
them in any order. A refusal says why in its status and in its body. What a client is told follows
from these promises alone.
-/

namespace TaskEngine.Cluster

open Decode

variable {σ α β : Type}

/-! ## Replies -/

/-- A reply that grants a request and shows something. -/
def HttpReply.Shows (reply : HttpReply) (P : Json → Prop) : Prop :=
  reply.status < refusalStatus ∧ ∃ j, reply.body.json? = some j ∧ P j

/-- A reply that refuses a request with a code and a reason. -/
def HttpReply.Refuses (reply : HttpReply) (code : Nat) (reason : String) : Prop :=
  reply.status = code ∧ ∃ fields, reply.body.json? = some (.obj fields) ∧
    Conforms refusalRules fields ∧ Dict.lookup "code" fields = some (.ofInt code) ∧
    Dict.lookup "reason" fields = some (.str reason)

/-- The form of a report on a removal, or of the object that was removed. -/
def Removal (Shown : Json → Prop) (j : Json) : Prop :=
  (∃ fields, j = .obj fields ∧ Dict.lookup "kind" fields = some (.str "Status") ∧
    Conforms Collection.reportRules fields) ∨ Shown j

/-- The form of a listing of what is stored, in any order. -/
def Listing (Shown : String → β → Json → Prop) (stored : Dict β) (j : Json) : Prop :=
  ∃ fields items entries, j = .obj fields ∧ (fields.map (·.1)).Nodup ∧
    Dict.lookup "items" fields = some (.arr items) ∧ List.Perm entries stored.toList ∧
    List.Forall₂ (fun entry item => Shown entry.1 entry.2 item) entries items

/-! ## Promises -/

/-- A request is granted, and this is stored then. -/
structure Grants (stored : σ → Dict β) (answered : HttpReply × σ) (P : Json → Prop)
    (after : Dict β) : Prop where
  shows : answered.1.Shows P
  kept : stored answered.2 = after

/-- A request is refused, and this is still stored. -/
structure Denies (stored : σ → Dict β) (answered : HttpReply × σ) (code : Nat) (reason : String)
    (before : Dict β) : Prop where
  refuses : answered.1.Refuses code reason
  kept : stored answered.2 = before

/-- The cluster keeps the objects of a kind on a path: how they are shown and submitted, and what is
stored of them. -/
structure Keeps (answer : HttpRequest → σ → HttpReply × σ) (path : String)
    (Shown Submitted : String → β → Json → Prop) (stored : σ → Dict β) : Prop where
  /-- An object that is asked for is shown. -/
  get : ∀ {s name held}, Name.isLegal name = true → (stored s).get? name = some held →
    Grants stored (answer { method := .get, path := path ++ "/" ++ name } s) (Shown name held)
      (stored s)
  get_absent : ∀ {s name}, Name.isLegal name = true → (stored s).get? name = none →
    Denies stored (answer { method := .get, path := path ++ "/" ++ name } s) 404 "NotFound"
      (stored s)
  /-- All objects are listed, in an order of the cluster's own. -/
  list : ∀ {s}, Grants stored (answer { method := .get, path } s) (Listing Shown (stored s))
    (stored s)
  /-- A new object is stored under a free name. -/
  post : ∀ {s name held body}, Name.isLegal name = true → Submitted name held body →
    (stored s).get? name = none →
    Grants stored (answer { method := .post, path, body := some body } s) (Shown name held)
      ((stored s).insert name held)
  post_taken : ∀ {s name held body old}, Name.isLegal name = true → Submitted name held body →
    (stored s).get? name = some old →
    Denies stored (answer { method := .post, path, body := some body } s) 409 "AlreadyExists"
      (stored s)
  /-- An object that is stored is replaced. -/
  put : ∀ {s name held body old}, Name.isLegal name = true → Submitted name held body →
    (stored s).get? name = some old →
    Grants stored (answer { method := .put, path := path ++ "/" ++ name, body := some body } s)
      (Shown name held) ((stored s).insert name held)
  put_absent : ∀ {s name held body}, Name.isLegal name = true → Submitted name held body →
    (stored s).get? name = none →
    Denies stored (answer { method := .put, path := path ++ "/" ++ name, body := some body } s) 404
      "NotFound" (stored s)
  /-- An object that is stored is removed. -/
  delete : ∀ {s name held}, Name.isLegal name = true → (stored s).get? name = some held →
    Grants stored
      (answer { method := .delete, path := path ++ "/" ++ name, body := some (.obj []) } s)
      (Removal (Shown name held)) ((stored s).erase name)
  delete_absent : ∀ {s name}, Name.isLegal name = true → (stored s).get? name = none →
    Denies stored
      (answer { method := .delete, path := path ++ "/" ++ name, body := some (.obj []) } s) 404
      "NotFound" (stored s)

/-! ## What a client is told -/

/-- What a reply brings. -/
def received (read : Body → Option α) (reply : HttpReply) : Except ClientError α :=
  if refusalStatus ≤ reply.status then .error (refusal reply)
  else
    match read reply.body with
    | some a => .ok a
    | none => .error .unusable

/-- Sending a request is one step, and the reply decides. -/
theorem run_send {answer : HttpRequest → σ → HttpReply × σ} (request : HttpRequest)
    (read : Body → Option α) (s : σ) :
    (send request read).run answer s =
      (.ok (received read (answer request s).1), (answer request s).2) := by
  have hrun : (Dialogue.request request : Conversation HttpReply).run answer s =
      (.ok (answer request s).1, (answer request s).2) := rfl
  refine (Dialogue.run_andThen_of_ok hrun).trans ?_
  rw [received]
  split
  · rfl
  · cases read (answer request s).1.body <;> rfl

theorem oneName_refusalRules : OneName refusalRules := by
  simp [OneName, refusalRules, Rule.required, Rule.defaulted]

/-- The code and the reason of a refusal are those in its body. -/
theorem refusal_of_refuses {reply : HttpReply} {code : Nat} {reason : String}
    (h : reply.Refuses code reason) (hcode : code ≤ 0xFFFF) :
    refusal reply = .refused code reason := by
  obtain ⟨-, fields, hbody, hconforms, hcodes, hreason⟩ := h
  obtain ⟨found, hread, hfound⟩ := hconforms.exists_objectFields oneName_refusalRules
  have hcodeField : found.get? "code" = some (.ofInt code) :=
    (hfound (.required "code" (intWithin 0 0xFFFF "u16")) (by simp [refusalRules])).trans hcodes
  have hreasonField : found.get? "reason" = some (.str reason) :=
    (hfound (.defaulted "reason" text) (by simp [refusalRules])).trans hreason
  have hint : int64 (.ofInt code) = .ok code := by
    rw [int64, Json.ofInt, intWithin, if_pos (by omega)]
  have hrefusal : readRefusal (.obj fields) = .ok (.refused code reason) := by
    rw [readRefusal, record, hread]
    simp only [bind, Except.bind, Fields.get, Fields.getD, hcodeField, hreasonField, hint]
    rfl
  rw [refusal, hbody, Option.map_some, hrefusal]

/-- What is granted is read. -/
theorem Grants.run_send {answer : HttpRequest → σ → HttpReply × σ} {request : HttpRequest} {s : σ}
    {stored : σ → Dict β} {P : Json → Prop} {after : Dict β}
    (h : Grants stored (answer request s) P after) {decode : Json → Decoded α} {Q : α → Prop}
    (hread : ∀ j, P j → ∃ a, decode j = .ok a ∧ Q a) :
    ∃ a t, (send request (reading decode)).run answer s = (.ok (.ok a), t) ∧ Q a ∧
      stored t = after := by
  obtain ⟨⟨hstatus, j, hbody, hshown⟩, hkept⟩ := h
  obtain ⟨a, hdecode, hfits⟩ := hread j hshown
  refine ⟨a, (answer request s).2, ?_, hfits, hkept⟩
  rw [Cluster.run_send, received, if_neg (Nat.not_le.mpr hstatus), reading, hbody,
    Option.bind_some, hdecode]
  rfl

/-- A refusal is told with its code and its reason. -/
theorem Denies.run_send {answer : HttpRequest → σ → HttpReply × σ} {request : HttpRequest} {s : σ}
    {stored : σ → Dict β} {code : Nat} {reason : String} {before : Dict β}
    (h : Denies stored (answer request s) code reason before)
    (hcode : refusalStatus ≤ code ∧ code ≤ 0xFFFF) (read : Body → Option α) :
    ∃ t, (send request read).run answer s = (.ok (.error (.refused code reason)), t) ∧
      stored t = before := by
  refine ⟨(answer request s).2, ?_, h.kept⟩
  rw [Cluster.run_send, received, h.refuses.1, if_pos hcode.1,
    refusal_of_refuses h.refuses hcode.2]

/-! ## Objects of a collection -/

section Collection

variable {answer : HttpRequest → σ → HttpReply × σ} {c : Collection α}
  {Shown Submitted : String → β → Json → Prop} {stored : σ → Dict β} {s : σ} {name : String}
  {held : β} {Q : String → β → α → Prop}

/-- A legal name is not empty. -/
theorem sendNamed_of_legal {γ : Type} (hlegal : Name.isLegal name = true) (request : HttpRequest)
    (read : Body → Option γ) : Collection.sendNamed name request read = send request read := by
  have hfilled : name.isEmpty = false := by
    by_contra hempty
    rw [Bool.not_eq_false, String.isEmpty_iff] at hempty
    subst hempty
    exact absurd hlegal (by decide)
  rw [Collection.sendNamed, hfilled]
  rfl

/-- An object that is there is found. -/
theorem Keeps.run_find (h : Keeps answer c.path Shown Submitted stored)
    (hread : ∀ name held j, Shown name held j → ∃ a, c.kind.decode j = .ok a ∧ Q name held a)
    (hlegal : Name.isLegal name = true) (hget : (stored s).get? name = some held) :
    ∃ a t, (c.find name).run answer s = (.ok (.ok (some a)), t) ∧ Q name held a ∧
      stored t = stored s := by
  obtain ⟨a, t, hrun, hfits, hkept⟩ := (h.get hlegal hget).run_send (hread name held)
  rw [← sendNamed_of_legal hlegal] at hrun
  exact ⟨a, t, Dialogue.run_andThen_of_ok hrun, hfits, hkept⟩

/-- An object that is not there is found to be absent. -/
theorem Keeps.run_find_absent (h : Keeps answer c.path Shown Submitted stored)
    (hlegal : Name.isLegal name = true) (hget : (stored s).get? name = none) :
    ∃ t, (c.find name).run answer s = (.ok (.ok none), t) ∧ stored t = stored s := by
  obtain ⟨t, hrun, hkept⟩ := (h.get_absent hlegal hget).run_send (by decide)
    (reading c.kind.decode)
  rw [← sendNamed_of_legal hlegal] at hrun
  exact ⟨t, Dialogue.run_andThen_of_ok hrun, hkept⟩

/-- A write is refused for what its mode demands, or else it is made. -/
theorem Keeps.run_write (h : Keeps answer c.path Shown Submitted stored)
    (hread : ∀ name held j, Shown name held j → ∃ a, c.kind.decode j = .ok a ∧ Q name held a)
    (hlegal : Name.isLegal name = true) {object : α}
    (hbody : Submitted name held (c.kind.encode object)) (mode : WriteMode) (resource : String) :
    (∃ a t, mode.demand resource name ((stored s).contains name) = .ok () ∧
      (c.write name object mode).run answer s = (.ok (.ok a), t) ∧ Q name held a ∧
      stored t = (stored s).insert name held) ∨
    (∃ e t, mode.demand resource name ((stored s).contains name) =
        .error (ClientError.toEngine resource name e) ∧
      (c.write name object mode).run answer s = (.ok (.error e), t) ∧ stored t = stored s) := by
  -- The four cases are the four promises about writes; the codes become the errors of the demand.
  cases mode with
  | create =>
    cases hget : (stored s).get? name with
    | none =>
      obtain ⟨a, t, hrun⟩ := (h.post hlegal hbody hget).run_send (hread name held)
      exact .inl ⟨a, t, by rw [Dict.contains_eq_false_iff.mpr hget]; rfl, hrun⟩
    | some old =>
      obtain ⟨t, hrun⟩ := (h.post_taken hlegal hbody hget).run_send (by decide)
        (reading c.kind.decode)
      exact .inr ⟨_, t, by rw [Dict.contains_iff.mpr ⟨old, hget⟩]; rfl, hrun⟩
  | update =>
    cases hget : (stored s).get? name with
    | none =>
      obtain ⟨t, hrun⟩ := (h.put_absent hlegal hbody hget).run_send (by decide)
        (reading c.kind.decode)
      rw [← sendNamed_of_legal hlegal] at hrun
      exact .inr ⟨_, t, by rw [Dict.contains_eq_false_iff.mpr hget]; rfl, hrun⟩
    | some old =>
      obtain ⟨a, t, hrun⟩ := (h.put hlegal hbody hget).run_send (hread name held)
      rw [← sendNamed_of_legal hlegal] at hrun
      exact .inl ⟨a, t, by rw [Dict.contains_iff.mpr ⟨old, hget⟩]; rfl, hrun⟩

theorem oneName_reportRules : OneName Collection.reportRules := by
  simp [OneName, Collection.reportRules, Rule.nullable, Rule.defaulted]

/-- An object that is there is removed. -/
theorem Keeps.run_delete (h : Keeps answer c.path Shown Submitted stored)
    (hread : ∀ name held j, Shown name held j →
      j.field? "kind" ≠ some (.str "Status") ∧ ∃ a, c.kind.decode j = .ok a)
    (hlegal : Name.isLegal name = true) (hget : (stored s).get? name = some held) :
    ∃ t, (c.delete name false).run answer s = (.ok (.ok ()), t) ∧
      stored t = (stored s).erase name := by
  have hreport : ∀ j, Removal (Shown name held) j →
      ∃ u, Collection.readRemoval c.kind.decode j = .ok u ∧ u = () := by
    rintro j (⟨fields, rfl, hkind, hconforms⟩ | hshown)
    · obtain ⟨found, hfound, -⟩ := hconforms.exists_objectFields oneName_reportRules
      refine ⟨(), ?_, rfl⟩
      have hfield : (Json.obj fields).field? "kind" = some (.str "Status") := hkind
      rw [Collection.readRemoval, if_pos hfield, record, hfound]
      rfl
    · obtain ⟨hkind, a, hdecode⟩ := hread name held j hshown
      refine ⟨(), ?_, rfl⟩
      rw [Collection.readRemoval, if_neg hkind, hdecode]
      rfl
  obtain ⟨u, t, hrun, -, hkept⟩ := (h.delete hlegal hget).run_send hreport
  rw [← sendNamed_of_legal hlegal] at hrun
  exact ⟨t, hrun, hkept⟩

/-- An object that is not there is not removed. -/
theorem Keeps.run_delete_absent (h : Keeps answer c.path Shown Submitted stored)
    (hlegal : Name.isLegal name = true) (hget : (stored s).get? name = none) :
    ∃ t, (c.delete name false).run answer s = (.ok (.error (.refused 404 "NotFound")), t) ∧
      stored t = stored s := by
  obtain ⟨t, hrun⟩ := (h.delete_absent hlegal hget).run_send (by decide)
    (reading (Collection.readRemoval c.kind.decode))
  rw [← sendNamed_of_legal hlegal] at hrun
  exact ⟨t, hrun⟩

/-- Items that show what is stored are read one by one. -/
theorem exists_mapM_decode {decode : Json → Decoded α}
    (hread : ∀ name held j, Shown name held j → ∃ a, decode j = .ok a ∧ Q name held a)
    {entries : List (String × β)} {items : List Json}
    (h : List.Forall₂ (fun entry item => Shown entry.1 entry.2 item) entries items) :
    ∃ objects, items.mapM decode = .ok objects ∧
      List.Forall₂ (fun entry object => Q entry.1 entry.2 object) entries objects := by
  induction h with
  | nil => exact ⟨[], rfl, .nil⟩
  | cons hhead _ ih =>
    obtain ⟨a, hdecode, hfits⟩ := hread _ _ _ hhead
    obtain ⟨objects, hrest, hobjects⟩ := ih
    refine ⟨a :: objects, ?_, .cons hfits hobjects⟩
    rw [List.mapM_cons, hdecode, hrest]
    rfl

/-- A listing is read as the objects that it lists. -/
theorem exists_decodeList {decode : Json → Decoded α} {held : Dict β} {j : Json}
    (hread : ∀ name held j, Shown name held j → ∃ a, decode j = .ok a ∧ Q name held a)
    (h : Listing Shown held j) :
    ∃ objects, Collection.decodeList decode j = .ok objects ∧
      ∃ entries, List.Perm entries held.toList ∧
        List.Forall₂ (fun entry object => Q entry.1 entry.2 object) entries objects := by
  obtain ⟨fields, items, entries, rfl, hnodup, hitems, hperm, hshown⟩ := h
  obtain ⟨objects, hobjects, hfits⟩ := exists_mapM_decode hread hshown
  have hlist : Decode.optional (Decode.list decode) (.arr items) = .ok (some objects) := by
    change (items.mapM decode).map some = _
    rw [hobjects]
    rfl
  have hconforms : Conforms (Collection.listRules decode) fields := by
    refine ⟨hnodup, ?_, ?_⟩ <;> simp only [Collection.listRules, List.forall_mem_singleton]
    · intro value hmem
      cases hitems.symm.trans (Dict.lookup_of_mem_nodup hnodup hmem)
      change (Decode.optional (Decode.list decode) (.arr items)).map _ = _
      rw [hlist]
      rfl
    · exact fun _ => ⟨_, Dict.mem_of_lookup hitems⟩
  obtain ⟨found, hfound, hfields⟩ := hconforms.exists_objectFields (by
    simp [OneName, Collection.listRules, Rule.required])
  have hget : found.get? "items" = some (.arr items) :=
    (hfields _ List.mem_cons_self).trans hitems
  refine ⟨objects, ?_, entries, hperm, hfits⟩
  rw [Collection.decodeList, objectRecord, hfound]
  simp only [bind, Except.bind, Fields.find, hget, hlist]
  rfl

/-- All objects are listed, in some order. -/
theorem Keeps.run_list (h : Keeps answer c.path Shown Submitted stored)
    (hread : ∀ name held j, Shown name held j → ∃ a, c.kind.decode j = .ok a ∧ Q name held a) :
    ∃ objects t, (c.list none).run answer s = (.ok (.ok objects), t) ∧
      (∃ entries, List.Perm entries (stored s).toList ∧
        List.Forall₂ (fun entry object => Q entry.1 entry.2 object) entries objects) ∧
      stored t = stored s :=
  h.list.run_send fun _ => exists_decodeList hread

end Collection

end TaskEngine.Cluster
