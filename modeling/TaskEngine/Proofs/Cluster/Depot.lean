import TaskEngine.Proofs.Cluster.Server
import TaskEngine.Proofs.Json.Depth

/-!
# A small cluster

A cluster that keeps nothing but maps of texts and maps of bytes in one namespace. It does what the
cluster promises about them, so there is a cluster that keeps the promises.
-/

namespace TaskEngine

/-! ## Depth of objects -/

namespace Json

/-- An object is one deeper than the deepest of its parts. -/
theorem depth_objectOf_le {fields : List (String × Option Json)} {n : Nat}
    (hnodup : (fields.map (·.1)).Nodup)
    (h : ∀ key value, (key, some value) ∈ fields → value.depth ≤ n) :
    (objectOf fields).depth ≤ n + 1 := by
  refine Nat.succ_le_succ (depthFields_le ?_)
  rintro ⟨key, value⟩ hmem
  have hget := Dict.mem_toList.mp hmem
  rw [Decode.get?_objectOf fields hnodup, Option.join_eq_some_iff] at hget
  exact h key value (Dict.mem_of_lookup hget)

/-- The object of flat values has depth one. -/
theorem depth_ofDict_map_le {α : Type} {write : α → Json} (hflat : ∀ a, (write a).depth = 0)
    (d : Dict α) : (ofDict (d.map write)).depth ≤ 1 := by
  refine Nat.succ_le_succ (depthFields_le fun field hmem => ?_)
  obtain ⟨entry, -, rfl⟩ := List.mem_map.mp hmem
  exact Nat.le_of_eq (hflat entry.2)

end Json

namespace Cluster

open Decode

/-- An object whose own fields have depth one has depth two. -/
theorem depth_object_le {kind name : String} {fields : List (String × Option Json)}
    (hnodup : ((typeFields coreVersion kind ++
      ("metadata", some (Meta.encode { name := some name })) :: fields).map (·.1)).Nodup)
    (h : ∀ key value, (key, some value) ∈ fields → value.depth ≤ 1) :
    (Json.objectOf (typeFields coreVersion kind ++
      ("metadata", some (Meta.encode { name := some name })) :: fields)).depth ≤ 2 := by
  refine Json.depth_objectOf_le hnodup fun key value hmem => ?_
  simp only [typeFields, List.cons_append, List.nil_append, List.mem_cons, Prod.mk.injEq,
    Option.some.injEq] at hmem
  rcases hmem with ⟨-, rfl⟩ | ⟨-, rfl⟩ | ⟨-, rfl⟩ | hmem
  · exact Nat.zero_le 1
  · exact Nat.zero_le 1
  · exact Nat.le_refl 1
  · exact h key value hmem

theorem ConfigMap.depth_encode_le (name : String) (record : Record) :
    (encode (.ofRecord name record)).depth ≤ 2 := by
  refine depth_object_le (by simp [typeFields]) fun key value hmem => ?_
  cases List.mem_singleton.mp hmem
  exact Json.depth_ofDict_map_le (fun _ => rfl) record

theorem Secret.depth_encode_le (name : String) (bytes : Dict (List UInt8)) :
    (encode { metadata := { name := some name }, data := some bytes }).depth ≤ 2 := by
  refine depth_object_le (by simp [typeFields]) fun key value hmem => ?_
  obtain ⟨-, rfl⟩ : key = "data" ∧ value = Json.ofDict (bytes.map encodeBytes) := by
    simpa using hmem
  exact Json.depth_ofDict_map_le (fun _ => rfl) bytes

/-! ## One kind of objects -/

/-- A reply that shows something. -/
def HttpReply.showing (j : Json) : HttpReply := { status := 200, body := .json j }

/-- A reply that refuses a request. -/
def HttpReply.refusing (code : Nat) (reason : String) : HttpReply where
  status := code
  body := .json (.obj [("status", .str "Failure"), ("reason", .str reason), ("code", .ofInt code)])

/-- The fields of a report on a removal. -/
def removed : List (String × Json) := [("kind", .str "Status"), ("status", .str "Success")]

/-- How the objects of a kind are shown and accepted on a path. -/
structure Shelf (β : Type) where
  path : String
  render : String → β → Json
  accept : Json → Option (String × β)

/-- The name of the object that a path leads to. -/
def Shelf.objectName? {β : Type} (shelf : Shelf β) (path : String) : Option String :=
  (path.toList.dropPrefix? (shelf.path ++ "/").toList).map String.ofList

/-- Answer a request about the objects of a kind. -/
def Shelf.answer {β : Type} (shelf : Shelf β) (request : HttpRequest) (held : Dict β) :
    HttpReply × Dict β :=
  let submitted := request.body.bind shelf.accept
  match shelf.objectName? request.path with
  | none =>
    match request.method, submitted with
    | .get, _ =>
      let items := held.toList.map fun entry => shelf.render entry.1 entry.2
      (.showing (.obj [("items", .arr items)]), held)
    | .post, some (name, value) =>
      if held.contains name then (.refusing 409 "AlreadyExists", held)
      else (.showing (shelf.render name value), held.insert name value)
    | _, _ => (.refusing 400 "BadRequest", held)
  | some name =>
    match held.get? name, request.method, submitted with
    | none, _, _ => (.refusing 404 "NotFound", held)
    | some value, .get, _ => (.showing (shelf.render name value), held)
    | some _, .delete, _ => (.showing (.obj removed), held.erase name)
    | some _, .put, some (_, value) =>
      (.showing (shelf.render name value), held.insert name value)
    | _, _, _ => (.refusing 400 "BadRequest", held)

theorem shows_showing {j : Json} (hdepth : j.depth ≤ Json.maxDepth) {P : Json → Prop} (h : P j) :
    (HttpReply.showing j).Shows P :=
  ⟨(by decide : 200 < refusalStatus), j, if_pos hdepth, h⟩

theorem refuses_refusing {code : Nat} (hcode : code ≤ 0xFFFF) (reason : String) :
    (HttpReply.refusing code reason).Refuses code reason := by
  have hnodup : ([("status", Json.str "Failure"), ("reason", .str reason),
      ("code", .ofInt code)].map (·.1)).Nodup := by simp
  refine ⟨rfl, _, rfl, ⟨hnodup, ?_, ?_⟩, rfl, rfl⟩
  on_goal 2 => simp [refusalRules, Rule.required, Rule.defaulted]
  simp only [refusalRules, List.forall_mem_cons]
  refine ⟨fun value hmem => ?_, fun value hmem => ?_, fun value hmem => ?_, fun value hmem => ?_,
    by simp⟩
  · obtain rfl : Json.str "Failure" = value :=
      Option.some.inj (Dict.lookup_of_mem_nodup hnodup hmem)
    rfl
  · cases (Dict.lookup_of_mem_nodup hnodup hmem : (none : Option Json) = some value)
  · obtain rfl : Json.str reason = value := Option.some.inj (Dict.lookup_of_mem_nodup hnodup hmem)
    rfl
  · obtain rfl : Json.ofInt code = value := Option.some.inj (Dict.lookup_of_mem_nodup hnodup hmem)
    have hread : intWithin 0 0xFFFF "u16" (.ofInt code) = .ok code := if_pos (by omega)
    change (intWithin 0 0xFFFF "u16" (.ofInt code)).map _ = _
    rw [hread]
    rfl

theorem conforms_removed : Conforms Collection.reportRules removed := by
  have hnodup : (removed.map (·.1)).Nodup := by simp [removed]
  refine ⟨hnodup, ?_, by simp [Collection.reportRules, Rule.nullable, Rule.defaulted]⟩
  simp only [Collection.reportRules, List.forall_mem_cons]
  refine ⟨fun value hmem => ?_, fun value hmem => ?_, fun value hmem => ?_, fun value hmem => ?_,
    by simp⟩
  · obtain rfl : Json.str "Success" = value :=
      Option.some.inj (Dict.lookup_of_mem_nodup hnodup hmem)
    rfl
  all_goals cases (Dict.lookup_of_mem_nodup hnodup hmem : (none : Option Json) = some value)

namespace Shelf

variable {β : Type} (shelf : Shelf β)

theorem objectName?_path : shelf.objectName? shelf.path = none := by
  rw [objectName?, Option.map_eq_none_iff, Option.eq_none_iff_forall_ne_some]
  intro rest hrest
  obtain ⟨front, hpath, hfront⟩ := List.dropPrefix?_eq_some_iff.mp hrest
  have hlength := congrArg List.length hpath
  rw [eq_of_beq hfront, String.toList_append] at hlength
  simp at hlength

theorem objectName?_object (name : String) :
    shelf.objectName? (shelf.path ++ "/" ++ name) = some name := by
  have hdrop : (shelf.path ++ "/" ++ name).toList.dropPrefix? (shelf.path ++ "/").toList =
      some name.toList :=
    List.dropPrefix?_eq_some_iff.mpr ⟨_, String.toList_append, beq_self_eq_true _⟩
  rw [objectName?, hdrop, Option.map_some, String.ofList_toList]

/-- Whether a path is that of the objects of a kind, or of one of them. -/
def Leads (path : String) : Prop := path = shelf.path ∨ ∃ name, path = shelf.path ++ "/" ++ name

theorem Leads.exists_rest {shelf : Shelf β} {path : String} (h : shelf.Leads path) :
    ∃ rest, path.toList = shelf.path.toList ++ rest := by
  rcases h with rfl | ⟨name, rfl⟩
  · exact ⟨[], (List.append_nil _).symm⟩
  · exact ⟨"/".toList ++ name.toList, by
      rw [String.toList_append, String.toList_append, List.append_assoc]⟩

/-- Surroundings that answer requests about the objects of a kind from a shelf, which shows and
accepts them in their forms. -/
structure Serves {σ : Type} (answer : HttpRequest → σ → HttpReply × σ) (view : σ → Dict β)
    (Shown Submitted : String → β → Json → Prop) : Prop where
  shown : ∀ name held, Shown name held (shelf.render name held)
  flat : ∀ name held, (shelf.render name held).depth ≤ 2
  accepts : ∀ name held body, Submitted name held body → shelf.accept body = some (name, held)
  route : ∀ request s, shelf.Leads request.path →
    (answer request s).1 = (shelf.answer request (view s)).1 ∧
      view (answer request s).2 = (shelf.answer request (view s)).2

namespace Serves

variable {shelf} {σ : Type} {answer : HttpRequest → σ → HttpReply × σ} {view : σ → Dict β}
  {Shown Submitted : String → β → Json → Prop} {request : HttpRequest} {s : σ}

theorem grants (h : shelf.Serves answer view Shown Submitted) (hpath : shelf.Leads request.path)
    {j : Json} {after : Dict β} (hanswer : shelf.answer request (view s) = (.showing j, after))
    (hdepth : j.depth ≤ Json.maxDepth) {P : Json → Prop} (hP : P j) :
    Grants view (answer request s) P after := by
  obtain ⟨hreply, hview⟩ := h.route request s hpath
  rw [hanswer] at hreply hview
  exact ⟨hreply ▸ shows_showing hdepth hP, hview⟩

theorem denies (h : shelf.Serves answer view Shown Submitted) (hpath : shelf.Leads request.path)
    {code : Nat} {reason : String}
    (hanswer : shelf.answer request (view s) = (.refusing code reason, view s))
    (hcode : code ≤ 0xFFFF) : Denies view (answer request s) code reason (view s) := by
  obtain ⟨hreply, hview⟩ := h.route request s hpath
  rw [hanswer] at hreply hview
  exact ⟨hreply ▸ refuses_refusing hcode reason, hview⟩

/-- What is rendered is not nested too deeply. -/
theorem depth_le (h : shelf.Serves answer view Shown Submitted) (name : String) (held : β) :
    (shelf.render name held).depth ≤ Json.maxDepth :=
  Nat.le_trans (h.flat name held) (by decide)

/-- The objects on a shelf are listed. -/
theorem listing (h : shelf.Serves answer view Shown Submitted) (held : Dict β) :
    Listing Shown held
      (.obj [("items", .arr (held.toList.map fun entry => shelf.render entry.1 entry.2))]) := by
  refine ⟨_, _, held.toList, rfl, by simp, rfl, .refl _, ?_⟩
  exact List.forall₂_map_right_iff.mpr (List.forall₂_same.mpr fun entry _ => h.shown ..)

theorem depth_listing_le (h : shelf.Serves answer view Shown Submitted) (held : Dict β) :
    (Json.obj [("items", .arr (held.toList.map fun entry => shelf.render entry.1 entry.2))]).depth ≤
      Json.maxDepth := by
  have hitems :
      Json.depthItems (held.toList.map fun entry => shelf.render entry.1 entry.2) ≤ 2 := by
    refine Json.depthItems_le fun item hmem => ?_
    obtain ⟨entry, -, rfl⟩ := List.mem_map.mp hmem
    exact h.flat ..
  simp only [Json.depth, Json.depthFields, Json.maxDepth]
  omega

/-- What answers from a shelf keeps its objects. -/
theorem keeps (h : shelf.Serves answer view Shown Submitted) :
    Keeps answer shelf.path Shown Submitted view where
  get {s name held} _ hget := h.grants (.inr ⟨name, rfl⟩)
    (by simp only [Shelf.answer, objectName?_object, hget]) (h.depth_le name held)
    (h.shown name held)
  get_absent {s name} _ hget := h.denies (.inr ⟨name, rfl⟩)
    (by simp only [Shelf.answer, objectName?_object, hget]) (by decide)
  list {s} := h.grants (.inl rfl) (by simp only [Shelf.answer, objectName?_path])
    (h.depth_listing_le _) (h.listing _)
  post {s name held body} _ hbody hget := by
    have hfree := Dict.contains_eq_false_iff.mpr hget
    refine h.grants (.inl rfl) ?_ (h.depth_le name held) (h.shown name held)
    simp only [Shelf.answer, objectName?_path, Option.bind_some, h.accepts _ _ _ hbody, hfree]
    rfl
  post_taken {s name held body old} _ hbody hget := by
    have htaken := Dict.contains_iff.mpr ⟨old, hget⟩
    refine h.denies (.inl rfl) ?_ (by decide)
    simp only [Shelf.answer, objectName?_path, Option.bind_some, h.accepts _ _ _ hbody, htaken]
    rfl
  put {s name held body old} _ hbody hget := by
    refine h.grants (.inr ⟨name, rfl⟩) ?_ (h.depth_le name held) (h.shown name held)
    simp only [Shelf.answer, objectName?_object, Option.bind_some, h.accepts _ _ _ hbody, hget]
  put_absent {s name held body} _ hbody hget := h.denies (.inr ⟨name, rfl⟩)
    (by simp only [Shelf.answer, objectName?_object, hget]) (by decide)
  delete {s name held} _ hget := h.grants (.inr ⟨name, rfl⟩)
    (by simp only [Shelf.answer, objectName?_object, hget]) (by decide)
    (.inl ⟨removed, rfl, rfl, conforms_removed⟩)
  delete_absent {s name} _ hget := h.denies (.inr ⟨name, rfl⟩)
    (by simp only [Shelf.answer, objectName?_object, hget]) (by decide)

end Serves

end Shelf

/-! ## Both kinds -/

/-- Maps of texts on their shelf. -/
def Shelf.configMaps (namespaceName : String) : Shelf Record where
  path := "/api/v1/namespaces/" ++ namespaceName ++ "/configmaps"
  render name record := ConfigMap.encode (.ofRecord name record)
  accept j := (ConfigMap.decode j).toOption.bind fun m => m.metadata.name.map (·, m.record)

/-- Maps of bytes on their shelf. Texts are folded into the bytes. -/
def Shelf.secrets (namespaceName : String) : Shelf (Dict (List UInt8)) where
  path := "/api/v1/namespaces/" ++ namespaceName ++ "/secrets"
  render name bytes := Secret.encode { metadata := { name := some name }, data := some bytes }
  accept j := (Secret.decode j).toOption.bind fun s => s.metadata.name.map
    (·, (s.data.getD ∅).insertAll ((s.stringData.getD ∅).map utf8Bytes).toList)

/-- What a small cluster keeps. -/
structure Depot where
  records : Dict Record := ∅
  secrets : Dict (Dict (List UInt8)) := ∅

namespace Depot

/-- Answer a request about a map of texts or a map of bytes. -/
def answer (namespaceName : String) (request : HttpRequest) (depot : Depot) : HttpReply × Depot :=
  if (Shelf.configMaps namespaceName).path.toList <+: request.path.toList then
    let (reply, records) := (Shelf.configMaps namespaceName).answer request depot.records
    (reply, { depot with records })
  else
    let (reply, secrets) := (Shelf.secrets namespaceName).answer request depot.secrets
    (reply, { depot with secrets })

variable (namespaceName : String)

theorem serves_configMaps : (Shelf.configMaps namespaceName).Serves (answer namespaceName) records
    ConfigMap.Carries ConfigMap.Carries where
  shown name record := ConfigMap.carries_encode name (some record)
  flat := ConfigMap.depth_encode_le
  accepts name record body hbody := by
    obtain ⟨m, hdecode, hname, hrecord⟩ := ConfigMap.exists_decode hbody
    have haccept : (Shelf.configMaps namespaceName).accept body =
        m.metadata.name.map (·, m.record) := by
      change (ConfigMap.decode body).toOption.bind _ = _
      rw [hdecode]
      rfl
    rw [haccept, hname, hrecord]
    rfl
  route request s hpath := by
    obtain ⟨rest, hrest⟩ := hpath.exists_rest
    have hprefix : (Shelf.configMaps namespaceName).path.toList <+: request.path.toList :=
      ⟨rest, hrest.symm⟩
    rw [answer, if_pos hprefix]
    exact ⟨rfl, rfl⟩

/-- No path of a map of bytes is one of a map of texts. -/
theorem not_prefix_secrets (rest : List Char) :
    ¬ (Shelf.configMaps namespaceName).path.toList <+:
      (Shelf.secrets namespaceName).path.toList ++ rest := by
  have hmapsPath : (Shelf.configMaps namespaceName).path =
    "/api/v1/namespaces/" ++ namespaceName ++ "/configmaps" := rfl
  have hsecretsPath : (Shelf.secrets namespaceName).path =
    "/api/v1/namespaces/" ++ namespaceName ++ "/secrets" := rfl
  rw [hmapsPath, hsecretsPath]
  simp only [String.toList_append, List.append_assoc]
  rw [List.prefix_append_right_inj, List.prefix_append_right_inj]
  rintro ⟨tail, htail⟩
  have hmaps : "/configmaps".toList = '/' :: 'c' :: "onfigmaps".toList := rfl
  have hsecrets : "/secrets".toList = '/' :: 's' :: "ecrets".toList := rfl
  rw [hmaps, hsecrets] at htail
  simp only [List.cons_append, List.cons.injEq] at htail
  exact absurd htail.2.1 (by decide)

theorem serves_secrets : (Shelf.secrets namespaceName).Serves (answer namespaceName) secrets
    Secret.Shown Secret.Submitted where
  shown name bytes := Secret.carries_encode name none (some bytes) none
  flat := Secret.depth_encode_le
  accepts name folded body hbody := by
    obtain ⟨bytes, texts, hcarries, rfl⟩ := hbody
    obtain ⟨s, hdecode, hname, hbytes, htexts⟩ := Secret.exists_decode hcarries
    have haccept : (Shelf.secrets namespaceName).accept body = s.metadata.name.map
        (·, (s.data.getD ∅).insertAll ((s.stringData.getD ∅).map utf8Bytes).toList) := by
      change (Secret.decode body).toOption.bind _ = _
      rw [hdecode]
      rfl
    rw [haccept, hname, hbytes, htexts]
    rfl
  route request s hpath := by
    obtain ⟨rest, hrest⟩ := hpath.exists_rest
    rw [answer, if_neg (hrest ▸ not_prefix_secrets namespaceName rest)]
    exact ⟨rfl, rfl⟩

end Depot

end Cluster

end TaskEngine
