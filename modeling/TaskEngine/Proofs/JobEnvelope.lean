import TaskEngine.Proofs.DefinitionForms
import TaskEngine.Proofs.Integrity

/-!
# The answers of a launch read back from JSON

The result of a job shares one object with the summary, and each of the two is read past the fields of
the other. Everything is read back but JSON null as data: null is what no data is written as, so a job
that prints null is answered for like a job that prints no result. In text the data are read back if they
are legible below the objects they stand in.
-/

namespace TaskEngine

open Decode

/-- A value, unless it stands for none. -/
def Json.nonNull? : Json → Option Json
  | .null => none
  | j => some j

theorem Json.nonNull?_eq_some_iff {j value : Json} :
    j.nonNull? = some value ↔ j = value ∧ value ≠ .null := by
  cases j <;> simp [nonNull?] <;> rintro rfl <;> simp

theorem Decode.optional_any (j : Json) : optional any j = .ok j.nonNull? := by
  cases j <;> rfl

namespace JobResult

/-! ## Two records in one object -/

/-- The fields beside those of the summary. -/
def ownFields (r : JobResult) : List (String × Json) :=
  [("stdout", .str r.stdout), ("json_data", r.data.getD .null)] ++
    (r.error.map fun e => ("error", Json.str e)).toList

theorem encode_eq (r : JobResult) : r.encode = .obj (r.summary.fields ++ r.ownFields) := by
  simp [encode, ownFields]

theorem encode_ne_null (r : JobResult) : r.encode ≠ .null := Json.noConfusion

theorem passesOver_summary (s : JobSummary) : PassesOver rules s.fields := by
  cases hstart : s.startTime <;> cases hcompletion : s.completionTime <;>
    simp [PassesOver, rules, JobSummary.fields, hstart, hcompletion]

theorem passesOver_own (r : JobResult) : PassesOver JobSummary.rules r.ownFields := by
  cases herror : r.error <;> simp [PassesOver, JobSummary.rules, ownFields, herror]

/-- A result without data instead of null. -/
def withoutNull (r : JobResult) : JobResult := { r with data := r.data.bind Json.nonNull? }

/-- The fields beside those of the summary are read by themselves. -/
theorem exists_own (r : JobResult) : ∃ own, objectFields rules r.ownFields = .ok own ∧
    own.get "stdout" text = .ok r.stdout ∧
    own.find "json_data" any = .ok (r.data.bind Json.nonNull?) ∧
    own.find "error" text = .ok r.error := by
  have hdata : (r.data.getD .null).nonNull? = r.data.bind Json.nonNull? := by
    cases r.data <;> rfl
  cases herror : r.error <;>
    simp [ownFields, rules, herror, optional_any, hdata, pure, Except.pure]

/-- A result is read back up to null as data. -/
theorem decode_encode {r : JobResult} (h : r.summary.IsProper) :
    decode r.encode = .ok r.withoutNull := by
  obtain ⟨own, hown, hstdout, hdata, herror⟩ := r.exists_own
  obtain ⟨found, hfound, hsummary⟩ := Outcome.bind_eq_ok.mp (JobSummary.decode_encode h)
  have hownRead : objectRecord "struct JobResult" rules r.encode = .ok own := by
    rw [encode_eq]
    exact (passesOver_summary _).append_objectFields.trans hown
  have hsummaryRead : objectRecord "struct JobSummary" JobSummary.rules r.encode = .ok found := by
    rw [encode_eq]
    exact r.passesOver_own.objectFields_append.trans hfound
  rw [decode, hownRead, Outcome.ok_bind, hstdout, Outcome.ok_bind, hdata, Outcome.ok_bind, herror,
    Outcome.ok_bind, hsummaryRead, Outcome.ok_bind, hsummary]
  rfl

theorem withoutNull_eq_self_iff {r : JobResult} : r.withoutNull = r ↔ r.data ≠ some .null := by
  obtain ⟨summary, stdout, data, error⟩ := r
  cases data with
  | none => simp [withoutNull]
  | some v => simp [withoutNull, Json.nonNull?_eq_some_iff]

/-- Null is written as no data are, and nothing else is. -/
theorem encode_data_eq_iff (r : JobResult) (v : Json) :
    { r with data := some v }.encode = { r with data := none }.encode ↔ v = .null := by
  simp [encode]

/-! ## Results in text -/

/-- A result whose data are what their text is read as. -/
def rereadData (r : JobResult) : JobResult := { r with data := r.data.map Json.reread }

theorem nodup_fields (r : JobResult) : ((r.summary.fields ++ r.ownFields).map (·.1)).Nodup := by
  cases hstart : r.summary.startTime <;> cases hcompletion : r.summary.completionTime <;>
    cases herror : r.error <;>
      simp [JobSummary.fields, ownFields, hstart, hcompletion, herror]

/-- A result is read from its fields in any order. -/
theorem decode_perm {fields others : List (String × Json)} {r : JobResult}
    (hperm : fields.Perm others) (h : decode (.obj fields) = .ok r) :
    decode (.obj others) = .ok r := by
  simp only [decode, objectRecord, Outcome.bind_eq_ok] at h ⊢
  obtain ⟨own, hown, stdout, hstdout, data, hdata, error, herror, found, hfound, h⟩ := h
  exact ⟨own, objectFields_perm hperm hown, stdout, hstdout, data, hdata, error, herror, found,
    objectFields_perm hperm hfound, h⟩

theorem exists_reread_encode {r : JobResult} (h : r.summary.IsProper) :
    ∃ others, r.encode.reread = .obj others ∧
      (r.summary.fields ++ r.rereadData.ownFields).Perm others := by
  have hsummary : Json.rereadFields r.summary.fields = r.summary.fields :=
    Json.rereadFields_eq_self fun field hmem =>
      (r.summary.writes_fields.legible h (by simp) field hmem).reread_eq
  have hown : Json.rereadFields r.ownFields = r.rereadData.ownFields := by
    obtain ⟨summary, stdout, data, error⟩ := r
    cases data <;> cases error <;>
      simp [ownFields, rereadData, Json.rereadFields, Json.reread]
  rw [encode_eq, ← hown]
  nth_rewrite 2 [← hsummary]
  rw [← Json.rereadFields_append]
  exact Json.exists_reread_obj r.nodup_fields

/-- From the text of a result its data are read as their own text is. -/
theorem decode_reread_encode {r : JobResult} (h : r.summary.IsProper) :
    decode r.encode.reread = .ok r.rereadData.withoutNull := by
  obtain ⟨others, hreread, hperm⟩ := exists_reread_encode h
  rw [hreread]
  refine decode_perm hperm ?_
  have hencode := r.rereadData.encode_eq
  exact hencode ▸ decode_encode (r := r.rereadData) h

theorem rereadData_withoutNull_eq_self_iff {r : JobResult} :
    r.rereadData.withoutNull = r ↔ ∀ v, r.data = some v → v ≠ .null ∧ v.reread = v := by
  obtain ⟨summary, stdout, data, error⟩ := r
  cases data with
  | none => simp [withoutNull, rereadData]
  | some v => simp [withoutNull, rereadData, Json.nonNull?_eq_some_iff, and_comm]

/-- The data nest one level below the result, and everything else is flat. -/
theorem depth_encode_le_iff {r : JobResult} {n : Nat} :
    r.encode.depth ≤ n + 1 ↔ ∀ v, r.data = some v → v.depth ≤ n := by
  have hsummary : ∀ field ∈ r.summary.fields, field.2.depth ≤ n := by
    cases hstart : r.summary.startTime <;> cases hcompletion : r.summary.completionTime <;>
      simp [JobSummary.fields, hstart, hcompletion, Json.depth, Instant.encode, Json.ofInt,
        JobState.encode]
  rw [encode_eq, Json.depth, Nat.succ_le_succ_iff, Json.depthFields_le_iff, List.forall_mem_append,
    and_iff_right hsummary]
  obtain ⟨summary, stdout, data, error⟩ := r
  cases data <;> cases error <;> simp [ownFields, Json.depth]

theorem fits_encode {r : JobResult} (h : r.summary.IsProper)
    (hdata : ∀ v, r.data = some v → v.Fits) : r.encode.Fits := by
  have hown : ∀ field ∈ r.ownFields, field.2.Fits := by
    obtain ⟨summary, stdout, data, error⟩ := r
    cases data <;> cases error <;> simp_all [ownFields, Json.Fits]
  rw [encode_eq, Json.Fits, Json.fitsFields_iff, List.forall_mem_append]
  exact ⟨fun field hmem => (r.summary.writes_fields.legible h (by simp) field hmem).fits, hown⟩

/-- A result is read back from its text if its data are legible and not null. -/
theorem readsFrom_compact_iff {r : JobResult} (h : r.summary.IsProper)
    (hdata : ∀ v, r.data = some v → v.Fits) :
    ReadsFrom decode r.encode.compact r ↔ ∀ v, r.data = some v → v ≠ .null ∧ v.IsLegible := by
  rw [TaskEngine.readsFrom_compact_iff (fits_encode h hdata), decode_reread_encode h,
    Except.ok.injEq, rereadData_withoutNull_eq_self_iff, Json.maxDepth, depth_encode_le_iff]
  constructor
  · rintro ⟨hdepth, hsame⟩ v hv
    exact ⟨(hsame v hv).1, hdata v hv, Nat.lt_succ_of_le (hdepth v hv), (hsame v hv).2⟩
  · exact fun hlegible => ⟨fun v hv => Nat.le_of_lt_succ (hlegible v hv).2.depth_lt,
      fun v hv => ⟨(hlegible v hv).1, (hlegible v hv).2.reread_eq⟩⟩

end JobResult

namespace JobLaunch

/-- The fields of a launch whose result is written in some form. -/
def fieldsWith (id : String) (written : Option Json) : List (String × Json) :=
  [("id", .str id)] ++ (written.map fun j => ("result", j)).toList

/-- A launch is read from its name and from what its result is read from, in either order. -/
theorem decode_obj {id : String} {written : Option Json} {result : Option JobResult}
    {others : List (String × Json)}
    (h : Option.Rel (fun j r => j ≠ .null ∧ JobResult.decode j = .ok r) written result)
    (hperm : (fieldsWith id written).Perm others) : decode (.obj others) = .ok ⟨id, result⟩ := by
  have hread : decode (.obj (fieldsWith id written)) = .ok ⟨id, result⟩ := by
    cases h with
    | none => simp [decode, fieldsWith, rules]
    | some h =>
      have hresult : optional JobResult.decode _ = _ := optional_eq h.1
      simp [decode, fieldsWith, rules, hresult, h.2]
  obtain ⟨found, hfound, hnext⟩ := Outcome.bind_eq_ok.mp hread
  exact Outcome.bind_eq_ok.mpr ⟨found, objectFields_perm hperm hfound, hnext⟩

theorem encode_eq (l : JobLaunch) :
    l.encode = .obj (fieldsWith l.id (l.result.map JobResult.encode)) := by
  rw [fieldsWith, Option.map_map]
  rfl

/-- A launch is read back up to null as data. -/
theorem decode_encode {l : JobLaunch} (h : ∀ r, l.result = some r → r.summary.IsProper) :
    decode l.encode = .ok { l with result := l.result.map JobResult.withoutNull } := by
  rw [encode_eq]
  refine decode_obj ?_ (.refl _)
  cases hresult : l.result with
  | none => exact .none
  | some r => exact .some ⟨r.encode_ne_null, JobResult.decode_encode (h r hresult)⟩

/-- From the text of a launch the data of its result are read as their own text is. -/
theorem decode_reread_encode {l : JobLaunch} (h : ∀ r, l.result = some r → r.summary.IsProper) :
    decode l.encode.reread =
      .ok { l with result := l.result.map fun r => r.rereadData.withoutNull } := by
  have hnodup : ((fieldsWith l.id (l.result.map JobResult.encode)).map (·.1)).Nodup := by
    cases l.result <;> simp [fieldsWith]
  have hfields : Json.rereadFields (fieldsWith l.id (l.result.map JobResult.encode)) =
      fieldsWith l.id (l.result.map (·.encode.reread)) := by
    cases l.result <;> simp [fieldsWith, Json.rereadFields, Json.reread]
  obtain ⟨others, hreread, hperm⟩ := Json.exists_reread_obj hnodup
  rw [encode_eq, hreread]
  refine decode_obj ?_ (hfields ▸ hperm)
  cases hresult : l.result with
  | none => exact .none
  | some r =>
    refine .some ⟨?_, JobResult.decode_reread_encode (h r hresult)⟩
    obtain ⟨others, hobj, -⟩ := JobResult.exists_reread_encode (h r hresult)
    change r.encode.reread ≠ .null
    rw [hobj]
    exact Json.noConfusion

theorem result_eq_iff {change : JobResult → JobResult} {l : JobLaunch} :
    { l with result := l.result.map change } = l ↔ ∀ r, l.result = some r → change r = r := by
  obtain ⟨id, result⟩ := l
  cases result <;> simp

/-- The data nest two levels below the launch. -/
theorem depth_encode_le_iff {l : JobLaunch} {n : Nat} :
    l.encode.depth ≤ n + 2 ↔ ∀ r, l.result = some r → ∀ v, r.data = some v → v.depth ≤ n := by
  rw [encode_eq, Json.depth, Nat.succ_le_succ_iff, Json.depthFields_le_iff]
  obtain ⟨id, result⟩ := l
  cases result with
  | none => simp [fieldsWith, Json.depth]
  | some r => simp [fieldsWith, Json.depth, JobResult.depth_encode_le_iff]

theorem fits_encode {l : JobLaunch} (h : ∀ r, l.result = some r → r.summary.IsProper)
    (hdata : ∀ r, l.result = some r → ∀ v, r.data = some v → v.Fits) : l.encode.Fits := by
  rw [encode_eq, Json.Fits, Json.fitsFields_iff]
  obtain ⟨id, result⟩ := l
  cases result with
  | none => simp [fieldsWith, Json.Fits]
  | some r => simpa [fieldsWith, Json.Fits] using JobResult.fits_encode (h r rfl) (hdata r rfl)

/-- A launch is read back from its text if the data of its result are legible below the result and not
null. -/
theorem readsFrom_compact_iff {l : JobLaunch} (h : ∀ r, l.result = some r → r.summary.IsProper)
    (hdata : ∀ r, l.result = some r → ∀ v, r.data = some v → v.Fits) :
    ReadsFrom decode l.encode.compact l ↔ ∀ r, l.result = some r → ∀ v, r.data = some v →
      v ≠ .null ∧ v.IsLegible ∧ v.depth + 1 < Json.maxDepth := by
  rw [TaskEngine.readsFrom_compact_iff (fits_encode h hdata), decode_reread_encode h,
    Except.ok.injEq, result_eq_iff, Json.maxDepth, depth_encode_le_iff]
  constructor
  · rintro ⟨hdepth, hsame⟩ r hr v hv
    obtain ⟨hnull, hreread⟩ := JobResult.rereadData_withoutNull_eq_self_iff.mp (hsame r hr) v hv
    have hle := hdepth r hr v hv
    exact ⟨hnull, ⟨hdata r hr v hv, by rw [Json.maxDepth]; omega, hreread⟩, by omega⟩
  · intro hlegible
    refine ⟨fun r hr v hv => ?_, fun r hr => ?_⟩
    · have := (hlegible r hr v hv).2.2
      omega
    · refine JobResult.rereadData_withoutNull_eq_self_iff.mpr fun v hv => ?_
      exact ⟨(hlegible r hr v hv).1, (hlegible r hr v hv).2.1.reread_eq⟩

end JobLaunch

/-- Results and launches are read back, and a printed result is told from none, exactly if the printed
result is not null; from text, if in addition the data are legible where they stand. -/
theorem envelope_read_back_iff {r : JobResult} {l : JobLaunch} (hr : r.summary.IsProper)
    (hl : ∀ r, l.result = some r → r.summary.IsProper) :
    (JobResult.decode r.encode = .ok r ↔ r.data ≠ some .null) ∧
    (JobLaunch.decode l.encode = .ok l ↔ ∀ r, l.result = some r → r.data ≠ some .null) ∧
    (∀ v, { r with data := some v }.encode ≠ { r with data := none }.encode ↔ v ≠ .null) ∧
    ((∀ v, r.data = some v → v.Fits) →
      (ReadsFrom JobResult.decode r.encode.compact r ↔
        ∀ v, r.data = some v → v ≠ .null ∧ v.IsLegible)) ∧
    ((∀ r, l.result = some r → ∀ v, r.data = some v → v.Fits) →
      (ReadsFrom JobLaunch.decode l.encode.compact l ↔ ∀ r, l.result = some r →
        ∀ v, r.data = some v → v ≠ .null ∧ v.IsLegible ∧ v.depth + 1 < Json.maxDepth)) := by
  refine ⟨?_, ?_, fun v => not_congr (r.encode_data_eq_iff v), JobResult.readsFrom_compact_iff hr,
    JobLaunch.readsFrom_compact_iff hl⟩
  · rw [JobResult.decode_encode hr, Except.ok.injEq, JobResult.withoutNull_eq_self_iff]
  · rw [JobLaunch.decode_encode hl, Except.ok.injEq, JobLaunch.result_eq_iff]
    exact forall₂_congr fun r _ => JobResult.withoutNull_eq_self_iff

namespace World

/-- A task whose result its caller waits for. -/
def report : Task where
  name := "report"
  runner := "shell"
  command := "echo report"
  synchronous := true
  schema := none
  secret := none

/-- The session in which the report prints something. -/
def reporting (output : String) : List SessionEvent :=
  greeting ++ [.call (.createTask ⟨"alice", "local"⟩ report), .script { mainLogs := output }]

/-- The summary of a launch of the report. -/
def reportSummary : JobSummary where
  id := "report-00001"
  owner := "alice"
  startTime := some (.ofMillis 0)
  completionTime := some (.ofMillis 0)
  failed := 0
  completed := 1
  state := .succeeded

/-- The result of a launch of the report. -/
def reportResult (output : String) (data : Option Json) : JobResult where
  summary := reportSummary
  stdout := "==> report-00001-pod/init-report <==\n==> report-00001-pod/report <==\n" ++ output ++ "\n"
  data := data
  error := none

/-- The answer to a launch of the report. -/
def reported (output : String) (data : Option Json) : JobLaunch :=
  ⟨"report-00001", some (reportResult output data)⟩

theorem isProper_reportSummary : reportSummary.IsProper := by
  have hstart : (Instant.ofMillis 0).IsRepresentable :=
    ⟨by decide, by decide, by decide, by decide⟩
  refine ⟨?_, ?_, by decide, by decide⟩
  · rintro t ⟨⟩
    exact hstart
  · rintro t ⟨⟩
    exact hstart

theorem isProper_reported {output : String} {data : Option Json} {r : JobResult}
    (h : (reported output data).result = some r) : r.summary.IsProper := by
  obtain rfl := Option.some.inj h
  exact isProper_reportSummary

/-- A report that prints null is answered for, and the answer is not read back: it is written like the
answer to a report without a result. -/
theorem not_envelope_read_back :
    ((World.after .standard {} (reporting "^JSONnull^JSON")).calm.run
        ((ServiceCall.createJob ⟨"alice", "local"⟩ "report" none).procedure .standard)).1 =
          .ok (.launch (reported "^JSONnull^JSON" (some .null))) ∧
      JobLaunch.decode (reported "^JSONnull^JSON" (some .null)).encode ≠
        .ok (reported "^JSONnull^JSON" (some .null)) ∧
      (reported "^JSONnull^JSON" (some .null)).encode =
        (reported "^JSONnull^JSON" none).encode := by
  refine ⟨by decide +kernel, ?_, rfl⟩
  have hread : JobLaunch.decode (reported "^JSONnull^JSON" (some .null)).encode =
      .ok (reported "^JSONnull^JSON" none) :=
    JobLaunch.decode_encode fun _ => isProper_reported
  rw [hread]
  exact fun h => absurd (Except.ok.inj h) (by decide)

/-- A report that prints an array is read back, and told from one without a result. -/
theorem envelope_read_back_iff_reported :
    ((World.after .standard {} (reporting "^JSON[true]^JSON")).calm.run
        ((ServiceCall.createJob ⟨"alice", "local"⟩ "report" none).procedure .standard)).1 =
          .ok (.launch (reported "^JSON[true]^JSON" (some (.arr [.bool true])))) ∧
      JobLaunch.decode (reported "^JSON[true]^JSON" (some (.arr [.bool true]))).encode =
        .ok (reported "^JSON[true]^JSON" (some (.arr [.bool true]))) ∧
      (reportResult "^JSON[true]^JSON" (some (.arr [.bool true]))).encode ≠
        (reportResult "^JSON[true]^JSON" none).encode ∧
      ReadsFrom JobLaunch.decode
        (reported "^JSON[true]^JSON" (some (.arr [.bool true]))).encode.compact
        (reported "^JSON[true]^JSON" (some (.arr [.bool true]))) := by
  obtain ⟨-, hvalue, hdata, -, htext⟩ := envelope_read_back_iff
    (r := reportResult "^JSON[true]^JSON" none)
    (l := reported "^JSON[true]^JSON" (some (.arr [.bool true]))) isProper_reportSummary
    fun _ => isProper_reported
  refine ⟨by decide +kernel, hvalue.mpr ?_, (hdata (.arr [.bool true])).mpr nofun,
    (htext ?_).mpr ?_⟩
  · rintro r ⟨⟩
    exact nofun
  · rintro r ⟨⟩ v ⟨⟩
    exact ⟨trivial, trivial⟩
  · rintro r ⟨⟩ v ⟨⟩
    exact ⟨nofun, ⟨⟨trivial, trivial⟩, by decide, rfl⟩, by decide⟩

end World

end TaskEngine
