import Mathlib.Data.List.Forall2
import TaskEngine.Console.Listing
import TaskEngine.Proofs.Dict
import TaskEngine.Proofs.Json.Depth

/-!
# What printed listings show of addresses

Lines for people leave the address of a repository out, and a table shows it with its user hidden.
JSON text holds the address itself, and two listings with different addresses differ there. So
listings of runners whose addresses are shown alike are the same text in every form but that one.
-/

namespace TaskEngine

open Console

/-! ## Runners in JSON text -/

namespace Runner

/-- The JSON form of a runner is read as an object that has the address among its fields. -/
theorem field?_reread_encode (r : Runner) :
    r.encode.reread.field? "gitURL" = some (.str r.gitUrl) := by
  obtain ⟨name, image, gitUrl, branch, token⟩ := r
  change (Dict.ofList (Json.rereadFields _)).get? "gitURL" = _
  cases token <;> simp [Json.rereadFields, Json.reread, Dict.ofList, Dict.insertAll]

/-- The JSON form of a runner holds texts only. -/
theorem fits_encode (r : Runner) : r.encode.Fits := by
  cases htoken : r.token <;> simp [encode, htoken, Json.Fits, Json.FitsFields]

/-- The JSON form of a runner is flat. -/
theorem depth_encode_le (r : Runner) : r.encode.depth ≤ 1 := by
  cases htoken : r.token <;> simp [encode, htoken, Json.depth, Json.depthFields]

/-- Listings in JSON text are the same for the same addresses only. -/
theorem map_gitUrl_eq_of_pretty {runners others : List Runner}
    (h : (Json.arr (runners.map encode)).pretty = (Json.arr (others.map encode)).pretty) :
    runners.map (·.gitUrl) = others.map (·.gitUrl) := by
  have hread : ∀ members : List Runner, Json.read? (Json.arr (members.map encode)).pretty =
      some (.arr (members.map fun r => r.encode.reread)) := by
    intro members
    have hfits : (Json.arr (members.map encode)).Fits := by
      refine Json.fitsItems_iff.mpr fun j hj => ?_
      obtain ⟨r, -, rfl⟩ := List.mem_map.mp hj
      exact r.fits_encode
    have hflat : Json.depthItems (members.map encode) ≤ 1 := by
      refine Json.depthItems_le fun j hj => ?_
      obtain ⟨r, -, rfl⟩ := List.mem_map.mp hj
      exact r.depth_encode_le
    have hdepth : (Json.arr (members.map encode)).depth ≤ Json.maxDepth :=
      (Nat.succ_le_succ hflat).trans (by decide)
    rw [Json.read?_pretty hfits hdepth, Json.reread, Json.rereadItems_eq, List.map_map]
    rfl
  have hsame : runners.map (fun r => r.encode.reread) = others.map fun r => r.encode.reread :=
    Json.arr.inj (Option.some.inj ((hread runners).symm.trans ((congrArg _ h).trans (hread others))))
  have haddress : ∀ members : List Runner, (members.map fun r => r.encode.reread).map
      (fun j => ((j.field? "gitURL").bind Json.text?).getD "") = members.map (·.gitUrl) := by
    intro members
    simp only [List.map_map, Function.comp_def, field?_reread_encode, Option.bind_some,
      Json.text?, Option.getD_some]
  rw [← haddress runners, hsame, haddress others]

/-! ## Runners shown alike -/

/-- Runners that differ at most in what is hidden of their addresses. -/
structure ShownAlike (r other : Runner) : Prop where
  /-- What is shown of the addresses is the same. -/
  address : CloneUrl.redacted r.gitUrl = CloneUrl.redacted other.gitUrl
  /-- All other fields are the same. -/
  rest : { other with gitUrl := r.gitUrl } = r

/-- The same is made of runners shown alike by what does not look at their addresses, or only at what
is shown of them. -/
theorem map_eq_of_shownAlike {α : Type} {f : Runner → α} {runners others : List Runner}
    (hf : ∀ r other : Runner, r.ShownAlike other → f r = f other)
    (h : List.Forall₂ ShownAlike runners others) : runners.map f = others.map f := by
  rw [← List.forall₂_eq_eq_eq, List.forall₂_map_left_iff, List.forall₂_map_right_iff]
  exact h.imp hf

/-- Runners shown alike with the same addresses are the same. -/
theorem eq_of_shownAlike {runners others : List Runner} (h : List.Forall₂ ShownAlike runners others)
    (haddress : runners.map (·.gitUrl) = others.map (·.gitUrl)) : runners = others := by
  induction h with
  | nil => rfl
  | @cons r other runners others hhead _ ih =>
    obtain ⟨hfirst, hrest⟩ := List.cons.inj haddress
    have hr : r = other := by
      rw [← hhead.rest, show r.gitUrl = other.gitUrl from hfirst]
    rw [hr, ih hrest]

end Runner

/-- Listings of runners shown alike are the same, whatever the runners are, in every form but JSON
text, which tells any two different ones apart. -/
theorem render_runners_eq_iff {format : OutputFormat} {runners others : List Runner}
    (h : List.Forall₂ Runner.ShownAlike runners others) :
    ListingForm.runners.render format runners = ListingForm.runners.render format others ↔
      (format = .json → runners = others) := by
  have hempty : runners.isEmpty = others.isEmpty := by cases h <;> rfl
  cases format with
  | json =>
    constructor
    · intro heq _
      exact Runner.eq_of_shownAlike h (Runner.map_gitUrl_eq_of_pretty heq)
    · intro heq
      rw [heq rfl]
  | text =>
    have hlines : runners.map ListingForm.runners.line = others.map ListingForm.runners.line := by
      refine Runner.map_eq_of_shownAlike (fun r other hshown => ?_) h
      rw [← hshown.rest]
      rfl
    simp [ListingForm.render, hempty, hlines]
  | table =>
    have hcells : runners.map ListingForm.runners.cells = others.map ListingForm.runners.cells := by
      refine Runner.map_eq_of_shownAlike (fun r other hshown => ?_) h
      have hshort : ListingForm.runners.cells r =
          [other.name, other.image, CloneUrl.redacted r.gitUrl, other.effectiveBranch] := by
        rw [← hshown.rest]
        rfl
      rw [hshort, hshown.address]
      rfl
    simp [ListingForm.render, hempty, hcells]

/-- The runner of the greetings, cloned by a user. -/
def greeter (user : String) : Runner where
  name := "shell"
  image := "busybox"
  gitUrl := "https://" ++ user ++ "@example.org/greetings.git"
  branch := "main"
  token := none

theorem greeter_shownAlike : (greeter "sesame").ShownAlike (greeter "swordfish") where
  address := by decide
  rest := rfl

theorem render_runners_eq_sesame :
    List.Forall₂ Runner.ShownAlike [greeter "sesame"] [greeter "swordfish"] ∧
      ListingForm.runners.render .table [greeter "sesame"] =
        ListingForm.runners.render .table [greeter "swordfish"] :=
  ⟨.cons greeter_shownAlike .nil,
    (render_runners_eq_iff (.cons greeter_shownAlike .nil)).mpr fun h => nomatch h⟩

/-- A listing in JSON text depends on the user that clones. -/
theorem not_render_runners_eq :
    ¬ ∀ (format : OutputFormat) (runners others : List Runner),
      List.Forall₂ Runner.ShownAlike runners others →
        ListingForm.runners.render format runners = ListingForm.runners.render format others := by
  intro hall
  have hsame := Runner.map_gitUrl_eq_of_pretty
    (hall .json [greeter "sesame"] [greeter "swordfish"] (.cons greeter_shownAlike .nil))
  exact absurd hsame (by decide)

end TaskEngine
