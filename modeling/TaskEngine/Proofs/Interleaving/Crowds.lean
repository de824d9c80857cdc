import Mathlib.Logic.Function.Basic
import TaskEngine.Proofs.Interleaving.Races

/-!
# Crowds of dialogues

Any number of dialogues with the same surroundings put their requests in any order, one request at a
time. Where they vie for something that only one can take, they look on until it is taken. Whoever
takes it goes on as if alone, and all others change nothing and come to nothing.
-/

namespace TaskEngine.Dialogue

variable {Request : Type} {Reply : Request → Type} {α β σ τ ι : Type}

/-- One request of one of many dialogues. -/
structure Turn (ι σ : Type) where
  /-- Whose request it is. -/
  who : ι
  /-- The state that it finds. -/
  before : σ
  /-- The state that it leaves. -/
  after : σ

/-- The turn as it is seen from a part of the state. -/
def Turn.map (view : σ → τ) (turn : Turn ι σ) : Turn ι τ :=
  ⟨turn.who, view turn.before, view turn.after⟩

variable [DecidableEq ι]

/-- Many dialogues go on in any order until all of them are over. These are the turns that they take,
the results that they come to and the state in the end. -/
inductive Crowd (answer : (r : Request) → σ → Reply r × σ) :
    (ι → Dialogue Request Reply α) → σ → List (Turn ι σ) → (ι → Outcome α) → σ → Prop
  | ended (results : ι → Outcome α) (s : σ) :
    Crowd answer (fun i => .done (results i)) s [] results s
  | turn {ps : ι → Dialogue Request Reply α} {s t : σ} {turns : List (Turn ι σ)}
    {results : ι → Outcome α} {i : ι} {r : Request} {next : Reply r → Dialogue Request Reply α}
    (asks : ps i = .ask r next)
    (rest : Crowd answer (Function.update ps i (next (answer r s).1)) (answer r s).2 turns
      results t) :
    Crowd answer ps s (⟨i, s, (answer r s).2⟩ :: turns) results t

variable {answer : (r : Request) → σ → Reply r × σ} {ps : ι → Dialogue Request Reply α}
  {p : Dialogue Request Reply α} {s t : σ} {turns : List (Turn ι σ)} {results : ι → Outcome α}

/-! ## Playing a schedule -/

/-- The result of a dialogue that is over. -/
def result? : Dialogue Request Reply α → Option (Outcome α)
  | .done result => some result
  | .ask .. => none

/-- Let dialogues go on in the given order. Whoever is over is passed over. -/
def play (answer : (r : Request) → σ → Reply r × σ) :
    List ι → (ι → Dialogue Request Reply α) → σ → (ι → Dialogue Request Reply α) × σ
  | [], ps, s => (ps, s)
  | i :: rest, ps, s =>
    match ps i with
    | .done _ => play answer rest ps s
    | .ask r next => play answer rest (Function.update ps i (next (answer r s).1)) (answer r s).2

/-- A schedule after which all are over makes a crowd. -/
theorem crowd_play {schedule : List ι}
    (h : ∀ i, ((play answer schedule ps s).1 i).result? = some (results i)) :
    ∃ turns, Crowd answer ps s turns results (play answer schedule ps s).2 := by
  induction schedule generalizing ps s with
  | nil =>
    have hover : ps = fun i => .done (results i) := by
      funext i
      have hi : (ps i).result? = some (results i) := h i
      cases hp : ps i with
      | done result =>
        rw [hp] at hi
        exact congrArg _ (Option.some.inj hi)
      | ask r next =>
        rw [hp] at hi
        cases hi
    exact ⟨[], hover ▸ .ended results s⟩
  | cons i rest ih =>
    rw [play] at h ⊢
    cases hp : ps i with
    | done result =>
      simp only [hp] at h ⊢
      exact ih h
    | ask r next =>
      simp only [hp] at h ⊢
      obtain ⟨turns, hcrowd⟩ := ih h
      exact ⟨_, .turn hp hcrowd⟩

/-! ## Seen from less -/

/-- What every dialogue of a crowd has, all have after one of them has gone on. -/
theorem forall_update {P : ι → Dialogue Request Reply α → Prop} (h : ∀ i, P i (ps i)) {i : ι}
    (hp : P i p) (j : ι) : P j (Function.update ps i p j) := by
  by_cases hj : j = i
  · subst hj
    rwa [Function.update_self]
  · rw [Function.update_of_ne hj]
    exact h j

/-- A crowd is seen from a part of the state that is enough for its requests. -/
theorem Crowd.of_view {answer' : (r : Request) → τ → Reply r × τ} {view : σ → τ} {I : σ → Prop}
    {allowed : Request → Prop}
    (h : ∀ r s, allowed r → I s → (answer r s).1 = (answer' r (view s)).1 ∧
      view (answer r s).2 = (answer' r (view s)).2 ∧ I (answer r s).2)
    (hcrowd : Crowd answer ps s turns results t) (hps : ∀ i, (ps i).OnlyAsks allowed) (hs : I s) :
    Crowd answer' ps (view s) (turns.map (Turn.map view)) results (view t) ∧ I t := by
  induction hcrowd with
  | ended results s => exact ⟨.ended results (view s), hs⟩
  | @turn ps s t turns results i r next asks rest ih =>
    have hasks := hps i
    rw [asks] at hasks
    obtain ⟨hreply, hview, hkept⟩ := h r s hasks.1 hs
    obtain ⟨hrest, ht⟩ := ih (forall_update hps (hasks.2 _)) hkept
    rw [hview, hreply] at hrest
    refine ⟨?_, ht⟩
    rw [List.map_cons, Turn.map, hview]
    exact .turn asks hrest

/-! ## Who comes first -/

omit [DecidableEq ι]

/-- A dialogue that comes too late: as long as `T` holds, it changes nothing, and it comes to a
result that is expected of those. -/
abbrev Late (answer : (r : Request) → σ → Reply r × σ) (T : σ → Prop) (R : Outcome α → Prop)
    (p : Dialogue Request Reply α) : Prop :=
  p.Along answer T (fun s t => t = s) R

/-- A dialogue that vies for something. It looks on at a state `s`, and at any time it can come too
late; its first change leads to `T`, and what is left then keeps to that. -/
def Vies (answer : (r : Request) → σ → Reply r × σ) (s : σ) (T : σ → Prop)
    (R : Outcome α → Prop) : Dialogue Request Reply α → Prop
  | .done result => R result
  | .ask r next => (Dialogue.ask r next).Late answer T R ∧
    ((answer r s).2 = s ∧ (next (answer r s).1).Vies answer s T R ∨
      T (answer r s).2 ∧ (next (answer r s).1).Keeps answer T)

variable {T : σ → Prop} {R : Outcome α → Prop} {S : Outcome β → Prop}

/-- Whoever vies can come too late. -/
theorem Vies.late (h : p.Vies answer s T R) : p.Late answer T R := by
  cases p with
  | done result => exact h
  | ask r next => exact h.1

/-- Who changes nothing anyway only looks on. -/
theorem vies_of_late (h : p.Late answer (fun _ => True) R) : p.Vies answer s T R := by
  induction p with
  | done result => exact h
  | ask r next ih =>
    refine ⟨h.mono (fun _ _ => trivial) (fun _ _ _ hsame => hsame) fun _ hR => hR, .inl ?_⟩
    exact ⟨(h s trivial).1, ih _ (h s trivial).2⟩

/-- What follows without a change of its own follows whoever comes first. -/
theorem Vies.followedBy {k : Outcome α → Dialogue Request Reply β} (h : p.Vies answer s T R)
    (hlate : ∀ a, R a → (k a).Late answer (fun _ => True) S)
    (hkeeps : ∀ a, (k a).Keeps answer T) : (p.followedBy k).Vies answer s T S := by
  have htoo : ∀ a, R a → (k a).Late answer T S := fun a ha =>
    (hlate a ha).mono (fun _ _ => trivial) (fun _ _ _ hsame => hsame) fun _ hS => hS
  induction p with
  | done result => exact vies_of_late (hlate result h)
  | ask r next ih =>
    obtain ⟨hasks, ⟨hsame, hnext⟩ | ⟨htaken, hnext⟩⟩ := h
    · exact ⟨Along.followedBy hasks htoo, .inl ⟨hsame, ih _ hnext⟩⟩
    · exact ⟨Along.followedBy hasks htoo, .inr ⟨htaken, hnext.followedBy fun a _ => hkeeps a⟩⟩

variable [DecidableEq ι]

/-- Once it is taken, the one who has taken it goes on as if alone: all others change nothing. -/
theorem Crowd.late {winner : ι} (hcrowd : Crowd answer ps s turns results t)
    (hwinner : (ps winner).Keeps answer T) (hothers : ∀ i ≠ winner, (ps i).Late answer T R)
    (hs : T s) :
    (results winner, t) = (ps winner).run answer s ∧ T t ∧ (∀ i ≠ winner, R (results i)) ∧
      ∀ turn ∈ turns, turn.who ≠ winner → turn.after = turn.before := by
  induction hcrowd with
  | ended results s => exact ⟨rfl, hs, hothers, by simp⟩
  | @turn ps s t turns results i r next asks rest ih =>
    by_cases hi : i = winner
    · subst hi
      rw [asks] at hwinner
      obtain ⟨hkept, hnext⟩ := hwinner s hs
      obtain ⟨hrun, ht, hresults, hturns⟩ := ih (by rwa [Function.update_self])
        (fun j hj => by rw [Function.update_of_ne hj]; exact hothers j hj) hkept
      rw [Function.update_self] at hrun
      refine ⟨by rw [asks, run_ask]; exact hrun, ht, hresults, ?_⟩
      exact List.forall_mem_cons.mpr ⟨fun hother => absurd rfl hother, hturns⟩
    · have hlate := hothers i hi
      rw [asks] at hlate
      obtain ⟨hsame, hnext⟩ := hlate s hs
      rw [hsame] at ih ⊢
      have hothers' : ∀ j ≠ winner,
          (Function.update ps i (next (answer r s).1) j).Late answer T R :=
        forall_update (P := fun j p => j ≠ winner → p.Late answer T R) hothers fun _ => hnext
      obtain ⟨hrun, ht, hresults, hturns⟩ :=
        ih (by rwa [Function.update_of_ne (Ne.symm hi)]) hothers' hs
      rw [Function.update_of_ne (Ne.symm hi)] at hrun
      exact ⟨hrun, ht, hresults, List.forall_mem_cons.mpr ⟨fun _ => rfl, hturns⟩⟩

/-- Of dialogues that vie for something at most one takes it. It ends as if alone; all others change
nothing and come to nothing. -/
theorem Crowd.contest (hcrowd : Crowd answer ps s turns results t)
    (hps : ∀ i, (ps i).Vies answer s T R) :
    (t = s ∧ (∀ i, R (results i)) ∧ ∀ turn ∈ turns, turn.after = turn.before) ∨
      ∃ winner, (results winner, t) = (ps winner).run answer s ∧ T t ∧
        (∀ i ≠ winner, R (results i)) ∧
        ∀ turn ∈ turns, turn.who ≠ winner → turn.after = turn.before := by
  induction hcrowd with
  | ended results s => exact .inl ⟨rfl, hps, by simp⟩
  | @turn ps s t turns results i r next asks rest ih =>
    have hvies := hps i
    rw [asks] at hvies
    obtain ⟨-, ⟨hsame, hnext⟩ | ⟨htaken, hnext⟩⟩ := hvies
    · rw [hsame] at ih ⊢
      rcases ih (forall_update hps hnext) with ⟨ht, hresults, hturns⟩ | ⟨winner, hrun, hrest⟩
      · exact .inl ⟨ht, hresults, List.forall_mem_cons.mpr ⟨rfl, hturns⟩⟩
      · obtain ⟨ht, hresults, hturns⟩ := hrest
        refine .inr ⟨winner, hrun.trans ?_, ht, hresults,
          List.forall_mem_cons.mpr ⟨fun _ => rfl, hturns⟩⟩
        by_cases hi : winner = i
        · subst hi
          rw [Function.update_self, asks, run_ask, hsame]
        · rw [Function.update_of_ne hi]
    · have hothers : ∀ j ≠ i, (Function.update ps i (next (answer r s).1) j).Late answer T R := by
        intro j hj
        rw [Function.update_of_ne hj]
        exact (hps j).late
      obtain ⟨hrun, ht, hresults, hturns⟩ :=
        rest.late (by rwa [Function.update_self]) hothers htaken
      rw [Function.update_self] at hrun
      refine .inr ⟨i, by rw [asks, run_ask]; exact hrun, ht, hresults, ?_⟩
      exact List.forall_mem_cons.mpr ⟨fun hother => absurd rfl hother, hturns⟩

end TaskEngine.Dialogue
