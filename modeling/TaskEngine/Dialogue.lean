import TaskEngine.Error

/-!
# Dialogues with the surroundings

A procedure of the engine is a dialogue: it puts requests to its surroundings, one after the other,
and goes on with the replies until it is done or fails. What a request means is left to whoever
answers it, so the same procedure runs against stores in memory, against a cluster, or step by step
between the steps of another one.
-/

namespace TaskEngine

/-- A dialogue that puts requests, where every request has its own type of reply. -/
inductive Dialogue (Request : Type) (Reply : Request → Type) (α : Type) where
  /-- The dialogue is over. -/
  | done (result : Outcome α)
  /-- Put a request and go on with the reply. -/
  | ask (request : Request) (next : Reply request → Dialogue Request Reply α)

namespace Dialogue

variable {Request : Type} {Reply : Request → Type} {α β : Type}

/-- Succeed without a request. -/
def succeed (a : α) : Dialogue Request Reply α := .done (.ok a)

/-- Fail without a request. -/
def fail (e : EngineError) : Dialogue Request Reply α := .done (.error e)

/-- Take over a result. -/
def lift (result : Outcome α) : Dialogue Request Reply α := .done result

/-- Put a request and be done with the reply. -/
def request (r : Request) : Dialogue Request Reply (Reply r) := .ask r fun reply => .done (.ok reply)

/-- Go on with the result of a dialogue, whether it succeeds or fails. -/
def followedBy (d : Dialogue Request Reply α) (next : Outcome α → Dialogue Request Reply β) :
    Dialogue Request Reply β :=
  match d with
  | .done result => next result
  | .ask r go => .ask r fun reply => (go reply).followedBy next

/-- Go on with the result of a dialogue that succeeds; a failure ends it. -/
def andThen (d : Dialogue Request Reply α) (next : α → Dialogue Request Reply β) :
    Dialogue Request Reply β :=
  d.followedBy fun
    | .ok a => next a
    | .error e => .done (.error e)

/-- Turn a failure into a result. -/
def attempt (d : Dialogue Request Reply α) : Dialogue Request Reply (Outcome α) :=
  d.followedBy succeed

instance : Monad (Dialogue Request Reply) where
  pure := succeed
  bind := andThen

/-- Put the requests of a dialogue to surroundings with a state. -/
def run {σ : Type} (answer : (r : Request) → σ → Reply r × σ) :
    Dialogue Request Reply α → σ → Outcome α × σ
  | .done result, s => (result, s)
  | .ask r next, s =>
    let (reply, s) := answer r s
    (next reply).run answer s

/-- Going on with a result is running the rest from where the first dialogue left off. -/
theorem run_followedBy {σ : Type} (answer : (r : Request) → σ → Reply r × σ)
    (d : Dialogue Request Reply α) (next : Outcome α → Dialogue Request Reply β) (s : σ) :
    (d.followedBy next).run answer s =
      (next (d.run answer s).1).run answer (d.run answer s).2 := by
  induction d generalizing s with
  | done result => rfl
  | ask r go ih => exact ih (answer r s).1 (answer r s).2

/-- A dialogue that does not fail goes on with its result. -/
theorem run_andThen_of_ok {σ : Type} {answer : (r : Request) → σ → Reply r × σ}
    {d : Dialogue Request Reply α} {next : α → Dialogue Request Reply β} {s t : σ} {a : α}
    (h : d.run answer s = (.ok a, t)) : (d.andThen next).run answer s = (next a).run answer t := by
  simp only [andThen, run_followedBy, h]

/-- A dialogue that fails keeps what it did and does nothing more. -/
theorem run_andThen_of_error {σ : Type} {answer : (r : Request) → σ → Reply r × σ}
    {d : Dialogue Request Reply α} {next : α → Dialogue Request Reply β} {s t : σ}
    {e : EngineError} (h : d.run answer s = (.error e, t)) :
    (d.andThen next).run answer s = (.error e, t) := by
  simp only [andThen, run_followedBy, h]
  rfl

/-- Put the requests of a dialogue to surroundings with effects. -/
def perform {m : Type → Type} [Monad m] (answer : (r : Request) → m (Reply r)) :
    Dialogue Request Reply α → m (Outcome α)
  | .done result => pure result
  | .ask r next => do (next (← answer r)).perform answer

/-- Do the same for every member of a list, in order. -/
def each (act : α → Dialogue Request Reply β) : List α → Dialogue Request Reply (List β)
  | [] => succeed []
  | a :: rest => do
    let b ← act a
    let bs ← each act rest
    return b :: bs

end Dialogue

end TaskEngine
