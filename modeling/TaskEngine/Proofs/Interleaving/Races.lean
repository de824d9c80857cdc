import TaskEngine.Proofs.Engine.Reads

/-!
# Races of dialogues

Two dialogues with the same surroundings put their requests in any order, one request at a time. The
two serial orders are among these races. A race in which one of the two changes nothing is settled
at once; so is one in which either only looks until its first change, if the one that comes too late
ends as if it began only then.
-/

namespace TaskEngine.Dialogue

variable {Request : Type} {Reply : Request → Type} {α β σ τ : Type}

/-- One dialogue after the other. -/
def serial (answer : (r : Request) → σ → Reply r × σ) (p : Dialogue Request Reply α)
    (q : Dialogue Request Reply β) (s : σ) : (Outcome α × Outcome β) × σ :=
  let (a, s) := p.run answer s
  let (b, s) := q.run answer s
  ((a, b), s)

/-- What two dialogues have come to, with the results in the other order. -/
def swapped (ends : (Outcome α × Outcome β) × σ) : (Outcome β × Outcome α) × σ :=
  (ends.1.swap, ends.2)

/-- Two dialogues go on in any order until both are over, and this is what they come to. -/
inductive Races (answer : (r : Request) → σ → Reply r × σ) :
    Dialogue Request Reply α → Dialogue Request Reply β → σ → (Outcome α × Outcome β) × σ → Prop
  | ended (a : Outcome α) (b : Outcome β) (s : σ) : Races answer (.done a) (.done b) s ((a, b), s)
  | left {r : Request} {next : Reply r → Dialogue Request Reply α} {q : Dialogue Request Reply β}
    {s : σ} {ends : (Outcome α × Outcome β) × σ}
    (rest : Races answer (next (answer r s).1) q (answer r s).2 ends) :
    Races answer (.ask r next) q s ends
  | right {p : Dialogue Request Reply α} {r : Request} {next : Reply r → Dialogue Request Reply β}
    {s : σ} {ends : (Outcome α × Outcome β) × σ}
    (rest : Races answer p (next (answer r s).1) (answer r s).2 ends) :
    Races answer p (.ask r next) s ends

/-- The race in which the first dialogue goes on where a turn is `true`. When the turns or a
dialogue are over, the rest is done one after the other. -/
def race (answer : (r : Request) → σ → Reply r × σ) :
    List Bool → Dialogue Request Reply α → Dialogue Request Reply β → σ →
      (Outcome α × Outcome β) × σ
  | true :: turns, .ask r next, q, s => race answer turns (next (answer r s).1) q (answer r s).2
  | false :: turns, p, .ask r next, s => race answer turns p (next (answer r s).1) (answer r s).2
  | _, p, q, s => serial answer p q s

variable {answer : (r : Request) → σ → Reply r × σ} {p p' : Dialogue Request Reply α}
  {q q' : Dialogue Request Reply β} {s : σ} {ends : (Outcome α × Outcome β) × σ}

/-- It does not matter which of two dialogues is called the first. -/
theorem Races.symm (h : Races answer p q s ends) : Races answer q p s (swapped ends) := by
  induction h with
  | ended a b s => exact .ended b a s
  | left rest ih => exact .right ih
  | right rest ih => exact .left ih

/-- One after the other is a race. -/
theorem races_serial (answer : (r : Request) → σ → Reply r × σ) (p : Dialogue Request Reply α)
    (q : Dialogue Request Reply β) (s : σ) : Races answer p q s (serial answer p q s) := by
  induction p generalizing s with
  | done a =>
    induction q generalizing s with
    | done b => exact .ended a b s
    | ask r next ih => exact .right (ih (answer r s).1 (answer r s).2)
  | ask r next ih => exact .left (ih (answer r s).1 (answer r s).2)

/-- Whoever goes on, it is a race. -/
theorem races_race (answer : (r : Request) → σ → Reply r × σ) (turns : List Bool)
    (p : Dialogue Request Reply α) (q : Dialogue Request Reply β) (s : σ) :
    Races answer p q s (race answer turns p q s) := by
  induction turns, p, q, s using race.induct answer with
  | case1 turns r next q s ih => exact .left ih
  | case2 turns p r next s ih =>
    rw [race]
    exact .right ih
  | case3 turns p q s hleft hright =>
    rw [race]
    · exact races_serial answer p q s
    · exact hleft
    · exact hright

theorem run_ask (r : Request) (next : Reply r → Dialogue Request Reply α) (s : σ) :
    (Dialogue.ask r next).run answer s = (next (answer r s).1).run answer (answer r s).2 := rfl

/-- A serial order starts with a run of its first dialogue. -/
theorem serial_congr_left (h : p.run answer s = p'.run answer s) :
    serial answer p q s = serial answer p' q s := by
  rw [serial, h]
  rfl

/-- A serial order ends with a run of its second dialogue. -/
theorem serial_congr_right
    (h : q.run answer (p.run answer s).2 = q'.run answer (p.run answer s).2) :
    serial answer p q s = serial answer p q' s := by
  simp only [serial, h]

/-- A step of the second dialogue that changes places with all of the first one may as well come
after it. -/
theorem serial_ask_right {r : Request} {next : Reply r → Dialogue Request Reply β}
    (hrun : p.run answer (answer r s).2 =
      ((p.run answer s).1, (answer r (p.run answer s).2).2))
    (hreply : next (answer r s).1 = next (answer r (p.run answer s).2).1) :
    serial answer p (next (answer r s).1) (answer r s).2 = serial answer p (.ask r next) s := by
  simp only [serial, hrun, hreply]
  rfl

/-! ## Seen from less -/

section Projection

variable {answer' : (r : Request) → τ → Reply r × τ} {view : σ → τ} {I : σ → Prop}
  {allowed : Request → Prop}

/-- A run is seen from a part of the state that is enough for its requests. -/
theorem run_of_view
    (h : ∀ r s, allowed r → I s → (answer r s).1 = (answer' r (view s)).1 ∧
      view (answer r s).2 = (answer' r (view s)).2 ∧ I (answer r s).2)
    (hp : p.OnlyAsks allowed) (hs : I s) :
    (p.run answer s).1 = (p.run answer' (view s)).1 ∧
      view (p.run answer s).2 = (p.run answer' (view s)).2 ∧ I (p.run answer s).2 := by
  induction p generalizing s with
  | done a => exact ⟨rfl, rfl, hs⟩
  | ask r next ih =>
    obtain ⟨hreply, hview, hkept⟩ := h r s hp.1 hs
    have hrest := ih (answer r s).1 (hp.2 _) hkept
    rw [hview, hreply] at hrest
    simp only [run, hreply]
    exact hrest

theorem serial_of_view
    (h : ∀ r s, allowed r → I s → (answer r s).1 = (answer' r (view s)).1 ∧
      view (answer r s).2 = (answer' r (view s)).2 ∧ I (answer r s).2)
    (hp : p.OnlyAsks allowed) (hq : q.OnlyAsks allowed) (hs : I s) :
    serial answer' p q (view s) =
      ((serial answer p q s).1, view (serial answer p q s).2) := by
  obtain ⟨hfirst, hview, hkept⟩ := run_of_view h hp hs
  obtain ⟨hsecond, hview', -⟩ := run_of_view h hq hkept
  rw [hview] at hsecond hview'
  exact Prod.ext (Prod.ext hfirst.symm hsecond.symm) hview'.symm

/-- So is a race. -/
theorem Races.of_view
    (h : ∀ r s, allowed r → I s → (answer r s).1 = (answer' r (view s)).1 ∧
      view (answer r s).2 = (answer' r (view s)).2 ∧ I (answer r s).2)
    (hraces : Races answer p q s ends) (hp : p.OnlyAsks allowed) (hq : q.OnlyAsks allowed)
    (hs : I s) : Races answer' p q (view s) (ends.1, view ends.2) ∧ I ends.2 := by
  induction hraces with
  | ended a b s => exact ⟨.ended a b (view s), hs⟩
  | @left r next q s ends rest ih =>
    obtain ⟨hreply, hview, hkept⟩ := h r s hp.1 hs
    have hrest := ih (hp.2 _) hq hkept
    rw [hview, hreply] at hrest
    exact hrest.imp_left .left
  | @right p r next s ends rest ih =>
    obtain ⟨hreply, hview, hkept⟩ := h r s hq.1 hs
    have hrest := ih hp (hq.2 _) hkept
    rw [hview, hreply] at hrest
    exact hrest.imp_left .right

end Projection

/-! ## Steps between foreign ones -/

/-- Whatever else happens to the state, as long as `J` holds before every step of a dialogue: its
own steps are of a kind, and its result is one that is expected. -/
def Along (answer : (r : Request) → σ → Reply r × σ) (J : σ → Prop) (G : σ → σ → Prop)
    (R : Outcome α → Prop) : Dialogue Request Reply α → Prop
  | .done result => R result
  | .ask r next => ∀ s, J s → G s (answer r s).2 ∧ (next (answer r s).1).Along answer J G R

variable {J : σ → Prop} {G : σ → σ → Prop} {R : Outcome α → Prop} {S : Outcome β → Prop}

theorem Along.followedBy {next : Outcome α → Dialogue Request Reply β}
    (hp : p.Along answer J G R) (hnext : ∀ result, R result → (next result).Along answer J G S) :
    (p.followedBy next).Along answer J G S := by
  induction p with
  | done result => exact hnext result hp
  | ask r go ih => exact fun s hs => ⟨(hp s hs).1, ih _ (hp s hs).2⟩

theorem Along.bind {next : α → Dialogue Request Reply β} (hp : p.Along answer J G R)
    (hok : ∀ a, R (.ok a) → (next a).Along answer J G S)
    (herror : ∀ e, R (.error e) → S (.error e)) : (p >>= next).Along answer J G S := by
  refine hp.followedBy fun result hresult => ?_
  cases result with
  | ok a => exact hok a hresult
  | error e => exact herror e hresult

theorem Along.mono {J' : σ → Prop} {G' : σ → σ → Prop} {R' : Outcome α → Prop}
    (hp : p.Along answer J G R) (hJ : ∀ s, J' s → J s) (hG : ∀ s t, J' s → G s t → G' s t)
    (hR : ∀ result, R result → R' result) : p.Along answer J' G' R' := by
  induction p with
  | done result => exact hR result hp
  | ask r go ih =>
    exact fun s hs => ⟨hG s _ hs (hp s (hJ s hs)).1, ih _ (hp s (hJ s hs)).2⟩

/-- A dialogue whose steps keep what they rely on. -/
abbrev Keeps (answer : (r : Request) → σ → Reply r × σ) (J : σ → Prop)
    (p : Dialogue Request Reply α) : Prop :=
  p.Along answer J (fun _ t => J t) fun _ => True

/-- A dialogue that changes nothing and comes to one result, as long as `J` holds. -/
abbrev Idles (answer : (r : Request) → σ → Reply r × σ) (J : σ → Prop) (result : Outcome α)
    (p : Dialogue Request Reply α) : Prop :=
  p.Along answer J (fun s t => t = s) (· = result)

theorem Keeps.run (h : p.Keeps answer J) (hs : J s) : J (p.run answer s).2 := by
  induction p generalizing s with
  | done a => exact hs
  | ask r next ih => exact ih _ (h s hs).2 (h s hs).1

theorem Keeps.and {J' : σ → Prop} (h : p.Keeps answer J) (h' : p.Keeps answer J') :
    p.Keeps answer fun s => J s ∧ J' s := by
  induction p with
  | done a => trivial
  | ask r next ih =>
    exact fun s hs => ⟨⟨(h s hs.1).1, (h' s hs.2).1⟩, ih _ (h s hs.1).2 (h' s hs.2).2⟩

theorem Idles.run {b : Outcome β} (h : q.Idles answer J b) (hs : J s) :
    q.run answer s = (b, s) := by
  induction q with
  | done b' => exact Prod.ext h rfl
  | ask r next ih =>
    obtain ⟨hsame, hnext⟩ := h s hs
    rw [run_ask, hsame]
    exact ih _ hnext

/-- What both dialogues keep, their race keeps. -/
theorem Races.keeps (hraces : Races answer p q s ends) (hp : p.Keeps answer J)
    (hq : q.Keeps answer J) (hs : J s) : J ends.2 := by
  induction hraces with
  | ended a b s => exact hs
  | left rest ih => exact ih (hp _ hs).2 hq (hp _ hs).1
  | right rest ih => exact ih hp (hq _ hs).2 (hq _ hs).1

/-- Who changes nothing may as well come last. -/
theorem Races.eq_serial (hraces : Races answer p q s ends) (hp : p.Keeps answer J) {b : Outcome β}
    (hq : q.Idles answer J b) (hs : J s) : ends = serial answer p q s := by
  induction hraces with
  | ended a b s => rfl
  | left rest ih => exact ih (hp _ hs).2 hq (hp _ hs).1
  | @right p r next s ends rest ih =>
    obtain ⟨hsame, hnext⟩ := hq s hs
    rw [hsame] at ih
    refine (ih hp hnext hs).trans (serial_congr_right ?_)
    rw [Idles.run hnext (hp.run hs), hq.run (hp.run hs)]

/-! ## Who comes first -/

/-- Up to its first change a dialogue only looks at a state. Until it fails for good it is one that
can come too late; its first change leads to a state that is `Ours`, and what is left then is as
`Won` says. -/
def Tentative (answer : (r : Request) → σ → Reply r × σ) (s : σ) (Ours : σ → Prop)
    (Won Lost : Dialogue Request Reply α → Prop) : Dialogue Request Reply α → Prop
  | .done _ => True
  | .ask r next =>
    (∃ result, (Dialogue.ask r next).Idles answer (fun _ => True) result) ∨
      Lost (.ask r next) ∧
        ((answer r s).2 = s ∧ (next (answer r s).1).Tentative answer s Ours Won Lost ∨
          Ours (answer r s).2 ∧ Won (next (answer r s).1))

variable {Ours Theirs : σ → Prop} {Won Lost : Dialogue Request Reply α → Prop}
  {Won' Lost' : Dialogue Request Reply β → Prop}

/-- A dialogue that may still change something can come too late. -/
theorem Tentative.idles_or_lost (h : p.Tentative answer s Ours Won Lost) :
    (∃ a, p.Idles answer (fun _ => True) a) ∨ Lost p := by
  cases p with
  | done a => exact .inl ⟨a, rfl⟩
  | ask r next => exact h.imp_right fun h => h.1

/-- A dialogue without conditions on the state keeps them. -/
theorem keeps_true (p : Dialogue Request Reply α) : p.Keeps answer fun _ => True := by
  induction p with
  | done a => trivial
  | ask r next ih => exact fun s _ => ⟨trivial, ih _⟩

/-- Against one that has failed for good, the other has the state to itself. -/
theorem Races.eq_of_idles (hraces : Races answer p q s ends) {b : Outcome β}
    (hq : q.Idles answer (fun _ => True) b) (hq₀ : q.run answer s = q'.run answer s)
    (hp₀ : p.run answer s = p'.run answer s) : ends = swapped (serial answer q' p' s) := by
  have hends := hraces.eq_serial (keeps_true p) hq trivial
  have hfirst : q'.run answer s = (b, s) := hq₀.symm.trans (hq.run trivial)
  have hsecond : q.run answer (p.run answer s).2 = (b, (p.run answer s).2) := hq.run trivial
  rw [hends]
  simp only [serial, hsecond, hfirst, ← hp₀]
  rfl

/-- The step that comes first in a race of two that only look until their first change. -/
theorem Races.contest_step {r : Request} {next : Reply r → Dialogue Request Reply α}
    (rest : Races answer (next (answer r s).1) q (answer r s).2 ends)
    (hp : (Dialogue.ask r next).Tentative answer s Ours Won Lost)
    (hq : q.Tentative answer s Theirs Won' Lost')
    (hp₀ : (Dialogue.ask r next).run answer s = p'.run answer s)
    (hq₀ : q.run answer s = q'.run answer s)
    (hfirst : ∀ w l t ends, Won w → Lost' l → Ours t → Races answer w l t ends →
      ends = serial answer w q' t)
    (hlook : (answer r s).2 = s → (next (answer r s).1).Tentative answer s Ours Won Lost →
      ends = serial answer p' q' s ∨ ends = swapped (serial answer q' p' s)) :
    ends = serial answer p' q' s ∨ ends = swapped (serial answer q' p' s) := by
  rcases hp with ⟨a, hidle⟩ | ⟨-, ⟨hsame, hnext⟩ | ⟨hours, hwon⟩⟩
  · have hswapped := (Races.left rest).symm.eq_of_idles hidle hp₀ hq₀
    exact .inl (congrArg swapped hswapped)
  · exact hlook hsame hnext
  · rcases hq.idles_or_lost with ⟨b, hidle⟩ | hlost
    · exact .inr ((Races.left rest).eq_of_idles hidle hq₀ hp₀)
    · refine .inl ((hfirst _ q _ ends hwon hlost hours rest).trans ?_)
      exact serial_congr_left (p := .ask r next) hp₀

/-- Two dialogues only look until their first change, and who comes too late ends as if it began
only then: so the race is as good as one of the two serial orders. -/
theorem Races.contest (hraces : Races answer p q s ends)
    (hp : p.Tentative answer s Ours Won Lost) (hq : q.Tentative answer s Theirs Won' Lost')
    (hp₀ : p.run answer s = p'.run answer s) (hq₀ : q.run answer s = q'.run answer s)
    (hfirst : ∀ w l t ends, Won w → Lost' l → Ours t → Races answer w l t ends →
      ends = serial answer w q' t)
    (hsecond : ∀ w l t ends, Won' w → Lost l → Theirs t → Races answer w l t ends →
      ends = serial answer w p' t) :
    ends = serial answer p' q' s ∨ ends = swapped (serial answer q' p' s) := by
  induction hraces with
  | ended a b s =>
    refine .inl ?_
    simp only [serial, ← hp₀, Dialogue.run, ← hq₀]
  | @left r next q s ends rest ih =>
    refine rest.contest_step hp hq hp₀ hq₀ hfirst fun hsame hnext => ?_
    rw [run_ask, hsame] at hp₀
    rw [hsame] at ih
    exact ih hnext hq hp₀ hq₀
  | @right p r next s ends rest ih =>
    have hlook : (answer r s).2 = s →
        (next (answer r s).1).Tentative answer s Theirs Won' Lost' →
        swapped ends = serial answer q' p' s ∨ swapped ends = swapped (serial answer p' q' s) := by
      intro hsame hnext
      rw [run_ask, hsame] at hq₀
      rw [hsame] at ih
      exact (ih hp hnext hp₀ hq₀).symm.imp (congrArg swapped) (congrArg swapped)
    have hboth := rest.symm.contest_step hq hp hq₀ hp₀ hsecond hlook
    exact hboth.symm.imp (congrArg swapped) (congrArg swapped)

end TaskEngine.Dialogue
