import Unifabric.Lib.Program

/-!
# Programs alone at a server

A program whose requests a server serves one after the other, with nobody else
at the server.  How the server answers is a relation, so it may fail any
request.  The rules say what holds in every state a run comes to, wherever it
stops, and that some run returns.
-/

namespace Unifabric.Lib.Program

variable {σ Request : Type} {Answer : Request → Type} {Failure α β γ : Type}
  {serves : σ → (request : Request) → Answer request → σ → Prop}

/-- The server serves the next request of a program. -/
inductive Advances
    (serves : σ → (request : Request) → Answer request → σ → Prop) :
    σ × Program Request Answer Failure α → σ × Program Request Answer Failure α → Prop
  | served {state after : σ} {request : Request} {answer : Answer request}
      {next : Answer request → Program Request Answer Failure α}
      (served : serves state request answer after) :
      Advances serves (state, .call request next) (after, next answer)

/-- A run of the program comes to the state and the rest of the program. -/
abbrev Comes (serves : σ → (request : Request) → Answer request → σ → Prop) :
    σ × Program Request Answer Failure α → σ × Program Request Answer Failure α → Prop :=
  Relation.ReflTransGen (Advances serves)

/-! ## What every run keeps -/

/--
In every state a run comes to something holds, and if the run returns, its
last state has a property of the value.
-/
def Ensures (serves : σ → (request : Request) → Answer request → σ → Prop)
    (always : σ → Prop) (returned : α → σ → Prop) (state : σ) :
    Program Request Answer Failure α → Prop
  | .done value => always state ∧ returned value state
  | .fail _ => always state
  | .call request next =>
    always state ∧ ∀ answer after, serves state request answer after →
      Ensures serves always returned after (next answer)

section

variable {always : σ → Prop} {returned : α → σ → Prop} {state : σ}

lemma Ensures.here (ensures : Ensures serves always returned state program) : always state := by
  cases program with
  | done value => exact ensures.1
  | fail failure => exact ensures
  | call request next => exact ensures.1

lemma Ensures.bind {finished : β → σ → Prop} (first : Ensures serves always returned state program)
    (second : ∀ value after, returned value after →
      Ensures serves always finished after (next value)) :
    Ensures serves always finished state (program >>= next) := by
  induction program generalizing state with
  | done value => exact second value state first.2
  | fail failure => exact first
  | call request rest ih =>
    exact ⟨first.1, fun answer after served =>
      ih answer (first.2 answer after served)⟩

lemma ensures_ask (here : always state) (rest : ∀ answer after, serves state request answer after →
      Ensures serves always returned after (next answer)) :
    Ensures serves always returned state (ask request >>= next) :=
  ⟨here, rest⟩

lemma Comes.ensures (comes : Comes serves (state, program) (after, rest))
    (ensures : Ensures serves always returned state program) :
    Ensures serves always returned after rest := by
  suffices general : ∀ reached, Comes serves (state, program) reached →
      Ensures serves always returned reached.1 reached.2 from
    general (after, rest) comes
  intro reached run
  induction run with
  | refl => exact ensures
  | tail _ step kept =>
    cases step with
    | served served => exact kept.2 _ _ served

end

/-! ## Runs which return -/

/-- Some run of the program returns the value. -/
def Returns (serves : σ → (request : Request) → Answer request → σ → Prop)
    (program : Program Request Answer Failure α) (state : σ) (value : α) (after : σ) : Prop :=
  Comes serves (state, program) (after, .done value)

section

variable {state middle after : σ}

lemma Comes.bind (next : α → Program Request Answer Failure β)
    (comes : Comes serves (state, program) (after, rest)) :
    Comes serves (state, program >>= next) (after, rest >>= next) := by
  refine Relation.ReflTransGen.lift (fun reached : σ × Program Request Answer Failure α =>
      (reached.1, reached.2 >>= next)) (fun before later step => ?_) _ _ comes
  cases step with
  | served served => exact .served served

lemma returns_done (value : α) :
    Returns serves (.done value : Program Request Answer Failure α) state value state :=
  .refl

lemma Returns.bind (first : Returns serves program state value middle)
    (second : Returns serves (next value) middle result after) :
    Returns serves (program >>= next) state result after :=
  (Comes.bind next first).trans second

lemma returns_ask (served : serves state request answer middle)
    (rest : Returns serves (next answer) middle value after) :
    Returns serves (ask request >>= next) state value after :=
  .head (.served served) rest

end

/-! ## What every run keeps and some run returns with -/

/-- Every run ensures it, and some run returns. -/
def Attains (serves : σ → (request : Request) → Answer request → σ → Prop)
    (always : σ → Prop) (returned : α → σ → Prop) (state : σ)
    (program : Program Request Answer Failure α) : Prop :=
  Ensures serves always returned state program ∧
    ∃ value after, Returns serves program state value after

section

variable {always : σ → Prop} {returned : α → σ → Prop} {state after : σ}

lemma attains_done (here : always state) (holds : returned value state) :
    Attains serves always returned state (.done value : Program Request Answer Failure α) :=
  ⟨⟨here, holds⟩, value, state, returns_done value⟩

lemma Attains.bind {finished : β → σ → Prop} (first : Attains serves always returned state program)
    (second : ∀ value after, returned value after →
      Attains serves always finished after (next value)) :
    Attains serves always finished state (program >>= next) := by
  refine ⟨first.1.bind fun value after holds =>
    (second value after holds).1, ?_⟩
  obtain ⟨value, middle, runs⟩ := first.2
  have holds : returned value middle := (Comes.ensures runs first.1).2
  obtain ⟨result, final, runsOn⟩ := (second value middle holds).2
  exact ⟨result, final, runs.bind runsOn⟩

lemma attains_ask (here : always state) (possible : serves state request answer after)
    (returns : ∃ value final, Returns serves (next answer) after value final)
    (rest : ∀ answer after, serves state request answer after →
      Ensures serves always returned after (next answer)) :
    Attains serves always returned state (ask request >>= next) := by
  obtain ⟨value, final, runs⟩ := returns
  exact ⟨ensures_ask here rest, value, final, returns_ask possible runs⟩

/-- A loop whose body keeps an invariant of the values it is done with. -/
lemma attains_foldlM (invariant : List γ → α → σ → Prop)
    (holds : ∀ done value state, invariant done value state → always state)
    (advance : ∀ done value rest current state,
      values = done ++ value :: rest → invariant done current state →
        Attains serves always (invariant (done ++ [value])) state (step current value))
    (initial : invariant [] start state) :
    Attains serves always (invariant values) state (values.foldlM step start) := by
  refine split_induction (fun done rest => ∀ current state, invariant done current state →
    Attains serves always (invariant values) state (rest.foldlM step current))
    (fun current state reached => attains_done (holds values current state reached) reached)
    ?_ start state initial
  intro done value rest split later current state reached
  exact (advance done value rest current state split reached).bind later

end

end Unifabric.Lib.Program
