import Unifabric.Lib.Loop

/-!
# Programs which call a server

A program ends with a value or a failure, or issues a request and continues
with the answer.  Nothing is assumed of the answers.  What a program requests
is judged by the exchanges before, so a statement about it holds in every
interleaving with other clients of the server.
-/

namespace Unifabric.Lib

/-- A program which may fail and which calls a server. -/
inductive Program (Request : Type) (Answer : Request → Type)
    (Failure : Type) (α : Type) : Type where
  | done (value : α)
  | fail (failure : Failure)
  | call (request : Request) (next : Answer request → Program Request Answer Failure α)

/-- A request with its answer. -/
abbrev Exchange (Request : Type) (Answer : Request → Type) : Type :=
  (request : Request) × Answer request

namespace Program

variable {Request : Type} {Answer : Request → Type} {Failure α β : Type}

/-- Continue with the value of a program. -/
def bind (program : Program Request Answer Failure α)
    (next : α → Program Request Answer Failure β) : Program Request Answer Failure β :=
  match program with
  | .done value => next value
  | .fail failure => .fail failure
  | .call request rest => .call request fun answer => (rest answer).bind next

instance : Monad (Program Request Answer Failure) where
  pure := .done
  bind := Program.bind

/-- Issue one request. -/
def ask (request : Request) : Program Request Answer Failure (Answer request) := .call request .done

/-! ## What a program requests -/

/--
After the exchanges of the log every request of the program is allowed by the
exchanges before it, and it ends with a value or a failure which the whole log
allows.
-/
def Obeys (allowed : List (Exchange Request Answer) → Request → Prop)
    (failed : List (Exchange Request Answer) → Failure → Prop)
    (returned : List (Exchange Request Answer) → α → Prop) (log : List (Exchange Request Answer)) :
    Program Request Answer Failure α → Prop
  | .done value => returned log value
  | .fail failure => failed log failure
  | .call request next =>
    allowed log request ∧ ∀ answer, Obeys allowed failed returned (log ++ [⟨request, answer⟩])
        (next answer)

section

variable {allowed : List (Exchange Request Answer) → Request → Prop}
  {failed : List (Exchange Request Answer) → Failure → Prop}
  {returned : List (Exchange Request Answer) → α → Prop}
  {log : List (Exchange Request Answer)}

lemma Obeys.bind {finished : List (Exchange Request Answer) → β → Prop}
    (first : Obeys allowed failed returned log program)
    (second : ∀ later value, returned later value →
      Obeys allowed failed finished later (next value)) :
    Obeys allowed failed finished log (program >>= next) := by
  induction program generalizing log with
  | done value => exact second log value first
  | fail failure => exact first
  | call request rest ih => exact ⟨first.1, fun answer => ih answer (first.2 answer)⟩

lemma Obeys.imp {weaker : List (Exchange Request Answer) → α → Prop}
    (obeys : Obeys allowed failed returned log program)
    (weaken : ∀ later value, returned later value → weaker later value) :
    Obeys allowed failed weaker log program := by
  induction program generalizing log with
  | done value => exact weaken log value obeys
  | fail failure => exact obeys
  | call request next ih => exact ⟨obeys.1, fun answer => ih answer (obeys.2 answer)⟩

/-- A loop whose body keeps an invariant of the values it is done with. -/
lemma obeys_foldlM_prefix {γ : Type} {values : List γ}
    {step : α → γ → Program Request Answer Failure α}
    (invariant : List γ → List (Exchange Request Answer) → α → Prop)
    (advance : ∀ done value rest later state,
      values = done ++ value :: rest → invariant done later state →
        Obeys allowed failed (invariant (done ++ [value])) later (step state value))
    (initial : invariant [] log start) :
    Obeys allowed failed (invariant values) log (values.foldlM step start) := by
  refine split_induction (fun done rest => ∀ later state, invariant done later state →
    Obeys allowed failed (invariant values) later (rest.foldlM step state))
    (fun _ _ reached => reached) ?_ log start initial
  intro done value rest split next later state reached
  exact (advance done value rest later state split reached).bind next

/-- A loop whose body keeps an invariant of the log and the state. -/
lemma obeys_foldlM {γ : Type} {values : List γ} {step : α → γ → Program Request Answer Failure α}
    (invariant : List (Exchange Request Answer) → α → Prop)
    (advance : ∀ later state, ∀ value ∈ values, invariant later state →
      Obeys allowed failed invariant later (step state value)) (initial : invariant log start) :
    Obeys allowed failed invariant log (values.foldlM step start) := by
  refine obeys_foldlM_prefix (fun _ => invariant) ?_ initial
  intro done value rest later state split reached
  refine advance later state value ?_ reached
  rw [split]
  exact List.mem_append_right done List.mem_cons_self

end

/-! ## Runs -/

/-- What is left of a program after the exchanges of the log. -/
inductive Reaches (start : Program Request Answer Failure α) :
    List (Exchange Request Answer) → Program Request Answer Failure α → Prop
  | refl : Reaches start [] start
  | answered {log : List (Exchange Request Answer)} {request : Request}
      {next : Answer request → Program Request Answer Failure α}
      (before : Reaches start log (.call request next))
      (answer : Answer request) :
      Reaches start (log ++ [⟨request, answer⟩]) (next answer)

lemma Reaches.obeys {allowed : List (Exchange Request Answer) → Request → Prop}
    {failed : List (Exchange Request Answer) → Failure → Prop}
    {returned : List (Exchange Request Answer) → α → Prop}
    (obeys : Obeys allowed failed returned [] start) (reaches : Reaches start log program) :
    Obeys allowed failed returned log program := by
  induction reaches with
  | refl => exact obeys
  | answered _ answer ih => exact ih.2 answer

end Program

/-! ## Runs against a server -/

/-- A request the server has served, with its state before and after. -/
structure Served (σ Request : Type) (Answer : Request → Type) where
  before : σ
  exchange : Exchange Request Answer
  after : σ

/-- What a whole run served, and how it ended. -/
structure Run (σ Request : Type) (Answer : Request → Type)
    (Failure α : Type) where
  served : List (Served σ Request Answer)
  state : σ
  result : Except Failure α

section

variable {σ Request : Type} {Answer : Request → Type} {Failure α β : Type}

/-- A run with one request more before it. -/
def Run.prepend (run : Run σ Request Answer Failure α)
    (first : Served σ Request Answer) : Run σ Request Answer Failure α :=
  { run with served := first :: run.served }

/-- Continue with the value of a run and the number of its requests. -/
def Run.followedBy (first : Run σ Request Answer Failure α)
    (next : α → Nat → σ → Run σ Request Answer Failure β) : Run σ Request Answer Failure β :=
  match first.result with
  | .error failure => ⟨first.served, first.state, .error failure⟩
  | .ok value =>
    let rest := next value first.served.length first.state
    { rest with served := first.served ++ rest.served }

lemma Run.followedBy_prepend (run : Run σ Request Answer Failure α)
    (first : Served σ Request Answer) (next : α → Nat → σ → Run σ Request Answer Failure β) :
    (run.prepend first).followedBy next = (run.followedBy fun value served =>
        next value (served + 1)).prepend first := by
  obtain ⟨served, state, result⟩ := run
  cases result <;> rfl

end

namespace Program

section

variable {σ τ Request : Type} {Answer : Request → Type} {Failure α β : Type}

/--
Run a program.  The n-th turn says what others do before the n-th request
arrives and how it is served.
-/
def run (others : τ → σ → σ) (serve : τ → σ → (request : Request) → Answer request × σ)
    (turns : Nat → τ) (turn : Nat) (state : σ) :
    Program Request Answer Failure α → Run σ Request Answer Failure α
  | .done value => ⟨[], state, .ok value⟩
  | .fail failure => ⟨[], state, .error failure⟩
  | .call request next =>
    let before := others (turns turn) state
    let (answer, after) := serve (turns turn) before request
    (run others serve turns (turn + 1) after (next answer)).prepend
      ⟨before, ⟨request, answer⟩, after⟩

variable {others : τ → σ → σ} {serve : τ → σ → (request : Request) → Answer request × σ}
  {turns : Nat → τ}

/-- A program followed by another runs both, unless the first fails. -/
lemma run_bind (program : Program Request Answer Failure α)
    (next : α → Program Request Answer Failure β) (turn : Nat) (state : σ) :
    (program >>= next).run others serve turns turn state =
      (program.run others serve turns turn state).followedBy fun value served =>
        (next value).run others serve turns (turn + served) := by
  induction program generalizing turn state with
  | done value => rfl
  | fail failure => rfl
  | call request rest hypothesis =>
    let before := others (turns turn) state
    let answered := serve (turns turn) before request
    have follows : (Program.call request rest >>= next).run others serve turns turn state =
          ((rest answered.1 >>= next).run others serve turns (turn + 1)
            answered.2).prepend ⟨before, ⟨request, answered.1⟩, answered.2⟩ :=
      rfl
    have runs : (Program.call request rest).run others serve turns turn state =
          ((rest answered.1).run others serve turns (turn + 1)
            answered.2).prepend ⟨before, ⟨request, answered.1⟩, answered.2⟩ :=
      rfl
    rw [follows, runs, hypothesis, Run.followedBy_prepend]
    simp only [Nat.add_assoc, Nat.add_comm 1]

end

end Program

end Unifabric.Lib
