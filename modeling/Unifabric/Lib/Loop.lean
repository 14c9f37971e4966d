import Mathlib

/-!
# Loop rules for imperative code

A condition-controlled loop is a partial step function iterated until it
stops, and a range loop is a left fold.  The rules are an invariant rule, a
termination rule for a decreasing measure, and prefix inductions for pure and
for fallible folds, whose motive sees the part of the list already consumed.
-/

namespace Unifabric.Lib

universe u v w

variable {σ : Type u} {α : Type v} {ε : Type w}

/-! ## Condition-controlled loops -/

/--
Iterate `step` until it stops, at most `fuel` times.  A stopped loop is a
state on which `step` returns `none`.
-/
def runLoop (step : σ → Option σ) : Nat → σ → σ
  | 0, state => state
  | fuel + 1, state =>
    match step state with
    | none => state
    | some next => runLoop step fuel next

lemma runLoop_invariant (invariant : σ → Prop)
    (preserved : ∀ state next, invariant state → step state = some next → invariant next)
    (fuel : Nat) (state : σ) (initial : invariant state) : invariant (runLoop step fuel state) := by
  induction fuel generalizing state with
  | zero => exact initial
  | succ fuel ih =>
    unfold runLoop
    cases stepped : step state with
    | none => exact initial
    | some next => exact ih next (preserved state next initial stepped)

/--
A loop whose steps decrease a measure has stopped once its fuel covers the
measure of the initial state.
-/
lemma runLoop_stops {step : σ → Option σ} (invariant : σ → Prop) (measure : σ → Nat)
    (preserved : ∀ state next, invariant state → step state = some next → invariant next)
    (decreases : ∀ state next, invariant state → step state = some next →
        measure next < measure state)
    (fuel : Nat) (state : σ) (initial : invariant state) (enough : measure state < fuel) :
    step (runLoop step fuel state) = none := by
  induction fuel generalizing state with
  | zero => omega
  | succ fuel ih =>
    unfold runLoop
    cases stepped : step state with
    | none => exact stepped
    | some next =>
      have smaller := decreases state next initial stepped
      exact ih next (preserved state next initial stepped) (by omega)

/-! ## Fallible condition-controlled loops -/

/--
Iterate a step which may stop the loop or fail, at most `fuel` times.
-/
def runLoopM (step : σ → Option (Except ε σ)) : Nat → σ → Except ε σ
  | 0, state => .ok state
  | fuel + 1, state =>
    match step state with
    | none => .ok state
    | some (.error failure) => .error failure
    | some (.ok next) => runLoopM step fuel next

lemma runLoopM_stop (stopped : step state = none) (fuel : Nat) :
    runLoopM step fuel state = .ok state := by
  cases fuel with
  | zero => rfl
  | succ fuel => simp only [runLoopM, stopped]

lemma runLoopM_next (stepped : step state = some (.ok next)) (fuel : Nat) :
    runLoopM step (fuel + 1) state = runLoopM step fuel next := by
  simp only [runLoopM, stepped]

/--
What a relation between the states before and after the loop has to satisfy
so that it holds of every loop which succeeds with enough fuel.
-/
lemma runLoopM_induction {step : σ → Option (Except ε σ)} (invariant : σ → Prop) (measure : σ → Nat)
    (preserved : ∀ state next, invariant state → step state = some (.ok next) →
        invariant next ∧ measure next < measure state) (motive : σ → σ → Prop)
    (stop : ∀ state, invariant state → step state = none → motive state state)
    (advance : ∀ state next final, invariant state →
      step state = some (.ok next) → motive next final → motive state final)
    (fuel : Nat) (state final : σ) (initial : invariant state) (enough : measure state < fuel)
    (finished : runLoopM step fuel state = .ok final) : motive state final := by
  induction fuel generalizing state with
  | zero => omega
  | succ fuel ih =>
    simp only [runLoopM] at finished
    cases stepped : step state with
    | none =>
      simp only [stepped, Except.ok.injEq] at finished
      rw [← finished]
      exact stop state initial stepped
    | some result =>
      cases result with
      | error failure => simp [stepped] at finished
      | ok next =>
        simp only [stepped] at finished
        obtain ⟨kept, smaller⟩ := preserved state next initial stepped
        exact advance state next final initial stepped (ih next kept (by omega) finished)

lemma runLoopM_succeeds {step : σ → Option (Except ε σ)} (invariant : σ → Prop)
    (advance : ∀ state result, invariant state → step state = some result →
        ∃ next, result = .ok next ∧ invariant next)
    (fuel : Nat) (state : σ) (initial : invariant state) :
    ∃ final, runLoopM step fuel state = .ok final := by
  induction fuel generalizing state with
  | zero => exact ⟨state, rfl⟩
  | succ fuel ih =>
    cases stepped : step state with
    | none => exact ⟨state, runLoopM_stop stepped _⟩
    | some result =>
      obtain ⟨next, rfl, kept⟩ := advance state result initial stepped
      rw [runLoopM_next stepped]
      exact ih next kept

/-! ## Fallible sequences -/

lemma bind_eq_ok {α β : Type v} {first : Except ε α} {second : α → Except ε β} {result : β} :
    (first >>= second) = .ok result ↔ ∃ value, first = .ok value ∧ second value = .ok result := by
  cases first with
  | error failure => simp [bind, Except.bind]
  | ok value => simp [bind, Except.bind]

lemma bind_eq_error {α β : Type v} {first : Except ε α} {second : α → Except ε β} {failure : ε} :
    (first >>= second) = .error failure ↔
      first = .error failure ∨ ∃ value, first = .ok value ∧ second value = .error failure := by
  cases first with
  | error failure => simp [bind, Except.bind]
  | ok value => simp [bind, Except.bind]

lemma map_eq_ok {α β : Type v} {first : Except ε α} {after : α → β} {result : β} :
    first.map after = .ok result ↔ ∃ value, first = .ok value ∧ after value = result := by
  cases first with
  | error failure => simp [Except.map]
  | ok value => simp [Except.map]

lemma forM_eq_ok {check : α → Except ε PUnit} {values : List α} :
    values.forM check = .ok ⟨⟩ ↔ ∀ value ∈ values, check value = .ok ⟨⟩ := by
  induction values with
  | nil => simp [pure, Except.pure]
  | cons first rest ih =>
    change (check first >>= fun _ => rest.forM check) = .ok ⟨⟩ ↔ _
    rw [bind_eq_ok, List.forall_mem_cons, ← ih]
    exact ⟨fun ⟨_, now, later⟩ => ⟨now, later⟩, fun ⟨now, later⟩ => ⟨⟨⟩, now, later⟩⟩

instance decidableExistsOk (result : Except ε α) :
    Decidable (∃ value, result = .ok value) :=
  match result with
  | .error _ => isFalse (by simp)
  | .ok value => isTrue ⟨value, rfl⟩

instance decidableExistsOkAnd (result : Except ε α) (holds : α → Prop)
    [DecidablePred holds] :
    Decidable (∃ value, result = .ok value ∧ holds value) :=
  match result with
  | .error _ => isFalse (by simp)
  | .ok value => decidable_of_iff (holds value) (by simp)

/-- Two fallible steps which fail alike or succeed with related results. -/
def Alike {α β : Type v} (related : α → β → Prop) : Except ε α → Except ε β → Prop
  | .error left, .error right => left = right
  | .ok left, .ok right => related left right
  | _, _ => False

/-! ## Range loops -/

lemma forall_mem_concat {α : Type*} {holds : α → Prop} {values : List α}
    {last : α} (earlier : ∀ value ∈ values, holds value)
    (now : holds last) : ∀ value ∈ values ++ [last], holds value :=
  List.forall_mem_append.2 ⟨earlier, List.forall_mem_singleton.2 now⟩

/-- Induction on what is left of a list, from nothing to the whole list. -/
lemma split_induction {α : Type*} {values : List α} (holds : List α → List α → Prop)
    (stop : holds values []) (advance : ∀ done value rest, values = done ++ value :: rest →
      holds (done ++ [value]) rest → holds done (value :: rest)) : holds [] values := by
  suffices general : ∀ rest done, values = done ++ rest → holds done rest from
    general values [] rfl
  intro rest
  induction rest with
  | nil =>
    intro done split
    rw [List.append_nil] at split
    rwa [← split]
  | cons value rest ih =>
    intro done split
    exact advance done value rest split (ih (done ++ [value]) (by simpa using split))

lemma foldl_prefix_induction (step : σ → α → σ) (values : List α) (start : σ)
    (motive : List α → σ → Prop) (initial : motive [] start)
    (advance : ∀ done value rest state, values = done ++ value :: rest → motive done state →
        motive (done ++ [value]) (step state value)) : motive values (values.foldl step start) := by
  refine split_induction (fun done rest => ∀ state, motive done state →
    motive values (rest.foldl step state)) (fun _ reached => reached) ?_ start initial
  intro done value rest split later state reached
  exact later (step state value) (advance done value rest state split reached)

section

variable {step : σ → α → Except ε σ} {values : List α} {start final : σ}

/-- A successful fallible fold over a nonempty list, first step exposed. -/
lemma foldlM_cons_eq_ok {value : α} :
    (value :: values).foldlM step start = .ok final ↔ ∃ middle, step start value = .ok middle ∧
        values.foldlM step middle = .ok final := by
  rw [List.foldlM_cons]
  cases first : step start value with
  | error failure => simp [bind, Except.bind]
  | ok middle => simp [bind, Except.bind]

/-- Folds over related lists whose steps keep a relation of the states. -/
lemma foldlM_alike {τ : Type u} {β : Type v}
    {step' : τ → β → Except ε τ} {aligned : α → β → Prop} {related : σ → τ → Prop}
    (steps : ∀ value value' state state', aligned value value' → related state state' →
        Alike related (step state value) (step' state' value'))
    {values' : List β} (lists : List.Forall₂ aligned values values')
    {start' : τ} (initial : related start start') :
    Alike related (values.foldlM step start) (values'.foldlM step' start') := by
  induction lists generalizing start start' with
  | nil => exact initial
  | @cons first first' _ _ head _ ih =>
    rw [List.foldlM_cons, List.foldlM_cons]
    have now := steps first first' start start' head initial
    cases left : step start first with
    | error failure =>
      cases right : step' start' first' with
      | error other =>
        rw [left, right] at now
        exact now
      | ok state =>
        rw [left, right] at now
        exact now.elim
    | ok state =>
      cases right : step' start' first' with
      | error other =>
        rw [left, right] at now
        exact now.elim
      | ok state' =>
        rw [left, right] at now
        exact ih now

lemma foldlM_congr {left right : σ → α → Except ε σ}
    (agree : ∀ value ∈ values, ∀ state, left state value = right state value) (start : σ) :
    values.foldlM left start = values.foldlM right start := by
  induction values generalizing start with
  | nil => rfl
  | cons first rest ih =>
    rw [List.foldlM_cons, List.foldlM_cons, agree first List.mem_cons_self]
    refine congrArg (right start first >>= ·) (funext fun next => ?_)
    exact ih (fun value listed =>
      agree value (.tail _ listed)) next

lemma foldlM_prefix_induction
    (succeeded : values.foldlM step start = .ok final) (motive : List α → σ → Prop)
    (initial : motive [] start)
    (advance : ∀ done value rest state next, values = done ++ value :: rest → motive done state →
        step state value = .ok next → motive (done ++ [value]) next) : motive values final := by
  refine split_induction (fun done rest => ∀ state, motive done state →
    rest.foldlM step state = .ok final → motive values final) ?_ ?_ start initial succeeded
  · intro state reached finished
    cases finished
    exact reached
  · intro done value rest split later state reached finished
    obtain ⟨next, stepped, tail⟩ := foldlM_cons_eq_ok.1 finished
    exact later next (advance done value rest state next split reached stepped) tail

/-- Every element of a fallible fold which succeeded took a step. -/
lemma exists_step_of_foldlM
    (succeeded : values.foldlM step start = .ok final) {value : α} (listed : value ∈ values) :
    ∃ state next, step state value = .ok next := by
  have all := foldlM_prefix_induction succeeded (fun done _ => ∀ value ∈ done, ∃ state next,
      step state value = .ok next) (by simp)
    fun done last rest state next _ reached stepped =>
      forall_mem_concat reached ⟨state, next, stepped⟩
  exact all value listed

lemma foldlM_flatMap {β : Type*} (inner : β → List α) (values : List β) (start : σ) :
    (values.flatMap inner).foldlM step start =
      values.foldlM (fun state value => (inner value).foldlM step state) start := by
  induction values generalizing start with
  | nil => rfl
  | cons first rest ih =>
    rw [List.flatMap_cons, List.foldlM_append, List.foldlM_cons]
    exact congrArg ((inner first).foldlM step start >>= ·) (funext ih)

lemma foldlM_eq_error {failure : ε} (failed : values.foldlM step start = .error failure) :
    ∃ value ∈ values, ∃ state, step state value = .error failure := by
  induction values generalizing start with
  | nil => cases failed
  | cons first rest induction =>
    rw [List.foldlM_cons] at failed
    cases stepped : step start first with
    | error other =>
      rw [stepped] at failed
      cases failed
      exact ⟨first, .head _, start, stepped⟩
    | ok next =>
      rw [stepped] at failed
      obtain ⟨value, listed, found⟩ := induction failed
      exact ⟨value, .tail _ listed, found⟩

section

variable (invariant : List α → σ → Prop)

/-- Steps which succeed on every state of an invariant fold without error. -/
lemma foldlM_succeeds (initial : invariant [] start) (advance : ∀ done value rest state,
      values = done ++ value :: rest → invariant done state → ∃ next, step state value = .ok next ∧
          invariant (done ++ [value]) next) :
    ∃ final, values.foldlM step start = .ok final ∧ invariant values final := by
  refine split_induction (fun done rest => ∀ state, invariant done state →
    ∃ final, rest.foldlM step state = .ok final ∧ invariant values final)
    (fun state reached => ⟨state, rfl, reached⟩) ?_ start initial
  intro done value rest split later state reached
  obtain ⟨next, stepped, kept⟩ := advance done value rest state split reached
  obtain ⟨final, tail, finished⟩ := later next kept
  exact ⟨final, foldlM_cons_eq_ok.2 ⟨next, stepped, tail⟩, finished⟩

lemma eq_ok_of_decides {result : Except ε σ} {good : Prop} {holds : σ → Prop} {final : σ}
    (decides : (good → ∃ final, result = .ok final ∧ holds final) ∧
      (¬ good → ∃ failure, result = .error failure))
    (succeeded : result = .ok final) : good ∧ holds final := by
  by_cases isGood : good
  · obtain ⟨other, succeeded', reached⟩ := decides.1 isGood
    rw [succeeded] at succeeded'
    cases succeeded'
    exact ⟨isGood, reached⟩
  · obtain ⟨failure, failed⟩ := decides.2 isGood
    rw [succeeded] at failed
    cases failed

lemma exists_ok_iff_of_decides {result : Except ε σ} {good : Prop} {holds : σ → Prop}
    (decides : (good → ∃ final, result = .ok final ∧ holds final) ∧
      (¬ good → ∃ failure, result = .error failure)) : (∃ final, result = .ok final) ↔ good :=
  ⟨fun ⟨_, succeeded⟩ => (eq_ok_of_decides decides succeeded).1,
    fun isGood => let ⟨final, succeeded, _⟩ := decides.1 isGood
      ⟨final, succeeded⟩⟩

/--
A fallible fold which checks a condition of the consumed part: every step
succeeds as long as the condition holds and fails when it breaks.
-/
lemma foldlM_decides (good : List α → Prop) (initial : invariant [] start)
    (advance : ∀ done value rest state,
      values = done ++ value :: rest → good done → invariant done state →
        (good (done ++ [value]) → ∃ next, step state value = .ok next ∧
          invariant (done ++ [value]) next) ∧
        (¬ good (done ++ [value]) → ∃ failure, step state value = .error failure))
    (shorter : ∀ done rest, values = done ++ rest → good values → good done) (empty : good []) :
    (good values → ∃ final, values.foldlM step start = .ok final ∧ invariant values final) ∧
      (¬ good values → ∃ failure, values.foldlM step start = .error failure) := by
  constructor
  · intro holds
    refine foldlM_succeeds invariant initial ?_
    intro done value rest state split reached
    have now : good (done ++ [value]) := shorter (done ++ [value]) rest (by simpa using split) holds
    exact (advance done value rest state split
      (shorter done (value :: rest) split holds) reached).1 now
  · intro broken
    cases folded : values.foldlM step start with
    | error failure => exact ⟨failure, rfl⟩
    | ok final =>
      refine absurd (foldlM_prefix_induction folded
        (fun done state => good done ∧ invariant done state)
        ⟨empty, initial⟩ ?_).1 broken
      rintro done value rest state next split ⟨holds, reached⟩ stepped
      exact eq_ok_of_decides (advance done value rest state split holds reached) stepped

/--
A fallible fold which checks every value on its own: it succeeds when all
values are good and fails when one is not.
-/
lemma foldlM_decides_forall (good : α → Prop) (initial : invariant [] start)
    (advance : ∀ done value rest state, values = done ++ value :: rest → invariant done state →
        (good value → ∃ next, step state value = .ok next ∧ invariant (done ++ [value]) next) ∧
        (¬ good value → ∃ failure, step state value = .error failure)) :
    ((∀ value ∈ values, good value) → ∃ final, values.foldlM step start = .ok final ∧
          invariant values final) ∧ ((¬ ∀ value ∈ values, good value) →
        ∃ failure, values.foldlM step start = .error failure) := by
  refine foldlM_decides invariant (fun done => ∀ value ∈ done, good value) initial ?_ ?_ ?_
  · intro done value rest state split earlier reached
    have only : (∀ other ∈ done ++ [value], good other) ↔ good value := by
      simp only [List.forall_mem_append, List.forall_mem_singleton]
      exact and_iff_right earlier
    rw [only]
    exact advance done value rest state split reached
  · intro done rest split all value listed
    exact all value (split ▸ List.mem_append_left _ listed)
  · exact fun value listed => absurd listed List.not_mem_nil

end

lemma foldlM_succeeds_of_forall (start : σ)
    (succeeds : ∀ value ∈ values, ∀ state, ∃ next, step state value = .ok next) :
    ∃ final, values.foldlM step start = .ok final := by
  induction values generalizing start with
  | nil => exact ⟨start, rfl⟩
  | cons first rest ih =>
    obtain ⟨next, stepped⟩ := succeeds first (.head _) start
    rcases ih next fun value listed =>
      succeeds value (.tail _ listed) with ⟨final, tail⟩
    exact ⟨final, foldlM_cons_eq_ok.2 ⟨next, stepped, tail⟩⟩

/--
A fallible fold which collects values: every step adds what its element
contributes, and succeeds only on good elements.
-/
lemma foldlM_collect {β : Type*}
    (succeeded : values.foldlM step start = .ok final) (holds : σ → β → Prop) (good : α → Prop)
    (contributes : α → β → Prop) (advance : ∀ state value next, step state value = .ok next →
      good value ∧ ∀ item, holds next item ↔ holds state item ∨ contributes value item) :
    (∀ value ∈ values, good value) ∧ ∀ item, holds final item ↔ holds start item ∨
        ∃ value ∈ values, contributes value item := by
  refine foldlM_prefix_induction succeeded (fun done state => (∀ value ∈ done, good value) ∧
    ∀ item, holds state item ↔ holds start item ∨
      ∃ value ∈ done, contributes value item) (by simp) ?_
  intro done value rest state next _ reached stepped
  obtain ⟨isGood, added⟩ := advance state value next stepped
  refine ⟨forall_mem_concat reached.1 isGood, fun item => ?_⟩
  rw [added, reached.2, or_assoc]
  simp only [List.mem_append, List.mem_singleton, or_and_right, exists_or, exists_eq_left]

end

/--
A fold which collects values: every step adds what its element contributes.
-/
lemma foldl_collect {β : Type*} (good : σ → Prop) (holds : σ → β → Prop)
    (contributes : α → β → Prop) (advance : ∀ state value, good state → good (step state value) ∧
      ∀ item, holds (step state value) item ↔ holds state item ∨ contributes value item)
    (initial : good start) (values : List α) :
    good (values.foldl step start) ∧ ∀ item, holds (values.foldl step start) item ↔
        holds start item ∨ ∃ value ∈ values, contributes value item := by
  refine foldl_prefix_induction step values start
    (fun done state => good state ∧ ∀ item, holds state item ↔
      holds start item ∨ ∃ value ∈ done, contributes value item)
    ⟨initial, by simp⟩ ?_
  intro done value rest state _ reached
  obtain ⟨isGood, added⟩ := advance state value reached.1
  refine ⟨isGood, fun item => ?_⟩
  rw [added, reached.2, or_assoc]
  simp only [List.mem_append, List.mem_singleton, or_and_right, exists_or, exists_eq_left]

lemma foldl_holds_iff {β : Type*} (holds : σ → β → Prop) (contributes : α → β → Prop)
    (advance : ∀ state value item, holds (step state value) item ↔
      holds state item ∨ contributes value item) (values : List α) (start : σ) (item : β) :
    holds (values.foldl step start) item ↔
      holds start item ∨ ∃ value ∈ values, contributes value item :=
  (foldl_collect (fun _ => True) holds contributes
    (fun state value _ => ⟨trivial, advance state value⟩) trivial
    values).2 item

/-! ## Splitting lists -/

/-- An element of an extended list is the last one or an earlier one. -/
lemma append_singleton_eq_split (split : values ++ [last] = before ++ value :: after) :
    (before = values ∧ value = last ∧ after = []) ∨ ∃ between, after = between ++ [last] ∧
        values = before ++ value :: between := by
  rcases List.eq_nil_or_concat' after with rfl | ⟨between, final, rfl⟩
  · obtain ⟨same, equal⟩ := List.append_inj' split rfl
    exact .inl ⟨same.symm, (List.singleton_inj.1 equal).symm, rfl⟩
  · rw [← List.cons_append, ← List.append_assoc] at split
    obtain ⟨same, equal⟩ := List.append_inj' split rfl
    exact .inr ⟨between, by rw [List.singleton_inj.1 equal], same⟩

/-- Every count below the number of matches is reached before a match. -/
lemma exists_split_of_lt_countP (less : count < values.countP test) :
    ∃ before value after, values = before ++ value :: after ∧
      test value = true ∧ before.countP test = count := by
  induction values generalizing count with
  | nil => simp at less
  | cons first rest induction =>
    cases matched : test first with
    | false =>
      rw [List.countP_cons_of_neg (by simp [matched])] at less
      obtain ⟨before, value, after, split, rest⟩ := induction less
      refine ⟨first :: before, value, after, by rw [split]; rfl, ?_⟩
      rwa [List.countP_cons_of_neg (by simp [matched])]
    | true =>
      cases count with
      | zero => exact ⟨[], first, rest, rfl, matched, rfl⟩
      | succ count =>
        rw [List.countP_cons_of_pos matched] at less
        rcases induction (Nat.lt_of_succ_lt_succ less) with
          ⟨before, value, after, split, isMatch, counted⟩
        refine ⟨first :: before, value, after, by rw [split]; rfl, isMatch, ?_⟩
        rw [List.countP_cons_of_pos matched, counted]

/-- A relation between all earlier and later elements is pairwise. -/
lemma pairwise_of_splits {α : Type*} {related : α → α → Prop} {values : List α}
    (splits : ∀ before left between right after,
      values = before ++ left :: (between ++ right :: after) →
        related left right) : values.Pairwise related := by
  induction values with
  | nil => exact List.Pairwise.nil
  | cons first rest ih =>
    refine List.Pairwise.cons ?_ (ih ?_)
    · intro right isRight
      obtain ⟨between, after, split⟩ := List.append_of_mem isRight
      exact splits [] first between right after (by rw [split]; rfl)
    · intro before left between right after split
      exact splits (first :: before) left between right after (by rw [split]; rfl)

/-- Every element of the second list has a partner in the first. -/
lemma exists_left_of_forall₂ {α β : Type*} {related : α → β → Prop} {lefts : List α}
    {rights : List β} (pairs : List.Forall₂ related lefts rights) {right : β}
    (listed : right ∈ rights) : ∃ left ∈ lefts, related left right := by
  induction pairs with
  | nil => cases listed
  | cons pair _ induction =>
    rcases List.mem_cons.1 listed with rfl | later
    · exact ⟨_, .head _, pair⟩
    · obtain ⟨left, isLeft, related⟩ := induction later
      exact ⟨left, .tail _ isLeft, related⟩

lemma exists_perm_of_map_perm {α β : Type*} {image : α → β} {values : List α} {images : List β}
    (same : (values.map image).Perm images) :
    ∃ others : List α, others.Perm values ∧ others.map image = images := by
  generalize isMap : values.map image = mapped at same
  induction same generalizing values with
  | nil =>
    rw [List.map_eq_nil_iff] at isMap
    exact ⟨[], by rw [isMap], rfl⟩
  | cons _ _ induction =>
    obtain ⟨first, rest, rfl, rfl, restMap⟩ := List.map_eq_cons_iff.1 isMap
    obtain ⟨others, perm, images⟩ := induction restMap
    exact ⟨first :: others, perm.cons first, by
      rw [List.map_cons, images]⟩
  | swap _ _ _ =>
    obtain ⟨first, rest, rfl, rfl, restMap⟩ := List.map_eq_cons_iff.1 isMap
    obtain ⟨second, last, rfl, rfl, rfl⟩ := List.map_eq_cons_iff.1 restMap
    exact ⟨second :: first :: last, List.Perm.swap first second last, rfl⟩
  | trans _ _ left right =>
    obtain ⟨middle, middlePerm, middleMap⟩ := left isMap
    obtain ⟨others, perm, images⟩ := right middleMap
    exact ⟨others, perm.trans middlePerm, images⟩

/-! ## Lists of one element -/

/-- The element of a list which has exactly one. -/
def soleElement {α : Type*} : List α → Option α
  | [value] => some value
  | _ => none

lemma soleElement_perm (same : left.Perm right) : soleElement left = soleElement right := by
  rcases left with _ | ⟨first, _ | ⟨second, rest⟩⟩
  · rw [List.nil_perm.1 same]
  · rw [List.singleton_perm.1 same]
  · rcases right with _ | ⟨_, _ | ⟨_, _⟩⟩
    · rfl
    · have length := same.length_eq
      simp at length
    · rfl

end Unifabric.Lib
