import Unifabric.EbpfFlow.FlowConservation

/-!
# Cleanup of exited processes

`report` first iterates over `qp_stats` and credits what it reads, and then
`cleanupDeadQPs` iterates a second time, keeps the entries of exited processes
and deletes them.  The processes post while both iterations go on; what a
process posts after its entry was read and before it exits is deleted without
having been credited.
-/

namespace Unifabric.EbpfFlow

open Lib GoMap List Option

/-! ## The agent and the processes -/

/-- What `report` is doing. -/
inductive ReportPhase where
  | idle
  /-- The first iteration, which has to yield the entries that are due. -/
  | reading (due seen : List QpKey)
  /-- The second iteration and the entries of exited processes it found. -/
  | checking (deadStats : List QpKey)
  /-- The entries still to be deleted. -/
  | deleting (deadStats : List QpKey)
  deriving DecidableEq

/-- The map `qp_stats`, the exited processes and the agent. -/
structure CleanupWorld where
  stats : GoMap QpKey QpStat
  exited : List UInt32
  accounts : Accounts
  phase : ReportPhase

/-- A new agent with an empty map. -/
def CleanupWorld.new : CleanupWorld :=
  { stats := ∅, exited := [], accounts := .new, phase := .idle }

section

variable (world : CleanupWorld)

def CleanupWorld.tgidAlive (tgid : UInt32) : Bool := tgid ∉ world.exited

/-- The steps of the processes and of `report`. -/
inductive CleanupEvent where
  | post (key : QpKey) (bytes wrs : UInt64)
  | exit (tgid : UInt32)
  | beginReport
  | read (observation : Observation)
  | endReport
  | check (key : QpKey)
  | endCheck (complete : Bool)
  | delete

/-- `add_stat`, by a process which is alive. -/
def CleanupWorld.post (key : QpKey)
    (bytes wrs : UInt64) : Option CleanupWorld := do
  guard (world.tgidAlive key.tgid)
  let stat ← (world.stats.getD key .zero).add bytes wrs
  return { world with stats := world.stats.insert key stat }

/-- The first iteration yields an entry, both ends of which are resolved. -/
def CleanupWorld.read (observation : Observation) : Option CleanupWorld :=
  match world.phase with
  | .reading due seen =>
    if world.stats[observation.key]? = some observation.stat ∧
        observation.key ∉ seen ∧ observation.resolved then
      some { world with
        accounts := world.accounts.observe observation
        phase := .reading due (observation.key :: seen) }
    else none
  | _ => none

/--
The first iteration ends after it has yielded every entry which was there when
it began; `cleanupDeadQPs` starts.
-/
def CleanupWorld.endReport (runtime : Runtime) (world : CleanupWorld) : Option CleanupWorld :=
  match world.phase with
  | .reading due seen =>
    if due ⊆ seen then
      some { world with
        accounts :=
          { world.accounts with metrics := world.accounts.metrics.endReport runtime seen }
        phase := .checking [] }
    else none
  | _ => none

/-- The second iteration yields an entry and asks whether its process is
alive. -/
def CleanupWorld.check (key : QpKey) : Option CleanupWorld :=
  match world.phase with
  | .checking deadStats =>
    if world.stats[key]?.isSome then
      some { world with
        phase :=
          .checking (if world.tgidAlive key.tgid then deadStats
            else deadStats ++ [key]) }
    else none
  | _ => none

/-- After an iteration which stopped early nothing is deleted. -/
def CleanupWorld.endCheck (complete : Bool) : Option CleanupWorld :=
  match world.phase with
  | .checking deadStats =>
    some { world with phase := if complete then .deleting deadStats else .idle }
  | _ => none

/-- The next entry is deleted, or the report is over. -/
def CleanupWorld.delete : Option CleanupWorld :=
  match world.phase with
  | .deleting [] => some { world with phase := .idle }
  | .deleting (key :: rest) =>
    some { world with stats := world.stats.erase key, phase := .deleting rest }
  | _ => none

end

/-- One step of a process or of `report`. -/
def CleanupWorld.step (runtime : Runtime) (world : CleanupWorld) :
    CleanupEvent → Option CleanupWorld
  | .post key bytes wrs => world.post key bytes wrs
  | .exit tgid => some { world with exited := tgid :: world.exited }
  | .beginReport =>
    if world.phase = .idle then
      some { world with
        accounts :=
          { world.accounts with metrics := world.accounts.metrics.beginReport }
        phase := .reading world.stats.keys [] }
    else none
  | .read observation => world.read observation
  | .endReport => world.endReport runtime
  | .check key => world.check key
  | .endCheck complete => world.endCheck complete
  | .delete => world.delete

/-! ## What a queue pair posted since it was read -/

/-- The bytes a queue pair posted since it was read, after one more event. -/
def unreadAfter (key : QpKey) (unread : Nat) : CleanupEvent → Nat
  | .post posted bytes _ => if posted = key then unread + bytes.toNat else unread
  | .read observation => if observation.key = key then 0 else unread
  | _ => unread

/-- The bytes a queue pair posted since it was last read. -/
def postedSinceRead (key : QpKey) (events : List CleanupEvent) : Nat :=
  events.foldl (unreadAfter key) 0

/-- What a phase knows of a queue pair with a baseline. -/
def ReportPhase.Covers (phase : ReportPhase) (key : QpKey) : Prop :=
  ∀ due seen, phase = .reading due seen → key ∈ due ∨ key ∈ seen

/-- The entries a phase is going to delete. -/
def ReportPhase.deadStats : ReportPhase → List QpKey
  | .checking deadStats => deadStats
  | .deleting deadStats => deadStats
  | _ => []

/--
The books of a queue pair: what was credited is the baseline, and the entry
has in addition what was posted since the baseline was read.
-/
structure Booked (key : QpKey) (world : CleanupWorld) (unread : Nat) : Prop where
  credited : (accountOf key world.accounts).credited =
    ((accountOf key world.accounts).baseline.getD .zero).totals
  entry : ((accountOf key world.accounts).baseline.getD .zero).bytes.toNat + unread =
    (world.stats.getD key .zero).bytes.toNat
  grown : ((accountOf key world.accounts).baseline.getD .zero).totals ≤
    (world.stats.getD key .zero).totals
  present : (accountOf key world.accounts).baseline ≠ none →
    world.stats[key]? ≠ none ∧ world.phase.Covers key

/--
A queue pair is either booked, or its process exited and its entry is gone;
only entries of exited processes are deleted.
-/
structure CleanupInvariant (key : QpKey) (world : CleanupWorld)
    (unread : Nat) : Prop where
  dead : ∀ other ∈ world.phase.deadStats, other.tgid ∈ world.exited
  books : Booked key world unread ∨ (key.tgid ∈ world.exited ∧ world.stats[key]? = none)

section

variable {runtime : Runtime} {key : QpKey} {world next : CleanupWorld} {unread : Nat}

lemma cleanupInvariant_new (key : QpKey) : CleanupInvariant key .new 0 := by
  have account : accountOf key CleanupWorld.new.accounts = .new := accountOf_new key
  refine ⟨?_, .inl ⟨?_, ?_, ?_, ?_⟩⟩
  · intro other listed
    cases listed
  · rw [account]
    rfl
  · rw [account]
    rfl
  · rw [account]
    exact zero_le
  · rw [account]
    exact fun read => absurd rfl read

section

variable (holds : CleanupInvariant key world unread)

include holds

lemma CleanupInvariant.post (stepped : world.post posted bytes wrs = some next) :
    CleanupInvariant key next (if posted = key then unread + bytes.toNat else unread) := by
  obtain ⟨_, alive, later⟩ := Option.bind_eq_some_iff.1 stepped
  obtain ⟨stat, added, result⟩ := Option.bind_eq_some_iff.1 later
  have totals := QpStat.totals_add added
  cases Option.some.inj result
  have running : posted.tgid ∉ world.exited := by
    by_contra stopped
    have blocked : world.tgidAlive posted.tgid = false := by
      simpa [CleanupWorld.tgidAlive] using stopped
    rw [blocked] at alive
    cases alive
  refine ⟨holds.dead, ?_⟩
  by_cases same : posted = key
  · subst same
    rcases holds.books with booked | gone
    · left
      have entry := congrArg Prod.fst totals
      change stat.bytes.toNat = (world.stats.getD posted .zero).bytes.toNat + bytes.toNat at entry
      refine ⟨booked.credited, ?_, ?_, fun read => ⟨?_, ?_⟩⟩
      · rw [if_pos rfl, GoMap.getD_insert, if_pos rfl, entry, ← booked.entry, Nat.add_assoc]
      · rw [GoMap.getD_insert, if_pos rfl, totals]
        exact booked.grown.trans le_self_add
      · simp
      · exact (booked.present read).2
    · exact absurd gone.1 running
  · rw [if_neg same]
    rcases holds.books with booked | gone
    · left
      refine ⟨booked.credited, ?_, ?_, fun read => ⟨?_, ?_⟩⟩
      · rw [GoMap.getD_insert, if_neg same]
        exact booked.entry
      · rw [GoMap.getD_insert, if_neg same]
        exact booked.grown
      · rw [GoMap.getElem?_insert, if_neg same]
        exact (booked.present read).1
      · exact (booked.present read).2
    · right
      refine ⟨gone.1, ?_⟩
      rw [GoMap.getElem?_insert, if_neg same]
      exact gone.2

lemma CleanupInvariant.read {observation : Observation}
    (stepped : world.read observation = some next) :
    CleanupInvariant key next (if observation.key = key then 0 else unread) := by
  rw [CleanupWorld.read] at stepped
  split at stepped
  case h_2 => cases stepped
  case h_1 due seen phase =>
    split_ifs at stepped with yields
    obtain ⟨found, fresh, isResolved⟩ := yields
    cases stepped
    refine ⟨?_, ?_⟩
    · intro other listed
      cases listed
    have account := accountOf_observe key world.accounts observation
    rw [if_pos isResolved] at account
    by_cases same : observation.key = key
    · subst same
      rw [if_pos rfl] at account
      have entry : world.stats.getD observation.key .zero = observation.stat := by
        rw [getD_eq, found, getD_some]
      rcases holds.books with booked | gone
      · left
        refine ⟨?_, ?_, ?_, fun _ => ⟨?_, ?_⟩⟩
        · rw [account, Account.read, booked.credited]
          have grown := booked.grown
          rw [entry] at grown
          exact totals_delta_of_le grown
        · rw [account, if_pos rfl, entry]
          rfl
        · rw [account, entry]
          exact le_refl _
        · rw [found]
          exact some_ne_none _
        · rintro due' seen' equal
          cases equal
          exact .inr (.head _)
      · rw [gone.2] at found
        cases found
    · rw [if_neg same] at account
      rw [if_neg same]
      rcases holds.books with booked | gone
      · left
        refine ⟨?_, ?_, ?_, fun read => ⟨?_, ?_⟩⟩
        · rw [account]
          exact booked.credited
        · rw [account]
          exact booked.entry
        · rw [account]
          exact booked.grown
        · rw [account] at read
          exact (booked.present read).1
        · rw [account] at read
          rintro due' seen' equal
          cases equal
          rcases (booked.present read).2 due seen phase with isDue | isSeen
          · exact .inl isDue
          · exact .inr (.tail _ isSeen)
      · exact .inr gone

lemma CleanupInvariant.endReport (stepped : world.endReport runtime = some next) :
    CleanupInvariant key next unread := by
  rw [CleanupWorld.endReport] at stepped
  split at stepped
  case h_2 => cases stepped
  case h_1 due seen phase =>
    split_ifs at stepped with complete
    cases stepped
    refine ⟨?_, ?_⟩
    · intro other listed
      cases listed
    rcases holds.books with booked | gone
    · -- A queue pair with a baseline was due, so the iteration saw it.
      have baseline : (world.accounts.metrics.endReport runtime
          seen).last[key]? = world.accounts.metrics.last[key]? := by
        rw [getElem?_endReport]
        by_cases read : world.accounts.metrics.last[key]? = none
        · rw [read, ite_self]
        · rw [if_pos]
          rcases (booked.present read).2 due seen phase with isDue | isSeen
          · exact complete isDue
          · exact isSeen
      have account : accountOf key
          { world.accounts with metrics := world.accounts.metrics.endReport runtime seen } =
          accountOf key world.accounts :=
        congrArg (fun found => Account.mk found _) baseline
      left
      refine ⟨?_, ?_, ?_, fun read => ⟨?_, ?_⟩⟩
      · rw [account]
        exact booked.credited
      · rw [account]
        exact booked.entry
      · rw [account]
        exact booked.grown
      · rw [account] at read
        exact (booked.present read).1
      · intro due' seen' equal
        cases equal
    · exact .inr gone

end

/-- The books of a queue pair only depend on its entry and the phase. -/
lemma Booked.congr (booked : Booked key world unread)
    (accounts : accountOf key next.accounts = accountOf key world.accounts)
    (entry : next.stats[key]? = world.stats[key]?)
    (covers : world.stats[key]? ≠ none → world.phase.Covers key → next.phase.Covers key) :
    Booked key next unread := by
  have value : next.stats.getD key .zero = world.stats.getD key .zero := by
    rw [getD_eq, getD_eq, entry]
  refine ⟨?_, ?_, ?_, ?_⟩
  · rw [accounts]
    exact booked.credited
  · rw [accounts, value]
    exact booked.entry
  · rw [accounts, value]
    exact booked.grown
  · rw [accounts, entry]
    intro read
    have before := booked.present read
    exact ⟨before.1, covers before.1 before.2⟩

section

variable (holds : CleanupInvariant key world unread)

include holds

lemma CleanupInvariant.congr (accounts : accountOf key next.accounts = accountOf key world.accounts)
    (entry : next.stats[key]? = world.stats[key]?) (exited : world.exited ⊆ next.exited)
    (covers : world.stats[key]? ≠ none → world.phase.Covers key → next.phase.Covers key)
    (dead : ∀ other ∈ next.phase.deadStats, other.tgid ∈ next.exited) :
    CleanupInvariant key next unread := by
  refine ⟨dead, ?_⟩
  rcases holds.books with booked | gone
  · exact .inl (booked.congr accounts entry covers)
  · exact .inr ⟨exited gone.1, entry.trans gone.2⟩

lemma CleanupInvariant.check (stepped : world.check checked = some next) :
    CleanupInvariant key next unread := by
  rw [CleanupWorld.check] at stepped
  split at stepped
  case h_2 => cases stepped
  case h_1 deadStats phase =>
    rw [ite_none_right_eq_some] at stepped
    cases stepped.2
    refine holds.congr rfl rfl (List.Subset.refl _) ?_ ?_
    · intro _ _ due seen equal
      cases equal
    · intro other listed
      have before := holds.dead other
      rw [phase] at before
      split_ifs at listed with alive
      · exact before listed
      · rcases mem_append.1 listed with old | new
        · exact before old
        · rw [mem_singleton.1 new]
          simpa [CleanupWorld.tgidAlive] using alive

lemma CleanupInvariant.endCheck (stepped : world.endCheck complete = some next) :
    CleanupInvariant key next unread := by
  rw [CleanupWorld.endCheck] at stepped
  split at stepped
  case h_2 => cases stepped
  case h_1 deadStats phase =>
    cases stepped
    have before := holds.dead
    rw [phase] at before
    refine holds.congr rfl rfl (List.Subset.refl _) ?_ ?_
    · intro _ _ due seen equal
      cases complete with
      | false => cases equal
      | true => cases equal
    · cases complete with
      | false => exact fun other listed => by cases listed
      | true => exact before

lemma CleanupInvariant.delete (stepped : world.delete = some next) :
    CleanupInvariant key next unread := by
  rw [CleanupWorld.delete] at stepped
  split at stepped
  case h_1 phase =>
    cases stepped
    exact holds.congr rfl rfl (List.Subset.refl _) (fun _ _ due seen equal => by cases equal)
      (fun other listed => by cases listed)
  case h_2 first rest phase =>
    cases stepped
    have before := holds.dead
    rw [phase] at before
    have later : ∀ other ∈ rest, other.tgid ∈ world.exited :=
      fun other listed => before other (.tail _ listed)
    by_cases same : first = key
    · refine ⟨later, .inr ⟨?_, ?_⟩⟩
      · rw [← same]
        exact before first (.head _)
      · rw [getElem?_erase, if_pos same]
    · refine holds.congr rfl ?_ (List.Subset.refl _)
        (fun _ _ due seen equal => by cases equal) later
      rw [getElem?_erase, if_neg same]
  case h_3 => cases stepped

lemma CleanupInvariant.step {event : CleanupEvent}
    (stepped : world.step runtime event = some next) :
    CleanupInvariant key next (unreadAfter key unread event) := by
  cases event with
  | post posted bytes wrs => exact holds.post stepped
  | exit tgid =>
    cases stepped
    refine holds.congr rfl rfl (subset_cons_self _ _) (fun _ covers => covers) ?_
    exact fun other listed => .tail _ (holds.dead other listed)
  | beginReport =>
    rw [CleanupWorld.step] at stepped
    split_ifs at stepped with idle
    cases stepped
    refine holds.congr rfl rfl (List.Subset.refl _) ?_ (fun other listed => by cases listed)
    intro found _ due seen equal
    cases equal
    left
    rw [mem_keys_iff]
    exact ne_none_iff_exists'.1 found
  | read observation => exact holds.read stepped
  | endReport => exact holds.endReport stepped
  | check checked => exact holds.check stepped
  | endCheck complete => exact holds.endCheck stepped
  | delete => exact holds.delete stepped

end

lemma CleanupInvariant.run {events : List CleanupEvent} (holds : CleanupInvariant key world unread)
    (reached : runEvents (CleanupWorld.step runtime) world events = some next) :
    CleanupInvariant key next (events.foldl (unreadAfter key) unread) := by
  induction events generalizing world unread with
  | nil =>
    cases reached
    exact holds
  | cons event rest ih =>
    obtain ⟨middle, stepped, later⟩ := runEvents_cons_eq_some.1 reached
    exact ih (holds.step stepped) later

end

lemma phase_of_delete {world next : CleanupWorld} (entry : world.stats[key]? = some stat)
    (stepped : world.delete = some next) (removed : next.stats[key]? = none) :
    ∃ rest, world.phase = .deleting (key :: rest) := by
  rw [CleanupWorld.delete] at stepped
  split at stepped
  case h_1 phase =>
    cases stepped
    rw [entry] at removed
    cases removed
  case h_2 first rest phase =>
    cases stepped
    by_cases same : first = key
    · exact ⟨rest, by rw [phase, same]⟩
    · rw [getElem?_erase, if_neg same, entry] at removed
      cases removed
  case h_3 => cases stepped

/--
Only entries of exited processes are deleted, and when one is, the bytes
credited for it are its final value exactly if nothing was posted on the queue
pair since the report last read it.
-/
theorem deleted_entry_credited_iff (runtime : Runtime) (key : QpKey)
    (events : List CleanupEvent) (world next : CleanupWorld) (stat : QpStat)
    (reached : runEvents (CleanupWorld.step runtime) .new events = some world)
    (entry : world.stats[key]? = some stat) (deleted : world.step runtime .delete = some next)
    (removed : next.stats[key]? = none) :
    world.tgidAlive key.tgid = false ∧ ((world.accounts.creditedFor key).1 = stat.bytes.toNat ↔
        postedSinceRead key events = 0) := by
  have invariant := (cleanupInvariant_new key).run reached
  constructor
  · rcases phase_of_delete entry deleted removed with ⟨rest, phase⟩
    have dead := invariant.dead key
    rw [phase] at dead
    simpa [CleanupWorld.tgidAlive] using dead (.head _)
  · rcases invariant.books with booked | gone
    · have value := booked.entry
      rw [getD_eq, entry, getD_some] at value
      have credited := congrArg Prod.fst booked.credited
      change (world.accounts.creditedFor key).1 =
        ((accountOf key world.accounts).baseline.getD .zero).bytes.toNat at credited
      rw [postedSinceRead]
      omega
    · rw [gone.2] at entry
      cases entry

/-- The process posts before the report reads its entry, and exits. -/
def exitAfterRead (late : List CleanupEvent) : List CleanupEvent :=
  CleanupEvent.post { tgid := 1, qpn := 7 } 100 1 :: CleanupEvent.beginReport ::
    CleanupEvent.read (resolvedReading 100) ::
    late.append [.exit 1, .endReport, .check { tgid := 1, qpn := 7 }, .endCheck true]

theorem deleted_entry_credited_iff_read_last : ∃ world,
      runEvents (CleanupWorld.step .canonical) .new (exitAfterRead []) = some world ∧
        (world.accounts.creditedFor { tgid := 1, qpn := 7 }).1 = 100 := by
  refine ⟨_, rfl, ?_⟩
  exact (deleted_entry_credited_iff .canonical { tgid := 1, qpn := 7 }
    (exitAfterRead []) _ _ { bytes := 100, wrs := 1 } rfl rfl rfl
    rfl).2.mpr rfl

/--
What the process posts between the report's read and its exit is deleted
without having been credited.
-/
theorem late_post_lost : ((runEvents (CleanupWorld.step .canonical) .new
        (exitAfterRead [.post { tgid := 1, qpn := 7 } 50 1])).bind
      fun world => (world.step .canonical .delete).map fun next =>
        (world.stats[(⟨1, 7⟩ : QpKey)]?, next.stats[(⟨1, 7⟩ : QpKey)]?,
          world.accounts.creditedFor { tgid := 1, qpn := 7 })) =
      some (some { bytes := 150, wrs := 2 }, none, (100, 1)) := by
  decide +kernel

end Unifabric.EbpfFlow
