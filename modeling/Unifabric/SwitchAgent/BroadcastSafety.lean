import Unifabric.SwitchAgent.Broadcast

/-!
# The broadcast neither blocks nor loses the latest snapshot

The invariant of the agent with its streams, as long as neither the generation
nor the identifier of a subscription has wrapped around.
-/

namespace Unifabric.SwitchAgent

open Lib GoMap Option

variable {phase : RefresherPhase} {index channel : Nat} {next : Broadcast}
  {rest : List Nat} {snapshot : LldpNeighborSnapshot}

/-- What the refresher knows at each point. -/
def RefresherOk (state : Broadcast) : RefresherPhase → Prop
  | .idle => True
  | .collecting generation => generation = UInt64.ofNat (state.changes + 1)
  | .collected snapshot => snapshot.generation = UInt64.ofNat (state.changes + 1)
  | .sending snapshot _ => state.currentSnapshot = some snapshot
  | .full snapshot _ _ => state.currentSnapshot = some snapshot
  | .drained snapshot channel _ =>
    state.currentSnapshot = some snapshot ∧ ∀ stream, state.streams[channel]? =
      some stream →
        stream.buffer = none

/-- The stream has not left. -/
def Broadcast.Here (state : Broadcast) (index : Nat) : Prop :=
  ∃ stream, state.streams[index]? = some stream ∧ stream.phase ≠ .left

/-- What holds of the stream at an index. -/
structure StreamKept (state : Broadcast) (index : Nat)
    (stream : WatchStream) : Prop where
  opened : index < state.opened
  id : stream.id = index
  registered : stream.phase ≠ .left → state.subscribers[index]? = some index
  closed : stream.closed = true ↔ stream.phase = .left
  ok : StreamOk state.currentSnapshot (index ∈ state.refresher.pending) stream

/-- The invariant of the agent. -/
structure BroadcastOk (state : Broadcast) : Prop where
  numbered : ∀ snapshot, state.currentSnapshot = some snapshot →
    snapshot.number = state.changes
  unnumbered : state.currentSnapshot = none → state.changes = 0
  identifier : state.nextSubscriber = state.opened % intRange
  streams : ∀ (index : Nat) stream, state.streams[index]? = some stream →
    StreamKept state index stream
  owned : ∀ (id : Nat) index, state.subscribers[id]? = some index → id = index ∧
    state.Here index
  once : state.refresher.pending.Nodup
  awaited : ∀ index ∈ state.refresher.pending, state.Here index
  refresher : RefresherOk state state.refresher

lemma broadcastOk_new : BroadcastOk .new := by
  constructor <;> simp [Broadcast.new, RefresherPhase.pending, RefresherOk]

section

variable {state : Broadcast}

section

variable (ok : BroadcastOk state)

include ok

lemma BroadcastOk.setPhase
    (same : phase.pending = state.refresher.pending)
    (knows : RefresherOk state phase) :
    BroadcastOk { state with refresher := phase } where
  numbered := ok.numbered
  unnumbered := ok.unnumbered
  identifier := ok.identifier
  streams index stream found :=
    let kept := ok.streams index stream found
    ⟨kept.opened, kept.id, kept.registered, kept.closed, same ▸ kept.ok⟩
  owned := ok.owned
  once := same ▸ ok.once
  awaited := same ▸ ok.awaited
  refresher := by cases phase <;> exact knows

/-- A stream which stays and whose turn may have come is replaced. -/
lemma BroadcastOk.setStream {stream next : WatchStream}
    (found : state.streams[index]? = some stream) (id : next.id = stream.id)
    (closed : next.closed = stream.closed) (here : stream.phase ≠ .left)
    (stays : next.phase ≠ .left)
    (isOk : StreamOk state.currentSnapshot (index ∈ phase.pending) next)
    (fewer : phase.pending.Sublist state.refresher.pending)
    (others : ∀ other ≠ index, other ∈ state.refresher.pending →
      other ∈ phase.pending)
    (knows : RefresherOk (state.setStream index next) phase) :
    BroadcastOk { state.setStream index next with refresher := phase } := by
  have remains : ∀ other, state.Here other →
      (state.setStream index next).Here other := by
    rintro other ⟨result, isResult, notLeft⟩
    by_cases same : other = index
    · exact ⟨next, getElem?_insert_eq_some.2 (.inl ⟨same, rfl⟩), stays⟩
    · exact ⟨result, getElem?_insert_eq_some.2 (.inr ⟨same, isResult⟩), notLeft⟩
  constructor
  case numbered => exact ok.numbered
  case unnumbered => exact ok.unnumbered
  case identifier => exact ok.identifier
  case streams =>
    intro other result isResult
    rcases getElem?_insert_eq_some.1 isResult with ⟨rfl, rfl⟩ | ⟨differs, old⟩
    · have kept := ok.streams other stream found
      refine ⟨kept.opened, id.trans kept.id, fun _ => kept.registered here, ?_,
        isOk⟩
      rw [closed, kept.closed]
      exact iff_of_false here stays
    · have kept := ok.streams other result old
      have same : (other ∈ state.refresher.pending) = (other ∈ phase.pending) :=
        propext ⟨others other differs, fun among => fewer.subset among⟩
      exact ⟨kept.opened, kept.id, kept.registered, kept.closed, same ▸ kept.ok⟩
  case owned =>
    intro other owner isOwner
    exact (ok.owned other owner isOwner).imp_right (remains owner)
  case once => exact ok.once.sublist fewer
  case awaited =>
    exact fun other among => remains other (ok.awaited other (fewer.subset among))
  case refresher => cases phase <;> exact knows

lemma BroadcastOk.stream {stream next : WatchStream}
    (found : state.streams[index]? = some stream) (move : StreamMove stream next) :
    BroadcastOk (state.setStream index next) := by
  obtain ⟨id, closed, here, stays, empty⟩ := move.keeps
  refine ok.setStream found id closed here stays
    (move.ok (ok.streams index stream found).ok) (List.Sublist.refl _)
    (fun _ _ among => among) ?_
  have knows := ok.refresher
  cases phase : state.refresher with
  | drained snapshot channel rest =>
    rw [phase] at knows
    refine ⟨knows.1, fun other isOther => ?_⟩
    rw [Broadcast.setStream, getElem?_insert] at isOther
    split_ifs at isOther with same
    · rw [← some.inj isOther]
      exact empty (knows.2 stream (same ▸ found))
    · exact knows.2 other isOther
  | _ =>
    rw [phase] at knows
    exact knows

/-- The channel whose turn it is belongs to a stream which has not left. -/
lemma BroadcastOk.here {stream : WatchStream}
    (next : state.refresher.pending = channel :: rest)
    (found : state.streams[channel]? = some stream) : stream.phase ≠ .left := by
  obtain ⟨other, isOther, notLeft⟩ := ok.awaited channel (by simp [next])
  rw [found] at isOther
  exact some.inj isOther ▸ notLeft

lemma BroadcastOk.put {stream : WatchStream}
    (next : state.refresher.pending = channel :: rest)
    (current : state.currentSnapshot = some snapshot)
    (found : state.streams[channel]? = some stream) (empty : stream.buffer = none) :
    BroadcastOk (state.put snapshot channel rest stream) := by
  have distinct := ok.once
  rw [next, List.nodup_cons] at distinct
  have here := ok.here next found
  have behind := (ok.streams channel stream found).ok
  rw [current] at behind
  refine ok.setStream found rfl rfl here here ?_ ?_ ?_ current
  · rw [current]
    exact behind.put (by simp [next]) distinct.1 empty
  · rw [next]
    exact List.sublist_cons_self channel rest
  · intro other differs among
    rw [next] at among
    exact (List.mem_cons.1 among).resolve_left differs

lemma BroadcastOk.drain {stream : WatchStream}
    (phase : state.refresher = .full snapshot channel rest)
    (found : state.streams[channel]? = some stream) :
    BroadcastOk
      { state.setStream channel { stream with buffer := none } with
        refresher := .drained snapshot channel rest } := by
  have next : state.refresher.pending = channel :: rest := by
    rw [phase]
    rfl
  have knows := ok.refresher
  rw [phase] at knows
  have here := ok.here next found
  refine ok.setStream found rfl rfl here here ?_ ?_ ?_ ⟨knows, ?_⟩
  · exact (next ▸ (ok.streams channel stream found).ok).drain
      (List.mem_cons_self ..)
  · rw [next]
    exact List.Sublist.refl _
  · intro other _ among
    rw [next] at among
    exact among
  · intro other isOther
    rw [Broadcast.setStream, getElem?_insert, if_pos rfl] at isOther
    rw [← some.inj isOther]

end

lemma number_of_generation (generation : snapshot.generation = UInt64.ofNat count)
    (small : count < intRange) : snapshot.number = count := by
  rw [LldpNeighborSnapshot.number, generation, UInt64.toNat_ofNat']
  exact Nat.mod_eq_of_lt small

lemma BroadcastOk.acquire (ok : BroadcastOk state)
    (phase : state.refresher = .collected snapshot)
    (listed : order.Perm (entries state.subscribers))
    (small : state.changes + 1 < intRange) :
    BroadcastOk
      { state with
        currentSnapshot := some snapshot
        refresher := .sending snapshot order
        changes := state.changes + 1 } := by
  have knows := ok.refresher
  rw [phase] at knows
  have number : snapshot.number = state.changes + 1 :=
    number_of_generation knows small
  have older : ∀ other newest, state.currentSnapshot = some newest →
      other ≤ newest.number → other < snapshot.number := by
    intro other newest isNewest bounded
    rw [ok.numbered newest isNewest] at bounded
    omega
  have among : ∀ index, index ∈ order ↔ ∃ id : Nat, state.subscribers[id]? =
      some index := by
    intro index
    rw [listed.mem_iff, mem_entries_iff]
  constructor
  case numbered =>
    intro other isOther
    rw [← some.inj isOther]
    exact number
  case unnumbered => exact fun absent => by cases absent
  case identifier => exact ok.identifier
  case owned => exact ok.owned
  case streams =>
    intro index stream found
    have kept := ok.streams index stream found
    have before := kept.ok
    refine ⟨kept.opened, kept.id, kept.registered, kept.closed, ?_⟩
    have behind : ∀ other ∈ stream.pipeline, ∃ newest,
        some snapshot = some newest ∧ other.number < newest.number := by
      intro other listed
      obtain ⟨newest, isNewest, bounded⟩ := before.bounded other listed
      exact ⟨snapshot, rfl, older _ newest isNewest bounded⟩
    constructor
    case increasing => exact before.increasing
    case bounded =>
      intro other listed
      obtain ⟨newest, isNewest, less⟩ := behind other listed
      exact ⟨newest, isNewest, le_of_lt less⟩
    case behind => exact fun _ => behind
    case latest =>
      intro notPending active
      have here : stream.phase ≠ .left := by
        intro isLeft
        rw [isLeft] at active
        cases active
      exact absurd ((among index).2 ⟨index, kept.registered here⟩) notPending
    case last => exact before.last
  case once =>
    have keys : entries state.subscribers = state.subscribers.keys :=
      entries_eq_keys fun id index isIndex => (ok.owned id index isIndex).1
    exact (listed.trans (.of_eq keys)).nodup_iff.2 (keys_nodup _)
  case awaited =>
    intro index isPending
    obtain ⟨id, isIndex⟩ := (among index).1 isPending
    exact (ok.owned id index isIndex).2
  case refresher => rfl

lemma pending_eq_nil (free : phase.locks = false) : phase.pending = [] := by
  cases phase <;> first | rfl | cases free

/-- A stream right after `subscribe`, while the refresher does not send. -/
lemma streamOk_newStream (state : Broadcast) (nothing : ¬ pending) :
    StreamOk state.currentSnapshot pending state.newStream := by
  have pipeline : state.newStream.pipeline = state.currentSnapshot.toList := by
    simp [WatchStream.pipeline, Broadcast.newStream, StreamPhase.held]
  constructor
  case increasing =>
    rw [pipeline]
    cases state.currentSnapshot <;> simp
  case bounded =>
    intro snapshot among
    rw [pipeline, mem_toList] at among
    exact ⟨snapshot, among, le_refl _⟩
  case behind => exact fun isPending => absurd isPending nothing
  case latest =>
    intro _ _
    rw [pipeline]
    cases state.currentSnapshot <;> rfl
  case last => simp [Broadcast.newStream]

/-- Without the lock the refresher knows nothing about the streams. -/
lemma RefresherOk.of_free {next : Broadcast} (free : phase.locks = false)
    (knows : RefresherOk state phase) (changes : next.changes = state.changes) :
    RefresherOk next phase := by
  cases phase with
  | idle => trivial
  | collecting generation => exact Eq.trans knows (by rw [changes])
  | collected snapshot => exact Eq.trans knows (by rw [changes])
  | _ => cases free

lemma BroadcastOk.subscribe (ok : BroadcastOk state)
    (free : state.refresher.locks = false)
    (small : state.opened + 1 ≤ intRange) : BroadcastOk state.subscribe := by
  have nothing := pending_eq_nil free
  have identifier : state.nextSubscriber = state.opened := by
    rw [ok.identifier]
    exact Nat.mod_eq_of_lt small
  have fresh : ∀ (index : Nat) stream, state.streams[index]? = some stream →
      index ≠ state.opened := by
    intro index stream found same
    have before := (ok.streams index stream found).opened
    omega
  have subscribers : state.subscribe.subscribers =
      state.subscribers.insert state.opened state.opened := by
    rw [Broadcast.subscribe, identifier]
  have remains : ∀ index, state.Here index → state.subscribe.Here index := by
    rintro index ⟨stream, found, notLeft⟩
    exact ⟨stream,
      getElem?_insert_eq_some.2 (.inr ⟨fresh index stream found, found⟩), notLeft⟩
  constructor
  case numbered => exact ok.numbered
  case unnumbered => exact ok.unnumbered
  case identifier =>
    change (state.nextSubscriber + 1) % intRange = (state.opened + 1) % intRange
    rw [identifier]
  case streams =>
    intro index stream found
    rcases getElem?_insert_eq_some.1 found with ⟨rfl, rfl⟩ | ⟨differs, old⟩
    · refine ⟨Nat.lt_succ_self _, identifier, fun _ => ?_,
        by simp [Broadcast.newStream],
        streamOk_newStream state ?_⟩
      · rw [subscribers, getElem?_insert, if_pos rfl]
      · exact fun among => by simp [Broadcast.subscribe, nothing] at among
    · have kept := ok.streams index stream old
      refine ⟨Nat.lt_succ_of_lt kept.opened, kept.id, fun notLeft => ?_,
        kept.closed, kept.ok⟩
      rw [subscribers, getElem?_insert, if_neg (Ne.symm differs),
        kept.registered notLeft]
  case owned =>
    intro id index isIndex
    rw [subscribers] at isIndex
    rcases getElem?_insert_eq_some.1 isIndex with ⟨rfl, rfl⟩ | ⟨_, old⟩
    · exact ⟨rfl, state.newStream, getElem?_insert_eq_some.2 (.inl ⟨rfl, rfl⟩),
        by simp [Broadcast.newStream]⟩
    · exact (ok.owned id index old).imp_right (remains index)
  case once => exact ok.once
  case awaited => exact fun index among => remains index (ok.awaited index among)
  case refresher => exact ok.refresher.of_free free rfl

lemma BroadcastOk.unsubscribe (ok : BroadcastOk state) {stream : WatchStream}
    (found : state.streams[index]? = some stream)
    (free : state.refresher.locks = false)
    (phase : stream.phase = .leaving) : BroadcastOk
    (state.unsubscribe index stream) := by
  have nothing := pending_eq_nil free
  have own := ok.streams index stream found
  have registered : state.subscribers[stream.id]? = some index := by
    rw [own.id]
    exact own.registered (by simp [phase])
  let gone : WatchStream := { stream with phase := .left, closed := true }
  let left := state.streams.insert index { stream with phase := .left }
  have shape : state.unsubscribe index stream =
      { state with
        streams := left.insert index gone
        subscribers := state.subscribers.erase stream.id } := by
    rw [Broadcast.unsubscribe, registered]
    simp only [Broadcast.close, Broadcast.setStream, getElem?_insert, if_true]
    rfl
  rw [shape]
  have remains : ∀ other ≠ index, ∀ result, state.streams[other]? = some result →
      (left.insert index gone)[other]? = some result := by
    intro other differs result isResult
    rw [getElem?_insert, if_neg (Ne.symm differs), getElem?_insert,
      if_neg (Ne.symm differs),
      isResult]
  constructor
  case numbered => exact ok.numbered
  case unnumbered => exact ok.unnumbered
  case identifier => exact ok.identifier
  case streams =>
    intro other result isResult
    rcases getElem?_insert_eq_some.1 isResult with ⟨rfl, rfl⟩ | ⟨differs, isResult⟩
    · refine ⟨own.opened, own.id, absurd rfl, iff_of_true rfl rfl,
        own.ok.drop ?_ rfl⟩
      simp [gone, WatchStream.pipeline, phase, StreamPhase.held]
    · have old :=
        ((getElem?_insert_eq_some.1 isResult).resolve_left (differs ·.1)).2
      have kept := ok.streams other result old
      refine ⟨kept.opened, kept.id, fun notLeft => ?_, kept.closed, kept.ok⟩
      rw [getElem?_erase, own.id, if_neg (Ne.symm differs), kept.registered notLeft]
  case owned =>
    intro id owner isOwner
    rw [getElem?_erase, own.id] at isOwner
    split_ifs at isOwner with differs
    obtain ⟨isOwn, result, old, notLeft⟩ := ok.owned id owner isOwner
    exact ⟨isOwn, result,
      remains owner (fun same => differs (same.symm.trans isOwn.symm)) result
      old, notLeft⟩
  case once => exact ok.once
  case awaited => exact fun other among => by simp [nothing] at among
  case refresher => exact ok.refresher.of_free free rfl

/-! ## Every step -/

/-- What a step of the agent can do. -/
inductive BroadcastMove (state : Broadcast) : Broadcast → Prop
  | read (phase : state.refresher = .idle) : BroadcastMove state
        { state with
          refresher := .collecting (match state.currentSnapshot with
              | none => 1
              | some current => current.generation + 1) }
  | collect {generation : UInt64} (collected : Collected)
      (phase : state.refresher = .collecting generation) :
      BroadcastMove state
        { state with
          refresher := .collected (collectSnapshot collected generation) }
  | rest (nothing : state.refresher.pending = []) :
      BroadcastMove state { state with refresher := .idle }
  | acquire {snapshot : LldpNeighborSnapshot} {order : List Nat}
      (phase : state.refresher = .collected snapshot)
      (listed : order.Perm (entries state.subscribers)) :
      BroadcastMove state
        { state with
          currentSnapshot := some snapshot
          refresher := .sending snapshot order
          changes := state.changes + 1 }
  | put {snapshot : LldpNeighborSnapshot} {channel : Nat} {rest : List Nat}
      {stream : WatchStream}
      (phase : state.refresher = .sending snapshot (channel :: rest) ∨
        state.refresher = .drained snapshot channel rest)
      (found : state.streams[channel]? = some stream)
      (empty : stream.buffer = none) :
      BroadcastMove state (state.put snapshot channel rest stream)
  | full {snapshot : LldpNeighborSnapshot} {channel : Nat} {rest : List Nat}
      (phase : state.refresher = .sending snapshot (channel :: rest)) :
      BroadcastMove state { state with refresher := .full snapshot channel rest }
  | drain {snapshot : LldpNeighborSnapshot} {channel : Nat} {rest : List Nat}
      {stream : WatchStream}
      (phase : state.refresher = .full snapshot channel rest)
      (found : state.streams[channel]? = some stream) :
      BroadcastMove state
        { state.setStream channel { stream with buffer := none } with
          refresher := .drained snapshot channel rest }
  | subscribe (free : state.refresher.locks = false) :
      BroadcastMove state state.subscribe
  | unsubscribe {index : Nat} {stream : WatchStream}
      (found : state.streams[index]? = some stream)
      (free : state.refresher.locks = false)
      (phase : stream.phase = .leaving) :
      BroadcastMove state (state.unsubscribe index stream)
  | stream {index : Nat} {stream next : WatchStream}
      (found : state.streams[index]? = some stream)
      (move : StreamMove stream next) :
      BroadcastMove state (state.setStream index next)

lemma broadcastStep_moves (stepped : broadcastStep state event = some next) :
    BroadcastMove state next := by
  cases event with
  | readCurrent =>
    simp only [broadcastStep] at stepped
    split at stepped
    · next phase =>
      cases stepped
      exact .read phase
    · cases stepped
  | collect collected =>
    simp only [broadcastStep] at stepped
    split at stepped
    · next phase =>
      cases stepped
      exact .rest (by rw [phase]; rfl)
    · next phase =>
      cases stepped
      exact .collect _ phase
    · cases stepped
  | acquire order =>
    simp only [broadcastStep] at stepped
    split at stepped
    · next phase =>
      split_ifs at stepped with same listed
      · cases stepped
        exact .rest (by rw [phase]; rfl)
      · cases stepped
        exact .acquire phase listed
    · cases stepped
  | trySend =>
    simp only [broadcastStep] at stepped
    split at stepped
    · next phase =>
      split at stepped
      · cases stepped
      · next found =>
        split_ifs at stepped with closed empty
        · cases stepped
          exact .put (.inl phase) found empty
        · cases stepped
          exact .full phase
    · cases stepped
  | drain =>
    simp only [broadcastStep] at stepped
    split at stepped
    · next phase =>
      split at stepped
      · cases stepped
      · next found =>
        cases stepped
        exact .drain phase found
    · cases stepped
  | blockingSend =>
    simp only [broadcastStep] at stepped
    split at stepped
    · next phase =>
      split at stepped
      · cases stepped
      · next found =>
        split_ifs at stepped with blocked
        cases stepped
        rw [not_or, not_not] at blocked
        exact .put (.inr phase) found blocked.2
    · cases stepped
  | release =>
    simp only [broadcastStep] at stepped
    split at stepped
    · next phase =>
      cases stepped
      exact .rest (by rw [phase]; rfl)
    · cases stepped
  | subscribe =>
    simp only [broadcastStep] at stepped
    split_ifs at stepped with locked
    cases stepped
    exact .subscribe (Bool.eq_false_iff.2 locked)
  | unsubscribe index =>
    simp only [broadcastStep] at stepped
    split at stepped
    · cases stepped
    · next found =>
      split_ifs at stepped with blocked
      cases stepped
      rw [not_or, not_not] at blocked
      exact .unsubscribe found (Bool.eq_false_iff.2 blocked.1) blocked.2
  | stream index event =>
    simp only [broadcastStep] at stepped
    split at stepped
    · cases stepped
    · next found =>
      obtain ⟨_, moved, rfl⟩ := map_eq_some_iff.1 stepped
      exact .stream found (streamStep_moves moved)

lemma Broadcast.close_counts (state : Broadcast) (channel : Nat) :
    (state.close channel).changes = state.changes ∧
      (state.close channel).opened = state.opened := by
  unfold Broadcast.close
  split <;> exact ⟨rfl, rfl⟩

lemma BroadcastMove.counts (move : BroadcastMove state next) :
    state.changes ≤ next.changes ∧ state.opened ≤ next.opened := by
  cases move with
  | acquire phase listed => exact ⟨Nat.le_succ _, le_refl _⟩
  | subscribe free => exact ⟨le_refl _, Nat.le_succ _⟩
  | @unsubscribe index stream found free phase =>
    have same : (state.unsubscribe index stream).changes = state.changes ∧
        (state.unsubscribe index stream).opened = state.opened := by
      unfold Broadcast.unsubscribe
      split
      · exact ⟨rfl, rfl⟩
      · exact Broadcast.close_counts _ _
    exact ⟨same.1.ge, same.2.ge⟩
  | _ => exact ⟨le_refl _, le_refl _⟩

lemma BroadcastMove.ok (ok : BroadcastOk state) (move : BroadcastMove state next)
    (changes : next.changes < intRange)
    (opened : next.opened ≤ intRange) : BroadcastOk next := by
  have knows := ok.refresher
  cases move with
  | read phase =>
    refine ok.setPhase (by rw [phase]; rfl) ?_
    change _ = UInt64.ofNat (state.changes + 1)
    cases current : state.currentSnapshot with
    | none =>
      rw [ok.unnumbered current]
      rfl
    | some snapshot =>
      rw [← ok.numbered snapshot current, UInt64.ofNat_add,
        LldpNeighborSnapshot.number, UInt64.ofNat_toNat]
      rfl
  | collect collected phase =>
    rw [phase] at knows
    exact ok.setPhase (by rw [phase]; rfl) knows
  | rest nothing => exact ok.setPhase nothing.symm trivial
  | acquire phase listed => exact ok.acquire phase listed changes
  | put phase found empty =>
    rcases phase with phase | phase
    · rw [phase] at knows
      exact ok.put (by rw [phase]; rfl) knows found empty
    · rw [phase] at knows
      exact ok.put (by rw [phase]; rfl) knows.1 found empty
  | full phase =>
    rw [phase] at knows
    exact ok.setPhase (by rw [phase]; rfl) knows
  | drain phase found => exact ok.drain phase found
  | subscribe free => exact ok.subscribe free opened
  | unsubscribe found free phase => exact ok.unsubscribe found free phase
  | stream found move => exact ok.stream found move

/-- The invariant holds after every run in which no counter wraps around. -/
lemma broadcastOk_of_run
    (reached : runEvents broadcastStep .new events = some state)
    (changes : state.changes < intRange) (opened : state.opened ≤ intRange) :
    BroadcastOk state := by
  have holds := runEvents_invariant
    (fun state => state.changes < intRange → state.opened ≤ intRange →
      BroadcastOk state)
    (fun before event after ok stepped changes opened => by
      have move := broadcastStep_moves stepped
      exact move.ok (ok (lt_of_le_of_lt move.counts.1 changes)
        (le_trans move.counts.2 opened)) changes opened)
    (fun _ _ => broadcastOk_new) reached
  exact holds changes opened

/-! ## The methods of the agent as one step -/

/-- What the channel of a stream holds. -/
def Broadcast.updates (state : Broadcast) (channel : Nat) : Updates :=
  state.streams[channel]?.bind WatchStream.buffer

/-- The agent as its methods see it, whose subscribers have the channels. -/
structure Presents (state : Broadcast) (agent : Agent) : Prop where
  current : agent.currentSnapshot = state.currentSnapshot
  next : agent.nextSubscriber = state.nextSubscriber
  subscribers : ∀ id : Nat,
    agent.subscribers[id]? = state.subscribers[id]?.map state.updates

lemma exists_put {stream : WatchStream}
    (phase : state.refresher = .sending snapshot (first :: rest))
    (found : state.streams[first]? = some stream) (isOpen : stream.closed = false) :
    ∃ events, runEvents broadcastStep state events =
      some (state.put snapshot first rest stream) := by
  by_cases empty : stream.buffer = none
  · refine ⟨[.trySend], ?_⟩
    simp [runEvents, broadcastStep, phase, found, isOpen, empty]
  · refine ⟨[.trySend, .drain, .blockingSend], ?_⟩
    simp [runEvents, broadcastStep, phase, found, isOpen, empty, Broadcast.put,
      Broadcast.setStream, insert_insert]

/-- A broadcast which nothing interrupts fills the channels it has to send to. -/
lemma exists_sent (phase : state.refresher = .sending snapshot rest)
    (channels : ∀ channel ∈ rest, ∃ stream,
      state.streams[channel]? = some stream ∧ stream.closed = false) :
    ∃ events streams, runEvents broadcastStep state events =
        some { state with refresher := .idle, streams } ∧
      ∀ channel : Nat, streams[channel]?.bind WatchStream.buffer =
        if channel ∈ rest then some snapshot else state.updates channel := by
  induction rest generalizing state with
  | nil =>
    refine ⟨[.release], state.streams, ?_, fun _ => (if_neg List.not_mem_nil).symm⟩
    simp [runEvents, broadcastStep, phase]
  | cons first rest ih =>
    obtain ⟨stream, found, isOpen⟩ := channels first List.mem_cons_self
    obtain ⟨puts, put⟩ := exists_put phase found isOpen
    have stored (channel : Nat) :
        (state.put snapshot first rest stream).streams[channel]? =
          if first = channel then some { stream with buffer := some snapshot }
          else state.streams[channel]? := getElem?_insert _ _ _ _
    obtain ⟨sends, streams, sent, filled⟩ :=
      @ih (state.put snapshot first rest stream) rfl <| by
        intro channel listed
        rw [stored]
        split_ifs
        · exact ⟨_, rfl, isOpen⟩
        · exact channels channel (.tail _ listed)
    refine ⟨puts ++ sends, streams, runEvents_append_eq_some.2 ⟨_, put, sent⟩, ?_⟩
    intro channel
    rw [filled, Broadcast.updates, stored, Broadcast.updates]
    by_cases isFirst : first = channel
    · simp [isFirst]
    · simp [isFirst, Ne.symm isFirst]

section

variable {agent : Agent} (presents : Presents state agent) (ok : BroadcastOk state)

include presents ok

/-- A stream subscribes as `subscribe` of the agent does. -/
lemma Presents.subscribe (opened : state.opened + 1 < intRange) :
    Presents state.subscribe agent.subscribe.2.2 where
  current := presents.current
  next := by
    have identifier := ok.identifier
    rw [Nat.mod_eq_of_lt (by omega)] at identifier
    simp only [Agent.subscribe, Broadcast.subscribe, presents.next, identifier]
    exact (Nat.mod_eq_of_lt opened).symm
  subscribers id := by
    simp only [Agent.subscribe, Broadcast.subscribe, getElem?_insert, presents.next]
    split_ifs with isNew
    · simp [Broadcast.updates, Broadcast.newStream]
    · rw [presents.subscribers]
      refine map_congr fun channel found => ?_
      obtain ⟨_, stream, isStream, _⟩ := ok.owned id channel found
      rw [Broadcast.updates, Broadcast.updates, getElem?_insert,
        if_neg (ok.streams channel stream isStream).opened.ne']

/-- A stream leaves as `unsubscribe` of the agent does. -/
lemma Presents.unsubscribe {stream : WatchStream}
    (found : state.streams[index]? = some stream)
    (leaving : stream.phase = .leaving) :
    Presents (state.unsubscribe index stream) (agent.unsubscribe stream.id) := by
  have kept := ok.streams index stream found
  have registered := kept.registered (by simp [leaving])
  have left : state.unsubscribe index stream =
      { state with
        subscribers := state.subscribers.erase stream.id
        streams := state.streams.insert index
          { stream with phase := .left, closed := true } } := by
    simp [Broadcast.unsubscribe, kept.id, registered, Broadcast.close,
      Broadcast.setStream, insert_insert]
  rw [left]
  refine ⟨presents.current, presents.next, fun id => ?_⟩
  rw [Agent.unsubscribe, getElem?_erase, getElem?_erase, presents.subscribers]
  split_ifs
  · rfl
  · refine map_congr fun channel _ => ?_
    simp only [Broadcast.updates, getElem?_insert]
    split_ifs with isIndex
    · rw [← isIndex, found]
      rfl
    · rfl

/-- The steps of the refresher alone do what `refreshSnapshot` does. -/
lemma Presents.refreshSnapshot (idle : state.refresher = .idle) (runtime : Runtime)
    (collected : Option Collected) :
    ∃ events next, runEvents broadcastStep state events = some next ∧
      next.refresher = .idle ∧
      Presents next (agent.refreshSnapshot runtime collected) := by
  have still : Presents { state with refresher := .idle } agent :=
    ⟨presents.current, presents.next, presents.subscribers⟩
  cases collected with
  | none =>
    refine ⟨[.readCurrent, .collect none], _, ?_, rfl, still⟩
    simp [runEvents, broadcastStep, idle]
  | some collected =>
    have read : runEvents broadcastStep state
        [.readCurrent, .collect (some collected)] = some { state with
          refresher :=
            .collected (collectSnapshot collected agent.nextGeneration) } := by
      cases current : state.currentSnapshot <;>
        simp [runEvents, broadcastStep, idle, Agent.nextGeneration,
          presents.current, current]
    simp only [Agent.refreshSnapshot]
    generalize collectSnapshot collected agent.nextGeneration = snapshot at read ⊢
    rw [presents.current]
    split_ifs with same
    · refine ⟨_ ++ [.acquire []], _, runEvents_append_eq_some.2 ⟨_, read, ?_⟩, rfl,
        still⟩
      simp [runEvents, broadcastStep, same]
    · have channels : ∀ channel ∈ entries state.subscribers, ∃ stream,
          state.streams[channel]? = some stream ∧ stream.closed = false := by
        intro channel listed
        obtain ⟨id, isId⟩ := (mem_entries_iff _ channel).1 listed
        obtain ⟨_, stream, found, here⟩ := ok.owned id channel isId
        exact ⟨stream, found, Bool.eq_false_iff.2 fun closed =>
          here ((ok.streams channel stream found).closed.1 closed)⟩
      obtain ⟨sends, streams, sent, filled⟩ := @exists_sent _ snapshot
        { state with
          currentSnapshot := some snapshot
          refresher := .sending snapshot (entries state.subscribers)
          changes := state.changes + 1 } rfl channels
      refine ⟨_ ++ .acquire (entries state.subscribers) :: sends, _,
        runEvents_append_eq_some.2
          ⟨_, read, runEvents_cons_eq_some.2 ⟨_, ?_, sent⟩⟩,
        rfl, rfl, presents.next, fun id => ?_⟩
      · simp [broadcastStep, same]
      · rw [runtime.getElem?_range_update, presents.subscribers, Option.map_map]
        refine map_congr fun channel found => ?_
        have listed := (mem_entries_iff _ channel).2 ⟨id, found⟩
        rw [Broadcast.updates, filled, if_pos listed, Function.comp_apply]
        cases state.updates channel <;> rfl

end

/-! ## What the streams get -/

/-- The snapshots of a list have increasing generations. -/
def Increasing (snapshots : List LldpNeighborSnapshot) : Prop :=
  snapshots.Pairwise fun left right => left.generation < right.generation

/--
In every interleaving in which neither counter wraps around: a channel which
the refresher sends to is open, and it is empty at the send without a default;
every stream sends increasing generations; and a stream which waits at an empty
channel which the refresher need not come to has sent the current snapshot.
-/
theorem broadcast_keeps_latest (events : List BroadcastEvent) (state : Broadcast)
    (reached : runEvents broadcastStep .new events = some state)
    (changes : state.changes < intRange) (opened : state.opened ≤ intRange) :
    (∀ snapshot channel rest, state.refresher =
      .sending snapshot (channel :: rest) ∨
        state.refresher = .drained snapshot channel rest →
      ∃ stream, state.streams[channel]? = some stream ∧ stream.closed = false ∧
        (state.refresher = .drained snapshot channel rest → stream.buffer = none)) ∧
    (∀ (index : Nat) stream, state.streams[index]? = some stream →
      Increasing stream.sent) ∧
    ∀ (index : Nat) stream, state.streams[index]? = some stream →
      stream.phase = .waiting → stream.buffer = none →
      index ∉ state.refresher.pending →
      stream.sent.getLast? = state.currentSnapshot := by
  have ok := broadcastOk_of_run reached changes opened
  have knows := ok.refresher
  refine ⟨?_, ?_, ?_⟩
  · intro snapshot channel rest phase
    have next : state.refresher.pending = channel :: rest := by
      rcases phase with phase | phase <;> rw [phase] <;> rfl
    rcases ok.awaited channel (by simp [next]) with ⟨stream, found, notLeft⟩
    refine ⟨stream, found, ?_, ?_⟩
    · rw [Bool.eq_false_iff]
      exact fun closed => notLeft
        ((ok.streams channel stream found).closed.mp closed)
    · intro drained
      rw [drained] at knows
      exact knows.2 stream found
  · intro index stream found
    have ordered := (ok.streams index stream found).ok.increasing
    rw [WatchStream.pipeline, List.append_assoc, List.pairwise_append] at ordered
    exact ordered.1.imp fun less => UInt64.lt_iff_toNat_lt.mpr less
  · intro index stream found waiting empty notPending
    have latest := (ok.streams index stream found).ok.latest notPending
      (by rw [waiting]; rfl)
    simpa [WatchStream.pipeline, waiting, empty, StreamPhase.held] using latest

/-- A collection with one link to a peer. -/
def linkTo (peer : String) : Collected where
  switchName := "leaf"
  lldpNeighbors := [⟨"leaf", "p1", peer, "q1"⟩]

/-- The first snapshot is collected, and a stream subscribes and sends it. -/
def firstStream : List BroadcastEvent :=
  [.readCurrent, .collect (some (linkTo "spine-1")), .acquire [], .release,
    .subscribe, .stream 0 (.sendFirst true)]

/-- What is seen of the first stream: where it is, its channel, what it sent. -/
def watchFirst (state : Broadcast) :
    Option (StreamPhase × Option LldpNeighborSnapshot × List UInt64) :=
  state.streams[(0 : Nat)]?.map fun stream =>
    (stream.phase, stream.buffer, stream.sent.map LldpNeighborSnapshot.generation)

/-- Two broadcasts, of which the second finds the channel full, before the stream receives. -/
def twoBroadcasts : List BroadcastEvent :=
  firstStream ++
    [.readCurrent, .collect (some (linkTo "spine-2")), .acquire [0], .trySend,
      .release,
      .readCurrent, .collect (some (linkTo "spine-3")), .acquire [0], .trySend,
        .drain,
      .blockingSend, .release, .stream 0 .receive, .stream 0 (.forward true)]

/-- A stream which missed a snapshot has sent the current one. -/
theorem broadcast_keeps_latest_two_broadcasts : ∃ state stream,
      runEvents broadcastStep .new twoBroadcasts = some state ∧
        state.changes < intRange ∧ state.opened ≤ intRange ∧
        state.streams[(0 : Nat)]? = some stream ∧
        stream.sent.map LldpNeighborSnapshot.generation = [1, 3] ∧
        stream.sent.getLast? = state.currentSnapshot := by
  have ran : (runEvents broadcastStep .new twoBroadcasts).map
      (fun state => decide (watchFirst state = some (.waiting, none, [1, 3]) ∧
        state.refresher = .idle ∧ state.changes = 3 ∧ state.opened = 1)) =
          some true := by
    decide +kernel
  rcases Option.map_eq_some_iff.mp ran with ⟨state, reached, seen⟩
  rw [decide_eq_true_iff] at seen
  rcases seen with ⟨seen, idle, changes, opened⟩
  rcases Option.map_eq_some_iff.mp seen with ⟨stream, found, shown⟩
  simp only [Prod.mk.injEq] at shown
  have small : state.changes < intRange := by
    rw [changes]
    decide
  have few : state.opened ≤ intRange := by
    rw [opened]
    decide
  refine ⟨state, stream, reached, small, few, found, shown.2.2, ?_⟩
  exact (broadcast_keeps_latest _ state reached small few).2.2 0
    stream found shown.1 shown.2.1 (by simp [idle, RefresherPhase.pending])

/--
While the refresher is in its loop the current snapshot is already the new one,
and a stream waits at its empty channel with the old one sent.
-/
theorem waiting_stream_behind_during_broadcast : (runEvents broadcastStep .new
        (firstStream ++
          [.readCurrent, .collect (some (linkTo "spine-2")), .acquire [0]])).map
      (fun state =>
        (watchFirst state, state.currentSnapshot.map LldpNeighborSnapshot.generation)) =
      some (some (.waiting, none, [1]), some 2) := by
  decide +kernel

end

end Unifabric.SwitchAgent
