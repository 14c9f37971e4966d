import Mathlib

/-!
# Layered graphs

An undirected graph with base vertices and inner vertices.  The level of an
inner vertex is the length of a shortest walk through inner vertices to a base
vertex.  Inner vertices of one level form domains: two vertices are joined
when a chain of vertices of their level connects them in which neighbours are
linked to one common domain of the level below.

These are the notions a hierarchical fabric is about: base vertices are its
end points and a domain is a set of redundant inner vertices.
-/

namespace Unifabric.Lib

open Relation

/-- A graph with base and inner vertices and symmetric links. -/
@[ext]
structure LayeredGraph (α : Type*) where
  base : α → Prop
  inner : α → Prop
  link : α → α → Prop
  link_symm : ∀ {a b}, link a b → link b a
  disjoint : ∀ {a}, base a → ¬ inner a

namespace LayeredGraph

variable {α : Type*} (graph : LayeredGraph α)

/-! ## Levels -/

/-- A walk of the given length through inner vertices ends at the base. -/
def Reach : Nat → α → Prop
  | 0, a => graph.base a
  | length + 1, a => graph.inner a ∧ ∃ b, graph.link a b ∧ Reach length b

/-- The length of a shortest such walk. -/
def Level (level : Nat) (a : α) : Prop :=
  graph.Reach level a ∧ ∀ shorter < level, ¬ graph.Reach shorter a

variable {graph}

lemma Level.unique (first : graph.Level left a) (second : graph.Level right a) : left = right := by
  rcases Nat.lt_trichotomy left right with less | equal | greater
  · exact absurd first.1 (second.2 left less)
  · exact equal
  · exact absurd second.1 (first.2 right greater)

@[simp]
lemma level_zero_iff (a : α) : graph.Level 0 a ↔ graph.base a := by simp [Level, Reach]

lemma Level.inner {level : Nat} (reached : graph.Level (level + 1) a) : graph.inner a :=
  reached.1.1

/-- Every vertex above the base is linked to a vertex one level below. -/
lemma Level.lower {level : Nat} (reached : graph.Level (level + 1) a) :
    ∃ b, graph.link a b ∧ graph.Level level b := by
  obtain ⟨⟨isInner, b, linked, below⟩, minimal⟩ := reached
  refine ⟨b, linked, below, ?_⟩
  intro shorter less shorterWalk
  exact minimal (shorter + 1) (by omega) ⟨isInner, b, linked, shorterWalk⟩

/--
A labelling which is locally a distance.  The conditions mention only a vertex
and its neighbours, so they can be read off a search that has finished.
-/
structure LocalDistance (graph : LayeredGraph α)
    (label : α → Option Nat) : Prop where
  base : ∀ {a}, graph.base a → label a = some 0
  inner_ne_zero : ∀ {a}, graph.inner a → label a ≠ some 0
  one : ∀ {a}, graph.inner a → (label a = some 1 ↔ ∃ b, graph.link a b ∧ graph.base b)
  descend : ∀ {a n}, graph.inner a → label a = some (n + 2) →
    ∃ b, graph.link a b ∧ graph.inner b ∧ label b = some (n + 1)
  spread : ∀ {a b n}, graph.inner a → label a = some n → graph.inner b → graph.link a b →
      ∃ m, label b = some m ∧ m ≤ n + 1

namespace LocalDistance

variable {label : α → Option Nat}

variable (distance : LocalDistance graph label)

include distance

lemma reach_of_label (isInner : graph.inner a)
    (labelled : label a = some n) : graph.Reach n a := by
  induction n generalizing a with
  | zero => exact absurd labelled (distance.inner_ne_zero isInner)
  | succ n ih =>
    cases n with
    | zero =>
      obtain ⟨b, linked, isBase⟩ := (distance.one isInner).1 labelled
      exact ⟨isInner, b, linked, isBase⟩
    | succ n =>
      obtain ⟨b, linked, bInner, bLabel⟩ := distance.descend isInner labelled
      exact ⟨isInner, b, linked, ih bInner bLabel⟩

lemma label_le_of_reach (isInner : graph.inner a)
    (reached : graph.Reach n a) : ∃ m, label a = some m ∧ m ≤ n := by
  induction n generalizing a with
  | zero => exact absurd isInner (graph.disjoint reached)
  | succ n ih =>
    obtain ⟨_, b, linked, below⟩ := reached
    cases n with
    | zero => exact ⟨1, (distance.one isInner).2 ⟨b, linked, below⟩, le_rfl⟩
    | succ n =>
      obtain ⟨m, bLabel, bound⟩ := ih below.1 below
      obtain ⟨k, aLabel, step⟩ := distance.spread below.1 bLabel isInner (graph.link_symm linked)
      exact ⟨k, aLabel, by omega⟩

lemma label_eq_iff (vertex : graph.base a ∨ graph.inner a)
    (n : Nat) : label a = some n ↔ graph.Level n a := by
  constructor
  · intro labelled
    rcases vertex with isBase | isInner
    · have zero := distance.base isBase
      rw [zero, Option.some.injEq] at labelled
      subst labelled
      exact (level_zero_iff a).2 isBase
    · refine ⟨distance.reach_of_label isInner labelled, ?_⟩
      intro shorter less shorterWalk
      obtain ⟨m, other, bound⟩ := distance.label_le_of_reach isInner shorterWalk
      rw [labelled, Option.some.injEq] at other
      omega
  · intro reached
    rcases vertex with isBase | isInner
    · have equal := reached.unique ((level_zero_iff a).2 isBase)
      rw [equal, distance.base isBase]
    · obtain ⟨m, labelled, bound⟩ := distance.label_le_of_reach isInner reached.1
      have walk := distance.reach_of_label isInner labelled
      have equal : m = n := by
        by_contra different
        exact reached.2 m (by omega) walk
      rw [labelled, equal]

end LocalDistance

/-! ## Links between consecutive levels -/

variable (graph)

/-- A link between vertices whose levels differ by one. -/
def Adjacent (a b : α) : Prop :=
  graph.link a b ∧ ∃ level, (graph.Level level a ∧ graph.Level (level + 1) b) ∨
      (graph.Level (level + 1) a ∧ graph.Level level b)

variable {graph}

lemma Adjacent.symm (adjacent : graph.Adjacent a b) : graph.Adjacent b a := by
  obtain ⟨linked, level, ⟨lower, upper⟩ | ⟨upper, lower⟩⟩ := adjacent
  · exact ⟨graph.link_symm linked, level, .inr ⟨upper, lower⟩⟩
  · exact ⟨graph.link_symm linked, level, .inl ⟨lower, upper⟩⟩

lemma Adjacent.up {level : Nat} (linked : graph.link a b) (lower : graph.Level level a)
    (upper : graph.Level (level + 1) b) : graph.Adjacent a b :=
  ⟨linked, level, .inl ⟨lower, upper⟩⟩

lemma Adjacent.leveled (adjacent : graph.Adjacent a b) : ∃ level, graph.Level level a := by
  obtain ⟨_, level, ⟨lower, _⟩ | ⟨upper, _⟩⟩ := adjacent
  · exact ⟨level, lower⟩
  · exact ⟨level + 1, upper⟩

variable (graph)

/-- Joined by links between consecutive levels. -/
def Connected : α → α → Prop := ReflTransGen graph.Adjacent

variable {graph}

lemma Connected.symm (connected : graph.Connected a b) : graph.Connected b a := by
  have symmetric : Std.Symm graph.Adjacent := ⟨fun _ _ adjacent => adjacent.symm⟩
  exact ReflTransGen.stdSymm.symm _ _ connected

lemma Connected.leveled (connected : graph.Connected a b) (start : ∃ level, graph.Level level a) :
    ∃ level, graph.Level level b := by
  cases connected.cases_tail with
  | inl equal => rwa [equal]
  | inr tail =>
    obtain ⟨_, _, adjacent⟩ := tail
    exact adjacent.symm.leveled

lemma Level.connected_base {level : Nat} (reached : graph.Level level a) :
    ∃ b, graph.base b ∧ graph.Connected b a := by
  induction level generalizing a with
  | zero => exact ⟨a, (level_zero_iff a).1 reached, ReflTransGen.refl⟩
  | succ level ih =>
    obtain ⟨b, linked, below⟩ := reached.lower
    obtain ⟨c, isBase, connected⟩ := ih below
    exact ⟨c, isBase, connected.tail (Adjacent.up (graph.link_symm linked) below reached)⟩

/-! ## Domains -/

variable (graph)

/--
One link of a domain chain: two vertices of the level, linked to vertices of
the level below which `same` relates.
-/
def ChainLink (level : Nat) (same : α → α → Prop) (a b : α) : Prop :=
  graph.Level (level + 1) a ∧ graph.Level (level + 1) b ∧ ∃ x y, graph.link a x ∧ graph.link b y ∧
      graph.Level level x ∧ graph.Level level y ∧ same x y

/-- Two vertices of one level belong to one domain. -/
def Joined : Nat → α → α → Prop
  | 0 => fun a b => a = b
  | level + 1 => ReflTransGen (graph.ChainLink level (Joined level))

variable {graph}

lemma Joined.refl (level : Nat) (a : α) : graph.Joined level a a := by
  cases level with
  | zero => rfl
  | succ level => exact ReflTransGen.refl

lemma ChainLink.symm {level : Nat} {same : α → α → Prop}
    (symmetric : ∀ {x y}, same x y → same y x) (step : graph.ChainLink level same a b) :
    graph.ChainLink level same b a := by
  obtain ⟨left, right, x, y, ax, by', levelX, levelY, related⟩ := step
  exact ⟨right, left, y, x, by', ax, levelY, levelX, symmetric related⟩

lemma Joined.symm {level : Nat} (joined : graph.Joined level a b) : graph.Joined level b a := by
  induction level generalizing a b with
  | zero => exact Eq.symm joined
  | succ level ih =>
    have symmetric : Std.Symm (graph.ChainLink level (graph.Joined level)) :=
      ⟨fun _ _ step => step.symm fun related => ih related⟩
    exact ReflTransGen.stdSymm.symm _ _ joined

lemma Joined.trans {level : Nat} (first : graph.Joined level a b)
    (second : graph.Joined level b c) : graph.Joined level a c := by
  cases level with
  | zero => exact Eq.trans first second
  | succ level => exact ReflTransGen.trans first second

lemma Joined.level {level : Nat} (joined : graph.Joined level a b) (start : graph.Level level a) :
    graph.Level level b := by
  cases level with
  | zero =>
    have equal : a = b := joined
    rwa [← equal]
  | succ level =>
    induction joined with
    | refl => exact start
    | tail _ step _ => exact step.2.1

lemma Joined.connected {level : Nat} (joined : graph.Joined level a b) : graph.Connected a b := by
  induction level generalizing a b with
  | zero =>
    have equal : a = b := joined
    rw [equal]
    exact ReflTransGen.refl
  | succ level ih =>
    have step : ∀ {x y}, graph.ChainLink level (graph.Joined level) x y → graph.Connected x y := by
      rintro x y ⟨xLevel, yLevel, u, v, xu, yv, uLevel, vLevel, same⟩
      have down : graph.Connected x u :=
        ReflTransGen.single (Adjacent.up (graph.link_symm xu) uLevel xLevel).symm
      have up : graph.Connected v y :=
        ReflTransGen.single (Adjacent.up (graph.link_symm yv) vLevel yLevel)
      exact (down.trans (ih same)).trans up
    induction joined with
    | refl => exact ReflTransGen.refl
    | tail _ last connected => exact connected.trans (step last)

end LayeredGraph

end Unifabric.Lib
