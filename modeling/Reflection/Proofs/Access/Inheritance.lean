import Reflection.Proofs.Access.Parents

/-!
# Inheritance and casts

Whether a type inherits from another is asked of types alone, before there is a value; a cast asks
the value for the sub-object. Both follow declared parents, and both say which types they reach in
terms of the same ways: a type inherits from another if a way of at most one step more than the
limit leads there (`Types.inherits_eq_true_iff`), while a cast follows ways up to the limit. So they
agree on all types but those whose nearest way is that one step longer (`Any.inherits_agrees_iff`).
A cast also needs the sub-object to be the only one: it succeeds exactly for types that are equal or
inherit and that are not elusive (`Types.exists_ancestor_iff`).
-/
namespace Reflection

namespace Types

variable {types : Types} {type target : Ty}

/-! ### Types reached along parents -/

/-- A search over types reaches the target along ways that are not too long. -/
theorem inheritsWithin_eq_true_iff {steps : Nat} (different : type ≠ target) :
    types.inheritsWithin target steps type = true ↔
      ∃ way, types.Leads type target way ∧ way.length ≤ steps := by
  induction steps generalizing type with
  | zero =>
    constructor
    · intro reached
      simp [inheritsWithin] at reached
    · rintro ⟨way, leads, short⟩
      have still : way = [] := List.length_eq_zero_iff.1 (Nat.le_zero.1 short)
      rw [still] at leads
      exact absurd (leads_nil.1 leads) different
  | succ steps ih =>
    simp only [inheritsWithin, List.any_eq_true, Bool.or_eq_true, decide_eq_true_eq]
    constructor
    · rintro ⟨parent, declared, reached⟩
      by_cases here : parent.type = target
      · have step : types.Leads type target [parent] :=
          leads_cons.2 ⟨different, declared, leads_nil.2 here⟩
        exact ⟨[parent], step, Nat.le_add_left 1 steps⟩
      · have further := reached.resolve_left here
        obtain ⟨way, leads, short⟩ := (ih here).1 further
        have longer : types.Leads type target (parent :: way) :=
          leads_cons.2 ⟨different, declared, leads⟩
        exact ⟨parent :: way, longer, Nat.succ_le_succ short⟩
    · rintro ⟨way, leads, short⟩
      cases way with
      | nil => exact absurd (leads_nil.1 leads) different
      | cons parent rest =>
        obtain ⟨_, declared, later⟩ := leads_cons.1 leads
        refine ⟨parent, declared, ?_⟩
        by_cases here : parent.type = target
        · exact .inl here
        · have shorter : rest.length ≤ steps := Nat.le_of_succ_le_succ short
          exact .inr ((ih here).2 ⟨rest, later, shorter⟩)

/-- A type inherits from another if a way of at most one step more than the limit leads there. -/
theorem inherits_eq_true_iff (different : type ≠ target) :
    types.inherits type target = true ↔
      ∃ way, types.Leads type target way ∧ way.length ≤ parentLimit + 1 :=
  inheritsWithin_eq_true_iff different

/-- Whether parents lead from a type to another, but only one step beyond the limit. -/
structure JustBeyond (types : Types) (type target : Ty) : Prop where
  /-- Some way of one step more than the limit leads there. -/
  reached : ∃ way, types.Leads type target way ∧ way.length = parentLimit + 1
  /-- No way within the limit does. -/
  far : ∀ way, types.Leads type target way → parentLimit < way.length

/-- Nothing of a type is met within the limit if every way there is longer. -/
theorem ancestors_eq_empty_iff :
    types.ancestors type target = ∅ ↔
      ∀ way, types.Leads type target way → parentLimit < way.length := by
  rw [Set.eq_empty_iff_forall_notMem]
  constructor
  · intro none way leads
    have long : ¬way.length ≤ parentLimit :=
      fun short => none (landing way) ⟨way, leads, short, rfl⟩
    omega
  · rintro far place ⟨way, leads, short, _⟩
    have long := far way leads
    omega

/-- A type inherits from another if a sub-object of it is met within the limit, or a way leads there
that is just too long. -/
theorem inherits_iff_ancestors (different : type ≠ target) :
    types.inherits type target = true ↔
      types.ancestors type target ≠ ∅ ∨ types.JustBeyond type target := by
  rw [inherits_eq_true_iff different, Ne, ancestors_eq_empty_iff]
  constructor
  · rintro ⟨way, leads, short⟩
    by_cases far : ∀ other, types.Leads type target other → parentLimit < other.length
    · have long := far way leads
      have exact : way.length = parentLimit + 1 := by omega
      exact .inr ⟨⟨way, leads, exact⟩, far⟩
    · exact .inl far
  · rintro (near | beyond)
    · push Not at near
      obtain ⟨way, leads, short⟩ := near
      exact ⟨way, leads, Nat.le_succ_of_le short⟩
    · obtain ⟨way, leads, long⟩ := beyond.reached
      exact ⟨way, leads, Nat.le_of_eq long⟩

/-- What lies just beyond the limit is not met within it. -/
theorem JustBeyond.ancestors_eq_empty (beyond : types.JustBeyond type target) :
    types.ancestors type target = ∅ :=
  ancestors_eq_empty_iff.2 beyond.far

/-! ### Types that have one sub-object of another -/

/-- A value has one sub-object of its own type, itself. -/
theorem ancestors_self : types.ancestors type type = {[]} := by
  ext place
  simp [ancestors, leads_self, landing, eq_comm]

/-- Whether a type passes for another although no cast gets there: several sub-objects are met, or
the one there is lies just beyond the limit. -/
def Elusive (types : Types) (type target : Ty) : Prop :=
  2 ≤ (types.ancestors type target).ncard ∨ types.JustBeyond type target

/-- A type that has one sub-object there is not elusive. -/
theorem not_elusive_of_ancestor {place : Path} (one : types.ancestors type target = {place}) :
    ¬types.Elusive type target := by
  rintro (several | beyond)
  · rw [one, Set.ncard_singleton] at several
    omega
  · have none := beyond.ancestors_eq_empty
    rw [one] at none
    exact Set.singleton_ne_empty place none

/-- A type inherits from what is elusive to it. -/
theorem Elusive.inherits (elusive : types.Elusive type target) :
    types.inherits type target = true := by
  have different : type ≠ target := by
    rintro rfl
    exact not_elusive_of_ancestor ancestors_self elusive
  rw [inherits_iff_ancestors different]
  refine elusive.imp_left ?_
  intro several none
  rw [none, Set.ncard_empty] at several
  omega

/-- There is one sub-object of a type exactly in values of that type and of those that inherit from
it, unless it is elusive. -/
theorem exists_ancestor_iff :
    (∃ place, types.ancestors type target = {place}) ↔
      (type = target ∨ types.inherits type target = true) ∧ ¬types.Elusive type target := by
  by_cases same : type = target
  · subst same
    exact iff_of_true ⟨[], ancestors_self⟩ ⟨.inl rfl, not_elusive_of_ancestor ancestors_self⟩
  · rw [inherits_iff_ancestors same]
    have told := cast_eq_iff.1 (rfl : (types.cast type target).value = _)
    constructor
    · rintro ⟨place, one⟩
      have some : types.ancestors type target ≠ ∅ := by
        rw [one]
        exact Set.singleton_ne_empty place
      exact ⟨.inr (.inl some), not_elusive_of_ancestor one⟩
    · rintro ⟨related, settled⟩
      cases result : (types.cast type target).value with
      | missing =>
        rw [result] at told
        have none : types.ancestors type target = ∅ := told
        rcases related with equal | near | beyond
        · exact absurd equal same
        · exact absurd none near
        · exact absurd (.inr beyond) settled
      | found place =>
        rw [result] at told
        exact ⟨place, told⟩
      | ambiguous count =>
        rw [result] at told
        obtain ⟨rfl, several⟩ := told
        exact absurd (.inl several) settled

end Types

namespace Any

variable {types : Types} {access : Access} {content : Typed} {target : Ty}

/-- The error of a cast to a type that parents do not lead to. -/
def mismatch (types : Types) (content : Typed) (target : Ty) : Error :=
  ⟨.invalidType, .typeMismatch (types.name target) (types.name content.type)⟩

/-- A cast fails for the wrong type exactly if no sub-object of the type is met. -/
theorem outcome_cast_eq_mismatch_iff :
    ((held access content).cast types target).outcome = .error (mismatch types content target) ↔
      types.ancestors content.type target = ∅ := by
  have told := Types.cast_eq_iff.1 (rfl : (types.cast content.type target).value = _)
  rw [outcome_cast, ancestor]
  cases result : (types.cast content.type target).value with
  | missing =>
    rw [result] at told
    exact iff_of_true rfl told
  | found place =>
    rw [result] at told
    have one : types.ancestors content.type target = {place} := told
    refine iff_of_false (fun failed => ?_) (one ▸ Set.singleton_ne_empty place)
    contradiction
  | ambiguous count =>
    rw [result] at told
    obtain ⟨counted, several⟩ := told
    refine iff_of_false (fun failed => ?_) (fun none => ?_)
    · -- Both are errors, but an ambiguous cast has a kind of its own.
      have kinds := congrArg Error.kind (Except.error.inj failed)
      contradiction
    · rw [none, Set.ncard_empty] at counted
      omega

/-- When inheritance and casts agree. For all parents that types declare, in chains of any length,
in diamonds and in cycles, and every value of another type than the target: the search from the
value meets a sub-object of the target exactly if a cast does not fail for the wrong type; and the
type inherits from the target exactly if the cast does not fail so, unless the nearest way to the
target is one step longer than the limit. Then the type inherits from the target, and the cast
fails. -/
theorem inherits_agrees_iff (types : Types) (access : Access) (content : Typed) (target : Ty)
    (different : content.type ≠ target) :
    let cast := ((held access content).cast types target).outcome
    let missed := cast = .error (mismatch types content target)
    ((types.walk target parentLimit content.type []).value ≠ [] ↔ ¬missed) ∧
      ((types.inherits content.type target = true ↔ ¬missed) ↔
        ¬types.JustBeyond content.type target) ∧
      (types.JustBeyond content.type target →
        types.inherits content.type target = true ∧ missed) := by
  intro cast missed
  have missedIff : missed ↔ types.ancestors content.type target = ∅ := outcome_cast_eq_mismatch_iff
  have inheritsIff : types.inherits content.type target = true ↔
      types.ancestors content.type target ≠ ∅ ∨ types.JustBeyond content.type target :=
    Types.inherits_iff_ancestors different
  refine ⟨?_, ?_, fun beyond => ?_⟩
  · rw [missedIff, not_iff_not, List.eq_nil_iff_forall_not_mem, Set.eq_empty_iff_forall_notMem]
    simp only [Types.mem_walk_limit_iff]
  · rw [inheritsIff, missedIff]
    constructor
    · intro agree beyond
      exact agree.1 (.inr beyond) beyond.ancestors_eq_empty
    · intro near
      simp [near]
  · exact ⟨inheritsIff.2 (.inr beyond), missedIff.2 beyond.ancestors_eq_empty⟩

/-- Arrays that each have the array of one item less as a parent. -/
def chainTypes : Types where
  fixed := { record := fun _ => { name := "", layout := ⟨0, 1⟩ }, described := fun _ => {} }
  members
    | .array item (length + 1) => { parents := [⟨.array item length, [0]⟩] }
    | _ => {}

/-- The array of a chain that lies some steps above the shortest one. -/
def chainLink : Nat → Typed
  | 0 => ⟨.array .unit 0, .compound []⟩
  | steps + 1 => ⟨.array .unit (steps + 1), .compound [(chainLink steps).value]⟩

/-- An array as many steps above the shortest one as parents are followed inherits from it, and is
cast to it. -/
theorem chain_inherits_within_limit :
    (chainLink 64).type ≠ .array .unit 0 ∧
      chainTypes.inherits (chainLink 64).type (.array .unit 0) = true ∧
      ((held .owned (chainLink 64)).cast chainTypes (.array .unit 0)).outcome ≠
        .error (mismatch chainTypes (chainLink 64) (.array .unit 0)) := by
  have different : (chainLink 64).type ≠ .array .unit 0 := by decide
  have inherits : chainTypes.inherits (chainLink 64).type (.array .unit 0) = true := rfl
  obtain ⟨_, agree, _⟩ :=
    inherits_agrees_iff chainTypes .owned (chainLink 64) (.array .unit 0) different
  have near : ¬chainTypes.JustBeyond (chainLink 64).type (.array .unit 0) := by
    intro beyond
    have within : chainTypes.inheritsWithin (.array .unit 0) 64 (chainLink 64).type = true := rfl
    obtain ⟨way, leads, short⟩ := (Types.inheritsWithin_eq_true_iff different).1 within
    have long := beyond.far way leads
    exact absurd short (Nat.not_le_of_lt long)
  exact ⟨different, inherits, (agree.2 near).1 inherits⟩

/-- Inheritance and casts do not agree on all types: an array one step further up inherits from the
shortest one, and is not cast to it. -/
theorem chain_inherits_beyond_limit :
    ¬(∀ (types : Types) (access : Access) (content : Typed) (target : Ty), content.type ≠ target →
        (types.inherits content.type target = true ↔
          ((held access content).cast types target).outcome ≠
            .error (mismatch types content target))) ∧
      chainTypes.inherits (chainLink 65).type (.array .unit 0) = true ∧
      ((held .owned (chainLink 65)).cast chainTypes (.array .unit 0)).outcome =
        .error (mismatch chainTypes (chainLink 65) (.array .unit 0)) := by
  have different : (chainLink 65).type ≠ .array .unit 0 := by decide
  have inherits : chainTypes.inherits (chainLink 65).type (.array .unit 0) = true := rfl
  have missed : ((held .owned (chainLink 65)).cast chainTypes (.array .unit 0)).outcome =
      .error (mismatch chainTypes (chainLink 65) (.array .unit 0)) := rfl
  refine ⟨fun always => ?_, inherits, missed⟩
  exact (always chainTypes .owned (chainLink 65) (.array .unit 0) different).1 inherits missed

end Any

end Reflection
