import Mathlib.Data.Set.Card
import Reflection.Any.Cast

/-!
# Casts follow parents

A cast looks for the sub-objects of a type that declared parents lead to. Which these are can be
said without a search: a way is a list of parents, each declared by the type the one before it ends
on, and `Types.ancestors` are the places where ways of bounded length end on their first value of
the target type. The search meets exactly these places (`Types.mem_walk_iff`), so a cast tells
whether there is one, none or several (`Types.cast_eq_iff`). Since ways do not depend on the order
in which a type lists its parents, casts do not either.
-/
namespace Reflection

namespace Types

variable {types other : Types} {type target : Ty} {parent : Parent} {way : List Parent}
  {place start : Path}

/-! ### Ways along parents -/

/-- A way along parents: the first is declared by the type the way starts from, and each later one
by the type of the one before it. -/
def Declares (types : Types) : Ty → List Parent → Prop
  | _, [] => True
  | type, parent :: rest =>
    parent ∈ (types.members type).parents ∧ types.Declares parent.type rest

/-- The types that a way passes, the one it starts from included. -/
def passed (type : Ty) (way : List Parent) : List Ty := type :: way.map (·.type)

/-- Where the sub-object lies that a way ends at. -/
def landing (way : List Parent) : Path := way.flatMap (·.place)

/-- A way leads from a type to a target if it ends on the target and passes it nowhere before. -/
structure Leads (types : Types) (type target : Ty) (way : List Parent) : Prop where
  declared : types.Declares type way
  ends : (passed type way).getLast? = some target
  first : target ∉ (passed type way).dropLast

/-- The sub-objects of a target type that parents lead to from a type, within the limit of steps. -/
def ancestors (types : Types) (type target : Ty) : Set Path :=
  {place | ∃ way, types.Leads type target way ∧ way.length ≤ parentLimit ∧ landing way = place}

/-- The way without steps leads to the type it starts from. -/
theorem leads_nil : types.Leads type target [] ↔ type = target := by
  constructor
  · rintro ⟨_, ends, _⟩
    simpa [passed] using ends
  · rintro rfl
    exact ⟨trivial, rfl, List.not_mem_nil⟩

/-- A way leads on from the type of its first parent. -/
theorem leads_cons :
    types.Leads type target (parent :: way) ↔
      type ≠ target ∧ parent ∈ (types.members type).parents ∧
        types.Leads parent.type target way := by
  have front : (passed type (parent :: way)).dropLast =
      type :: (passed parent.type way).dropLast := rfl
  have last : (passed type (parent :: way)).getLast? = (passed parent.type way).getLast? := by
    simp [passed]
  constructor
  · rintro ⟨⟨declared, rest⟩, ends, first⟩
    rw [front, List.mem_cons, not_or] at first
    exact ⟨Ne.symm first.1, declared, rest, last ▸ ends, first.2⟩
  · rintro ⟨different, declared, rest, ends, first⟩
    refine ⟨⟨declared, rest⟩, last.trans ends, ?_⟩
    rw [front, List.mem_cons, not_or]
    exact ⟨Ne.symm different, first⟩

/-- A way that leads from a type to itself has no steps. -/
theorem leads_self : types.Leads target target way ↔ way = [] := by
  cases way with
  | nil => simp [leads_nil]
  | cons parent rest => simp [leads_cons]

/-! ### The search -/

/-- A search that starts on its target ends there. -/
theorem walk_self (types : Types) (target : Ty) (steps : Nat) (start : Path) :
    types.walk target steps target start = pure [start] := by
  cases steps with
  | zero => rw [walk, if_pos rfl]
  | succ steps => rw [walk, if_pos rfl]

/-- The search meets the places where ways that are not too long lead to. -/
theorem mem_walk_iff {steps : Nat} :
    place ∈ (types.walk target steps type start).value ↔
      ∃ way, types.Leads type target way ∧ way.length ≤ steps ∧ start ++ landing way = place := by
  induction steps generalizing type start with
  | zero =>
    by_cases here : type = target
    · subst here
      simp [walk_self, leads_self, landing, eq_comm]
    · simp [walk, here, leads_nil]
  | succ steps ih =>
    by_cases here : type = target
    · subst here
      simp [walk_self, leads_self, landing, eq_comm]
    · have searched : (types.walk target (steps + 1) type start).value =
          ((types.members type).parents.map fun parent =>
            (types.walk target steps parent.type (start ++ parent.place)).value).flatten := by
        rw [walk, if_neg here]
        simp
      rw [searched]
      simp only [List.mem_flatten, List.mem_map, exists_exists_and_eq_and, ih]
      constructor
      · rintro ⟨parent, declared, way, leads, short, rfl⟩
        refine ⟨parent :: way, leads_cons.2 ⟨here, declared, leads⟩, ?_, ?_⟩
        · simpa using short
        · simp [landing]
      · rintro ⟨way, leads, short, rfl⟩
        cases way with
        | nil => exact absurd (leads_nil.1 leads) here
        | cons parent rest =>
          obtain ⟨_, declared, later⟩ := leads_cons.1 leads
          refine ⟨parent, declared, rest, later, ?_, ?_⟩
          · simpa using short
          · simp [landing]

/-- The places that a cast searches out are those that parents lead to. -/
theorem mem_walk_limit_iff :
    place ∈ (types.walk target parentLimit type []).value ↔
      place ∈ types.ancestors type target := by
  rw [mem_walk_iff]
  simp [ancestors]

/-! ### The result of a search -/

/-- What a result says about the places that were met. -/
def CastResult.Tells (reached : Set Path) : CastResult → Prop
  | .missing => reached = ∅
  | .found place => reached = {place}
  | .ambiguous count => reached.ncard = count ∧ 2 ≤ count

/-- No place stays twice when duplicates are erased. -/
theorem nodup_eraseDups (places : List Path) : places.eraseDups.Nodup := by
  -- The places that differ from the first are not a tail of the list, only a shorter one.
  induction size : places.length using Nat.strong_induction_on generalizing places with
  | _ bound ih =>
    cases places with
    | nil => exact List.nodup_nil
    | cons place rest =>
      have shorter : (rest.filter fun other => !other == place).length < bound := by
        rw [← size, List.length_cons]
        exact Nat.lt_succ_of_le (List.length_filter_le _ rest)
      rw [List.eraseDups_cons, List.nodup_cons]
      refine ⟨fun again => ?_, ih _ shorter _ rfl⟩
      rw [List.mem_eraseDups, List.mem_filter] at again
      simp at again

/-- A result tells about the places it is made of. -/
theorem tells_ofPlaces (places : List Path) :
    (CastResult.ofPlaces places).Tells {place | place ∈ places} := by
  have same : {place | place ∈ places} = (places.eraseDups.toFinset : Set Path) := by
    ext place
    simp
  have once := nodup_eraseDups places
  rw [same]
  unfold CastResult.ofPlaces
  generalize places.eraseDups = distinct at once
  match distinct with
  | [] => simp [CastResult.Tells]
  | [place] => simp [CastResult.Tells]
  | first :: second :: rest =>
    refine ⟨?_, by simp⟩
    rw [Set.ncard_coe_finset, List.toFinset_card_of_nodup once]

/-- Only one result tells the truth about some places. -/
theorem CastResult.Tells.unique {reached : Set Path} {left right : CastResult}
    (first : left.Tells reached) (second : right.Tells reached) : left = right := by
  cases left with
  | missing =>
    obtain rfl : reached = ∅ := first
    cases right with
    | missing => rfl
    | found place => exact absurd second.symm (Set.singleton_ne_empty place)
    | ambiguous count =>
      obtain ⟨counted, several⟩ := second
      rw [Set.ncard_empty] at counted
      omega
  | found place =>
    obtain rfl : reached = {place} := first
    cases right with
    | missing => exact absurd second (Set.singleton_ne_empty place)
    | found other => rw [Set.singleton_injective second]
    | ambiguous count =>
      obtain ⟨counted, several⟩ := second
      rw [Set.ncard_singleton] at counted
      omega
  | ambiguous count =>
    obtain ⟨rfl, several⟩ := first
    cases right with
    | missing =>
      obtain rfl : reached = ∅ := second
      simp at several
    | found place =>
      obtain rfl : reached = {place} := second
      simp at several
    | ambiguous other => rw [second.1]

/-- A cast tells whether parents lead to one sub-object of a type, to none or to several. -/
theorem cast_eq_iff {result : CastResult} :
    (types.cast type target).value = result ↔ result.Tells (types.ancestors type target) := by
  have tells : (types.cast type target).value.Tells (types.ancestors type target) := by
    have met : {place | place ∈ (types.walk target parentLimit type []).value} =
        types.ancestors type target := Set.ext fun _ => mem_walk_limit_iff
    rw [← met]
    exact tells_ofPlaces _
  constructor
  · rintro rfl
    exact tells
  · exact tells.unique

/-- There are finitely many ways of bounded length. -/
theorem finite_ancestors : (types.ancestors type target).Finite := by
  refine (List.finite_toSet (types.walk target parentLimit type []).value).subset ?_
  exact fun place led => mem_walk_limit_iff.2 led

/-- Ways do not depend on the order in which parents are listed. -/
theorem declares_congr
    (same : ∀ type parent,
      parent ∈ (other.members type).parents ↔ parent ∈ (types.members type).parents) :
    other.Declares type way ↔ types.Declares type way := by
  induction way generalizing type with
  | nil => rfl
  | cons parent rest ih => simp only [Declares, same, ih]

/-- What parents lead to does not depend on the order in which they are listed. -/
theorem ancestors_congr
    (same : ∀ type parent,
      parent ∈ (other.members type).parents ↔ parent ∈ (types.members type).parents) :
    other.ancestors type target = types.ancestors type target := by
  have leads : ∀ way, other.Leads type target way ↔ types.Leads type target way := fun way =>
    ⟨fun ⟨declared, ends, first⟩ => ⟨(declares_congr same).1 declared, ends, first⟩,
      fun ⟨declared, ends, first⟩ => ⟨(declares_congr same).2 declared, ends, first⟩⟩
  simp only [ancestors, leads]

end Types

/-! ### What casts give -/

namespace Any

variable {types : Types} {access : Access} {content : Typed} {target : Ty} {place : Path}

/-- Every cast of an any to a type gives the same sub-object: the const ones const, and the mutable
ones mutably, unless the any is const. -/
structure CastsTo (types : Types) (any : Any) (target : Ty) (place : Path) : Prop where
  asType : (any.asType types target).value = some ⟨place, target, false⟩
  cast : (any.cast types target).outcome = .ok ⟨place, target, false⟩
  asTypeMut : any.isConst = false →
    (any.asTypeMut types target).value = some ⟨place, target, true⟩
  castMut : any.isConst = false → (any.castMut types target).outcome = .ok ⟨place, target, true⟩

/-- No cast of an any to a type gives anything, and those that can say why answer one error. -/
structure CastFails (types : Types) (any : Any) (target : Ty) (error : Error) : Prop where
  asType : (any.asType types target).value = none
  cast : (any.cast types target).outcome = .error error
  asTypeMut : (any.asTypeMut types target).value = none
  castMut : any.isConst = false → (any.castMut types target).outcome = .error error

/-- The place that parents lead to from a value, or why there is none. -/
def ancestor (types : Types) (content : Typed) (target : Ty) : Except Error Path :=
  (castPlace types content.type target (types.cast content.type target).value).outcome

/-- What a const cast gives. -/
theorem value_asType :
    ((held access content).asType types target).value =
      ((ancestor types content target).map (Part.mk · target false)).toOption := by
  simp only [Any.asType, ancestor, Logged.value_bind]
  cases (types.cast content.type target).value with
  | found place => rfl
  | missing => rfl
  | ambiguous count => rfl

/-- What a const cast that says why it fails gives. -/
theorem outcome_cast :
    ((held access content).cast types target).outcome =
      (ancestor types content target).map (Part.mk · target false) := by
  simp only [Any.cast, ancestor, Fallible.outcome_bind, Fallible.outcome_ofLogged]
  rfl

/-- What a mutable cast gives: the same sub-object as a const one, const if the any is. -/
theorem value_asTypeMut :
    ((held access content).asTypeMut types target).value =
      ((ancestor types content target).map
        (Part.mk · target (decide (access ≠ .shared)))).toOption := by
  cases access with
  | shared =>
    show ((held .shared content).asType types target).value = _
    exact value_asType
  | owned | exclusive =>
    simp only [Any.asTypeMut, ancestor, Logged.value_bind]
    cases (types.cast content.type target).value with
    | found place => rfl
    | missing => rfl
    | ambiguous count => rfl

/-- What a mutable cast of an any that is not const gives, if it says why it fails. -/
theorem outcome_castMut (writable : (held access content).isConst = false) :
    ((held access content).castMut types target).outcome =
      (ancestor types content target).map (Part.mk · target true) := by
  cases access with
  | shared => contradiction
  | owned | exclusive =>
    simp only [Any.castMut, ancestor, Fallible.outcome_bind, Fallible.outcome_ofLogged]
    rfl

/-- Casts give the sub-object at the place that parents lead to. -/
theorem castsTo_of_ancestor (found : ancestor types content target = .ok place) :
    (held access content).CastsTo types target place := by
  constructor
  case asType =>
    rw [value_asType, found]
    rfl
  case cast =>
    rw [outcome_cast, found]
    rfl
  case asTypeMut =>
    intro writable
    have mutable : access ≠ .shared := by
      rintro rfl
      contradiction
    rw [value_asTypeMut, found, decide_eq_true mutable]
    rfl
  case castMut =>
    intro writable
    rw [outcome_castMut writable, found]
    rfl

/-- Casts give nothing where there is no such place, and the reason if they say one. -/
theorem castFails_of_ancestor {error : Error}
    (failed : ancestor types content target = .error error) :
    (held access content).CastFails types target error := by
  constructor
  case asType =>
    rw [value_asType, failed]
    rfl
  case cast =>
    rw [outcome_cast, failed]
    rfl
  case asTypeMut =>
    rw [value_asTypeMut, failed]
    rfl
  case castMut =>
    intro writable
    rw [outcome_castMut writable, failed]
    rfl

/-- Casts follow parents to the one sub-object they lead to. Whatever parents types declare, in
diamonds or in cycles: the places where ways along parents, of at most the limit of steps, first
meet the target type are finitely many. If there is one, every cast gives the sub-object there,
const or mutably, whatever the any is that holds the value, and mutably only if it is not const;
what is borrowed through it is the part of the value at that place. If there is none, casts give
nothing, for the wrong type; if there are several, they give nothing and count them. Listing the
parents of a type in another order, or some of them again, changes none of this. -/
theorem casts_follow_parents (types : Types) (access : Access) (content : Typed) (target : Ty) :
    let any := held access content
    let reached := types.ancestors content.type target
    reached.Finite ∧
      (∀ place, reached = {place} → any.CastsTo types target place ∧
        ∀ value, content.value.part? place = some value →
          any.borrow ⟨place, target, false⟩ = held .shared ⟨target, value⟩ ∧
          any.borrow ⟨place, target, true⟩ = held .exclusive ⟨target, value⟩) ∧
      (reached = ∅ → any.CastFails types target
        ⟨.invalidType, .typeMismatch (types.name target) (types.name content.type)⟩) ∧
      (2 ≤ reached.ncard → any.CastFails types target
        ⟨.ambiguousCast,
          .ambiguous (types.name content.type) reached.ncard (types.name target)⟩) ∧
      ∀ other : Types, other.fixed = types.fixed →
        (∀ type parent,
          parent ∈ (other.members type).parents ↔ parent ∈ (types.members type).parents) →
        (any.asType other target).value = (any.asType types target).value ∧
          (any.cast other target).outcome = (any.cast types target).outcome ∧
          (any.asTypeMut other target).value = (any.asTypeMut types target).value ∧
          (any.castMut other target).outcome = (any.castMut types target).outcome := by
  intro any reached
  refine ⟨Types.finite_ancestors, fun place one => ?_, fun none => ?_, fun several => ?_, ?_⟩
  · have found : (types.cast content.type target).value = .found place := Types.cast_eq_iff.2 one
    refine ⟨castsTo_of_ancestor (by rw [ancestor, found]; rfl), fun value inside => ⟨?_, ?_⟩⟩
    · exact borrow_eq inside
    · exact borrow_eq inside
  · have missing : (types.cast content.type target).value = .missing := Types.cast_eq_iff.2 none
    exact castFails_of_ancestor (by rw [ancestor, missing]; rfl)
  · have ambiguous : (types.cast content.type target).value = .ambiguous reached.ncard :=
      Types.cast_eq_iff.2 ⟨rfl, several⟩
    exact castFails_of_ancestor (by rw [ancestor, ambiguous]; rfl)
  · intro other fixed same
    have cast :
        (other.cast content.type target).value = (types.cast content.type target).value := by
      rw [Types.cast_eq_iff, Types.ancestors_congr same, ← Types.cast_eq_iff]
    have found : ancestor other content target = ancestor types content target := by
      simp only [ancestor, cast, castPlace, Types.name, Types.record, fixed]
    refine ⟨?_, ?_, ?_, ?_⟩
    · simp only [any, value_asType, found]
    · simp only [any, outcome_cast, found]
    · simp only [any, value_asTypeMut, found]
    · cases access with
      | shared => simp only [any, Any.castMut, Types.name, Types.record, fixed]
      | owned | exclusive => rw [outcome_castMut rfl, outcome_castMut rfl, found]

/-- Types of a diamond: its two sides have a node each, and it counts itself among its parents. -/
def diamondTypes : Types where
  fixed :=
    { record
        | .named key => { name := key, layout := ⟨8, 4⟩ }
        | _ => { name := "", layout := ⟨4, 4⟩ }
      described _ := {} }
  members
    | .named "Diamond" =>
      { parents := [⟨.named "Diamond", []⟩, ⟨.named "Left", [0]⟩, ⟨.named "Right", [1]⟩] }
    | .named "Left" => { parents := [⟨.named "Node", [0]⟩] }
    | .named "Right" => { parents := [⟨.named "Node", [0]⟩] }
    | _ => {}

/-- A diamond. -/
def diamond : Typed where
  type := .named "Diamond"
  value := .compound [.compound [.integer 1], .compound [.integer 2]]

/-- A diamond is cast to one of its sides, which is the part of it that it has there, but not to a
node, since it has two. -/
theorem diamond_casts :
    (held .owned diamond).CastsTo diamondTypes (.named "Left") [0] ∧
      (held .owned diamond).borrow ⟨[0], .named "Left", true⟩ =
        held .exclusive ⟨.named "Left", .compound [.integer 1]⟩ ∧
      (held .owned diamond).CastFails diamondTypes (.named "Node")
        ⟨.ambiguousCast, .ambiguous "Diamond" 2 "Node"⟩ := by
  have left : diamondTypes.ancestors diamond.type (.named "Left") = {[0]} :=
    Types.cast_eq_iff.1 (rfl : (diamondTypes.cast diamond.type (.named "Left")).value = _)
  have nodes : (diamondTypes.ancestors diamond.type (.named "Node")).ncard = 2 :=
    (Types.cast_eq_iff.1
      (rfl : (diamondTypes.cast diamond.type (.named "Node")).value = .ambiguous 2)).1
  obtain ⟨_, one, _⟩ := casts_follow_parents diamondTypes .owned diamond (.named "Left")
  obtain ⟨_, _, _, several, _⟩ := casts_follow_parents diamondTypes .owned diamond (.named "Node")
  rw [nodes] at several
  obtain ⟨casts, borrowed⟩ := one [0] left
  exact ⟨casts, (borrowed _ rfl).2, several (Nat.le_refl 2)⟩

end Any

end Reflection
