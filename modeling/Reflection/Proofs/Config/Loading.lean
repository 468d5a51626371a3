import Mathlib.Data.List.Forall2
import Reflection.Session
import Reflection.Standard.Universe

/-!
# Loading configuration

An entry of a document describes a value if it names a registered type that carries a codec and
the codec reads a value of just that type (`ConfigFormat.Describes`). Every entry that describes
none is at fault in one of six ways, and each way has its error (`ConfigFormat.Fault`). Loading
binds every key of a document to the value its entry describes or, if the document is no object or
an entry is at fault, answers the error of the first such entry and changes nothing.
-/
namespace Reflection

namespace Dictionary

variable {α β : Type} {relation : α → β → Prop} {left : List (String × α)}
  {right : List (String × β)}

/-- Whether two entry lists have the same names in the same order, with related values. -/
def Matched (relation : α → β → Prop) (left : List (String × α)) (right : List (String × β)) :
    Prop :=
  List.Forall₂ (fun first second => first.1 = second.1 ∧ relation first.2 second.2) left right

/-- Matched entry lists have the same names. -/
theorem Matched.keys (matched : Matched relation left right) :
    right.map (·.1) = left.map (·.1) := by
  induction matched with
  | nil => rfl
  | cons first _ ih => rw [List.map_cons, List.map_cons, ih, first.1]

/-- An entry is matched by one of the same name. -/
theorem Matched.exists_of_mem (matched : Matched relation left right) {name : String} {first : α}
    (mem : (name, first) ∈ left) : ∃ second, relation first second ∧ (name, second) ∈ right := by
  induction matched with
  | nil => cases mem
  | @cons _ entry _ _ pair _ ih =>
    rcases List.mem_cons.1 mem with rfl | later
    · refine ⟨entry.2, pair.2, ?_⟩
      rw [show name = entry.1 from pair.1]
      exact List.mem_cons_self
    · obtain ⟨second, related, found⟩ := ih later
      exact ⟨second, related, List.mem_cons_of_mem _ found⟩

/-- Entries with the names of ordered ones are ordered. -/
theorem sorted_of_keys (keys : right.map (·.1) = left.map (·.1))
    (ordered : left.Pairwise fun first second => first.1 < second.1) :
    right.Pairwise fun first second => first.1 < second.1 := by
  rw [← List.pairwise_map (f := Prod.fst) (R := fun first second : String => first < second),
    keys, List.pairwise_map]
  exact ordered

/-- Inserting the matches of ordered entries binds each name to the match of its entry and keeps
what all other names are bound to. -/
theorem Matched.find?_insertAll (matched : Matched relation left right)
    (ordered : left.Pairwise fun first second => first.1 < second.1) (old : Dictionary β) :
    (∀ name first, (name, first) ∈ left →
      ∃ second, relation first second ∧ (old.insertAll right).find? name = some second) ∧
    ∀ name, name ∉ left.map (·.1) → (old.insertAll right).find? name = old.find? name := by
  have sorted := sorted_of_keys matched.keys ordered
  have distinct : (right.map (·.1)).Nodup := names_nodup ⟨right, sorted⟩
  have answers := Dictionary.find?_insertAll distinct old
  constructor
  · intro name first mem
    obtain ⟨second, related, found⟩ := matched.exists_of_mem mem
    refine ⟨second, related, ?_⟩
    rw [answers, (lookup_eq_some_iff sorted).2 found]
    rfl
  · intro name absent
    rw [← matched.keys] at absent
    rw [answers, lookup_eq_none_iff.2 absent]
    rfl

end Dictionary

variable {format : ConfigFormat} {scope : Scope} {key : String} {entry : Json}

namespace ConfigFormat

/-- Whether a type carries the attribute of a format, and what the attribute stands for. -/
def Carries (format : ConfigFormat) (types : Types) (type : Ty) (codec : ConfigCodec) : Prop :=
  ∃ content, (types.members type).attributes.find? (types.name format.carrier) =
    some ⟨format.carrier, content⟩ ∧ format.codec content = codec

/-- A codec is found for a type exactly if the type carries it. -/
theorem codecOf_eq_ok_iff {types : Types} {type : Ty} {codec : ConfigCodec} :
    format.codecOf types (some type) = .ok codec ↔ format.Carries types type codec := by
  simp only [codecOf, Carries, ← Types.typedAttribute_eq_some_iff]
  cases types.typedAttribute (types.members type).attributes format.carrier with
  | none => simp
  | some content => simp

/-- A type that carries no codec is reported by its name. -/
theorem codecOf_of_bare {types : Types} {type : Ty}
    (bare : ∀ codec, ¬ format.Carries types type codec) :
    format.codecOf types (some type) = .error (.notConfigurable (types.name type)) := by
  cases found : types.typedAttribute (types.members type).attributes format.carrier with
  | none => simp [codecOf, found]
  | some content =>
    have carried : format.codecOf types (some type) = .ok (format.codec content) := by
      simp [codecOf, found]
    exact absurd (codecOf_eq_ok_iff.1 carried) (bare _)

/-- Whether an entry of a document describes a value of a type. -/
def Describes (format : ConfigFormat) (scope : Scope) (entry : Json) (type : Ty) (value : Any) :
    Prop :=
  ∃ typeName json codec,
    entry.member? "type" = some (.string typeName) ∧ entry.member? "value" = some json ∧
    scope.database.get typeName = some type ∧ format.Carries scope.types type codec ∧
    codec.deserialize json = .ok value ∧ value.type? = some type

/-- The ways in which an entry under a key describes no value, with the error of each. -/
inductive Fault (format : ConfigFormat) (scope : Scope) (key : String) (entry : Json) :
    ConfigError → Prop where
  /-- There is no type name, or it is no string. -/
  | untyped (missing : ∀ typeName, entry.member? "type" ≠ some (.string typeName)) :
    Fault format scope key entry (.invalidDocument s!"'{key}' has no type name")
  | valueless {typeName : String} (named : entry.member? "type" = some (.string typeName))
      (missing : entry.member? "value" = none) :
    Fault format scope key entry (.invalidDocument s!"'{key}' has no value")
  | unregistered {typeName : String} {json : Json}
      (named : entry.member? "type" = some (.string typeName))
      (valued : entry.member? "value" = some json)
      (missing : scope.database.get typeName = none) :
    Fault format scope key entry (.unknownType typeName)
  | unconfigurable {typeName : String} {json : Json} {type : Ty}
      (named : entry.member? "type" = some (.string typeName))
      (valued : entry.member? "value" = some json)
      (registered : scope.database.get typeName = some type)
      (missing : ∀ codec, ¬ format.Carries scope.types type codec) :
    Fault format scope key entry (.notConfigurable (scope.types.name type))
  /-- The codec of the type fails, and its error is passed on. -/
  | unreadable {typeName : String} {json : Json} {type : Ty} {codec : ConfigCodec}
      {error : ConfigError}
      (named : entry.member? "type" = some (.string typeName))
      (valued : entry.member? "value" = some json)
      (registered : scope.database.get typeName = some type)
      (carried : format.Carries scope.types type codec)
      (failed : codec.deserialize json = .error error) :
    Fault format scope key entry error
  /-- The codec reads a value of another type, or an empty one. -/
  | mistyped {typeName : String} {json : Json} {type : Ty} {codec : ConfigCodec} {value : Any}
      (named : entry.member? "type" = some (.string typeName))
      (valued : entry.member? "value" = some json)
      (registered : scope.database.get typeName = some type)
      (carried : format.Carries scope.types type codec)
      (read : codec.deserialize json = .ok value) (other : value.type? ≠ some type) :
    Fault format scope key entry (.invalidDocument
      s!"'{key}' deserialized as '{value.typeName scope.types}', expected '{typeName}'")

end ConfigFormat

namespace ConfigFormat

/-- Every entry describes a value or is at fault. -/
theorem describes_or_fault (format : ConfigFormat) (scope : Scope) (key : String) (entry : Json) :
    (∃ type value, format.Describes scope entry type value) ∨
      ∃ error, format.Fault scope key entry error := by
  by_cases named : ∃ typeName, entry.member? "type" = some (.string typeName)
  case neg => exact .inr ⟨_, .untyped fun typeName found => named ⟨typeName, found⟩⟩
  obtain ⟨typeName, named⟩ := named
  cases valued : entry.member? "value" with
  | none => exact .inr ⟨_, .valueless named valued⟩
  | some json =>
    cases registered : scope.database.get typeName with
    | none => exact .inr ⟨_, .unregistered named valued registered⟩
    | some type =>
      by_cases carried : ∃ codec, format.Carries scope.types type codec
      case neg =>
        have bare : ∀ codec, ¬ format.Carries scope.types type codec :=
          fun codec found => carried ⟨codec, found⟩
        exact .inr ⟨_, .unconfigurable named valued registered bare⟩
      obtain ⟨codec, carried⟩ := carried
      cases read : codec.deserialize json with
      | error error => exact .inr ⟨error, .unreadable named valued registered carried read⟩
      | ok value =>
        by_cases typed : value.type? = some type
        · exact .inl ⟨type, value, typeName, json, codec, named, valued, registered, carried,
            read, typed⟩
        · exact .inr ⟨_, .mistyped named valued registered carried read typed⟩

end ConfigFormat

namespace ConfigRegistry

open ConfigFormat

/-- An entry that describes a value is read as it. -/
theorem readEntry_of_describes {type : Ty} {value : Any}
    (describes : format.Describes scope entry type value) :
    readEntry format scope key entry = .ok value := by
  obtain ⟨typeName, json, codec, named, valued, registered, carried, read, typed⟩ := describes
  have found := codecOf_eq_ok_iff.2 carried
  simp [readEntry, named, valued, registered, found, read, typed, Json.string?, bind, Except.bind]

/-- An entry at fault is refused with the error of its fault. -/
theorem readEntry_of_fault {error : ConfigError} (fault : format.Fault scope key entry error) :
    readEntry format scope key entry = .error error := by
  cases fault with
  | untyped missing =>
    have unnamed : (entry.member? "type").bind Json.string? = none := by
      cases found : entry.member? "type" with
      | none => rfl
      | some json =>
        cases json with
        | string typeName => exact absurd found (missing typeName)
        | _ => rfl
    simp [readEntry, unnamed]
  | valueless named missing => simp [readEntry, named, missing, Json.string?]
  | unregistered named valued missing => simp [readEntry, named, valued, missing, Json.string?]
  | unconfigurable named valued registered missing =>
    have bare := codecOf_of_bare missing
    simp [readEntry, named, valued, registered, bare, Json.string?, bind, Except.bind]
  | unreadable named valued registered carried failed =>
    have found := codecOf_eq_ok_iff.2 carried
    simp [readEntry, named, valued, registered, found, failed, Json.string?, bind, Except.bind]
  | mistyped named valued registered carried read other =>
    have found := codecOf_eq_ok_iff.2 carried
    simp [readEntry, named, valued, registered, found, read, other, Json.string?, bind,
      Except.bind]

/-- An entry is read as a value exactly if it describes it. -/
theorem readEntry_eq_ok_iff {value : Any} :
    readEntry format scope key entry = .ok value ↔
      ∃ type, format.Describes scope entry type value := by
  constructor
  · intro read
    rcases describes_or_fault format scope key entry with ⟨type, other, describes⟩ | ⟨error, fault⟩
    · rw [readEntry_of_describes describes] at read
      cases read
      exact ⟨type, describes⟩
    · rw [readEntry_of_fault fault] at read
      cases read
  · rintro ⟨type, describes⟩
    exact readEntry_of_describes describes

/-- An entry is refused with an error exactly if it is at fault with it. -/
theorem readEntry_eq_error_iff {error : ConfigError} :
    readEntry format scope key entry = .error error ↔ format.Fault scope key entry error := by
  constructor
  · intro refused
    rcases describes_or_fault format scope key entry with ⟨type, value, describes⟩ | ⟨other, fault⟩
    · rw [readEntry_of_describes describes] at refused
      cases refused
    · rw [readEntry_of_fault fault] at refused
      cases refused
      exact fault
  · exact readEntry_of_fault

/-- An entry at fault describes nothing. -/
theorem not_describes_of_fault {error : ConfigError} {type : Ty} {value : Any}
    (fault : format.Fault scope key entry error) : ¬ format.Describes scope entry type value := by
  intro describes
  have read : readEntry format scope key entry = .ok value := readEntry_of_describes describes
  rw [readEntry_of_fault fault] at read
  cases read

/-- Reading entries goes on as long as each describes a value. -/
theorem readEntries_cons_of_ok {rest : List (String × Json)} {value : Any}
    (read : readEntry format scope key entry = .ok value) :
    readEntries format scope ((key, entry) :: rest) =
      (readEntries format scope rest).map ((key, value) :: ·) := by
  simp only [readEntries, read, bind, Except.bind]
  cases readEntries format scope rest with
  | error error => rfl
  | ok values => rfl

/-- Reading entries ends at the first that is at fault. -/
theorem readEntries_cons_of_error {rest : List (String × Json)} {error : ConfigError}
    (refused : readEntry format scope key entry = .error error) :
    readEntries format scope ((key, entry) :: rest) = .error error := by
  simp only [readEntries, refused, bind, Except.bind]

/-- Entries are read as values exactly if each in turn describes the value under its key. -/
theorem readEntries_eq_ok_iff {members : List (String × Json)} {values : List (String × Any)} :
    readEntries format scope members = .ok values ↔
      Dictionary.Matched (fun entry value => ∃ type, format.Describes scope entry type value)
        members values := by
  unfold Dictionary.Matched
  induction members generalizing values with
  | nil => simp [readEntries, eq_comm]
  | cons member rest ih =>
    obtain ⟨key, entry⟩ := member
    cases read : readEntry format scope key entry with
    | error error =>
      rw [readEntries_cons_of_error read]
      have undescribed : ∀ value, ¬ ∃ type, format.Describes scope entry type value := by
        intro value describes
        rw [readEntry_eq_ok_iff.2 describes] at read
        cases read
      constructor
      · intro answer
        cases answer
      · intro described
        cases described with
        | cons first _ => exact absurd first.2 (undescribed _)
    | ok value =>
      rw [readEntries_cons_of_ok read]
      have describes := readEntry_eq_ok_iff.1 read
      constructor
      · intro answer
        cases later : readEntries format scope rest with
        | error error =>
          rw [later] at answer
          cases answer
        | ok others =>
          rw [later] at answer
          cases answer
          exact .cons ⟨rfl, describes⟩ (ih.1 later)
      · intro described
        cases described with
        | @cons _ bound _ others first rest =>
          obtain ⟨boundKey, boundValue⟩ := bound
          obtain ⟨rfl, again⟩ := first
          have readAgain : readEntry format scope key entry = .ok boundValue :=
            readEntry_eq_ok_iff.2 again
          have same : value = boundValue := Except.ok.inj (read.symm.trans readAgain)
          subst same
          rw [ih.2 rest]
          rfl

/-- Entries are refused exactly if one of them is at fault and all before it describe values; the
error is that of the fault. -/
theorem readEntries_eq_error_iff {members : List (String × Json)} {error : ConfigError} :
    readEntries format scope members = .error error ↔
      ∃ front key entry back, members = front ++ (key, entry) :: back ∧
        (∀ member ∈ front, ∃ type value, format.Describes scope member.2 type value) ∧
        format.Fault scope key entry error := by
  induction members with
  | nil =>
    constructor
    · intro refused
      cases refused
    · rintro ⟨front, key, entry, back, split, _⟩
      exact absurd split.symm (by simp)
  | cons member rest ih =>
    obtain ⟨key, entry⟩ := member
    cases read : readEntry format scope key entry with
    | error first =>
      rw [readEntries_cons_of_error read]
      constructor
      · intro same
        cases same
        exact ⟨[], key, entry, rest, rfl, by simp, readEntry_eq_error_iff.1 read⟩
      · rintro ⟨front, other, otherEntry, back, split, described, fault⟩
        cases front with
        | nil =>
          cases split
          have refused := readEntry_of_fault fault
          rw [read] at refused
          cases refused
          rfl
        | cons head tail =>
          cases split
          obtain ⟨type, value, describes⟩ := described _ List.mem_cons_self
          rw [readEntry_of_describes describes] at read
          cases read
    | ok value =>
      -- An entry that was read is in front of every fault, which is then one of the rest.
      rw [readEntries_cons_of_ok read]
      obtain ⟨type, describes⟩ := readEntry_eq_ok_iff.1 read
      have passed : (readEntries format scope rest).map ((key, value) :: ·) = .error error ↔
          readEntries format scope rest = .error error := by
        cases readEntries format scope rest with
        | error other => rfl
        | ok values =>
          constructor
          · intro absent
            cases absent
          · intro absent
            cases absent
      rw [passed, ih]
      constructor
      · rintro ⟨front, other, otherEntry, back, rfl, described, fault⟩
        refine ⟨(key, entry) :: front, other, otherEntry, back, rfl, ?_, fault⟩
        intro member mem
        rcases List.mem_cons.1 mem with rfl | later
        · exact ⟨type, value, describes⟩
        · exact described member later
      · rintro ⟨front, other, otherEntry, back, split, described, fault⟩
        cases front with
        | nil =>
          cases split
          rw [readEntry_of_fault fault] at read
          cases read
        | cons head tail =>
          cases split
          exact ⟨tail, other, otherEntry, back, rfl,
            fun member mem => described member (List.mem_cons_of_mem _ mem), fault⟩

/-- What loading an object does: its entries are read, and then they are all bound. If one of them
is refused, the registry is still as it was. -/
theorem value_loadValue (format : ConfigFormat) (store : Store) (registry : ConfigRegistry)
    (members : List (String × Json)) :
    (registry.loadValue format store (.object members)).value =
      match readEntries format (store.scope registry.database) members with
      | .ok values =>
        (.ok values.length, { registry with entries := registry.entries.insertAll values })
      | .error error => (.error error, registry) := by
  simp only [loadValue, Json.members?, Acting.value_on_attempt_bind, Fallible.outcome_ofExcept]
  cases readEntries format (store.scope registry.database) members with
  | error error => rfl
  | ok values => rfl

/-- Loading a document changes nothing in the registry if it fails: nothing is bound before all
entries are read. -/
theorem atomic_loadValue (format : ConfigFormat) (store : Store) (registry : ConfigRegistry)
    (document : Json) : (registry.loadValue format store document).Atomic registry := by
  unfold loadValue
  cases document.members? with
  | none => exact Acting.atomic_throw _
  | some members =>
    exact Acting.atomic_attempt_bind fun _ => Acting.atomic_of_answers ⟨_, _, rfl⟩

/-- If an entry was refused, not every entry describes a value. -/
theorem not_all_describe_of_refused {members : List (String × Json)} {error : ConfigError}
    (refused : readEntries format scope members = .error error) :
    ¬ ∀ key entry, (key, entry) ∈ members →
      ∃ type value, format.Describes scope entry type value := by
  intro every
  obtain ⟨front, key, entry, back, rfl, _, fault⟩ := readEntries_eq_error_iff.1 refused
  obtain ⟨type, value, describes⟩ := every key entry (by simp)
  exact not_describes_of_fault fault describes

end ConfigRegistry

namespace Session

open ConfigFormat ConfigRegistry

/-- Loading a document puts back what loading it into the registry leaves of the registry. -/
theorem value_loadConfig (format : ConfigFormat) (session : Session) (name database : String)
    (document : Json) :
    let loaded := (session.config name database).loadValue format session.store document
    (session.loadConfig format name database document).value =
      (loaded.value.1, session.setConfig name loaded.left) := rfl

/-- Loading a document that fails leaves the registry of the name as it was. -/
theorem left_loadConfig_of_error {session : Session} {name database : String} {document : Json}
    {error : ConfigError}
    (failed : (session.loadConfig format name database document).value.1 = .error error) :
    (session.loadConfig format name database document).value.2 =
      session.setConfig name (session.config name database) := by
  have kept := atomic_loadValue format session.store (session.config name database) document
  rw [value_loadConfig, kept error failed]

/-- A registry that is there is put back without changing the session. -/
theorem setConfig_config (session : Session) {name : String} (database : String)
    (there : session.configs.contains name = true) :
    session.setConfig name (session.config name database) = session := by
  obtain ⟨registry, found⟩ := Option.isSome_iff_exists.1 there
  have same : session.config name database = registry := by
    rw [config, found, Option.getD_some]
  rw [setConfig, same, Dictionary.insert_of_find? found]

/-- What loading a document answers: whether it is an object, and if it is, what reading its entries
gives. -/
theorem answer_loadConfig (format : ConfigFormat) (session : Session) (name database : String)
    (document : Json) :
    (session.loadConfig format name database document).value.1 =
      match document.members? with
      | none => .error (.invalidDocument "expected an object at the top level")
      | some members =>
        (readEntries format (session.store.scope (session.config name database).database)
          members).map List.length := by
  cases document with
  | object members =>
    rw [value_loadConfig, value_loadValue]
    simp only [Json.members?]
    cases readEntries format (session.store.scope (session.config name database).database)
      members with
    | error error => rfl
    | ok values => rfl
  | _ => rfl

/-- Loading a document into a config registry is all or nothing and well typed. It succeeds exactly
if the document is an object and each of its entries describes a value: it has a type name that is
registered in the database of the registry, the type carries a codec, and the codec reads the
entry's value as a value of just that type. Success answers the number of keys; each key of the
document is then bound to the value its entry describes, and every other key, every other registry,
the slots, the databases and all types are as they were. A failure, whichever entry is at fault and
however many before it were read, leaves the registry with the keys and values it had and everything
else as it was; its error is that of the first entry at fault, all entries before which describe
values. -/
theorem loadConfig_all_or_nothing (format : ConfigFormat) (session : Session)
    (name database : String) (document : Json) (ordered : document.Ordered) :
    let registry := session.config name database
    let scope := session.store.scope registry.database
    let (answer, after) := (session.loadConfig format name database document).value
    ((∃ count, answer = .ok count) ↔
      ∃ members, document.members? = some members ∧
        ∀ key entry, (key, entry) ∈ members →
          ∃ type value, format.Describes scope entry type value) ∧
    (∀ count, answer = .ok count →
      ∃ members loaded, document.members? = some members ∧
        (members.map (·.1)).Nodup ∧ count = (members.map (·.1)).length ∧
        after = session.setConfig name loaded ∧ loaded.database = registry.database ∧
        (∀ key entry, (key, entry) ∈ members →
          ∃ type value, format.Describes scope entry type value ∧
            loaded.entries.find? key = some value) ∧
        ∀ key, key ∉ members.map (·.1) →
          loaded.entries.find? key = registry.entries.find? key) ∧
    ∀ error, answer = .error error →
      after = session.setConfig name registry ∧
        (session.configs.contains name = true → after = session) ∧
        (document.members? = none ∧
            error = .invalidDocument "expected an object at the top level" ∨
          ∃ front key entry back,
            document.members? = some (front ++ (key, entry) :: back) ∧
              (∀ member ∈ front, ∃ type value, format.Describes scope member.2 type value) ∧
              format.Fault scope key entry error) := by
  intro registry scope
  have answered := answer_loadConfig format session name database document
  have failing : ∀ error, (session.loadConfig format name database document).value.1 =
      .error error → (session.loadConfig format name database document).value.2 =
        session.setConfig name registry ∧ (session.configs.contains name = true →
        (session.loadConfig format name database document).value.2 = session) := by
    intro error failed
    have kept := left_loadConfig_of_error failed
    exact ⟨kept, fun there => kept.trans (session.setConfig_config database there)⟩
  cases found : document.members? with
  | none =>
    rw [found] at answered
    refine ⟨?_, ?_, ?_⟩
    · simp [answered]
    · intro count answer
      rw [answered] at answer
      cases answer
    · intro error answer
      obtain ⟨kept, same⟩ := failing error answer
      rw [answered] at answer
      cases answer
      exact ⟨kept, same, .inl ⟨rfl, rfl⟩⟩
  | some members =>
    have object : document = .object members := by
      cases document <;> simp_all [Json.members?]
    have sorted := ordered members found
    rw [found] at answered
    cases read : readEntries format scope members with
    | error error =>
      have failed : (session.loadConfig format name database document).value.1 = .error error :=
        answered.trans (congrArg (Except.map List.length) read)
      obtain ⟨front, key, entry, back, split, described, fault⟩ := readEntries_eq_error_iff.1 read
      refine ⟨?_, ?_, ?_⟩
      · constructor
        · rintro ⟨count, answer⟩
          rw [failed] at answer
          cases answer
        · rintro ⟨others, same, every⟩
          cases same
          exact absurd every (not_all_describe_of_refused read)
      · intro count answer
        rw [failed] at answer
        cases answer
      · intro other answer
        obtain ⟨kept, same⟩ := failing other answer
        rw [failed] at answer
        cases answer
        exact ⟨kept, same, .inr ⟨front, key, entry, back, congrArg some split, described, fault⟩⟩
    | ok values =>
      have law : (session.loadConfig format name database document).value =
          (.ok values.length, session.setConfig name
            { registry with entries := registry.entries.insertAll values }) := by
        rw [object, value_loadConfig, Acted.left, value_loadValue, read]
      rw [law]
      have matched := readEntries_eq_ok_iff.1 read
      obtain ⟨bound, kept⟩ := matched.find?_insertAll sorted registry.entries
      refine ⟨?_, ?_, ?_⟩
      · constructor
        · rintro -
          refine ⟨members, rfl, fun key entry mem => ?_⟩
          obtain ⟨value, ⟨type, describes⟩, _⟩ := bound key entry mem
          exact ⟨type, value, describes⟩
        · rintro -
          exact ⟨values.length, rfl⟩
      · intro count answer
        cases answer
        have count : values.length = (members.map (·.1)).length := by
          rw [← matched.keys, List.length_map]
        have distinct : (members.map (·.1)).Nodup := Dictionary.names_nodup ⟨members, sorted⟩
        refine ⟨members, _, rfl, distinct, count, rfl, rfl, fun key entry mem => ?_, kept⟩
        obtain ⟨value, ⟨type, describes⟩, found⟩ := bound key entry mem
        exact ⟨type, value, describes, found⟩
      · intro error answer
        cases answer

/-- A format of counters of 32 bits, which are kept as JSON integers. -/
def counterFormat : ConfigFormat where
  carrier := .named "Config"
  codec _ :=
    { serialize := fun _ any =>
        match any.content? with
        | some ⟨.integer .i32, .integer count⟩ => pure (.integer count)
        | _ => throw .json
      deserialize
        | .integer count =>
          if IntegerKind.i32.holds count then .ok (.new ⟨.i32, .integer count⟩) else .error .json
        | _ => .error .json }

/-- A session in which counters are registered and configurable, and one of them is configured. -/
def counterSession : Session where
  store :=
    ((Store.fresh (Standard.universeOf fun key =>
        { record := { name := key, layout := ⟨0, 1⟩ }, content := .token })).reflect "main" .i32
      [.register (.attach ⟨.named "Config", .unit⟩)]).value.2
  configs :=
    Dictionary.empty.insert "app" ⟨"main", Dictionary.empty.insert "b" (.new ⟨.i32, .integer 5⟩)⟩

/-- The document that binds some keys to counters. -/
def counterDocument (counters : List (String × Json)) : Json :=
  .ofMembers (counters.map fun (key, json) =>
    (key, .ofMembers [("type", .string "i32"), ("value", json)]))

/-- A document of two counters is loaded, replacing the one that is there; with a text in place of
the later counter it is refused, and the earlier one is not bound either. -/
theorem counterSession_loads :
    let good := counterDocument [("a", .integer 1), ("b", .integer 2)]
    let bad := counterDocument [("a", .integer 1), ("b", .string "two")]
    (good.Ordered ∧ bad.Ordered) ∧
      (∃ loaded, (counterSession.loadConfig counterFormat "app" "main" good).value =
          (.ok 2, counterSession.setConfig "app" loaded) ∧
        loaded.entries.find? "b" = some (.new ⟨.i32, .integer 2⟩)) ∧
      (counterSession.loadConfig counterFormat "app" "main" bad).value =
        (.error .json, counterSession) := by
  intro good bad
  have ordered : good.Ordered ∧ bad.Ordered :=
    ⟨Json.ordered_ofMembers _, Json.ordered_ofMembers _⟩
  refine ⟨ordered, ?_, ?_⟩
  · have answer : (counterSession.loadConfig counterFormat "app" "main" good).value.1 = .ok 2 := rfl
    obtain ⟨_, success, _⟩ :=
      loadConfig_all_or_nothing counterFormat counterSession "app" "main" good ordered.1
    obtain ⟨members, loaded, object, _, _, after, _, bound, _⟩ := success 2 answer
    cases object
    obtain ⟨type, value, describes, found⟩ :=
      bound "b" _ (List.mem_cons_of_mem _ List.mem_cons_self)
    refine ⟨loaded, Prod.ext answer after, ?_⟩
    have same : value = .new ⟨.i32, .integer 2⟩ := by
      have read : readEntry counterFormat (counterSession.store.scope "main") "b" _ = .ok value :=
        readEntry_of_describes describes
      exact (Except.ok.inj read).symm
    rw [found, same]
  · have answer : (counterSession.loadConfig counterFormat "app" "main" bad).value.1 =
        .error .json := rfl
    obtain ⟨_, _, failure⟩ :=
      loadConfig_all_or_nothing counterFormat counterSession "app" "main" bad ordered.2
    exact Prod.ext answer ((failure .json answer).2.1 rfl)

end Session

end Reflection
