import Reflection.Proofs.Config.Loading

/-!
# Saving configuration and loading it again

Saving finds the codec of a value through the value's own type, loading finds it through the name
that the type has in a database. The two agree where names resolve to the types that bear them. A
codec restores a value if it reads what it writes as a value with the same content
(`ConfigCodec.Restores`); whether the references to both values may be the same is left open, since
a registry may hold a const reference. A registry whose values are all restored is saved, and the
document loads as the same values into every registry over the database.
-/
namespace Reflection

variable {format : ConfigFormat} {scope : Scope} {types : Types} {value again : Any}

/-- Whether a codec restores a value: it writes the value as a document that it reads as a value
with the same content, and it writes that value as the same document. -/
def ConfigCodec.Restores (codec : ConfigCodec) (types : Types) (value again : Any) : Prop :=
  ∃ json, (codec.serialize types value).outcome = .ok json ∧ codec.deserialize json = .ok again ∧
    again.content? = value.content? ∧ (codec.serialize types again).outcome = .ok json

namespace Dictionary

/-- If matches look like what they match, the dictionary of the matches looks like the one of what
they match. -/
theorem Matched.mapValues_insertAll {α β γ : Type} {relation : α → β → Prop}
    {dictionary : Dictionary α} {right : List (String × β)} {seen : β → γ} {look : α → γ}
    (matched : Matched relation dictionary.entries right)
    (alike : ∀ name first second, dictionary.find? name = some first → relation first second →
      seen second = look first) :
    (empty.insertAll right).mapValues seen = dictionary.mapValues look := by
  obtain ⟨binds, keeps⟩ := matched.find?_insertAll dictionary.sorted empty
  refine ext_find? fun name => ?_
  rw [find?_mapValues, find?_mapValues]
  cases found : dictionary.find? name with
  | none =>
    have absent := lookup_eq_none_iff.1 found
    rw [keeps name absent, find?_empty, Option.map_none, Option.map_none]
  | some first =>
    obtain ⟨second, related, bound⟩ := binds name first (find?_eq_some_iff.1 found)
    rw [bound, Option.map_some, Option.map_some, alike name first second found related]

end Dictionary

namespace ConfigFormat

/-- Whether a value is restored: it is not empty, the name of its type resolves to the type, and
the type carries a codec that restores it. -/
def Restores (format : ConfigFormat) (scope : Scope) (value again : Any) : Prop :=
  ∃ type codec, value.type? = some type ∧ scope.database.get (scope.types.name type) = some type ∧
    format.Carries scope.types type codec ∧ codec.Restores scope.types value again

/-- A type carries one codec. -/
theorem Carries.unique {type : Ty} {left right : ConfigCodec}
    (first : format.Carries types type left) (second : format.Carries types type right) :
    left = right :=
  Except.ok.inj ((codecOf_eq_ok_iff.2 first).symm.trans (codecOf_eq_ok_iff.2 second))

/-- A restored value has the content of the one that was saved. -/
theorem Restores.content (restores : format.Restores scope value again) :
    again.content? = value.content? := by
  obtain ⟨_, _, _, _, _, _, _, _, same, _⟩ := restores
  exact same

/-- A value is restored as one value only. -/
theorem Restores.unique {other : Any} (first : format.Restores scope value again)
    (second : format.Restores scope value other) : again = other := by
  obtain ⟨type, codec, typed, _, carried, json, written, read, _⟩ := first
  obtain ⟨otherType, otherCodec, otherTyped, _, otherCarried, otherJson, otherWritten, otherRead, _⟩
    := second
  have sameType : type = otherType := Option.some.inj (typed.symm.trans otherTyped)
  subst sameType
  have sameCodec := carried.unique otherCarried
  subst sameCodec
  have sameJson : json = otherJson := Except.ok.inj (written.symm.trans otherWritten)
  subst sameJson
  exact Except.ok.inj (read.symm.trans otherRead)

end ConfigFormat

namespace ConfigRegistry

open ConfigFormat Session

/-- The entry that keeps a value under the name of its type. -/
def savedEntry (types : Types) (value : Any) (json : Json) : Json :=
  .ofMembers [("type", .string (value.typeName types)), ("value", json)]

/-- Writing entries goes on behind one that is written. -/
theorem outcome_writeEntries_cons {key : String} {rest : List (String × Any)} {json : Json}
    {codec : ConfigCodec} (found : format.codecOf types value.type? = .ok codec)
    (written : (codec.serialize types value).outcome = .ok json) :
    (writeEntries format types ((key, value) :: rest)).outcome =
      (writeEntries format types rest).outcome.map ((key, savedEntry types value json) :: ·) := by
  simp only [writeEntries, Fallible.outcome_bind, Fallible.outcome_ofExcept, found, Except.bind,
    written, Fallible.outcome_pure]
  cases (writeEntries format types rest).outcome with
  | error error => rfl
  | ok others => rfl

/-- A restored value is written as an entry that describes the value it is restored as, and that
value is written as the same entry. -/
theorem saved_of_restores (restores : format.Restores scope value again) :
    ∃ type entry, format.Describes scope entry type again ∧
      ∀ key rest saved, saved ∈ [value, again] →
        (writeEntries format scope.types ((key, saved) :: rest)).outcome =
          (writeEntries format scope.types rest).outcome.map ((key, entry) :: ·) := by
  have content := restores.content
  obtain ⟨type, codec, typed, registered, carried, json, written, read, _, rewritten⟩ := restores
  have typedAgain : again.type? = some type := by
    rw [← typed]
    simp only [Any.type?, content]
  have found := codecOf_eq_ok_iff.2 carried
  -- The writer names the type that the value has; the reader gets from that name to the same type.
  have named : ∀ saved ∈ [value, again],
      savedEntry scope.types saved json =
        .ofMembers [("type", .string (scope.types.name type)), ("value", json)] := by
    intro saved mem
    have savedTyped : saved.type? = some type := by
      rcases List.mem_pair.1 mem with rfl | rfl
      · exact typed
      · exact typedAgain
    simp only [savedEntry, Any.typeName, savedTyped]
  have distinct : ([("type", Json.string (scope.types.name type)), ("value", json)].map
      (·.1)).Nodup := by simp
  have member := Json.member?_ofMembers distinct
  refine ⟨type, .ofMembers [("type", .string (scope.types.name type)), ("value", json)],
    ⟨scope.types.name type, json, codec, member "type", member "value", registered, carried, read,
      typedAgain⟩, ?_⟩
  intro key rest saved mem
  rw [← named saved mem]
  rcases List.mem_pair.1 mem with rfl | rfl
  · exact outcome_writeEntries_cons (typed ▸ found) written
  · exact outcome_writeEntries_cons (typedAgain ▸ found) rewritten

/-- Entries whose values are restored are written as members that are read as the values they are
restored as, each under its key, and these are written as the same members. -/
theorem writeEntries_of_restores {entries : List (String × Any)}
    (restored : ∀ entry ∈ entries, ∃ again, format.Restores scope entry.2 again) :
    ∃ members values, (writeEntries format scope.types entries).outcome = .ok members ∧
      readEntries format scope members = .ok values ∧
      Dictionary.Matched (format.Restores scope) entries values ∧
      (writeEntries format scope.types values).outcome = .ok members := by
  induction entries with
  | nil => exact ⟨[], [], rfl, rfl, .nil, rfl⟩
  | cons entry rest ih =>
    obtain ⟨key, value⟩ := entry
    obtain ⟨members, values, written, read, same, rewritten⟩ :=
      ih fun entry mem => restored entry (List.mem_cons_of_mem _ mem)
    obtain ⟨again, restores⟩ := restored (key, value) List.mem_cons_self
    obtain ⟨type, json, describes, writes⟩ := saved_of_restores restores
    refine ⟨(key, json) :: members, (key, again) :: values, ?_, ?_, ?_, ?_⟩
    · rw [writes key rest value List.mem_cons_self, written]
      rfl
    · rw [readEntries_cons_of_ok (readEntry_of_describes describes), read]
      rfl
    · exact .cons ⟨rfl, restores⟩ same
    · rw [writes key values again (List.mem_cons_of_mem _ List.mem_cons_self), rewritten]
      rfl

/-- Entries bound in a registry that had none are its entries. -/
theorem insertAll_empty {values : List (String × Any)}
    (sorted : values.Pairwise fun left right => left.1 < right.1) :
    (Dictionary.empty.insertAll values).entries = values := by
  have distinct : (values.map (·.1)).Nodup := Dictionary.names_nodup ⟨values, sorted⟩
  refine Dictionary.entries_ext (Dictionary.insertAll _ values).sorted sorted fun name => ?_
  have answer := Dictionary.find?_insertAll distinct .empty name
  rw [Dictionary.find?_empty, Option.or_none] at answer
  exact answer

/-- Saving a config registry and loading the document again is the identity. If every value is
restored by the codec of its type, found through the name of the type in the database of the
registry, then the registry is saved. Into every registry over the database, which may hold
anything, the document loads as many values as were saved: each saved key is bound to the value it
is restored as, which has the same content, and every other key keeps its value. Into an empty
registry this gives the same keys with the same contents, which are saved as the same document; and
if the codecs restore every value as itself, it gives the registry that was saved. -/
theorem load_after_save (format : ConfigFormat) (store : Store) (registry : ConfigRegistry)
    (restored : ∀ key value, registry.entries.find? key = some value →
      ∃ again, format.Restores (store.scope registry.database) value again) :
    ∃ document, (registry.toValue format store.types).outcome = .ok document ∧
      document.Ordered ∧
      ∀ target : ConfigRegistry, target.database = registry.database →
        ∃ loaded, (target.loadValue format store document).outcome =
            .ok (registry.entries.size, loaded) ∧
          loaded.database = registry.database ∧
          (∀ key value, registry.entries.find? key = some value →
            ∃ again, loaded.entries.find? key = some again ∧
              again.content? = value.content? ∧
              format.Restores (store.scope registry.database) value again) ∧
          (∀ key, registry.entries.find? key = none →
            loaded.entries.find? key = target.entries.find? key) ∧
          (target.entries = .empty →
            loaded.entries.mapValues Any.content? = registry.entries.mapValues Any.content? ∧
              (loaded.toValue format store.types).outcome = .ok document ∧
              ((∀ key value, registry.entries.find? key = some value →
                format.Restores (store.scope registry.database) value value) →
                loaded = registry)) := by
  have each : ∀ entry ∈ registry.entries.entries,
      ∃ again, format.Restores (store.scope registry.database) entry.2 again :=
    fun entry mem => restored entry.1 entry.2 (Dictionary.find?_eq_some_iff.2 mem)
  obtain ⟨members, values, written, read, same, rewritten⟩ := writeEntries_of_restores each
  have described := readEntries_eq_ok_iff.1 read
  have sorted := Dictionary.sorted_of_keys same.keys registry.entries.sorted
  have saved : (registry.toValue format store.types).outcome = .ok (.object members) := by
    simp only [toValue, Fallible.outcome_bind, Fallible.outcome_pure]
    rw [show store.types = (store.scope registry.database).types from rfl, written]
    rfl
  have ordered := Dictionary.sorted_of_keys described.keys.symm sorted
  refine ⟨.object members, saved, Json.ordered_object ⟨members, ordered⟩, ?_⟩
  intro target sameDatabase
  have load : (target.loadValue format store (.object members)).outcome =
      .ok (values.length, ⟨target.database, target.entries.insertAll values⟩) := by
    rw [Acted.outcome_eq_ok_iff, value_loadValue, sameDatabase, read]
  have count : values.length = registry.entries.size := by
    rw [← List.length_map (·.1), same.keys, List.length_map]
    rfl
  obtain ⟨binds, keeps⟩ := same.find?_insertAll registry.entries.sorted target.entries
  have bound : ∀ key value, registry.entries.find? key = some value →
      ∃ again, (target.entries.insertAll values).find? key = some again ∧
        again.content? = value.content? ∧
        format.Restores (store.scope registry.database) value again := by
    intro key value found
    obtain ⟨again, restores, answer⟩ := binds key value (Dictionary.find?_eq_some_iff.1 found)
    exact ⟨again, answer, restores.content, restores⟩
  have kept : ∀ key, registry.entries.find? key = none →
      (target.entries.insertAll values).find? key = target.entries.find? key :=
    fun key missing => keeps key (Dictionary.lookup_eq_none_iff.1 missing)
  refine ⟨⟨registry.database, target.entries.insertAll values⟩, ?_, rfl, bound, kept, ?_⟩
  · rw [load, count, sameDatabase]
  · intro empty
    rw [empty]
    refine ⟨same.mapValues_insertAll fun key value again _ restores => restores.content, ?_, ?_⟩
    · simp only [toValue, Fallible.outcome_bind, Fallible.outcome_pure, insertAll_empty sorted]
      rw [show store.types = (store.scope registry.database).types from rfl, rewritten]
      rfl
    · intro restoresSelf
      have entries : (Dictionary.empty.insertAll values).mapValues id =
          registry.entries.mapValues id :=
        same.mapValues_insertAll fun key value again found restores =>
          restores.unique (restoresSelf key value found)
      rw [Dictionary.mapValues_id, Dictionary.mapValues_id] at entries
      rw [entries]

/-- A counter is restored as one that its registry owns, however it was held. -/
theorem counter_restores (access : Access) {count : Int} (fits : IntegerKind.i32.holds count) :
    counterFormat.Restores (counterSession.store.scope "main")
      (.held access ⟨.i32, .integer count⟩) (.new ⟨.i32, .integer count⟩) := by
  refine ⟨.i32, counterFormat.codec .unit, rfl, rfl, ⟨.unit, rfl, rfl⟩, .integer count, rfl, ?_,
    rfl, rfl⟩
  simp [counterFormat, fits]

/-- A config registry with a counter and a const reference to another. -/
def counterRegistry : ConfigRegistry where
  database := "main"
  entries := .ofList
    [("a", .new ⟨.i32, .integer 1⟩), ("c", .held .shared ⟨.i32, .integer 3⟩)]

/-- The counters are saved; loaded over another registry they replace the counter they share a key
with and keep the one they do not. -/
theorem counterRegistry_reloaded :
    (∀ key value, counterRegistry.entries.find? key = some value →
      ∃ again, counterFormat.Restores (counterSession.store.scope "main") value again) ∧
    ∃ document loaded,
      (counterRegistry.toValue counterFormat counterSession.store.types).outcome = .ok document ∧
        ((counterSession.config "app" "main").loadValue counterFormat counterSession.store
          document).outcome = .ok (2, loaded) ∧
        loaded.entries.find? "b" = some (.new ⟨.i32, .integer 5⟩) ∧
        ∃ again, loaded.entries.find? "c" = some again ∧
          again.content? = some ⟨.i32, .integer 3⟩ := by
  have restored : ∀ key value, counterRegistry.entries.find? key = some value →
      ∃ again, counterFormat.Restores (counterSession.store.scope "main") value again := by
    intro key value found
    have mem : (key, value) ∈ [("a", Any.new ⟨.i32, .integer 1⟩),
        ("c", Any.held .shared ⟨.i32, .integer 3⟩)] := Dictionary.find?_eq_some_iff.1 found
    simp only [List.mem_cons, List.not_mem_nil, or_false, Prod.mk.injEq] at mem
    rcases mem with ⟨_, rfl⟩ | ⟨_, rfl⟩
    · exact ⟨_, counter_restores .owned (by decide)⟩
    · exact ⟨_, counter_restores .shared (by decide)⟩
  obtain ⟨document, saved, _, reload⟩ :=
    load_after_save counterFormat counterSession.store counterRegistry restored
  obtain ⟨loaded, load, _, bound, kept, _⟩ := reload (counterSession.config "app" "main") rfl
  obtain ⟨again, answer, content, _⟩ := bound "c" (.held .shared ⟨.i32, .integer 3⟩) rfl
  refine ⟨restored, document, loaded, saved, load, ?_, again, answer, content⟩
  rw [kept "b" rfl]
  rfl

end ConfigRegistry

end Reflection
