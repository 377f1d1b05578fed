import DnsResponder.Proofs.Administration
import DnsResponder.Proofs.Records.Entries
import DnsResponder.Proofs.Transcript
import Mathlib.Data.Finmap

namespace DnsResponder

/-!
# Stored records as a map from names

Who stores records thinks of names and types.  The responder packs a name into a key and keeps two
tables of entries.  `NameCall.onMap` tells storing and removing without keys and tables: one finite
map from names, without a final dot, and codes of types.  The tables answer every sequence of calls
as the map does, have as many entries, and resolve a name to what the map holds for it.
-/

/-! ## Calls by name -/

namespace Responder

open Dns.PackedName (SameName Packable withoutFinalDot)
open Dns.Key (named)

/-- Calls that store and remove records by name. -/
inductive NameCall
  | insertA (name : String) (record : Record 32)
  | insertAaaa (name : String) (record : Record 128)
  | remove (name : String) (type : Dns.RecordType)
  | clear

/-- What such a call is answered. -/
inductive NameReply
  | stored
  | removed (present : Bool)
  | cleared
  | rejected (cause : Dns.NameError)
deriving DecidableEq

/-- A call that is rejected leaves the responder as it was. -/
def replied (responder : Responder) :
    Except Dns.NameError (NameReply × Responder) → NameReply × Responder
  | .ok result => result
  | .error cause => (.rejected cause, responder)

def NameCall.run (call : NameCall) (responder : Responder) : NameReply × Responder :=
  match call with
  | .insertA name record =>
    responder.replied ((responder.insertA name record).map fun changed => (.stored, changed))
  | .insertAaaa name record =>
    responder.replied ((responder.insertAaaa name record).map fun changed => (.stored, changed))
  | .remove name type =>
    responder.replied ((responder.remove name type).map fun (present, changed) =>
      (.removed present, changed))
  | .clear => (.cleared, responder.clearRecords)

/-- Addresses and times to live under names without a final dot and codes of types. -/
abbrev NameMap := Finmap fun _ : List Char × UInt16 => Address × UInt32

/-- Where a name and a type stand in the map. -/
def place (name : String) (qtype : UInt16) : List Char × UInt16 :=
  (withoutFinalDot name.toList, qtype)

theorem place_eq_iff {name other : String} {qtype code : UInt16} :
    place name qtype = place other code ↔ SameName name other ∧ qtype = code :=
  Prod.mk.injEq .. ▸ Iff.rfl

/-- A change of the map, unless the name is rejected. -/
def unlessRejected (name : String) (type : Dns.RecordType) (map : NameMap)
    (result : NameReply × NameMap) : NameReply × NameMap :=
  match Dns.Key.ofText name type with
  | .ok _ => result
  | .error cause => (.rejected cause, map)

/-- What a call does to the map. -/
def NameCall.onMap (call : NameCall) (map : NameMap) : NameReply × NameMap :=
  match call with
  | .insertA name record => unlessRejected name .a map
      (.stored, map.insert (place name Dns.typeA) (.v4 record.address, record.ttl))
  | .insertAaaa name record => unlessRejected name .aaaa map
      (.stored, map.insert (place name Dns.typeAaaa) (.v6 record.address, record.ttl))
  | .remove name type => unlessRejected name type map
      (.removed (decide (place name type.code ∈ map)), map.erase (place name type.code))
  | .clear => (.cleared, ∅)

/-- The responder after a sequence of calls. -/
def afterCalls (settings : Settings) (queue : Option CaptureQueue) (log : Log)
    (calls : List NameCall) : Responder :=
  (transcript NameCall.run calls (create settings queue log).1).2

/-- The map after a sequence of calls. -/
def mapAfter (calls : List NameCall) : NameMap :=
  (transcript NameCall.onMap calls ∅).2

end Responder

/-! ## One call -/

namespace Records

open Responder (NameMap place place_eq_iff)
open Dns.PackedName (SameName Packable)
open Dns.Key (named)

/-- The tables hold for each name and type what the map holds, and have no other entries. -/
structure Mirrors (records : Records) (map : NameMap) : Prop where
  distinct : records.Distinct
  held : ∀ name, Packable name → ∀ qtype,
    records.held? (named name qtype) = map.lookup (place name qtype)
  size : records.size = map.keys.card

variable {records changed : Records} {map : NameMap} {name : String} {qtype : UInt16}

theorem mirrors_empty : Mirrors {} ∅ where
  distinct := distinct_empty
  held := by
    intro name packable qtype
    rw [held?_empty, Finmap.lookup_empty]
  size := rfl

theorem Mirrors.isSome_iff (mirrors : records.Mirrors map) (packable : Packable name) :
    (records.held? (named name qtype)).isSome = true ↔ place name qtype ∈ map := by
  rw [mirrors.held name packable, Finmap.lookup_isSome]

theorem place_iff_named {other : String} {code : UInt16} (packable : Packable name)
    (beside : Packable other) :
    named other code = named name qtype ↔ place other code = place name qtype := by
  rw [Dns.Key.named_eq_iff beside packable, place_eq_iff]

theorem Mirrors.insert (mirrors : records.Mirrors map) (packable : Packable name)
    {value : Address × UInt32} (distinct : changed.Distinct)
    (held : ∀ key, changed.held? key =
      if key = named name qtype then some value else records.held? key)
    (size : changed.size =
      if (records.held? (named name qtype)).isSome then records.size else records.size + 1) :
    changed.Mirrors (map.insert (place name qtype) value) where
  distinct := distinct
  held := by
    intro other beside code
    rw [held, if_congr (place_iff_named packable beside) rfl rfl]
    by_cases same : place other code = place name qtype
    · rw [if_pos same, same, Finmap.lookup_insert]
    · rw [if_neg same, Finmap.lookup_insert_of_ne _ same, mirrors.held other beside]
  size := by
    have keys : (map.insert (place name qtype) value).keys =
        Insert.insert (place name qtype) map.keys := by
      ext key
      rw [Finset.mem_insert, Finmap.mem_keys, Finmap.mem_keys, Finmap.mem_insert]
    rw [size, keys, Finset.card_insert_eq_ite, mirrors.size]
    exact if_congr ((mirrors.isSome_iff packable).trans Finmap.mem_keys.symm) rfl rfl

theorem Mirrors.remove (mirrors : records.Mirrors map) (packable : Packable name)
    (qtype : UInt16) :
    (records.remove (named name qtype)).1 = decide (place name qtype ∈ map)
      ∧ (records.remove (named name qtype)).2.Mirrors (map.erase (place name qtype)) := by
  rcases mirrors.distinct.remove (named name qtype) with ⟨told, distinct, size⟩
  refine ⟨?_, distinct, ?_, ?_⟩
  · rw [told, Bool.eq_iff_iff, decide_eq_true_iff]
    exact mirrors.isSome_iff packable
  · intro other beside code
    rw [held?_remove, if_congr (place_iff_named packable beside) rfl rfl]
    by_cases same : place other code = place name qtype
    · rw [if_pos same, same, Finmap.lookup_erase]
    · rw [if_neg same, Finmap.lookup_erase_ne same, mirrors.held other beside]
  · rw [mirrors.size, if_congr ((mirrors.isSome_iff packable).trans Finmap.mem_keys.symm) rfl rfl]
      at size
    rw [Finmap.keys_erase, Finset.card_erase_eq_ite, size]
    split <;> rfl

end Records

namespace Responder

open Dns.PackedName (SameName Packable withoutFinalDot)
open Dns.Key (named)

variable {responder : Responder} {map : NameMap}

/-- Tables and map answer a call alike and stay alike. -/
theorem mirrors_call (call : NameCall) (mirrors : responder.tables.records.Mirrors map) :
    Matches (fun responder map => responder.tables.records.Mirrors map) (call.run responder)
      (call.onMap map) := by
  cases call with
  | insertA name record =>
    rw [NameCall.run, NameCall.onMap, insertA, unlessRejected]
    rcases Dns.Key.ofText_cases name .a with ⟨packable, made⟩ | ⟨unpackable, cause, made⟩
    · rw [made]
      refine ⟨rfl, mirrors.insert packable (mirrors.distinct.insertA record) (fun key => ?_)
        (mirrors.distinct.size_insertA rfl record)⟩
      refine (Records.held?_insertA record).trans (if_congr ?_ rfl rfl)
      exact and_iff_left_of_imp (congrArg Dns.Key.qtype)
    · rw [made]
      exact ⟨rfl, mirrors⟩
  | insertAaaa name record =>
    rw [NameCall.run, NameCall.onMap, insertAaaa, unlessRejected]
    rcases Dns.Key.ofText_cases name .aaaa with ⟨packable, made⟩ | ⟨unpackable, cause, made⟩
    · rw [made]
      refine ⟨rfl, mirrors.insert packable (mirrors.distinct.insertAaaa record) (fun key => ?_)
        (mirrors.distinct.size_insertAaaa rfl record)⟩
      refine (Records.held?_insertAaaa record).trans (if_congr ?_ rfl rfl)
      exact and_iff_left_of_imp (congrArg Dns.Key.qtype)
    · rw [made]
      exact ⟨rfl, mirrors⟩
  | remove name type =>
    rw [NameCall.run, NameCall.onMap, remove, unlessRejected]
    rcases Dns.Key.ofText_cases name type with ⟨packable, made⟩ | ⟨unpackable, cause, made⟩
    · rcases mirrors.remove packable type.code with ⟨told, removed⟩
      rw [made]
      exact ⟨congrArg NameReply.removed told, removed⟩
    · rw [made]
      exact ⟨rfl, mirrors⟩
  | clear => exact ⟨rfl, Records.mirrors_empty⟩

/-! ## Sequences of calls -/

/-- Whether a call can change what is held for a name and the code of a type. -/
def NameCall.Concerns (call : NameCall) (name : String) (qtype : UInt16) : Prop :=
  match call with
  | .insertA other _ => SameName name other ∧ qtype = Dns.typeA
  | .insertAaaa other _ => SameName name other ∧ qtype = Dns.typeAaaa
  | .remove other type => SameName name other ∧ qtype = type.code
  | .clear => True

/-- A call changes nothing else in the map. -/
theorem lookup_onMap {call : NameCall} {name : String} {qtype : UInt16}
    (beside : ¬ call.Concerns name qtype) :
    (call.onMap map).2.lookup (place name qtype) = map.lookup (place name qtype) := by
  have spared (other : String) (type : Dns.RecordType) (result : NameReply × NameMap)
      (kept : result.2.lookup (place name qtype) = map.lookup (place name qtype)) :
      (unlessRejected other type map result).2.lookup (place name qtype) =
        map.lookup (place name qtype) := by
    rw [unlessRejected]
    split
    · exact kept
    · rfl
  cases call with
  | insertA other record =>
    exact spared _ _ _ (Finmap.lookup_insert_of_ne _ fun same => beside (place_eq_iff.mp same))
  | insertAaaa other record =>
    exact spared _ _ _ (Finmap.lookup_insert_of_ne _ fun same => beside (place_eq_iff.mp same))
  | remove other type =>
    exact spared _ _ _ (Finmap.lookup_erase_ne fun same => beside (place_eq_iff.mp same))
  | clear => exact absurd trivial beside

theorem mirrors_afterCalls (settings : Settings) (queue : Option CaptureQueue) (log : Log)
    (calls : List NameCall) :
    (transcript NameCall.run calls (create settings queue log).1).1 =
        (transcript NameCall.onMap calls ∅).1
      ∧ (afterCalls settings queue log calls).tables.records.Mirrors (mapAfter calls) :=
  matches_transcript (fun call _ _ mirrors => mirrors_call call mirrors) calls
    Records.mirrors_empty

/-- Calls by name are answered as the map answers them, with the error of a rejected name; there are
as many entries as in the map; and an accepted name resolves to what the map holds for it, or to
nothing.  Types without a table have nothing to remove.  Accepted names have one key exactly when
their octets without a final dot are the same and so are the types, and a call has no effect on the
answers for other names and types. -/
theorem answers_as_name_map (settings : Settings) (queue : Option CaptureQueue) (log : Log)
    (calls : List NameCall) :
    (transcript NameCall.run calls (create settings queue log).1).1 =
        (transcript NameCall.onMap calls ∅).1
    ∧ (afterCalls settings queue log calls).tables.records.size = (mapAfter calls).keys.card
    ∧ (∀ name type key, Dns.Key.ofText name type = .ok key →
      (type.code = Dns.typeA ∨ type.code = Dns.typeAaaa → ∀ queryId spread,
        (afterCalls settings queue log calls).tables.records.resolve key queryId spread =
          Records.answerFor ((mapAfter calls).lookup (place name type.code)) queryId spread)
      ∧ (type.code ≠ Dns.typeA → type.code ≠ Dns.typeAaaa →
        (afterCalls settings queue log calls).remove name type =
          .ok (false, afterCalls settings queue log calls))
      ∧ ∀ call : NameCall, ¬ call.Concerns name type.code → ∀ queryId spread,
        (call.run (afterCalls settings queue log calls)).2.tables.records.resolve key queryId
            spread =
          (afterCalls settings queue log calls).tables.records.resolve key queryId spread)
    ∧ ∀ first second firstType secondType firstKey secondKey,
      Dns.Key.ofText first firstType = .ok firstKey →
      Dns.Key.ofText second secondType = .ok secondKey →
        (firstKey = secondKey ↔
          Text.Utf8.encode (withoutFinalDot first.toList) =
              Text.Utf8.encode (withoutFinalDot second.toList)
            ∧ firstType.code = secondType.code) := by
  rcases mirrors_afterCalls settings queue log calls with ⟨replies, mirrors⟩
  refine ⟨replies, mirrors.size, ?_, ?_⟩
  · intro name type key made
    rcases Dns.Key.ofText_eq_ok_iff.mp made with ⟨packable, rfl⟩
    refine ⟨?_, ?_, ?_⟩
    · intro typed queryId spread
      rw [Records.resolve_eq, mirrors.held name packable]
      exact if_pos typed
    · intro notA notAaaa
      have nothing : (afterCalls settings queue log calls).tables.records.remove
          (named name type.code) = (false, _) := Records.remove_other notA notAaaa
      rw [remove, made]
      simp only [Except.map, nothing]
    · intro call beside queryId spread
      have after := (mirrors_call call mirrors).2
      rw [Records.resolve_eq, Records.resolve_eq, after.held name packable, lookup_onMap beside,
        mirrors.held name packable]
  · intro first second firstType secondType firstKey secondKey firstMade secondMade
    rcases Dns.Key.ofText_eq_ok_iff.mp firstMade with ⟨packable, rfl⟩
    rcases Dns.Key.ofText_eq_ok_iff.mp secondMade with ⟨beside, rfl⟩
    rw [Dns.Key.named_eq_iff packable beside, Text.Utf8.encode_injective.eq_iff]
    rfl

/-- A record stored with a final dot is found without it, and stays when the record of the other type
is removed. -/
theorem stays_when_other_type_is_removed :
    let calls : List NameCall := [.insertA "ns.test." ⟨0x0A000001, 60⟩,
      .insertAaaa "ns.test" ⟨1, 60⟩, .remove "ns.test" .aaaa]
    let records := (afterCalls {} none ⟨"1", none, 0, {}, []⟩ calls).tables.records
    Dns.Key.ofText "ns.test" .a = .ok (named "ns.test" Dns.typeA)
    ∧ records.resolve (named "ns.test" Dns.typeA) 7 false = .ok ⟨.v4 0x0A000001, 60⟩
    ∧ records.size = 1 := by
  intro calls records
  have made : Dns.Key.ofText "ns.test" .a = .ok (named "ns.test" Dns.typeA) := by decide
  rcases answers_as_name_map {} none ⟨"1", none, 0, {}, []⟩ calls with ⟨-, size, resolved, -⟩
  refine ⟨made, ?_, size.trans (by decide)⟩
  exact ((resolved "ns.test" .a _ made).1 (.inl rfl) 7 false).trans (by decide)

end Responder
end DnsResponder
