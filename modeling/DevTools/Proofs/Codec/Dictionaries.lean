import DevTools.Proofs.Codec.Refusal
import DevTools.Proofs.Value.Equivalence
import Mathlib.Data.List.Forall2
import Mathlib.Data.List.Induction

namespace DevTools

namespace Value

/-! ## Items as entries -/

def IsPair (item : Value) (pair : Value × Value) : Prop :=
  item.items = .ok [pair.1, pair.2] ∧ pair.1.keyFault?.isNone = true

inductive PairRefusal (index : Nat) (item : Value) : Fault → Prop
  | notIterable {fault : Fault} : item.items = .error fault →
      PairRefusal index item (.entryNotSequence index)
  | length {parts : List Value} : item.items = .ok parts → parts.length ≠ 2 →
      PairRefusal index item (.entryLength index parts.length)
  | unhashable {key value : Value} {fault : Fault} : item.items = .ok [key, value] →
      key.keyFault? = some fault → PairRefusal index item fault

variable {item : Value} {index : Nat} {entries : List (Value × Value)} {fault : Fault}

theorem insertPair_of_isPair {pair : Value × Value} (paired : item.IsPair pair) :
    insertPair index item entries = .ok (insert pair.1 pair.2 entries) := by
  simp only [insertPair, paired.1, Option.isNone_iff_eq_none.mp paired.2]

theorem insertPair_error :
    insertPair index item entries = .error fault ↔ PairRefusal index item fault := by
  unfold insertPair
  constructor
  · intro failed
    split at failed
    · rename_i hitems
      cases failed
      exact .notIterable hitems
    · rename_i hitems
      split at failed
      · rename_i refused
        cases failed
        exact .unhashable hitems refused
      · cases failed
    · rename_i parts other hitems
      cases failed
      refine .length hitems fun two => ?_
      obtain ⟨key, value, rfl⟩ := List.length_eq_two.mp two
      exact other key value rfl
  · intro refusal
    cases refusal with
    | notIterable hitems => simp only [hitems]
    | @length parts hitems other =>
        rw [hitems]
        split
        · rename_i impossible
          cases impossible
        · rename_i equal
          cases equal
          exact absurd rfl other
        · rename_i equal
          cases equal
          rfl
    | unhashable hitems refused => simp only [hitems, refused]

theorem exists_isPair_iff :
    (∃ pair, item.IsPair pair) ↔ ∀ index fault, ¬ PairRefusal index item fault := by
  constructor
  · rintro ⟨pair, paired⟩ index fault refusal
    have failed := (@insertPair_error item index [] fault).mpr refusal
    rw [insertPair_of_isPair paired] at failed
    cases failed
  · intro none
    have accepted := fun fault failed => none 0 fault ((@insertPair_error item 0 [] fault).mp failed)
    obtain ⟨result, inserted⟩ := exists_ok_iff.mpr accepted
    obtain ⟨key, value, hitems, hashable, -⟩ := insertPair_ok inserted
    exact ⟨(key, value), hitems, hashable⟩

/-! ## The loop over the items -/

def gather (pairs : List (Value × Value)) (entries : List (Value × Value)) : List (Value × Value) :=
  pairs.foldl (fun entries pair => insert pair.1 pair.2 entries) entries

variable {items : List Value} {pairs : List (Value × Value)}

theorem insertPairs_of_isPair (paired : List.Forall₂ IsPair items pairs) :
    insertPairs index items entries = .ok (gather pairs entries) := by
  induction paired generalizing index entries with
  | nil => rfl
  | cons head _ ih =>
      rw [insertPairs, insertPair_of_isPair head]
      exact ih

theorem insertPairs_error :
    insertPairs index items entries = .error fault ↔ ∃ before item after,
      items = before ++ item :: after ∧ (∀ i ∈ before, ∃ pair, i.IsPair pair) ∧
        PairRefusal (index + before.length) item fault := by
  induction items generalizing index entries with
  | nil => simp [insertPairs]
  | cons item rest ih =>
      rw [insertPairs, bind_error, insertPair_error]
      constructor
      · rintro (refusal | ⟨next, inserted, failed⟩)
        · exact ⟨[], item, rest, rfl, by simp, refusal⟩
        · obtain ⟨before, other, after, rfl, paired, refusal⟩ := ih.mp failed
          obtain ⟨key, value, hitems, hashable, -⟩ := insertPair_ok inserted
          refine ⟨item :: before, other, after, rfl,
            List.forall_mem_cons.mpr ⟨⟨(key, value), hitems, hashable⟩, paired⟩, ?_⟩
          rwa [List.length_cons, Nat.add_comm before.length, ← Nat.add_assoc]
      · rintro ⟨before, other, after, equal, paired, refusal⟩
        cases before with
        | nil =>
            cases equal
            exact .inl refusal
        | cons first others =>
            cases equal
            obtain ⟨⟨pair, head⟩, tail⟩ := List.forall_mem_cons.mp paired
            refine .inr ⟨_, insertPair_of_isPair head, ih.mpr ⟨others, other, after, rfl, tail, ?_⟩⟩
            rwa [List.length_cons, Nat.add_comm others.length, ← Nat.add_assoc] at refusal

theorem exists_pairs (paired : ∀ item ∈ items, ∃ pair, item.IsPair pair) :
    ∃ pairs, List.Forall₂ IsPair items pairs := by
  induction items with
  | nil => exact ⟨[], .nil⟩
  | cons item rest ih =>
      obtain ⟨⟨pair, head⟩, tail⟩ := List.forall_mem_cons.mp paired
      obtain ⟨pairs, others⟩ := ih tail
      exact ⟨pair :: pairs, .cons head others⟩

theorem toEntries_of_list {v : Value} (list : v.core = .list items) :
    v.toEntries = insertPairs 0 items [] := by
  simp only [toEntries, Value.items, list]
  rfl

/-! ## What one insertion does -/

theorem keys_insert (key value : Value) (entries : List (Value × Value)) :
    (insert key value entries).map (·.1) =
      entries.map (·.1) ++ if entries.any (·.1.agrees key) then [] else [key] := by
  induction entries with
  | nil => rfl
  | cons entry rest ih =>
      cases same : entry.1.agrees key with
      | true => simp [insert, same]
      | false => simp only [insert, same, Bool.false_eq_true, ↓reduceIte, List.map_cons, ih, List.cons_append,
          List.any_cons, Bool.false_or]

theorem insert_of_fresh {key : Value} (fresh : ∀ entry ∈ entries, entry.1.agrees key = false) (value : Value) :
    insert key value entries = entries ++ [(key, value)] := by
  induction entries with
  | nil => rfl
  | cons entry rest ih =>
      obtain ⟨here, below⟩ := List.forall_mem_cons.mp fresh
      simp [insert, here, ih below]

theorem mem_insert_of_keyed {p : Protocol} {key value : Value} {entry : Value × Value}
    (keyed : p.Keyed entries) (isKey : p.IsKey key) (member : entry ∈ insert key value entries) :
    (entry.1 = key ∨ entry.1.agrees key = true) ∧ entry.2 = value ∨
      entry ∈ entries ∧ entry.1.agrees key = false := by
  obtain ⟨keys, distinct⟩ := keyed
  induction entries with
  | nil =>
      obtain rfl := List.mem_singleton.mp member
      exact .inl ⟨.inl rfl, rfl⟩
  | cons head rest ih =>
      obtain ⟨headKey, keys⟩ := List.forall_mem_cons.mp keys
      obtain ⟨first, distinct⟩ := List.pairwise_cons.mp distinct
      cases same : head.1.agrees key with
      | true =>
          simp only [insert, same, ↓reduceIte, List.mem_cons] at member
          rcases member with rfl | inside
          · exact .inl ⟨.inr same, rfl⟩
          · refine .inr ⟨List.mem_cons_of_mem _ inside, Bool.eq_false_iff.mpr fun again => ?_⟩
            -- Two keys that agree with the new one agree with each other.
            have agree := agrees_of_agrees headKey (keys entry inside) isKey same again
            rw [first entry inside] at agree
            cases agree
      | false =>
          simp only [insert, same, Bool.false_eq_true, ↓reduceIte, List.mem_cons] at member
          rcases member with rfl | inside
          · exact .inr ⟨List.mem_cons_self, same⟩
          · exact (ih inside keys distinct).imp_right fun old => ⟨List.mem_cons_of_mem _ old.1, old.2⟩

/-! ## What all insertions do -/

def firstKeys (keys : List Value) : List Value :=
  (keys.zipIdx.filter fun (key, index) => (keys.take index).all fun earlier => !earlier.equals key).map (·.1)

example : (firstKeys [.int 1, .text "x", .bool true, .float (.ofInt 1)]).length = 2 := by
  decide +kernel

def lastValue? (pairs : List (Value × Value)) (key : Value) : Option Value :=
  (pairs.reverse.find? fun pair => key.equals pair.1).map (·.2)

theorem firstKeys_concat (keys : List Value) (key : Value) :
    firstKeys (keys ++ [key]) =
      firstKeys keys ++ if keys.any (·.equals key) then [] else [key] := by
  have before : keys.zipIdx.filter (fun (k, index) =>
        ((keys ++ [key]).take index).all fun earlier => !earlier.equals k) =
      keys.zipIdx.filter fun (k, index) => (keys.take index).all fun earlier => !earlier.equals k := by
    refine List.filter_congr fun entry member => ?_
    obtain ⟨k, index⟩ := entry
    have bound : index < keys.length := (List.mem_zipIdx' member).1
    simp only [List.take_append_of_le_length (Nat.le_of_lt bound)]
  have last : (keys.all fun earlier => !earlier.equals key) = !keys.any (·.equals key) := by
    rw [List.all_eq_not_any_not]
    simp only [Bool.not_not]
  unfold firstKeys
  rw [List.zipIdx_append, List.filter_append, before, List.map_append]
  congr 1
  simp only [List.zipIdx_cons, List.zipIdx_nil, List.filter_cons, List.filter_nil, Nat.zero_add,
    List.take_left', last]
  cases keys.any (·.equals key) <;> rfl

theorem lastValue?_concat (pairs : List (Value × Value)) (pair : Value × Value) (key : Value) :
    lastValue? (pairs ++ [pair]) key =
      if key.equals pair.1 then some pair.2 else lastValue? pairs key := by
  unfold lastValue?
  rw [List.reverse_append, List.reverse_singleton, List.singleton_append, List.find?_cons]
  cases key.equals pair.1 <;> rfl

/-- The entries that pairs make: keys that differ, in the order and the form in which they come first, with
the values that come last. -/
structure Gathers (pairs entries : List (Value × Value)) : Prop where
  distinct : entries.Pairwise fun a b => a.1.equals b.1 = false
  keys : entries.map (·.1) = firstKeys (pairs.map (·.1))
  values : ∀ entry ∈ entries, lastValue? pairs entry.1 = some entry.2

end Value

namespace Protocol

variable {p : Protocol} {pairs entries : List (Value × Value)}

theorem Keyed.insert {key : Value} (keyed : p.Keyed entries) (isKey : p.IsKey key) (value : Value) :
    p.Keyed (Value.insert key value entries) := by
  refine ⟨fun entry member => ?_, (Value.ProperKeys.insert ⟨fun e inside => (keyed.1 e inside).2, keyed.2⟩
    isKey.2).2⟩
  rcases (Value.mem_insert member).1 with new | old
  · rw [new]
    exact isKey
  · obtain ⟨e, inside, equal⟩ := List.mem_map.mp old
    rw [← equal]
    exact keyed.1 e inside

end Protocol

namespace Value

/-- The key equals itself, and agrees with no key that it does not equal. -/
def IsSettled (key : Value) : Prop :=
  key.agrees key = true ∧ ∀ other, key.agrees other = key.equals other

theorem gather_concat (pairs : List (Value × Value)) (pair : Value × Value) :
    gather (pairs ++ [pair]) [] = insert pair.1 pair.2 (gather pairs []) := by
  simp only [gather, List.foldl_append, List.foldl_cons, List.foldl_nil]

theorem gather_of_distinct {pairs entries : List (Value × Value)}
    (distinct : (entries ++ pairs).Pairwise fun a b => a.1.agrees b.1 = false) :
    gather pairs entries = entries ++ pairs := by
  induction pairs generalizing entries with
  | nil => simp [gather]
  | cons pair rest ih =>
      have fresh : ∀ entry ∈ entries, entry.1.agrees pair.1 = false := fun entry member =>
        (List.pairwise_append.mp distinct).2.2 entry member pair List.mem_cons_self
      show gather rest (insert pair.1 pair.2 entries) = _
      rw [List.append_cons] at distinct ⊢
      rw [insert_of_fresh fresh]
      exact ih distinct

section

variable {p : Protocol} {pairs : List (Value × Value)}

theorem gather_keyed (keys : ∀ pair ∈ pairs, p.IsKey pair.1) : p.Keyed (gather pairs []) := by
  induction pairs using List.reverseRecOn with
  | nil => exact ⟨by simp [gather], .nil⟩
  | append_singleton pairs pair ih =>
      rw [gather_concat]
      obtain ⟨earlier, last⟩ := List.forall_mem_append.mp keys
      exact (ih earlier).insert (last pair List.mem_cons_self) pair.2

theorem exists_agrees_gather (self : ∀ pair ∈ pairs, pair.1.agrees pair.1 = true) :
    ∀ pair ∈ pairs, ∃ key ∈ (gather pairs []).map (·.1), key.agrees pair.1 = true := by
  induction pairs using List.reverseRecOn with
  | nil => simp
  | append_singleton pairs last ih =>
      obtain ⟨earlier, selfLast⟩ := List.forall_mem_append.mp self
      intro pair member
      rw [gather_concat, keys_insert]
      rcases List.mem_append.mp member with before | here
      · obtain ⟨key, inside, same⟩ := ih earlier pair before
        exact ⟨key, List.mem_append_left _ inside, same⟩
      · obtain rfl := List.mem_singleton.mp here
        cases known : (gather pairs []).any (·.1.agrees pair.1) with
        | true =>
            obtain ⟨entry, inside, same⟩ := List.any_eq_true.mp known
            exact ⟨entry.1, List.mem_append_left _ (List.mem_map_of_mem inside), same⟩
        | false =>
            exact ⟨pair.1, by simp, selfLast pair List.mem_cons_self⟩

theorem exists_pair_of_mem_gather {entry : Value × Value} (member : entry ∈ gather pairs []) :
    ∃ pair ∈ pairs, pair.1 = entry.1 := by
  induction pairs using List.reverseRecOn generalizing entry with
  | nil => simp [gather] at member
  | append_singleton pairs pair ih =>
      rw [gather_concat] at member
      rcases (mem_insert member).1 with new | old
      · exact ⟨pair, List.mem_append_right _ List.mem_cons_self, new.symm⟩
      · obtain ⟨e, inside, equal⟩ := List.mem_map.mp old
        obtain ⟨origin, listed, same⟩ := ih inside
        exact ⟨origin, List.mem_append_left _ listed, same.trans equal⟩

theorem isSettled_of_mem_gather (settled : ∀ pair ∈ pairs, pair.1.IsSettled) {entry : Value × Value}
    (member : entry ∈ gather pairs []) : entry.1.IsSettled := by
  obtain ⟨pair, listed, same⟩ := exists_pair_of_mem_gather member
  rw [← same]
  exact settled pair listed

variable (keys : ∀ pair ∈ pairs, p.IsKey pair.1) (settled : ∀ pair ∈ pairs, pair.1.IsSettled)
include keys settled

theorem keys_gather : (gather pairs []).map (·.1) = firstKeys (pairs.map (·.1)) := by
  induction pairs using List.reverseRecOn with
  | nil => rfl
  | append_singleton pairs pair ih =>
      obtain ⟨keys, lastKey⟩ := List.forall_mem_append.mp keys
      obtain ⟨settled, -⟩ := List.forall_mem_append.mp settled
      have isKey := lastKey pair List.mem_cons_self
      -- The new key agrees with an entry if it equals any earlier key, since an entry stands for that one.
      have known : (gather pairs []).any (·.1.agrees pair.1) = (pairs.map (·.1)).any (·.equals pair.1) := by
        rw [Bool.eq_iff_iff, List.any_eq_true, List.any_eq_true]
        constructor
        · rintro ⟨entry, inside, same⟩
          obtain ⟨old, listed, equal⟩ := exists_pair_of_mem_gather inside
          rw [← equal, (settled old listed).2] at same
          exact ⟨_, List.mem_map_of_mem listed, same⟩
        · rintro ⟨key, listed, same⟩
          obtain ⟨old, inside, rfl⟩ := List.mem_map.mp listed
          rw [← (settled old inside).2] at same
          obtain ⟨key, located, stands⟩ :=
            exists_agrees_gather (fun pair member => (settled pair member).1) old inside
          obtain ⟨entry, member, rfl⟩ := List.mem_map.mp located
          refine ⟨entry, member, ?_⟩
          rw [agrees_congr ((gather_keyed keys).1 entry member) (keys old inside) isKey stands]
          exact same
      rw [gather_concat, keys_insert, ih keys settled, known, List.map_append]
      exact (firstKeys_concat _ _).symm

theorem values_gather : ∀ entry ∈ gather pairs [], lastValue? pairs entry.1 = some entry.2 := by
  induction pairs using List.reverseRecOn with
  | nil => simp [gather]
  | append_singleton pairs pair ih =>
      obtain ⟨keys, lastKey⟩ := List.forall_mem_append.mp keys
      obtain ⟨earlier, lastSettled⟩ := List.forall_mem_append.mp settled
      have self := lastSettled pair List.mem_cons_self
      intro entry member
      rw [lastValue?_concat, ← (isSettled_of_mem_gather settled member).2]
      rw [gather_concat] at member
      rcases mem_insert_of_keyed (gather_keyed keys) (lastKey pair List.mem_cons_self) member with
        ⟨same | same, value⟩ | ⟨old, differs⟩
      · rw [same, self.1, value]
        rfl
      · rw [same, value]
        rfl
      · rw [differs]
        exact ih keys earlier entry old

theorem gather_gathers : Gathers pairs (gather pairs []) where
  distinct := by
    refine List.Pairwise.imp_of_mem (fun {a b} member _ differ => ?_) (gather_keyed keys).2
    rwa [← (isSettled_of_mem_gather settled member).2]
  keys := keys_gather keys settled
  values := values_gather keys settled

end

/-! ## Lists of values that can occur in a run -/

theorem isMarked_lenient : Lenient isMarked where
  bool _ := rfl
  int _ := rfl
  text _ := rfl
  list _ := rfl
  dict _ _ := rfl

theorem forall_pairs {items : List Value} {pairs : List (Value × Value)} {motive : Value × Value → Prop}
    (paired : List.Forall₂ IsPair items pairs)
    (each : ∀ item ∈ items, ∀ pair, item.IsPair pair → motive pair) : ∀ pair ∈ pairs, motive pair := by
  induction paired with
  | nil => simp
  | cons head _ ih =>
      obtain ⟨first, others⟩ := List.forall_mem_cons.mp each
      exact List.forall_mem_cons.mpr ⟨first _ head, ih others⟩

variable {v : Value} {items : List Value} {pairs : List (Value × Value)}

theorem Lenient.all_key {test : Value → Bool} (lenient : Lenient test) (whole : v.all test = true)
    (list : v.core = .list items) (paired : List.Forall₂ IsPair items pairs) :
    ∀ pair ∈ pairs, pair.1.all test = true := by
  have core := all_core whole
  rw [list] at core
  refine forall_pairs paired fun item member pair isPair => ?_
  exact lenient.all_items ((all_iff.mp core).2 item member) isPair.1 _ List.mem_cons_self

theorem isKey_of_isPair {p : Protocol} (genuine : p.Genuine v) (list : v.core = .list items)
    (paired : List.Forall₂ IsPair items pairs) : ∀ pair ∈ pairs, p.IsKey pair.1 := by
  have hashable : ∀ pair ∈ pairs, pair.1.keyFault?.isNone = true :=
    forall_pairs paired fun _ _ _ isPair => isPair.2
  exact fun pair member => ⟨p.isWellMade_lenient.all_key genuine list paired pair member, hashable pair member⟩

theorem isSettled_of_isPair {p : Protocol} (genuine : p.Genuine v) (marked : v.all isMarked = true)
    (list : v.core = .list items) (paired : List.Forall₂ IsPair items pairs)
    (numbers : ∀ pair ∈ pairs, pair.1.core.isNotNaN = true) : ∀ pair ∈ pairs, pair.1.IsSettled := by
  intro pair member
  have marked := isMarked_lenient.all_key marked list paired pair member
  exact ⟨agrees_self (isKey_of_isPair genuine list paired pair member).1 marked,
    agrees_eq_equals (nanMark?_of_isNotNaN (numbers pair member))⟩

theorem toEntries_of_entries {p : Protocol} {entries : List (Value × Value)} (keyed : p.Keyed entries) :
    (Value.list (entries.map fun entry => .tuple [entry.1, entry.2])).toEntries = .ok entries := by
  have paired : List.Forall₂ IsPair (entries.map fun entry => .tuple [entry.1, entry.2]) entries := by
    refine List.forall₂_map_left_iff.mpr (List.forall₂_same.mpr fun entry member => ?_)
    exact ⟨rfl, (keyed.1 entry member).2⟩
  rw [toEntries_of_list rfl, insertPairs_of_isPair paired]
  exact congrArg _ (gather_of_distinct keyed.2)

end Value

/-! ## The statement -/

open Protocol Value

theorem decode_dictWrapper {p : Protocol} {type : TypeName} {name : String}
    (declared : p.declaration? type = some (.wrapper name .dict)) (v : Value) :
    p.decode type v = (fun entries => .wrapped type (.dict entries)) <$> v.toEntries := by
  refine (@decodeItem_wrapper p ⟨type, false⟩ name .dict rfl declared v).trans ?_
  show Value.wrapped type <$> Value.dict <$> v.toEntries = _
  cases v.toEntries <;> rfl

/-- Wherever a list is read as a dictionary, the first item that is no key with its value decides how it is
refused. If there is none, the dictionary has the keys that differ, as they come first, with the values that
come last, and is made anew from its own entries. -/
theorem list_read_as_dictionary {v : Value} {items : List Value} (list : v.core = .list items)
    (genuine : protocol.Genuine v) (marked : v.all isMarked = true) :
    (∀ type ∈ [⟨"network", "Headers"⟩, ⟨"tracing", "MemoryDumpConfig"⟩],
      protocol.decode type v = (fun entries => .wrapped type (.dict entries)) <$> v.toEntries) ∧
    (∀ (m : Value) (slot : Slot), slot.shape = .one .dict → m.entry slot.key = .ok v →
      decodeSlotWith m (protocol.entryDecoder m) slot = .dict <$> v.toEntries) ∧
    protocol.decodeItem v .dict = .dict <$> v.toEntries ∧
    (∀ fault, v.toEntries = .error fault ↔ ∃ before item after, items = before ++ item :: after ∧
      (∀ i ∈ before, ∀ index other, ¬ PairRefusal index i other) ∧
      PairRefusal before.length item fault) ∧
    ((∀ item ∈ items, ∀ index fault, ¬ PairRefusal index item fault) →
      ∃ pairs, List.Forall₂ IsPair items pairs) ∧
    (∀ pairs, List.Forall₂ IsPair items pairs → ∃ entries, v.toEntries = .ok entries ∧
      ((∀ pair ∈ pairs, pair.1.core.isNotNaN = true) → Gathers pairs entries ∧
        (Value.list (entries.map fun entry => .tuple [entry.1, entry.2])).toEntries = .ok entries)) := by
  have item : protocol.decodeItem v .dict = .dict <$> v.toEntries := protocol.decodeItem_eq v .dict
  refine ⟨?_, ?_, item, fun fault => ?_, fun accepted => ?_, fun pairs paired => ?_⟩
  · simp only [List.forall_mem_cons]
    exact ⟨decode_dictWrapper rfl v, decode_dictWrapper rfl v, by simp⟩
  · intro m slot shape found
    rw [decodeSlot_of_asked (fun _ => holds_of_entry found) (by rw [shape]; rfl), found, shape]
    exact item
  · rw [toEntries_of_list list, insertPairs_error]
    simp only [exists_isPair_iff, Nat.zero_add]
  · exact exists_pairs fun item member => exists_isPair_iff.mpr (accepted item member)
  · refine ⟨gather pairs [], ?_, fun numbers => ?_⟩
    · rw [toEntries_of_list list, insertPairs_of_isPair paired]
    · have keys := isKey_of_isPair genuine list paired
      have settled := isSettled_of_isPair genuine marked list paired numbers
      exact ⟨gather_gathers keys settled, toEntries_of_entries (gather_keyed keys)⟩

-- A wrapped key is the same key. A text of two characters is a key with its value.
def mixedPairs : List Value :=
  [ .list [.text "a", .int 1], .text "xy", .tuple [.wrapped ⟨"page", "FrameId"⟩ (.text "a"), .null] ]

theorem mixedPairs_paired : List.Forall₂ IsPair mixedPairs
    [(.text "a", .int 1), (.text "x", .text "y"), (.wrapped ⟨"page", "FrameId"⟩ (.text "a"), .null)] :=
  .cons ⟨rfl, rfl⟩ (.cons ⟨rfl, rfl⟩ (.cons ⟨rfl, rfl⟩ .nil))

-- The fourth item has a list for a key; the fifth is no pair and is never looked at.
def faultyPairs : List Value :=
  mixedPairs ++ [Value.list [.list [], .null], .null]

theorem list_read_as_dictionary_mixedPairs :
    protocol.decode ⟨"network", "Headers"⟩ (.list mixedPairs) =
      .ok (.wrapped ⟨"network", "Headers"⟩ (.dict [(.text "a", .null), (.text "x", .text "y")])) ∧
    (∃ pairs, List.Forall₂ IsPair mixedPairs pairs ∧
      Gathers pairs [(.text "a", .null), (.text "x", .text "y")]) ∧
    protocol.decode ⟨"tracing", "MemoryDumpConfig"⟩ (.list faultyPairs) = .error (.unhashable "list") := by
  obtain ⟨headers, -, -, -, -, made⟩ := @list_read_as_dictionary (.list mixedPairs) _ rfl rfl rfl
  obtain ⟨config, -, -, refused, -⟩ := @list_read_as_dictionary (.list faultyPairs) _ rfl rfl rfl
  obtain ⟨entries, read, gathers⟩ := made _ mixedPairs_paired
  obtain rfl : [(.text "a", .null), (.text "x", .text "y")] = entries := by
    cases read
    rfl
  refine ⟨?_, ⟨_, mixedPairs_paired, (gathers (by decide)).1⟩, ?_⟩
  · rw [headers _ List.mem_cons_self, read]
    rfl
  · have paired : ∀ item ∈ mixedPairs, ∃ pair, item.IsPair pair := by
      simp only [mixedPairs, List.forall_mem_cons]
      exact ⟨⟨(_, _), rfl, rfl⟩, ⟨(_, _), rfl, rfl⟩, ⟨(_, _), rfl, rfl⟩, by simp⟩
    have fault := (refused (.unhashable "list")).mpr ⟨mixedPairs, _, [.null], rfl,
      fun item member => exists_isPair_iff.mp (paired item member), .unhashable rfl rfl⟩
    rw [config _ (List.mem_cons_of_mem _ List.mem_cons_self), fault]
    rfl

end DevTools
