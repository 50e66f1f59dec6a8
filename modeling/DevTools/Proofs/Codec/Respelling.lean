import DevTools.Proofs.Codec.Nulls
import DevTools.Proofs.Number.Decimal

namespace DevTools

open Text Numeral

namespace Value

def spelled (before : List Char) (n : Int) (after : List Char) : Value :=
  text (String.ofList (before ++ (int n).plain.toList ++ after))

theorem toInteger_spelled (n : Int) {before after : List Char}
    (blank : ∀ c ∈ before ++ after, isBlank c = true)
    (short : (Nat.toDigits 10 n.natAbs).length ≤ maxDigits) :
    (spelled before n after).toInteger =
      if (before ++ after).any isSeparator then .error (.malformedInteger 10 (spelled before n after))
      else .ok n := by
  have read := integer_padded n blank short
  show parseInteger _ 10 (String.ofList (before ++ (toString n).toList ++ after)) = _
  rw [parseInteger, read]
  cases (before ++ after).any isSeparator <;> rfl

inductive Spells : Int → Value → Prop
  | mk {n : Int} {before after : List Char} :
      (Nat.toDigits 10 n.natAbs).length ≤ maxDigits →
      (∀ c ∈ before ++ after, isBlank c = true ∧ isSeparator c = false) →
      Spells n (spelled before n after)

theorem Spells.toInteger {n : Int} {v : Value} (spells : Spells n v) : v.toInteger = .ok n := by
  obtain ⟨short, around⟩ := spells
  rw [toInteger_spelled n (fun c member => (around c member).1) short, if_neg]
  intro separated
  obtain ⟨c, member, separator⟩ := List.any_eq_true.mp separated
  rw [(around c member).2] at separator
  cases separator

end Value

/-! ## The place of an integer in a message -/

/-- One integer that is read at the shape is put into digits. -/
inductive Respelled (p : Protocol) : Shape → Value → Value → Prop
  | integer {n : Int} {v : Value} : Value.Spells n v → Respelled p (.one .integer) (.int n) v
  | wrapper {ref : Reference} {name : String} {n : Int} {v : Value} :
      p.declaration? ref.target = some (.wrapper name .integer) → Value.Spells n v →
      Respelled p (.one (.reference ref)) (.int n) v
  | entry {ref : Reference} {fields : List Field} {field : Field} {m m' key v v' : Value}
      (before : List (Value × Value)) {after : List (Value × Value)} :
      p.fields? ref.target = some fields → field ∈ fields → key.isText field.key = true →
      m.core = .dict (before ++ (key, v) :: after) → m'.core = .dict (before ++ (key, v') :: after) →
      Respelled p field.shape v v' → Respelled p (.one (.reference ref)) m m'
  | item {item : Item} {m m' v v' : Value} (before : List Value) {after : List Value} :
      m.items = .ok (before ++ v :: after) → m'.items = .ok (before ++ v' :: after) →
      Respelled p (.one item) v v' → Respelled p (.many item) m m'

namespace Respelled

open Protocol

theorem decodeShape {shape : Shape} {m m' : Value} (respelled : Respelled protocol shape m m') :
    protocol.decodeShape m shape = protocol.decodeShape m' shape := by
  induction respelled with
  | integer spells =>
      show protocol.decodeItem _ .integer = protocol.decodeItem _ .integer
      rw [decodeItem_eq, decodeItem_eq]
      show Value.int <$> Value.toInteger _ = Value.int <$> Value.toInteger _
      rw [spells.toInteger]
      rfl
  | @wrapper ref name n v declared spells =>
      show protocol.decodeItem _ _ = protocol.decodeItem _ _
      cases named : ref.selfNamed with
      | true => simp only [decodeItem_eq, decodeItemWith, named, ↓reduceIte]
      | false =>
          rw [decodeItem_wrapper named declared, decodeItem_wrapper named declared, Base.convert,
            Base.convert, spells.toInteger]
          rfl
  | @entry ref fields field m m' key v v' before after found member named dict dict' _ ih =>
      refine decodeShape_reference_congr found (List.forall_mem_map.mpr fun other listed => ?_)
      rw [decodeSlot_eq dict, decodeSlot_eq dict']
      refine decodeFound_entry fun also => ?_
      -- No two fields of a type are read from one key.
      have keys : other.key = field.key := by
        rcases Value.eq_of_isText also with rfl | ⟨type, rfl⟩ <;>
          simpa [Value.isText, Value.core] using named
      rw [List.inj_on_of_nodup_map (fields?_distinct found).2 listed member keys]
      exact ih
  | item before items items' _ ih => exact decodeShape_many_congr items items' ih

end Respelled

/-! ## The statement -/

-- A separator is a blank, but it is not passed over.
theorem separator_refused :
    isBlank '\x1c' = true ∧
    protocol.decode ⟨"dom", "NodeId"⟩ (.int 5) = .ok (.wrapped ⟨"dom", "NodeId"⟩ (.int 5)) ∧
    protocol.decode ⟨"dom", "NodeId"⟩ (.text "\x1c5") =
      .error (.malformedInteger 10 (.text "\x1c5")) :=
  ⟨rfl, rfl, rfl⟩

/-- An integer of no more digits than a numeral may have is read back from its digits with blanks around
them, and refused if one of the blanks is a separator. So a message is read as before when one of its
integers is put into digits, at any depth, and if it cannot be read the fault is the same. -/
theorem integers_read_from_digits :
    (∀ (n : Int) (before after : List Char), (∀ c ∈ before ++ after, isBlank c = true) →
      (Nat.toDigits 10 n.natAbs).length ≤ maxDigits →
      (Value.spelled before n after).toInteger =
        if (before ++ after).any isSeparator then
          .error (.malformedInteger 10 (Value.spelled before n after))
        else .ok n) ∧
    (∀ type m m', Respelled protocol (.one (.reference ⟨type, false⟩)) m m' →
      protocol.decode type m = protocol.decode type m') :=
  ⟨fun n _ _ blank short => Value.toInteger_spelled n blank short,
    fun _ _ _ respelled => respelled.decodeShape⟩

def frameAt (line : Value) : Value :=
  .dict [(.text "functionName", .text "f"), (.text "scriptId", .int 7), (.text "url", .text ""),
    (.text "lineNumber", line), (.text "columnNumber", .int 3)]

def traceAt (line : Value) : Value :=
  .dict [(.text "callFrames", .list []),
    (.text "parent", .dict [(.text "callFrames", .list [frameAt (.int 0), frameAt line])])]

theorem integers_read_from_digits_traceAt :
    protocol.decode ⟨"runtime", "StackTrace"⟩ (traceAt (.int (-12))) =
      protocol.decode ⟨"runtime", "StackTrace"⟩ (traceAt (.text "\t-12\u3000")) ∧
    ∃ v, protocol.decode ⟨"runtime", "StackTrace"⟩ (traceAt (.text "\t-12\u3000")) = .ok v := by
  have spells : Value.Spells (-12) (.text "\t-12\u3000") :=
    @Value.Spells.mk (-12) ['\t'] ['\u3000'] (by decide)
      (List.forall_mem_cons.mpr ⟨by decide, List.forall_mem_singleton.mpr (by decide)⟩)
  have line : Respelled protocol (.one (.ref "runtime" "CallFrame")) (frameAt (.int (-12)))
      (frameAt (.text "\t-12\u3000")) :=
    .entry [_, _, _] rfl (.tail _ (.tail _ (.tail _ (.head _)))) rfl rfl rfl (.integer spells)
  have frames : Respelled protocol (.one (.ref "runtime" "StackTrace"))
      (.dict [(.text "callFrames", .list [frameAt (.int 0), frameAt (.int (-12))])])
      (.dict [(.text "callFrames", .list [frameAt (.int 0), frameAt (.text "\t-12\u3000")])]) :=
    .entry [] rfl (.head _) rfl rfl rfl (.item [frameAt (.int 0)] rfl rfl line)
  refine ⟨integers_read_from_digits.2 _ _ _ ?_, ⟨_, rfl⟩⟩
  exact .entry [_] rfl (.tail _ (.tail _ (.head _))) rfl rfl rfl frames

end DevTools
