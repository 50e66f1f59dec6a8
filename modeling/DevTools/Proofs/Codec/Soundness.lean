import DevTools.Catalogue
import DevTools.Proofs.Codec.Provenance

namespace DevTools

namespace Protocol

variable {p : Protocol}

theorem genuine_of_converted {v : Value}
    (converted : v.all p.isWellMade = true ∨ ∃ x, v = .float x ∧ x.unmarked = x) : p.Genuine v := by
  rcases converted with genuine | ⟨x, rfl, -⟩
  · exact genuine
  · rfl

theorem genuine_source (p : Protocol) : Source p p.Genuine p.Genuine where
  genuine whole := whole
  entry whole found := Value.all_entry whole found
  items whole found := p.isWellMade_lenient.all_items whole found
  primitive whole converted :=
    genuine_of_converted (Primitive.convert_all p.isWellMade_lenient whole converted)
  base whole converted :=
    genuine_of_converted (Base.convert_all p.isWellMade_lenient whole converted)

theorem Reading.sound {isOptional : Bool} {shape : Shape} {m? : Option Value} {v : Value}
    (reading : Reading p isOptional shape m? v) (genuine : ∀ m, m? = some m → p.Genuine m) :
    p.Genuine v ∧ p.WellTyped isOptional shape v ∧ Mirrors p isOptional shape m? v := by
  have typed := reading.typed p.genuine_source genuine
  refine ⟨typed.genuine fun _ inside => inside, ?_, reading.mirrors genuine⟩
  exact typed.mono (fun _ _ => trivial) fun _ _ => trivial

end Protocol

open Protocol

/-- Decoding is sound for every type and event, and for every command that returns. -/
theorem decoding_sound {m : Value} (genuine : protocol.Genuine m) :
    (∀ type o, protocol.decode type m = .ok o →
      protocol.Genuine o ∧ protocol.WellTyped false (.ofType type) o ∧
        Mirrors protocol false (.ofType type) (some m) o) ∧
    (∀ scope name command result exchange, protocol.command? scope name = some command →
      Exchange.resume protocol m (.requested command) = (.result result, exchange) →
      ∃ values, result = Command.resultOf values ∧ command.returns.length = values.length ∧
        ∀ pair ∈ command.returns.zip values, pair.1.Presence m pair.2 ∧ protocol.Genuine pair.2 ∧
          protocol.WellTyped pair.1.isOptional pair.1.shape pair.2 ∧
          Mirrors protocol pair.1.isOptional pair.1.shape (m.entry? pair.1.key) pair.2) := by
  constructor
  · intro type o h
    have reading : Reading protocol false (.ofType type) (some m) o := decodeItem_reading h
    refine reading.sound ?_
    rintro _ ⟨⟩
    exact genuine
  · intro scope name command result exchange _ h
    simp only [Exchange.resume] at h
    split at h
    · rename_i value returned
      cases h
      obtain ⟨values, read, made⟩ := bind_ok.mp returned
      obtain ⟨length, readings⟩ := decodeSlots_reading read
      refine ⟨values, (pure_ok.mp made).symm, length, ?_⟩
      intro pair member
      obtain ⟨missing, reading⟩ := readings pair member
      refine ⟨reading.presence genuine missing, reading.sound fun w found => ?_⟩
      exact Value.all_entry genuine (Value.entry?_eq_some.mp found)
    · cases h

def looseLocation : Value :=
  .dict [ (.text "scriptId", .int 5), (.text "lineNumber", .text "7"),
    (.text "scriptSource", .list []) ]

theorem decoding_sound_looseLocation :
    protocol.Genuine looseLocation ∧
    (∃ o, protocol.decode ⟨"debugger", "Location"⟩ looseLocation = .ok o ∧
      protocol.Genuine o ∧ protocol.WellTyped false (.ofType ⟨"debugger", "Location"⟩) o ∧
        Mirrors protocol false (.ofType ⟨"debugger", "Location"⟩) (some looseLocation) o) ∧
    ∃ command, protocol.command? "debugger" "get_script_source" = some command ∧
      ∃ values, (Exchange.resume protocol looseLocation (.requested command)).1 =
          .result (Command.resultOf values) ∧
        ∀ pair ∈ command.returns.zip values,
          protocol.WellTyped pair.1.isOptional pair.1.shape pair.2 := by
  have genuine : protocol.Genuine looseLocation := rfl
  refine ⟨genuine, ⟨_, rfl, (decoding_sound genuine).1 _ _ rfl⟩, _, rfl, ?_⟩
  obtain ⟨values, equal, -, sound⟩ :=
    (decoding_sound genuine).2 "debugger" "get_script_source" _ _ _ rfl rfl
  exact ⟨values, by rw [← equal]; rfl, fun pair member => (sound pair member).2.2.1⟩

end DevTools
