import DevTools.Proofs.Codec.Typing
import DevTools.Proofs.Store.Adoption

namespace DevTools

/-! ## New numbers -/

namespace Binary64

theorem unmarked_unmarked (x : Binary64) : x.unmarked.unmarked = x.unmarked := by
  cases x <;> rfl

theorem unmarked_pack (negative : Bool) (significand exponent : Nat) :
    (pack negative significand exponent).unmarked = pack negative significand exponent := by
  unfold pack
  split <;> rfl

theorem unmarked_ofRatio (negative : Bool) (num den : Nat) :
    (ofRatio negative num den).unmarked = ofRatio negative num den := by
  unfold ofRatio
  simp only
  split <;> exact unmarked_pack _ _ _

theorem unmarked_ofDecimal (negative : Bool) (digits : Nat) (exponent : Int) :
    (ofDecimal negative digits exponent).unmarked = ofDecimal negative digits exponent := by
  unfold ofDecimal
  simp only
  split
  · rfl
  · split
    · rfl
    · exact unmarked_ofRatio _ _ _

end Binary64

namespace Numeral

theorem unmarked_decimal? {negative : Bool} {cs : List Char} {x : Binary64}
    (read : decimal? negative cs = some x) : x.unmarked = x := by
  unfold decimal? at read
  simp only at read
  split at read
  all_goals
    split at read
    · cases read
    · obtain ⟨exponent, -, made⟩ := Option.bind_eq_some_iff.mp read
      rw [← Option.some.inj made]
      exact Binary64.unmarked_ofDecimal _ _ _

theorem unmarked_binary64? {text : String} {x : Binary64} (read : binary64? text = some x) :
    x.unmarked = x := by
  unfold binary64? at read
  simp only at read
  split at read
  · cases read
  · split at read
    · rw [← Option.some.inj read]
      rfl
    · split at read
      · rw [← Option.some.inj read]
        rfl
      · exact unmarked_decimal? read

end Numeral

namespace Value

variable {test : Value → Bool}

theorem unmarked_finiteOnly {x y : Binary64} (made : finiteOnly y = .ok x) : x.unmarked = x := by
  cases y with
  | finite y =>
      cases made
      rfl
  | infinite negative => cases made
  | nan mark => cases made

theorem toNumber_ok {v : Value} {x : Binary64} (made : v.toNumber = .ok x) :
    v = .float x ∨ x.unmarked = x := by
  unfold toNumber at made
  split at made
  · cases made
    exact .inl rfl
  · cases made
    exact .inr (Binary64.unmarked_unmarked _)
  · right
    split at made
    · exact unmarked_finiteOnly made
    · exact unmarked_finiteOnly made
    · split at made
      · rename_i read
        cases made
        exact Numeral.unmarked_binary64? read
      · cases made
    · cases made

def isData : Value → Bool
  | member _ _ _ => false
  | object _ _ _ => false
  | _ => true

def isBare (v : Value) : Bool :=
  v.all isData

theorem isData_lenient : Lenient isData where
  bool _ := rfl
  int _ := rfl
  text _ := rfl
  list _ := rfl
  dict _ _ := rfl

end Value

/-! ## Contents -/

section Conversion

variable {test : Value → Bool} {m v : Value}

theorem Primitive.convert_all {kind : Primitive} (lenient : Value.Lenient test)
    (whole : m.all test = true) (converted : kind.convert m = .ok v) :
    v.all test = true ∨ ∃ x, v = .float x ∧ x.unmarked = x := by
  cases kind with
  | text =>
      obtain ⟨s, -, rfl⟩ := map_ok.mp converted
      exact .inl (lenient.text s)
  | boolean =>
      cases converted
      exact .inl (lenient.bool _)
  | any =>
      cases converted
      exact .inl whole
  | integer =>
      obtain ⟨n, -, rfl⟩ := map_ok.mp converted
      exact .inl (lenient.int n)
  | number =>
      obtain ⟨x, made, rfl⟩ := map_ok.mp converted
      rcases Value.toNumber_ok made with rfl | new
      · exact .inl whole
      · exact .inr ⟨x, rfl, new⟩
  | dict =>
      obtain ⟨entries, made, rfl⟩ := map_ok.mp converted
      exact .inl (lenient.all_toEntries whole made)

theorem Base.convert_all {base : Base} (lenient : Value.Lenient test) (whole : m.all test = true)
    (converted : base.convert m = .ok v) :
    v.all test = true ∨ ∃ x, v = .float x ∧ x.unmarked = x := by
  cases base with
  | text =>
      obtain ⟨s, -, rfl⟩ := map_ok.mp converted
      exact .inl (lenient.text s)
  | integer =>
      obtain ⟨n, -, rfl⟩ := map_ok.mp converted
      exact .inl (lenient.int n)
  | number =>
      obtain ⟨x, -, rfl⟩ := map_ok.mp converted
      exact .inr ⟨x.unmarked, rfl, x.unmarked_unmarked⟩
  | list =>
      obtain ⟨items, made, rfl⟩ := map_ok.mp converted
      exact .inl (lenient.all_list whole made)
  | dict =>
      obtain ⟨entries, made, rfl⟩ := map_ok.mp converted
      exact .inl (lenient.all_toEntries whole made)

end Conversion

theorem Primitive.admits_adopt {kind : Primitive} {v : Value} (admitted : kind.admits v = true)
    (t : Store) : kind.admits (t.adopt v).1 = true := by
  cases kind with
  | any => rfl
  | number =>
      cases v with
      | float x =>
          cases x with
          | nan mark => cases mark <;> rfl
          | _ => rfl
      | _ => cases admitted
  | _ => cases v <;> first | rfl | cases admitted

theorem Base.admits_adopt {base : Base} {v : Value} (admitted : base.admits v = true)
    (t : Store) : base.admits (t.adopt v).1 = true := by
  cases base with
  | number =>
      cases v with
      | float x =>
          cases x with
          | nan mark => cases mark <;> rfl
          | _ => rfl
      | _ => cases admitted
  | _ => cases v <;> first | rfl | cases admitted

namespace Protocol

variable {p : Protocol} {s u : Store} {bare : Bool}

structure Message (p : Protocol) (s : Store) (bare : Bool) (m : Value) : Prop where
  genuine : p.Genuine m
  known : s.Knows m
  bare : bare = true → m.isBare = true

def Content (p : Protocol) (s : Store) (bare : Bool) (v : Value) : Prop :=
  p.Message s bare v ∨ v = .float (.nan none)

theorem Message.float {x : Binary64} (known : s.isKnown (.float x) = true) :
    p.Message s bare (.float x) where
  genuine := rfl
  known := Value.all_iff.mpr ⟨known, by simp [Value.parts]⟩
  bare _ := rfl

theorem Content.of_convert {m v : Value} (message : p.Message s bare m)
    (converted : ∀ test, Value.Lenient test → m.all test = true →
      v.all test = true ∨ ∃ x, v = .float x ∧ x.unmarked = x) : p.Content s bare v := by
  -- Of the new numbers only NaN has an identity, which the store is yet to give.
  by_cases new : ∃ x, v = .float x ∧ x.unmarked = x
  · obtain ⟨x, rfl, unmarked⟩ := new
    cases x with
    | nan mark =>
        cases mark with
        | none => exact .inr rfl
        | some n => cases unmarked
    | finite y => exact .inl (.float rfl)
    | infinite negative => exact .inl (.float rfl)
  · refine .inl ⟨?_, ?_, fun isBare => ?_⟩
    · exact (converted _ p.isWellMade_lenient message.genuine).resolve_right new
    · exact (converted _ s.isKnown_lenient message.known).resolve_right new
    · exact (converted _ Value.isData_lenient (message.bare isBare)).resolve_right new

theorem message_source : Source p (p.Message s bare) (p.Content s bare) where
  genuine message := message.genuine
  entry message found :=
    { genuine := Value.all_entry message.genuine found
      known := Value.all_entry message.known found
      bare := fun isBare => Value.all_entry (message.bare isBare) found }
  items message found x member :=
    { genuine := p.isWellMade_lenient.all_items message.genuine found x member
      known := s.isKnown_lenient.all_items message.known found x member
      bare := fun isBare => Value.isData_lenient.all_items (message.bare isBare) found x member }
  primitive message converted :=
    .of_convert message fun _ lenient whole => Primitive.convert_all lenient whole converted
  base message converted :=
    .of_convert message fun _ lenient whole => Base.convert_all lenient whole converted

theorem Content.adopted {t : Store} {v : Value} (after : s.Grows t)
    (before : (t.adopt v).2.Grows u) (content : p.Content s bare v) :
    p.Message u bare (t.adopt v).1 := by
  rcases content with message | rfl
  · have known := message.known.mono after
    rw [Store.adopt_of_knows known] at before ⊢
    exact ⟨message.genuine, known.mono before, message.bare⟩
  · have marked : t.marks < u.marks := before.marks
    exact .float (decide_eq_true marked)

theorem Reading.typed_adopt {isOptional : Bool} {shape : Shape} {m? : Option Value} {v : Value}
    (reading : Reading p isOptional shape m? v) (whole : ∀ m, m? = some m → p.Message s bare m)
    {t : Store} (after : s.Grows t) (before : (t.adopt v).2.Grows u) :
    Typed p (p.Message u bare) (·.selfNamed = false) isOptional shape (t.adopt v).1 ∧
      u.Knows (t.adopt v).1 := by
  induction reading generalizing t with
  | missing => exact ⟨.missing, rfl⟩
  | primitive converted =>
      have message := (message_source.primitive (whole _ rfl) converted).adopted after before
      have admitted := Primitive.admits_adopt (Primitive.admits_of_convert converted) t
      exact ⟨.primitive admitted message, message.known⟩
  | @wrapper _ ref name base m v resolved declared converted =>
      have inner : (t.adopt v).2.Grows u := before
      have message := (message_source.base (whole _ rfl) converted).adopted after inner
      have admitted := Base.admits_adopt (Base.admits_of_convert converted) t
      refine ⟨.wrapper resolved declared admitted message, Value.all_iff.mpr ⟨rfl, ?_⟩⟩
      intro w member
      rw [List.mem_singleton.mp member]
      exact message.known
  | member resolved declared decoded =>
      obtain ⟨member, wire, rfl, canonical⟩ :=
        decodeMember_ok declared (whole _ rfl).genuine decoded
      exact ⟨.member resolved declared canonical, rfl⟩
  | @object _ ref fields m values resolved declared names _ _ ih =>
      have numbered := (t.adoptFields_grows_object ref.target values).trans before
      have each := Store.adoptFields_forall
        (fun (field : Field) w =>
          Typed p (p.Message u bare) (·.selfNamed = false) field.isOptional field.shape w ∧ u.Knows w)
        (fun pair member t' after' before' => ih pair member
          (fun w found => message_source.entry? (whole _ rfl) found) after' before')
        after numbered
      have names' := (t.adoptFields_names values).trans names
      refine ⟨.object resolved declared names' fun pair member => (each pair member).1, ?_⟩
      -- The object is numbered last, after its fields.
      refine Value.all_iff.mpr ⟨decide_eq_true (Nat.lt_of_lt_of_le ?_ before.objects), ?_⟩
      · simp
      · intro w member
        obtain ⟨held, inside, rfl⟩ := List.mem_map.mp member
        obtain ⟨field, paired⟩ := exists_mem_zip_right (length_of_names names') inside
        exact (each _ paired).2
  | @list _ item m items values hitems length _ ih =>
      have part : ∀ v ∈ values, ∀ t : Store, s.Grows t → (t.adopt v).2.Grows u →
          Typed p (p.Message u bare) (·.selfNamed = false) false (.one item) (t.adopt v).1 ∧
            u.Knows (t.adopt v).1 := by
        intro v inside t' after' before'
        obtain ⟨x, member⟩ := exists_mem_zip_right length inside
        refine ih _ member (fun y equal => ?_) after' before'
        cases equal
        exact message_source.items (whole m rfl) hitems x (List.of_mem_zip member).1
      have each := Store.adoptItems_forall (motive := fun w =>
        Typed p (p.Message u bare) (·.selfNamed = false) false (.one item) w ∧ u.Knows w)
        part after before
      exact ⟨.list fun w member => (each w member).1,
        Value.all_iff.mpr ⟨rfl, fun w member => (each w member).2⟩⟩

end Protocol

end DevTools
