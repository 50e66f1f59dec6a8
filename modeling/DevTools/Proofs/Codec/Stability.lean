import DevTools.Proofs.Codec.Provenance
import DevTools.Proofs.Codec.Renewal

namespace DevTools

namespace Protocol

variable {p : Protocol} {content : Value → Prop} {usable : Reference → Prop} {s : Store} {bare : Bool}

theorem Typed.all_written (regular : p.IsRegular) {test : Value → Bool}
    (data : ∀ v, v.isData = true → test v = true) (contents : ∀ v, content v → v.all test = true)
    {isOptional : Bool} {shape : Shape} {v j : Value}
    (typed : Typed p content usable isOptional shape v) (writable : p.isWritableShape shape = true)
    (filled : (isOptional && v.isNull) = false) (written : p.encodeShape shape v = .ok j) :
    j.all test = true := by
  induction typed generalizing j with
  | missing => cases filled
  | primitive _ inside =>
      cases written
      exact contents _ inside
  | wrapper _ _ _ inside =>
      cases written
      refine Value.all_iff.mpr ⟨data _ rfl, fun w member => ?_⟩
      rw [List.mem_singleton.mp member]
      exact contents _ inside
  | member =>
      cases written
      exact data _ rfl
  | @object _ ref fields values id _ found names _ ih =>
      obtain ⟨name, declared⟩ := fields?_of_isWritable found writable
      have record := regular _ _ _ declared
      simp only [encodeShape, encode_object declared] at written
      obtain ⟨entries, all, rfl⟩ := map_ok.mp written
      refine Value.all_iff.mpr ⟨data _ rfl, fun w member => ?_⟩
      obtain ⟨entry, inside, side⟩ := Value.mem_parts_dict.mp member
      obtain ⟨field, listed, key, held⟩ := mem_encodeFieldsWith all entry inside
      rcases side with rfl | rfl
      · rw [key]
        exact data _ rfl
      · obtain ⟨value, paired⟩ := exists_mem_zip (length_of_names names) listed
        rw [encodeField_eq, lookup_of_mem_zip names record.names paired] at held
        obtain ⟨filled, shape⟩ := encodeSlot_some held
        exact ih _ paired (record.writable _ listed) filled shape
  | list _ ih =>
      obtain ⟨js, rfl, length, steps⟩ := encodeShape_list written
      refine Value.all_iff.mpr ⟨data _ rfl, fun w member => ?_⟩
      obtain ⟨v, inside⟩ := exists_mem_zip_right length member
      exact ih v (List.of_mem_zip inside).1 writable rfl (steps _ inside)

theorem Typed.isBare_written (regular : p.IsRegular) (contents : ∀ v, content v → v.isBare = true)
    {isOptional : Bool} {shape : Shape} {v j : Value}
    (typed : Typed p content usable isOptional shape v) (writable : p.isWritableShape shape = true)
    (filled : (isOptional && v.isNull) = false) (written : p.encodeShape shape v = .ok j) :
    j.isBare = true :=
  typed.all_written regular (fun _ data => data) contents writable filled written

/-! ## NaNs -/

/-- A wrapper that was read for the shape, or inside it, holds NaN. -/
inductive WrapsNaN (p : Protocol) : Shape → Value → Prop
  | wrapper {ref : Reference} {mark : Option Nat} :
      WrapsNaN p (.one (.reference ref)) (.wrapped ref.target (.float (.nan mark)))
  | object {ref : Reference} {fields : List Field} {values : List (String × Value)} {id : Option Nat}
      {pair : Field × (String × Value)} :
      p.fields? ref.target = some fields → pair ∈ fields.zip values →
      WrapsNaN p pair.1.shape pair.2.2 →
      WrapsNaN p (.one (.reference ref)) (.object ref.target values id)
  | list {item : Item} {values : List Value} {v : Value} :
      v ∈ values → WrapsNaN p (.one item) v → WrapsNaN p (.many item) (.list values)

end Protocol

namespace Value

theorem agrees_new_nan {s t : Store} {mark : Option Nat} (known : s.Knows (float (.nan mark)))
    (after : s.Grows t) : agrees (t.adopt (float (.nan none))).1 (float (.nan mark)) = false := by
  cases mark with
  | none => cases known
  | some m =>
      have marked : m < s.marks := of_decide_eq_true known
      have differs : t.marks ≠ m := by
        have := after.marks
        omega
      have different : (t.marks == m) = false := beq_false_of_ne differs
      simpa [Store.adopt, agrees, isSameNaN, nanMark?, core, equals, sameAmount, amount?,
        Binary64.amount?] using different

theorem remade_of_ne_nan {v : Value} (other : ∀ mark, v ≠ float (.nan mark)) : v.remade = v := by
  cases v with
  | float x =>
      cases x with
      | nan mark => exact absurd rfl (other mark)
      | _ => rfl
  | _ => rfl

theorem isSameNaN_of_ne_nan {b : Base} {v : Value} (admitted : b.admits v = true)
    (other : ∀ mark, v ≠ float (.nan mark)) (a : Value) : isSameNaN a v = false := by
  have unmarked : v.nanMark? = none := by
    cases v with
    | float x =>
        cases x with
        | nan mark => exact absurd rfl (other mark)
        | _ => rfl
    | wrapped type base => cases b <;> cases admitted
    | _ => rfl
  unfold isSameNaN
  rw [unmarked]
  cases a.nanMark? <;> rfl

end Value

namespace Store

theorem equalItems_adoptItems {s t : Store} {values again : List Value} (spoilt : Value → Prop)
    (length : values.length = again.length)
    (each : ∀ pair ∈ values.zip again, ∀ t : Store, s.Grows t →
      ((t.adopt pair.2).1.agrees pair.1 = true ↔ ¬ spoilt pair.1))
    (after : s.Grows t) :
    Value.equalItems (t.adoptItems again).1 values = true ↔ ∀ v ∈ values, ¬ spoilt v := by
  induction values generalizing again t with
  | nil =>
      rw [List.length_eq_zero_iff.mp length.symm]
      simp [adoptItems, Value.equalItems]
  | cons v rest ih =>
      cases again with
      | nil => cases length
      | cons w others =>
          simp only [List.zip_cons_cons, List.forall_mem_cons] at each
          have head := each.1 t after
          have tail := ih (Nat.succ.inj length) each.2 (after.trans (adopt_grows w t))
          simp only [Value.agrees] at head
          simp only [adoptItems_cons, Value.equalItems, Bool.and_eq_true, head, tail,
            List.forall_mem_cons]

theorem equalFields_adoptFields {s t : Store} {fields : List Field}
    {values again : List (String × Value)} (spoilt : Field → Value → Prop)
    (names : values.map (·.1) = fields.map (·.name)) (named : again.map (·.1) = fields.map (·.name))
    (each : ∀ triple ∈ fields.zip (values.zip again), ∀ t : Store, s.Grows t →
      ((t.adopt triple.2.2.2).1.agrees triple.2.1.2 = true ↔ ¬ spoilt triple.1 triple.2.1.2))
    (after : s.Grows t) :
    Value.equalFields (t.adoptFields again).1 values = true ↔
      ∀ pair ∈ fields.zip values, ¬ spoilt pair.1 pair.2.2 := by
  induction fields generalizing values again t with
  | nil =>
      rw [List.map_eq_nil_iff.mp names, List.map_eq_nil_iff.mp named]
      simp [adoptFields, Value.equalFields]
  | cons field rest ih =>
      cases values with
      | nil => cases names
      | cons held values =>
          cases again with
          | nil => cases named
          | cons new again =>
              simp only [List.map_cons, List.cons.injEq] at names named
              simp only [List.zip_cons_cons, List.forall_mem_cons] at each
              have head := each.1 t after
              have tail := ih names.2 named.2 each.2 (after.trans (adopt_grows new.2 t))
              simp only [Value.agrees] at head
              simp only [adoptFields_cons, Value.equalFields, Bool.and_eq_true, head, tail,
                List.zip_cons_cons, List.forall_mem_cons]

end Store

namespace Protocol

variable {p : Protocol} {s t : Store} {bare : Bool}

theorem Message.agrees_self {v : Value} (message : p.Message s bare v) : v.agrees v = true := by
  refine Value.agrees_self message.genuine (Value.all_mono ?_ v message.known)
  intro w known
  cases w with
  | float x =>
      cases x with
      | nan mark => cases mark <;> first | rfl | cases known
      | _ => rfl
  | _ => rfl

theorem Renewal.agrees_adopt {isOptional : Bool} {shape : Shape} {v w : Value}
    (renewal : Renewal p (p.Message s bare) isOptional shape v w) (after : s.Grows t) :
    (t.adopt w).1.agrees v = true ↔ ¬ WrapsNaN p shape v := by
  induction renewal generalizing t with
  | missing =>
      refine iff_of_true rfl ?_
      rintro ⟨⟩
  | primitive message =>
      rw [Store.adopt_of_knows (message.known.mono after)]
      refine iff_of_true message.agrees_self ?_
      rintro ⟨⟩
  | @wrapper _ ref name base v _ admitted message =>
      -- The wrapper is a new one, and with it its NaN. Anything else it holds is the same as before.
      by_cases isNaN : ∃ mark, v = .float (.nan mark)
      · obtain ⟨mark, rfl⟩ := isNaN
        refine iff_of_false ?_ (not_not_intro .wrapper)
        have new : base.admits (t.adopt (.float (.nan none))).1 = true := by
          cases base <;> first | rfl | cases admitted
        have remade : (Value.float (.nan mark)).remade = .float (.nan none) := rfl
        simp only [remade, Store.adopt_wrapped, Value.agrees_wrapped_left new,
          Value.agrees_wrapped_right admitted, Value.agrees_new_nan message.known after]
        simp
      · have other : ∀ mark, v ≠ .float (.nan mark) := fun mark equal => isNaN ⟨mark, equal⟩
        rw [Value.remade_of_ne_nan other, Store.adopt_wrapped,
          Store.adopt_of_knows (message.known.mono after), Value.agrees_wrapped_left admitted,
          Value.agrees_wrapped_right admitted]
        refine iff_of_true message.agrees_self ?_
        rintro ⟨⟩
        exact other _ rfl
  | member =>
      refine iff_of_true (by simp [Store.adopt, Value.agrees, Value.equals]) ?_
      rintro ⟨⟩
  | @object _ ref fields values again id found names named _ ih =>
      have equal := Store.equalFields_adoptFields (fun field v => WrapsNaN p field.shape v)
        names named (fun triple member t => ih triple member) after
      have fieldwise : (t.adopt (.object ref.target again none)).1.agrees
          (.object ref.target values id) = Value.equalFields (t.adoptFields again).1 values := by
        simp [Value.agrees, Value.isSameNaN, Value.nanMark?, Value.core, Value.equals]
      rw [fieldwise, equal]
      constructor
      · intro clean wraps
        cases wraps with
        | object found' member inside =>
            rw [found, Option.some.injEq] at found'
            subst found'
            exact clean _ member inside
      · intro clean pair member inside
        exact clean (.object found member inside)
  | @list _ item values again length _ ih =>
      have equal := Store.equalItems_adoptItems (WrapsNaN p (.one item)) length
        (fun pair member t => ih pair member) after
      have itemwise : (t.adopt (.list again)).1.agrees (.list values) =
          Value.equalItems (t.adoptItems again).1 values := by
        simp [Value.agrees, Value.isSameNaN, Value.nanMark?, Value.core, Value.equals]
      rw [itemwise, equal]
      constructor
      · intro clean wraps
        cases wraps with
        | list member inside => exact clean _ member inside
      · intro clean v member inside
        exact clean (.list member inside)

theorem Renewal.isSameNaN_adopt {ref : Reference} {v w : Value}
    (renewal : Renewal p (p.Message s bare) false (.one (.reference ref)) v w) (after : s.Grows t) :
    (t.adopt w).1.isSameNaN v = false := by
  cases renewal with
  | @wrapper _ _ name base v _ admitted message =>
      rw [Value.isSameNaN_wrapped admitted]
      by_cases isNaN : ∃ mark, v = .float (.nan mark)
      · obtain ⟨mark, rfl⟩ := isNaN
        have differs := Value.agrees_new_nan message.known after
        rw [Value.agrees, Bool.or_eq_false_iff] at differs
        exact differs.1
      · exact Value.isSameNaN_of_ne_nan admitted (fun mark equal => isNaN ⟨mark, equal⟩) _
  | member => rfl
  | object => rfl

end Protocol

def Store.decode (s : Store) (p : Protocol) (type : TypeName) (m : Value) :
    Except Fault (Value × Store) :=
  (fun o => s.adopt o) <$> p.decode type m

open Protocol

/-- A decoded instance can be written and reads back as itself. -/
theorem decode_stable {type : TypeName} {s s' : Store} {m o : Value}
    (writable : protocol.isWritable type = true) (genuine : protocol.Genuine m) (known : s.Knows m)
    (decoded : s.decode protocol type m = .ok (o, s')) :
    protocol.Genuine o ∧ s'.Knows o ∧ ∃ j again s'', protocol.encode o = .ok j ∧
      s'.decode protocol type j = .ok (again, s'') ∧ again.unmarked = o.unmarked ∧
      (∃ j', protocol.encode again = .ok j' ∧ j'.unmarked = j.unmarked) ∧
      (m.isBare = true → j.isBare = true) ∧
      (again.equals o = true ↔ ¬ WrapsNaN protocol (.ofType type) o) := by
  obtain ⟨o', read, adopted⟩ := map_ok.mp decoded
  obtain rfl : (s.adopt o').1 = o := congrArg Prod.fst adopted
  obtain rfl : (s.adopt o').2 = s' := congrArg Prod.snd adopted
  have whole : ∀ m', some m = some m' → protocol.Message s m.isBare m' := by
    rintro _ ⟨⟩
    exact ⟨genuine, known, id⟩
  have reading : Reading protocol false (.ofType type) (some m) o' := decodeItem_reading read
  obtain ⟨typed, kept⟩ := reading.typed_adopt whole (.refl s) (.refl (s.adopt o').2)
  refine ⟨typed.genuine fun v message => message.genuine, kept, ?_⟩
  have filled : (false && (s.adopt o').1.isNull) = false := rfl
  obtain ⟨j, written⟩ := typed.encode_ok protocol_isRegular writable filled
  obtain ⟨w, back, renewal⟩ := typed.renewal protocol_isRegular writable filled written
  have same : ((s.adopt o').2.adopt w).1.unmarked = (s.adopt o').1.unmarked := by
    rw [Store.unmarked_adopt, renewal.unmarked_eq]
  refine ⟨j, ((s.adopt o').2.adopt w).1, ((s.adopt o').2.adopt w).2, written, ?_, same, ?_, ?_, ?_⟩
  · exact map_ok.mpr ⟨w, back, rfl⟩
  · exact encode_of_unmarked_eq same written
  · intro isBare
    exact typed.isBare_written protocol_isRegular (fun v message => message.bare isBare) writable
      filled written
  · have agrees := renewal.agrees_adopt (.refl (s.adopt o').2)
    rwa [Value.agrees, renewal.isSameNaN_adopt (.refl (s.adopt o').2), Bool.false_or] at agrees

def oddResource : Value :=
  .dict [ (.text "lastModified", .float (.nan (some 0))), (.text "url", .int 7),
    (.text "type", .text "Document"), (.text "mimeType", .null) ]

theorem decode_stable_oddResource :
    ∃ o s' j again s'', (Store.mk #[] 1 []).decode protocol ⟨"page", "FrameResource"⟩ oddResource =
        .ok (o, s') ∧ protocol.encode o = .ok j ∧ j.isBare = true ∧
      s'.decode protocol ⟨"page", "FrameResource"⟩ j = .ok (again, s'') ∧
      again.unmarked = o.unmarked ∧ again.equals o = false := by
  obtain ⟨-, -, j, again, s'', written, back, same, -, bare, equal⟩ :=
    @decode_stable ⟨"page", "FrameResource"⟩ ⟨#[], 1, []⟩ _ oddResource _ rfl rfl rfl rfl
  refine ⟨_, _, j, again, s'', rfl, written, bare rfl, back, same, ?_⟩
  refine Bool.eq_false_iff.mpr fun holds => equal.mp holds ?_
  exact .object rfl (.tail _ (.tail _ (.tail _ (.head _)))) .wrapper

end DevTools
