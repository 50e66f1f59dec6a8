import DevTools.Proofs.Codec.Rearrangement
import DevTools.Proofs.Codec.Requests
import DevTools.Proofs.Codec.Soundness
import DevTools.Proofs.Value.Equivalence

namespace DevTools

/-! ## Members -/

namespace Protocol

variable {p : Protocol}

theorem mem_types_of_declaration? {type : TypeName} {declaration : Declaration}
    (declared : p.declaration? type = some declaration) :
    (∃ d ∈ p.domains, declaration ∈ d.types) ∨ ∃ event, declaration = .event event := by
  obtain ⟨d, hd, found⟩ := Option.bind_eq_some_iff.mp declared
  unfold Domain.declaration? at found
  cases located : d.types.find? fun declaration => declaration.name == type.name with
  | some declaration' =>
      rw [located] at found
      cases found
      exact .inl ⟨d, List.mem_of_find?_eq_some hd, List.mem_of_find?_eq_some located⟩
  | none =>
      rw [located] at found
      obtain ⟨event, -, equal⟩ := Option.map_eq_some_iff.mp found
      exact .inr ⟨event, equal.symm⟩

variable (p) in
def TellsMembers : Prop :=
  ∀ type name members, p.declaration? type = some (.enumeration name members) →
    (members.map (·.1)).Nodup

end Protocol

theorem member_names_distinct :
    (protocol.domains.all fun d => d.types.all fun declaration =>
      match declaration with
      | .enumeration _ members => areDistinct 3 (members.map fun member => textNumber member.1)
      | _ => true) = true := by
  decide +kernel

theorem protocol_tellsMembers : protocol.TellsMembers := by
  intro type name members declared
  rcases Protocol.mem_types_of_declaration? declared with ⟨d, inside, listed⟩ | ⟨event, impossible⟩
  · have distinct := List.all_eq_true.mp (List.all_eq_true.mp member_names_distinct d inside) _ listed
    exact nodup_of_textNumber distinct
  · cases impossible

theorem canonicalMember?_inj {members : List (String × String)} {name wire name' wire' : String}
    (distinct : (members.map (·.1)).Nodup) (canonical : canonicalMember? members wire = some (name, wire))
    (canonical' : canonicalMember? members wire' = some (name', wire')) : name = name' ↔ wire = wire' := by
  constructor
  · rintro rfl
    have same := List.inj_on_of_nodup_map distinct (List.mem_of_find?_eq_some canonical)
      (List.mem_of_find?_eq_some canonical') rfl
    exact (Prod.mk.inj same).2
  · rintro rfl
    exact (Prod.mk.inj (Option.some.inj (canonical.symm.trans canonical'))).1

/-! ## Messages -/

namespace Value

def bothAgree : Option Value → Option Value → Bool
  | none, none => true
  | some v, some w => v.agrees w
  | _, _ => false

theorem isSome_of_bothAgree {v? w? : Option Value} (same : bothAgree v? w? = true) :
    v?.isSome = w?.isSome := by
  cases v? with
  | none =>
      cases w? with
      | none => rfl
      | some w => cases same
  | some v =>
      cases w? with
      | none => cases same
      | some w => rfl

end Value

structure EntriesOf (fields : List Field) (entries : List (Value × Value)) : Prop where
  keys : entries.map (·.1) =
    (fields.filter fun f => (Value.lookup? f.key entries).isSome).map fun f => .text f.key
  field : ∀ entry ∈ entries, ∃ f ∈ fields, entry.1 = .text f.key ∧
    Value.lookup? f.key entries = some entry.2

theorem entriesOf_encodeFieldsWith {write : Field → Except Fault (Option Value)} {fields : List Field}
    {entries : List (Value × Value)} (distinct : (fields.map (·.key)).Nodup)
    (written : encodeFieldsWith write fields = .ok entries) : EntriesOf fields entries := by
  have found := lookup?_encodeFieldsWith distinct written
  constructor
  · refine keys_encodeFieldsWith (fun f member value? head => ?_) written
    rw [Except.ok.inj (head.symm.trans (found f member))]
  · intro entry member
    obtain ⟨f, inside, key, head⟩ := mem_encodeFieldsWith written entry member
    exact ⟨f, inside, key, Except.ok.inj ((found f inside).symm.trans head)⟩

namespace EntriesOf

variable {p : Protocol} {fields : List Field} {entries entries' : List (Value × Value)}

theorem keyed (distinct : (fields.map (·.key)).Nodup) (listed : EntriesOf fields entries) :
    p.Keyed entries := by
  constructor
  · intro entry member
    obtain ⟨f, -, key, -⟩ := listed.field entry member
    rw [key]
    exact p.isKey_text f.key
  · have apart : (entries.map (·.1)).Pairwise fun a b => a.agrees b = false := by
      rw [listed.keys, List.pairwise_map]
      refine ((List.pairwise_map.mp distinct).sublist List.filter_sublist).imp fun differ => ?_
      rw [Value.agrees_text]
      exact beq_false_of_ne differ
    exact List.pairwise_map.mp apart

theorem length_eq (listed : EntriesOf fields entries) (listed' : EntriesOf fields entries')
    (present : ∀ f ∈ fields,
      (Value.lookup? f.key entries).isSome = (Value.lookup? f.key entries').isSome) :
    entries.length = entries'.length := by
  have lengths := congrArg List.length listed.keys
  have lengths' := congrArg List.length listed'.keys
  rw [List.length_map, List.length_map] at lengths lengths'
  rw [lengths, lengths', List.filter_congr present]

theorem lookup?_of_mem (listed : EntriesOf fields entries) {entry : Value × Value} (member : entry ∈ entries)
    {key : String} (named : entry.1.isText key = true) : Value.lookup? key entries = some entry.2 := by
  obtain ⟨f, -, equal, found⟩ := listed.field entry member
  rw [equal] at named
  rw [← eq_of_beq named]
  exact found

theorem isText_of_matches (listed : EntriesOf fields entries) (listed' : EntriesOf fields entries')
    {e o : Value × Value} (member : e ∈ entries) (member' : o ∈ entries') (pair : Value.Matches e o)
    (key : String) : e.1.isText key = o.1.isText key := by
  obtain ⟨f, -, left, -⟩ := listed.field e member
  obtain ⟨f', -, right, -⟩ := listed'.field o member'
  have same := pair.1
  rw [left, right, Value.agrees_text] at same
  rw [left, right, eq_of_beq same]

theorem bothAgree_of_matches (distinct : (fields.map (·.key)).Nodup) (listed : EntriesOf fields entries)
    (listed' : EntriesOf fields entries') (length : entries.length = entries'.length)
    (matched : ∀ e ∈ entries, ∃ o ∈ entries', Value.Matches e o) (key : String) :
    Value.bothAgree (Value.lookup? key entries) (Value.lookup? key entries') = true := by
  cases found : Value.lookup? key entries with
  | some v =>
      obtain ⟨k, member, named⟩ := Value.mem_of_lookup? found
      obtain ⟨o, member', pair⟩ := matched _ member
      have named' : o.1.isText key = true := by rwa [← listed.isText_of_matches listed' member member' pair]
      rw [listed'.lookup?_of_mem member' named']
      exact pair.2
  | none =>
      -- An entry of the second message alone would be without a match.
      cases found' : Value.lookup? key entries' with
      | none => rfl
      | some w =>
          obtain ⟨k, member', named'⟩ := Value.mem_of_lookup? found'
          obtain ⟨e, member, pair⟩ := Value.exists_matches (listed.keyed (p := protocol) distinct)
            (listed'.keyed distinct) length matched _ member'
          have named : e.1.isText key = true := by rwa [listed.isText_of_matches listed' member member' pair]
          rw [listed.lookup?_of_mem member named] at found
          cases found

theorem matches_of_bothAgree (listed : EntriesOf fields entries)
    (same : ∀ f ∈ fields,
      Value.bothAgree (Value.lookup? f.key entries) (Value.lookup? f.key entries') = true) :
    ∀ e ∈ entries, ∃ o ∈ entries', Value.Matches e o := by
  intro e member
  obtain ⟨f, inside, key, found⟩ := listed.field e member
  have agree := same f inside
  rw [found] at agree
  cases found' : Value.lookup? f.key entries' with
  | none =>
      rw [found'] at agree
      cases agree
  | some w =>
      rw [found'] at agree
      obtain ⟨k, member', named⟩ := Value.mem_of_lookup? found'
      have self : e.1.isText f.key = true := by
        rw [key]
        exact beq_self_eq_true f.key
      exact ⟨_, member', Value.agrees_of_isText self named, agree⟩

theorem agrees_dict (distinct : (fields.map (·.key)).Nodup) (listed : EntriesOf fields entries)
    (listed' : EntriesOf fields entries') :
    (Value.dict entries).agrees (.dict entries') = fields.all fun f =>
      Value.bothAgree (Value.lookup? f.key entries) (Value.lookup? f.key entries') := by
  have equal := Value.equalEntries_iff (listed.keyed (p := protocol) distinct).1 (listed'.keyed distinct)
  rw [Bool.eq_iff_iff, Value.agrees_dict, List.all_eq_true]
  simp only [Value.core, Bool.and_eq_true, beq_iff_eq, equal]
  constructor
  · rintro ⟨length, matched⟩ f -
    exact bothAgree_of_matches distinct listed listed' length matched f.key
  · intro same
    exact ⟨listed.length_eq listed' fun f inside => Value.isSome_of_bothAgree (same f inside),
      listed.matches_of_bothAgree same⟩

end EntriesOf

/-! ## Values and what they are written as -/

namespace Value

theorem agrees_null {v : Value} : agrees null v = v.isNull := by
  rw [agrees_eq_equals rfl, equals]

theorem agrees_null_right {p : Protocol} {v : Value} (genuine : p.Genuine v) (filled : v.isNull = false) :
    agrees v null = false := by
  cases v with
  | null => cases filled
  | wrapped type base =>
      obtain ⟨b, admitted⟩ := genuine.wrapped
      rw [agrees_wrapped_left admitted]
      cases b <;> cases base <;>
        simp_all [Base.admits, agrees, isSameNaN, nanMark?, equals, core, sameAmount, amount?]
  | _ => simp [agrees, isSameNaN, nanMark?, equals, core, sameAmount, amount?]

theorem equalItems_map_eq {values values' : List (String × Value)} {fields : List Field}
    {test : Field → Bool} (length : fields.length = values.length) (length' : fields.length = values'.length)
    (each : ∀ triple ∈ fields.zip (values.zip values'),
      triple.2.1.2.agrees triple.2.2.2 = test triple.1) :
    equalItems (values.map (·.2)) (values'.map (·.2)) = fields.all test := by
  induction fields generalizing values values' with
  | nil =>
      rw [List.length_eq_zero_iff.mp length.symm, List.length_eq_zero_iff.mp length'.symm]
      rfl
  | cons field rest ih =>
      cases values with
      | nil => cases length
      | cons held values =>
          cases values' with
          | nil => cases length'
          | cons held' values' =>
              simp only [List.zip_cons_cons, List.forall_mem_cons] at each
              have head := each.1
              have tail := ih (Nat.succ.inj length) (Nat.succ.inj length') each.2
              simp only [agrees] at head
              simp only [List.map_cons, equalItems, head, tail, List.all_cons]

end Value

namespace Protocol

variable {p : Protocol} {usable : Reference → Prop}

variable (p usable) in
/-- Compared with other values of the shape, the value does as well as what it is written as. -/
def Echoed (isOptional : Bool) (shape : Shape) (v : Value) : Prop :=
  ∀ v' j j', Typed p p.Genuine usable isOptional shape v' → (isOptional && v.isNull) = false →
    (isOptional && v'.isNull) = false → p.encodeShape shape v = .ok j →
    p.encodeShape shape v' = .ok j' → v.agrees v' = j.agrees j'

theorem Echoed.slot (slot : Slot) {v v' : Value} {value? value?' : Option Value}
    (echoed : p.Echoed usable slot.isOptional slot.shape v) (genuine : p.Genuine v)
    (typed' : Typed p p.Genuine usable slot.isOptional slot.shape v')
    (written : p.encodeSlot slot v = .ok value?) (written' : p.encodeSlot slot v' = .ok value?') :
    v.agrees v' = Value.bothAgree value? value?' := by
  have filled := isSome_encodeSlot written
  have filled' := isSome_encodeSlot written'
  cases value? with
  | none =>
      obtain rfl := encodeSlot_none written
      rw [Value.agrees_null]
      cases value?' with
      | none =>
          obtain rfl := encodeSlot_none written'
          rfl
      | some j' => simp_all [Value.bothAgree, Value.isNull]
  | some j =>
      cases value?' with
      | none =>
          obtain rfl := encodeSlot_none written'
          exact Value.agrees_null_right genuine (by simp_all [Value.isNull])
      | some j' =>
          obtain ⟨filled, shape⟩ := encodeSlot_some written
          obtain ⟨filled', shape'⟩ := encodeSlot_some written'
          exact echoed v' j j' typed' filled filled' shape shape'

theorem Echoed.items {item : Item} {values values' js js' : List Value}
    (echoed : ∀ v ∈ values, p.Echoed usable false (.one item) v)
    (typed' : ∀ v ∈ values', Typed p p.Genuine usable false (.one item) v)
    (length : values.length = js.length)
    (each : ∀ pair ∈ values.zip js, p.encodeShape (.one item) pair.1 = .ok pair.2)
    (length' : values'.length = js'.length)
    (each' : ∀ pair ∈ values'.zip js', p.encodeShape (.one item) pair.1 = .ok pair.2) :
    Value.equalItems values values' = Value.equalItems js js' := by
  induction values generalizing js values' js' with
  | nil =>
      rw [List.length_eq_zero_iff.mp length.symm]
      cases values' with
      | nil => rw [List.length_eq_zero_iff.mp length'.symm]
      | cons v' rest' =>
          cases js' with
          | nil => cases length'
          | cons j' js' => rfl
  | cons v rest ih =>
      cases js with
      | nil => cases length
      | cons j js =>
          cases values' with
          | nil =>
              rw [List.length_eq_zero_iff.mp length'.symm]
              rfl
          | cons v' rest' =>
              cases js' with
              | nil => cases length'
              | cons j' js' =>
                  simp only [List.zip_cons_cons, List.forall_mem_cons] at each each' echoed typed'
                  have head := echoed.1 v' j j' typed'.1 rfl rfl each.1 each'.1
                  have tail := ih echoed.2 typed'.2 (Nat.succ.inj length) each.2 (Nat.succ.inj length') each'.2
                  simp only [Value.agrees] at head
                  simp only [Value.equalItems, head, tail]

theorem Typed.echoed (regular : p.IsRegular) (tells : p.TellsMembers) {isOptional : Bool} {shape : Shape}
    {v : Value} (typed : Typed p p.Genuine usable isOptional shape v)
    (writable : p.isWritableShape shape = true) : p.Echoed usable isOptional shape v := by
  induction typed with
  | missing =>
      intro v' j j' _ filled
      cases filled
  | primitive _ _ =>
      intro v' j j' _ _ _ written written'
      cases written
      cases written'
      rfl
  | @wrapper isOptional ref name base v _ declared _ _ =>
      intro v' j j' typed' _ filled' written written'
      cases written
      cases typed' with
      | missing => cases filled'
      | wrapper =>
          cases written'
          rfl
      | member _ declared' => cases declared.symm.trans declared'
      | object _ found => simp [fields?, declared] at found
  | @member isOptional ref name members member wire _ declared canonical =>
      intro v' j j' typed' _ filled' written written'
      cases written
      cases typed' with
      | missing => cases filled'
      | wrapper _ declared' => cases declared.symm.trans declared'
      | @member _ _ _ _ member' wire' _ declared' canonical' =>
          cases written'
          cases declared.symm.trans declared'
          have same := canonicalMember?_inj (tells _ _ _ declared) canonical canonical'
          rw [Value.agrees_text, Value.agrees_eq_equals rfl, Bool.eq_iff_iff]
          simpa [Value.equals] using same
      | object _ found => simp [fields?, declared] at found
  | @object isOptional ref fields values id _ found names typed ih =>
      intro v' j j' typed' _ filled' written written'
      obtain ⟨name, declared⟩ := fields?_of_isWritable found writable
      have record := regular _ _ _ declared
      cases typed' with
      | missing => cases filled'
      | wrapper _ declared' => cases declared.symm.trans declared'
      | member _ declared' => cases declared.symm.trans declared'
      | @object _ _ fields' values' id' _ found' names' typed' =>
          cases found.symm.trans found'
          simp only [encodeShape, encode_object declared] at written written'
          obtain ⟨entries, each, rfl⟩ := map_ok.mp written
          obtain ⟨entries', each', rfl⟩ := map_ok.mp written'
          have listed := entriesOf_encodeFieldsWith record.keys each
          have listed' := entriesOf_encodeFieldsWith record.keys each'
          rw [listed.agrees_dict record.keys listed', Value.agrees_eq_equals rfl, Value.equals_object]
          simp only [beq_self_eq_true, Bool.true_and]
          refine Value.equalItems_map_eq (length_of_names names) (length_of_names names') fun triple inside => ?_
          obtain ⟨first, second⟩ := mem_zip_zip inside
          have echoed := ih _ first (record.writable _ (List.of_mem_zip first).1)
          exact echoed.slot triple.1.toSlot ((typed _ first).genuine fun _ content => content)
            (typed' _ second) (encodeSlot_of_mem_zip record names each first)
            (encodeSlot_of_mem_zip record names' each' second)
  | @list isOptional item values _ ih =>
      intro v' j j' typed' _ filled' written written'
      cases typed' with
      | missing => cases filled'
      | @list _ _ values' typed' =>
          obtain ⟨js, rfl, length, each⟩ := encodeShape_list written
          obtain ⟨js', rfl, length', each'⟩ := encodeShape_list written'
          rw [Value.agrees_list, Value.agrees_list]
          exact Echoed.items (fun v member => ih v member writable) typed' length each length' each'

theorem nanMark?_of_encode {o j : Value} (written : p.encode o = .ok j) : j.nanMark? = o.nanMark? := by
  cases o with
  | wrapped type base =>
      cases written
      rfl
  | member type name wire =>
      cases written
      rfl
  | object type values id =>
      simp only [encode] at written
      split at written
      · obtain ⟨entries, -, rfl⟩ := map_ok.mp written
        rfl
      · cases written
  | _ => cases written

end Protocol

theorem Value.equals_of_nanMark? {v : Value} {mark : Nat} (nan : v.nanMark? = some mark) (w : Value) :
    v.equals w = false := by
  rw [equals_core_left]
  unfold nanMark? at nan
  split at nan
  · rename_i core
    rw [core]
    simp only [equals, sameAmount, amount?, Binary64.amount?]
  · cases nan

/-! ## The statement -/

open Protocol

/-- On values without NaN, equality is an equivalence. Instances of a type are equal exactly if the messages
they are written as are, NaN or not. -/
theorem equality_and_encoding_agree :
    (∀ v, protocol.Genuine v → v.isNaNFree = true → v.equals v = true) ∧
    (∀ v w, protocol.Genuine v → protocol.Genuine w → v.isNaNFree = true → w.isNaNFree = true →
      v.equals w = true → w.equals v = true) ∧
    (∀ u v w, protocol.Genuine u → protocol.Genuine v → protocol.Genuine w → u.isNaNFree = true →
      v.isNaNFree = true → w.isNaNFree = true →
      u.equals v = true → v.equals w = true → u.equals w = true) ∧
    (∀ type m m' o o', protocol.isWritable type = true → protocol.Genuine m → protocol.Genuine m' →
      protocol.decode type m = .ok o → protocol.decode type m' = .ok o' →
      ∃ j j', protocol.encode o = .ok j ∧ protocol.encode o' = .ok j' ∧
        (o.equals o' = true ↔ j.equals j' = true)) := by
  refine ⟨fun v genuine free => Value.equals_self_of_isNaNFree genuine free,
    fun v w left right free free' => Value.equals_symm_of_isNaNFree left free right free',
    fun u v w left right other free free' _ => Value.equals_trans_of_isNaNFree left free right free' other, ?_⟩
  intro type m m' o o' writable genuine genuine' read read'
  have typed {m o : Value} (genuine : protocol.Genuine m) (read : protocol.decode type m = .ok o) :
      Typed protocol protocol.Genuine (·.selfNamed = false) false (.ofType type) o := by
    have reading : Reading protocol false (.ofType type) (some m) o := decodeItem_reading read
    refine reading.typed protocol.genuine_source ?_
    rintro _ ⟨⟩
    exact genuine
  obtain ⟨j, written⟩ := (typed genuine read).encode_ok protocol_isRegular writable rfl
  obtain ⟨j', written'⟩ := (typed genuine' read').encode_ok protocol_isRegular writable rfl
  refine ⟨j, j', written, written', ?_⟩
  have echoed := (typed genuine read).echoed protocol_isRegular protocol_tellsMembers writable o' j j'
    (typed genuine' read') rfl rfl written written'
  have marks := nanMark?_of_encode written
  cases nan : o.nanMark? with
  | none =>
      rw [Value.agrees_eq_equals nan, Value.agrees_eq_equals (marks.trans nan)] at echoed
      rw [echoed]
  | some mark =>
      rw [Value.equals_of_nanMark? nan, Value.equals_of_nanMark? (marks.trans nan)]

-- One is written as an integer, as a Boolean and in a wrapper.
def oneFirst : Value :=
  .dict [(.int 1, .text "x"), (.text "k", .list [.int 0])]

def oneWrapped : Value :=
  .wrapped ⟨"network", "Headers"⟩ (.dict [(.text "k", .list [.bool false]), (.bool true, .text "x")])

def oneLast : Value :=
  .dict [(.wrapped ⟨"network", "RequestId"⟩ (.text "k"), .list [.int 0]), (.int 1, .text "x")]

def integerValue (value : Value) : Value :=
  .dict [(.text "value", value), (.text "type", .text "integer")]

theorem equality_and_encoding_agree_integer :
    oneFirst.equals oneFirst = true ∧ oneWrapped.equals oneFirst = true ∧ oneFirst.equals oneLast = true ∧
    ∃ o o' j j', protocol.decode ⟨"accessibility", "AXValue"⟩ (integerValue oneFirst) = .ok o ∧
      protocol.decode ⟨"accessibility", "AXValue"⟩ (integerValue oneWrapped) = .ok o' ∧
      protocol.encode o = .ok j ∧ protocol.encode o' = .ok j' ∧
      o.equals o' = true ∧ j.equals j' = true := by
  obtain ⟨refl, symm, trans, echo⟩ := equality_and_encoding_agree
  have first : oneFirst.equals oneWrapped = true := by decide +kernel
  have second : oneWrapped.equals oneLast = true := by decide +kernel
  obtain ⟨j, j', written, written', same⟩ :=
    echo ⟨"accessibility", "AXValue"⟩ (integerValue oneFirst) (integerValue oneWrapped) _ _ rfl rfl rfl rfl rfl
  refine ⟨refl oneFirst rfl rfl, symm oneFirst oneWrapped rfl rfl rfl rfl first,
    trans oneFirst oneWrapped oneLast rfl rfl rfl rfl rfl rfl first second,
    _, _, j, j', rfl, rfl, written, written', ?equal, same.mp ?equal⟩
  decide +kernel

end DevTools
