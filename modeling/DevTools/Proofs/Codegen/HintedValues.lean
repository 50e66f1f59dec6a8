import DevTools.Proofs.Codec.Typing
import DevTools.Proofs.Codegen.References
import DevTools.Proofs.Codegen.TypeHints
import DevTools.Proofs.Value.Keys

namespace DevTools

/-! ## Instances -/

def Value.type? : Value → Option TypeName
  | .wrapped type _ => some type
  | .member type _ _ => some type
  | .object type _ _ => some type
  | _ => none

/-- There is no instance of a declared type in the value. Messages are like this. -/
def Value.isUntyped (v : Value) : Bool :=
  v.all (·.type?.isNone)

namespace Value

theorem lenient_type? : Lenient (·.type?.isNone) where
  bool _ := rfl
  int _ := rfl
  text _ := rfl
  list _ := rfl
  dict _ _ := rfl

theorem type?_of_isUntyped {v : Value} (untyped : v.isUntyped = true) : v.type? = none :=
  Option.isNone_iff_eq_none.mp (all_iff.mp untyped).1

end Value

theorem decodeMember_type? {type : TypeName} {members : List (String × String)} {v w : Value}
    (decoded : decodeMember type members v = .ok w) : w.type? = some type := by
  unfold decodeMember at decoded
  split at decoded
  · split at decoded
    · rename_i same
      cases decoded
      rw [Value.type?, same]
    · cases decoded
  · split at decoded
    · cases decoded
      rfl
    · cases decoded

theorem Protocol.decode_type? {p : Protocol} {type : TypeName} {v w : Value}
    (decoded : p.decode type v = .ok w) : w.type? = some type := by
  rw [Protocol.decode, decodeItem_eq] at decoded
  simp only [decodeItemWith, Bool.false_eq_true, ↓reduceIte] at decoded
  split at decoded
  · obtain ⟨held, -, rfl⟩ := map_ok.mp decoded
    rfl
  · exact decodeMember_type? decoded
  · obtain ⟨fields, -, made⟩ := bind_ok.mp decoded
    obtain rfl := pure_ok.mp made
    rfl
  · obtain ⟨fields, -, made⟩ := bind_ok.mp decoded
    obtain rfl := pure_ok.mp made
    rfl
  · cases decoded

namespace Codegen

/-! ## Values that the code returns -/

def Hint.Has (naming : Naming) (module : Scope) : Hint → Value → Prop
  | name s, v =>
    match module (naming.normal s) with
    | some (.type type) => v.type? = some type
    | some (.conversion kind) => kind.admits v = true
    | _ => False
  | any, _ => True
  | list item, v => ∃ items, v = .list items ∧ ∀ x ∈ items, item.Has naming module x
  | optional held, v => v = .null ∨ held.Has naming module v

def Scope.IsModule (module : Scope) : Prop :=
  ∀ name m, module name = some m → (∃ type, m = .type type) ∨ ∃ kind, m = .conversion kind

def Scope.Overlays (scope module : Scope) : Prop :=
  ∀ name, scope name = module name ∨ ∃ v, scope name = some (.value v)

theorem Scope.Overlays.bind {scope module : Scope} (overlays : scope.Overlays module) (name : String)
    (v : Value) : (scope.bind name (.value v)).Overlays module := by
  intro other
  by_cases same : other = name
  · exact .inr ⟨v, if_pos same⟩
  · rw [Scope.bind, if_neg same]
    exact overlays other

theorem orFail_ok {α : Type} {x : Except Fault α} {a : α} : orFail x = .ok a ↔ x = .ok a := by
  cases x <;> simp [orFail]

theorem Meaning.toValue_ok {m : Meaning} {v : Value} : m.toValue = .ok v ↔ m = .value v := by
  cases m <;> simp [toValue]

theorem mapM_ok {ε α β : Type} {f : α → Except ε β} {as : List α} {bs : List β}
    (mapped : as.mapM f = .ok bs) : ∀ b ∈ bs, ∃ a ∈ as, f a = .ok b := by
  induction as generalizing bs with
  | nil =>
      obtain rfl := pure_ok.mp mapped
      simp
  | cons a rest ih =>
      rw [List.mapM_cons] at mapped
      obtain ⟨b, here, others⟩ := bind_ok.mp mapped
      obtain ⟨bs', behind, made⟩ := bind_ok.mp others
      obtain rfl := pure_ok.mp made
      refine List.forall_mem_cons.mpr ⟨⟨a, List.mem_cons_self, here⟩, fun b' member => ?_⟩
      obtain ⟨a', inside, found⟩ := ih behind b' member
      exact ⟨a', List.mem_cons_of_mem _ inside, found⟩

section Value

variable {p : Protocol} {naming : Naming} {scope module : Scope}

theorem eval_name_ok {s : String} {m : Meaning} :
    (Atom.name s).eval p naming scope = .ok m ↔ scope (naming.normal s) = some m := by
  rw [Atom.eval]
  cases scope (naming.normal s) <;> simp

theorem eval_call_ok {argument : Test} {m : Meaning} {w : Value}
    (evaluated : (Trailers.call argument .nil).eval p naming scope m = .ok (.value w)) :
    ∃ v, m.call p v = .ok w := by
  rw [Trailers.eval] at evaluated
  obtain ⟨_, -, called⟩ := bind_ok.mp evaluated
  obtain ⟨v, -, called⟩ := bind_ok.mp called
  obtain ⟨result, returned, made⟩ := bind_ok.mp called
  cases made
  exact ⟨v, returned⟩

theorem eval_convert_has (isModule : module.IsModule) (overlays : scope.Overlays module) {name : String}
    {argument : Test} {w : Value}
    (evaluated : (Primary.mk (.name name) (.call argument .nil)).eval p naming scope = .ok (.value w)) :
    (Hint.name name).Has naming module w := by
  rw [Primary.eval] at evaluated
  obtain ⟨m, named, called⟩ := bind_ok.mp evaluated
  obtain ⟨v, returned⟩ := eval_call_ok called
  have bound := eval_name_ok.mp named
  rcases overlays (naming.normal name) with same | ⟨x, hidden⟩
  · rw [Hint.Has, ← same, bound]
    rcases isModule _ m (same ▸ bound) with ⟨type, rfl⟩ | ⟨kind, rfl⟩
    · cases returned
    · exact Primitive.admits_of_convert (orFail_ok.mp returned)
  · obtain rfl := Option.some.inj (bound.symm.trans hidden)
    cases returned

theorem eval_decode_has (isModule : module.IsModule) (overlays : scope.Overlays module) {name : String}
    {argument : Test} {w : Value}
    (evaluated : (Primary.mk (.name name) (.decoder (.call argument .nil))).eval p naming scope =
      .ok (.value w)) :
    (Hint.name name).Has naming module w ∨
      ∃ x, scope (naming.normal name) = some (.value x) ∧ x.type?.isSome = true := by
  rw [Primary.eval] at evaluated
  obtain ⟨m, named, called⟩ := bind_ok.mp evaluated
  rw [Trailers.eval] at called
  obtain ⟨f, found, called⟩ := bind_ok.mp called
  obtain ⟨v, returned⟩ := eval_call_ok called
  have bound := eval_name_ok.mp named
  rcases overlays (naming.normal name) with same | ⟨x, hidden⟩
  · left
    rw [Hint.Has, ← same, bound]
    rcases isModule _ m (same ▸ bound) with ⟨type, rfl⟩ | ⟨kind, rfl⟩
    · cases found
      exact Protocol.decode_type? (orFail_ok.mp returned)
    · cases found
  · right
    refine ⟨x, hidden, ?_⟩
    obtain rfl := Option.some.inj (bound.symm.trans hidden)
    cases x with
    | wrapped type base => rfl
    | member type member wire => rfl
    | object type fields id => rfl
    | _ => cases found

theorem Element.eval_has (isModule : module.IsModule) (overlays : scope.Overlays module) {e : Element}
    {argument : Primary} {w : Value}
    (evaluated : (e.tree argument).eval p naming scope = .ok (.value w)) :
    e.hint.Has naming module w ∨ ∃ name x, e = .reference name ∧
      scope (naming.normal name) = some (.value x) ∧ x.type?.isSome = true := by
  cases e with
  | primitive kind =>
      left
      by_cases converts : kind = .any
      · subst converts
        trivial
      · rw [tree_primitive converts] at evaluated
        rw [hint_primitive converts]
        exact eval_convert_has isModule overlays evaluated
  | reference name =>
      rcases eval_decode_has isModule overlays evaluated with fits | ⟨x, hidden, typed⟩
      · exact .inl fits
      · exact .inr ⟨name, x, rfl, hidden, typed⟩

theorem eval_entry_ok {dict key : String} {v w : Value}
    (bound : scope (naming.normal dict) = some (.value v))
    (evaluated : (entryTree dict key).eval p naming scope = .ok (.value w)) : v.entry key = .ok w := by
  rw [eval_entry key bound] at evaluated
  obtain ⟨found, entry, made⟩ := map_ok.mp evaluated
  cases made
  exact orFail_ok.mp entry

theorem eval_each_ok {body : Test} {item : String} {source : Primary} {w : Value}
    (evaluated : (Primary.mk (.each body item source) .nil).eval p naming scope = .ok (.value w)) :
    ∃ u items values, source.eval p naming scope = .ok (.value u) ∧ u.items = .ok items ∧ w = .list values ∧
      ∀ y ∈ values, ∃ x ∈ items,
        body.eval p naming (scope.bind (naming.normal item) (.value x)) = .ok (.value y) := by
  rw [Primary.eval] at evaluated
  obtain ⟨m, listed, ended⟩ := bind_ok.mp evaluated
  cases ended
  rw [Atom.eval] at listed
  obtain ⟨m, looked, taken⟩ := bind_ok.mp listed
  obtain ⟨u, valued, searched⟩ := bind_ok.mp taken
  obtain ⟨items, found, run⟩ := bind_ok.mp searched
  obtain ⟨values, mapped, made⟩ := bind_ok.mp run
  obtain rfl := Meaning.toValue_ok.mp valued
  cases made
  refine ⟨u, items, values, looked, orFail_ok.mp found, rfl, fun y member => ?_⟩
  obtain ⟨x, inside, run⟩ := mapM_ok mapped y member
  obtain ⟨m, ran, valued⟩ := bind_ok.mp run
  obtain rfl := Meaning.toValue_ok.mp valued
  exact ⟨x, inside, ran⟩

namespace Target

def IsHidden (naming : Naming) (t : Target) (dict : String) : Prop :=
  ∃ name, t.element = .reference name ∧ (naming.normal name = naming.normal dict ∨
    t.repeated = true ∧ naming.normal name = naming.normal loopVariable)

variable {t : Target} {dict key : String} {v w : Value}

theorem eval_valueTree_has (isModule : module.IsModule)
    (untyped : t.IsHidden naming dict → v.isUntyped = true)
    (evaluated : (t.valueTree dict key).eval p naming (module.bind (naming.normal dict) (.value v)) =
      .ok (.value w)) : hint { t with optional := false } |>.Has naming module w := by
  have overlays : (module.bind (naming.normal dict) (.value v)).Overlays module :=
    Scope.Overlays.bind (fun _ => .inl rfl) _ v
  have outside {name : String} {x : Value} (named : t.element = .reference name)
      (hidden : module.bind (naming.normal dict) (.value v) (naming.normal name) = some (.value x)) :
      x.type? = none := by
    unfold Scope.bind at hidden
    split at hidden
    · rename_i same
      cases hidden
      exact Value.type?_of_isUntyped (untyped ⟨name, named, .inl same⟩)
    · rcases isModule _ _ hidden with ⟨type, ⟨⟩⟩ | ⟨kind, ⟨⟩⟩
  obtain ⟨element, repeated, optional⟩ := t
  cases repeated with
  | false =>
      rcases Element.eval_has isModule overlays evaluated with fits | ⟨name, x, named, hidden, typed⟩
      · exact fits
      · rw [outside named hidden] at typed
        cases typed
  | true =>
      obtain ⟨u, items, values, looked, found, rfl, each⟩ := eval_each_ok evaluated
      refine ⟨values, rfl, fun y member => ?_⟩
      obtain ⟨x, inside, ran⟩ := each y member
      rcases Element.eval_has isModule (overlays.bind _ x) ran with fits | ⟨name, z, named, hidden, typed⟩
      · exact fits
      · exfalso
        by_cases variable_hides : naming.normal name = naming.normal loopVariable
        · -- The items of an untyped value are untyped.
          have plain := untyped ⟨name, named, .inr ⟨rfl, variable_hides⟩⟩
          have entry := eval_entry_ok (if_pos rfl) looked
          have item := Value.lenient_type?.all_items (Value.all_entry plain entry) found x inside
          rw [Scope.bind, if_pos variable_hides] at hidden
          cases hidden
          rw [Value.type?_of_isUntyped item] at typed
          cases typed
        · rw [Scope.bind, if_neg variable_hides] at hidden
          rw [outside named hidden] at typed
          cases typed

theorem eval_has (isModule : module.IsModule) (untyped : t.IsHidden naming dict → v.isUntyped = true)
    (evaluated : (t.tree dict key).eval p naming (module.bind (naming.normal dict) (.value v)) =
      .ok (.value w)) : t.hint.Has naming module w := by
  obtain ⟨element, repeated, optional⟩ := t
  cases optional with
  | false => exact eval_valueTree_has isModule untyped evaluated
  | true =>
      simp only [tree, ↓reduceIte, Test.eval] at evaluated
      obtain ⟨_, -, asked⟩ := bind_ok.mp evaluated
      obtain ⟨_, -, held⟩ := bind_ok.mp asked
      obtain ⟨holds, -, chosen⟩ := bind_ok.mp held
      cases holds with
      | true => exact .inr (eval_valueTree_has isModule untyped chosen)
      | false =>
          left
          cases chosen
          rfl

end Target

end Value

/-! ## Properties -/

/-- A text leads to another domain if it has exactly one point. -/
def IsLocalRef (ref : Value) : Prop :=
  ∀ s, ref = .text s → s.toList.count '.' ≠ 1

theorem referenceName_ok {style : Style} {ref : Value} {name : String} (isLocal : IsLocalRef ref)
    (named : style.referenceName ref = .ok name) : ref.holds "." = .ok false ∧ name = ref.plain := by
  obtain ⟨dotted, found, rest⟩ := bind_ok.mp named
  cases dotted with
  | false => exact ⟨found, (pure_ok.mp rest).symm⟩
  | true =>
      simp only [↓reduceIte] at rest
      split at rest
      · split at rest
        · rename_i cut
          exact absurd (splitOn_point cut).2.2 (isLocal _ rfl)
        · cases rest
      · cases rest

theorem isLocal_plain {ref : Value} (untyped : ref.isUntyped = true) (undotted : ref.holds "." = .ok false) :
    (Element.reference ref.plain).IsLocal := by
  have typeless := Value.type?_of_isUntyped untyped
  have enclosed {left right : String} {c : Char} {parts : List String} (begins : left.toList = [c]) :
      (Value.enclose left right parts).toList = c :: (String.intercalate ", " parts ++ right).toList := by
    simp [Value.enclose, begins]
  cases ref with
  | text s => exact .inl fun inside => Bool.eq_false_iff.mp (Except.ok.inj undotted) (occursIn_point.mpr inside)
  | list items => exact .inr (not_denotes_enclosed (enclosed rfl) (.inl rfl))
  | dict entries => exact .inr (not_denotes_enclosed (enclosed rfl) (.inr (.inr rfl)))
  | tuple items =>
      right
      match items with
      | [item] =>
          have begins : (Value.tuple [item]).plain.toList = '(' :: (item.literal ++ ",)").toList := by
            simp [Value.plain, Value.literal]
          exact not_denotes_enclosed begins (.inr (.inl rfl))
      | [] => exact not_denotes_enclosed (enclosed rfl) (.inr (.inl rfl))
      | _ :: _ :: _ => exact not_denotes_enclosed (enclosed rfl) (.inr (.inl rfl))
  | wrapped type base => cases typeless
  | member type name wire => cases typeless
  | object type fields id => cases typeless
  | _ => cases undotted

namespace PropertySpec

def IsHidden (naming : Naming) (spec : PropertySpec) (dict : String) : Prop :=
  spec.item.ref.truthy = true ∧ ∃ name, Denotes spec.item.ref.plain (.name name) ∧
    (naming.normal name = naming.normal dict ∨
      spec.items.isSome = true ∧ naming.normal name = naming.normal loopVariable)

end PropertySpec

inductive Element.Of (ref : Value) : Element → Prop
  | reference : ref.truthy = true → Of ref (.reference ref.plain)
  | primitive (kind : Primitive) : ref.truthy = false → Of ref (.primitive kind)

theorem element_ok {style : Style} {type ref : Value} {e : Element} (untyped : ref.isUntyped = true)
    (isLocal : IsLocalRef ref) (made : element style.referenceName type ref = .ok e) :
    e.IsLocal ∧ e.Of ref := by
  unfold element at made
  split at made
  · rename_i truthy
    obtain ⟨name, named, rfl⟩ := map_ok.mp made
    obtain ⟨undotted, rfl⟩ := referenceName_ok isLocal named
    exact ⟨isLocal_plain untyped undotted, .reference truthy⟩
  · rename_i untrue
    obtain ⟨kind, -, rfl⟩ := map_ok.mp made
    exact ⟨trivial, .primitive kind (Bool.eq_false_iff.mpr untrue)⟩

theorem Scope.IsModule.bind {module : Scope} (isModule : module.IsModule) (name : String) (type : TypeName) :
    (module.bind name (.type type)).IsModule := by
  intro other m found
  unfold Scope.bind at found
  split at found
  · cases found
    exact .inl ⟨type, rfl⟩
  · exact isModule other m found

def frames : PropertySpec :=
  { PropertySpec.called "frames" with items := some ⟨.null, .text "FrameId"⟩, optional := .bool true }

end Codegen

end DevTools
