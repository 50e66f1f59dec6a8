import DevTools.Codegen.Code
import DevTools.Proofs.Codec.Reading
import DevTools.Proofs.Codegen.Decoders
import DevTools.Proofs.Text.Lines

/-!
# References

The code of a declaration expands references to the names of types. Which ones it expands can be told from
outside: those on whose expansion the code depends. `references_collected` says that these are the ones that
are collected for the imports, but for a reference which a property has beside items, and which no code
looks at. What is imported then depends on nothing but the set of references and on whether anything is
deprecated; neither order nor repetition counts.
-/

namespace DevTools.Codegen

/-! ## Targets of properties -/

namespace PropertySpec

def item (p : PropertySpec) : ItemSpec :=
  p.items.getD ⟨p.type, p.ref⟩

theorem target_eq (p : PropertySpec) (expand : Expansion) :
    p.target expand = (fun element => ⟨element, p.items.isSome, p.optional.truthy⟩) <$>
      element expand p.item.type p.item.ref := by
  unfold target item
  cases p.items with
  | none => cases h : element expand p.type p.ref <;> simp only [Option.getD, h] <;> rfl
  | some items => cases h : element expand items.type items.ref <;> simp only [Option.getD, h] <;> rfl

theorem map_typeHint (e : Except Fault Element) (repeated optional : Bool) :
    Target.typeHint <$> (fun e => ⟨e, repeated, optional⟩) <$> e =
      let hint := (fun e => if repeated then listHint e.typeHint else e.typeHint) <$> e
      if optional then optionalHint <$> hint else hint := by
  cases e <;> cases optional <;> rfl

theorem returnHint_eq (p : PropertySpec) (expand : Expansion) :
    p.returnHint expand = Target.typeHint <$> p.target expand := by
  rw [target_eq, map_typeHint]
  unfold returnHint item element
  cases p.items with
  | none =>
      by_cases truthy : p.ref.truthy = true
      · simp [truthy, Element.typeHint]
      · simp [truthy, Element.typeHint]
  | some items =>
      by_cases truthy : items.ref.truthy = true
      · simp [truthy, Element.typeHint]
      · simp [truthy, Element.typeHint, Function.comp_def]

theorem typeHint_eq (p : PropertySpec) (expand : Expansion) (role : Role) :
    p.typeHint expand role = Target.typeHint <$> p.target expand := by
  cases role with
  | field => rfl
  | parameter => rfl
  | returned => exact p.returnHint_eq expand

end PropertySpec

/-! ## Expansion -/

/-- A reference makes a difference to what is generated. -/
def DependsOn {α : Type} (generate : Expansion → Except Fault α) (ref : Value) : Prop :=
  ∃ expand expand', (∀ other, other ≠ ref → expand other = expand' other) ∧ generate expand ≠ generate expand'

namespace PropertySpec

def Expands (p : PropertySpec) (role : Role) (ref : Value) : Prop :=
  DependsOn (p.typeHint · role) ref ∨ ∃ dict, DependsOn (p.decoder · dict) ref

/-- The property has a reference of its own beside items without one. -/
def HasIdleRef (p : PropertySpec) (ref : Value) : Prop :=
  p.ref = ref ∧ p.ref.truthy = true ∧ ∃ items, p.items = some items ∧ items.ref.truthy = false

end PropertySpec

def TypeSpec.Expands (t : TypeSpec) (ref : Value) : Prop :=
  (t.properties = [] ∧ DependsOn t.wrapperBase ref) ∨ ∃ p ∈ t.properties, p.Expands .field ref

open Classical in
theorem dependsOn_element {α : Type} (finish : Element → α) (type ref r : Value) :
    DependsOn (fun expand => finish <$> element expand type ref) r ↔ ref.truthy = true ∧ ref = r := by
  constructor
  · rintro ⟨expand, expand', same, differs⟩
    unfold element at differs
    cases truthy : ref.truthy with
    | false => simp [truthy] at differs
    | true =>
        refine ⟨rfl, Classical.byContradiction fun other => differs ?_⟩
        simp only [same ref other]
  · rintro ⟨truthy, rfl⟩
    -- The two expansions fail for different reasons, at this reference only.
    refine ⟨fun _ => .error .textSubscript,
      fun v => if v = ref then .error .notStarted else .error .textSubscript, fun other differs => ?_, ?_⟩
    · exact (if_neg differs).symm
    · simp [element, truthy, Functor.map, Except.map]

theorem not_dependsOn_const {α : Type} (outcome : Except Fault α) (r : Value) :
    ¬ DependsOn (fun _ => outcome) r := by
  rintro ⟨_, _, -, differs⟩
  exact differs rfl

namespace PropertySpec

theorem expands_iff {p : PropertySpec} {role : Role} {r : Value} :
    p.Expands role r ↔ p.item.ref.truthy = true ∧ p.item.ref = r := by
  have hint : DependsOn (p.typeHint · role) r ↔ p.item.ref.truthy = true ∧ p.item.ref = r := by
    rw [← dependsOn_element (fun element =>
      Target.typeHint ⟨element, p.items.isSome, p.optional.truthy⟩) p.item.type]
    simp [typeHint_eq, target_eq]
  have code (dict : String) :
      DependsOn (p.decoder · dict) r ↔ p.item.ref.truthy = true ∧ p.item.ref = r := by
    rw [← dependsOn_element (fun element =>
      (Target.decoder ⟨element, p.items.isSome, p.optional.truthy⟩ dict p.name.plain).render) p.item.type]
    simp [decoder, target_eq]
  simp only [Expands, hint, code, exists_const, or_self]

theorem reference?_eq_some {p : PropertySpec} (role : Role) {r : Value} :
    p.reference? = some r ↔ p.Expands role r ∨ p.HasIdleRef r := by
  rw [expands_iff]
  unfold reference? item HasIdleRef
  cases p.items with
  | none => simp
  | some items =>
      cases truthy : items.ref.truthy with
      | true => simp [truthy]
      | false => simp [truthy, and_comm]

end PropertySpec

theorem TypeSpec.dependsOn_wrapperBase {t : TypeSpec} {r : Value} :
    DependsOn t.wrapperBase r ↔
      ∃ items, t.items = some items ∧ items.ref.truthy = true ∧ items.ref = r := by
  cases found : t.items with
  | none =>
      have constant : t.wrapperBase = fun _ => (fun kind => (primitiveName kind, primitiveName kind)) <$>
          primitiveOf t.type := by
        funext expand
        simp only [wrapperBase, found]
        cases primitiveOf t.type <;> rfl
      simp [constant, not_dependsOn_const]
  | some items =>
      have mapped : t.wrapperBase = fun expand =>
          (fun element => (listHint element.typeHint, "list")) <$> element expand items.type items.ref := by
        funext expand
        simp only [wrapperBase, found]
        cases element expand items.type items.ref <;> rfl
      simp [mapped, dependsOn_element]

/-! ## Collecting -/

def IsTextRef (ref : Value) : Prop :=
  ref.truthy = true → ∃ s, ref = .text s

def PropertySpec.HasTextRefs (p : PropertySpec) : Prop :=
  IsTextRef p.ref ∧ ∀ items ∈ p.items, IsTextRef items.ref

theorem PropertySpec.HasTextRefs.reference? {p : PropertySpec} (textual : p.HasTextRefs) {r : Value}
    (refers : p.reference? = some r) : ∃ s, r = .text s := by
  unfold PropertySpec.reference? at refers
  have own : (if p.ref.truthy then some p.ref else none) = some r → ∃ s, r = .text s := by
    intro found
    split at found
    · cases found
      exact textual.1 ‹_›
    · cases found
  split at refers
  · rename_i items present
    split at refers
    · cases refers
      exact textual.2 items present ‹_›
    · exact own refers
  · exact own refers

theorem addRef_text {ref : Value} (text : ∃ s, ref = .text s) (refs : List Value)
    (textual : ∀ r ∈ refs, ∃ s, r = .text s) :
    ∃ refs', addRef ref refs = .ok refs' ∧ ∀ r, r ∈ refs' ↔ r ∈ refs ∨ ref = r := by
  obtain ⟨s, rfl⟩ := text
  have held : refs.any (·.agrees (.text s)) = true ↔ .text s ∈ refs := by
    rw [List.any_eq_true]
    constructor
    · rintro ⟨r, member, same⟩
      obtain ⟨t, rfl⟩ := textual r member
      rw [Value.agrees_text, beq_iff_eq] at same
      exact same ▸ member
    · intro member
      exact ⟨_, member, by rw [Value.agrees_text, beq_self_eq_true]⟩
  refine ⟨_, rfl, fun r => ?_⟩
  split
  · rename_i present
    constructor
    · exact .inl
    · rintro (member | rfl)
      · exact member
      · exact held.mp present
  · rw [List.mem_append, List.mem_singleton, eq_comm (a := r)]

theorem propertyRefs_text {ps : List PropertySpec} (textual : ∀ p ∈ ps, p.HasTextRefs) (refs : List Value)
    (found : ∀ r ∈ refs, ∃ s, r = .text s) :
    ∃ refs', propertyRefs ps refs = .ok refs' ∧
      ∀ r, r ∈ refs' ↔ r ∈ refs ∨ ∃ p ∈ ps, p.reference? = some r := by
  induction ps generalizing refs with
  | nil => exact ⟨refs, rfl, by simp⟩
  | cons p rest ih =>
      obtain ⟨here, others⟩ := List.forall_mem_cons.mp textual
      unfold propertyRefs
      cases refers : p.reference? with
      | none =>
          obtain ⟨refs', collected, member⟩ := ih others refs found
          exact ⟨refs', collected, fun r => by simp [member, refers]⟩
      | some ref =>
          have text := here.reference? refers
          obtain ⟨more, added, inside⟩ := addRef_text text refs found
          have still : ∀ r ∈ more, ∃ s, r = .text s := by
            intro r member
            rcases (inside r).mp member with before | rfl
            · exact found r before
            · exact text
          obtain ⟨refs', collected, member⟩ := ih others more still
          refine ⟨refs', ?_, fun r => ?_⟩
          · simp only [added]
            exact collected
          · rw [member, inside, or_assoc]
            simp [refers]

/-! ## Declarations -/

namespace TypeSpec

def HasTextRefs (t : TypeSpec) : Prop :=
  (∀ items ∈ t.items, IsTextRef items.ref) ∧ ∀ p ∈ t.properties, p.HasTextRefs

def Refers (t : TypeSpec) (r : Value) : Prop :=
  t.Expands r ∨ ∃ p ∈ t.properties, p.HasIdleRef r

theorem wrapper_refs {t : TypeSpec} (structured : t.choices.truthy = false) (wrapper : t.properties = [])
    (textual : t.HasTextRefs) : ∃ refs, t.refs = .ok refs ∧ ∀ r, r ∈ refs ↔ t.Refers r := by
  have refers (r : Value) : t.Refers r ↔
      ∃ items, t.items = some items ∧ items.ref.truthy = true ∧ items.ref = r := by
    simp [Refers, Expands, wrapper, dependsOn_wrapperBase]
  simp only [refs, structured, wrapper, List.isEmpty_nil, Bool.false_eq_true, ↓reduceIte, refers]
  cases found : t.items with
  | none => exact ⟨[], rfl, by simp⟩
  | some items =>
      cases truthy : items.ref.truthy with
      | false => exact ⟨[], by simp [truthy], by simp [truthy]⟩
      | true =>
          obtain ⟨refs, added, inside⟩ := addRef_text (textual.1 items found truthy) [] (by simp)
          refine ⟨refs, ?_, fun r => ?_⟩
          · simp only [truthy, ↓reduceIte, added]
          · simp [inside, truthy]

theorem record_refs {t : TypeSpec} (structured : t.choices.truthy = false) (record : t.properties ≠ [])
    (textual : t.HasTextRefs) : ∃ refs, t.refs = .ok refs ∧ ∀ r, r ∈ refs ↔ t.Refers r := by
  obtain ⟨refs, collected, member⟩ := propertyRefs_text textual.2 [] (by simp)
  refine ⟨refs, ?_, fun r => ?_⟩
  · simp only [TypeSpec.refs, structured, List.isEmpty_iff, record, Bool.false_eq_true, ↓reduceIte, collected]
  · rw [member]
    simp [PropertySpec.reference?_eq_some .field, Refers, Expands, record, ← exists_or, ← and_or_left]

theorem exists_refs {t : TypeSpec} (textual : t.HasTextRefs) :
    ∃ refs, t.refs = .ok refs ∧ ∀ r, r ∈ refs ↔ t.choices.truthy = false ∧ t.Refers r := by
  cases structured : t.choices.truthy with
  | true => exact ⟨[], by simp [refs, structured], by simp⟩
  | false =>
      simp only [true_and]
      by_cases wrapper : t.properties = []
      · exact wrapper_refs structured wrapper textual
      · exact record_refs structured wrapper textual

end TypeSpec

namespace CommandSpec

def HasTextRefs (c : CommandSpec) : Prop :=
  ∀ p ∈ c.parameters ++ c.returns, p.HasTextRefs

def Expands (c : CommandSpec) (r : Value) : Prop :=
  (∃ p ∈ c.parameters, p.Expands .parameter r) ∨ ∃ p ∈ c.returns, p.Expands .returned r

def Refers (c : CommandSpec) (r : Value) : Prop :=
  c.Expands r ∨ ∃ p ∈ c.parameters ++ c.returns, p.HasIdleRef r

theorem exists_refs {c : CommandSpec} (textual : c.HasTextRefs) :
    ∃ refs, c.refs = .ok refs ∧ ∀ r, r ∈ refs ↔ c.Refers r := by
  obtain ⟨refs, collected, member⟩ := propertyRefs_text textual [] (by simp)
  refine ⟨refs, collected, fun r => ?_⟩
  have expands : (∃ p ∈ c.parameters ++ c.returns, p.Expands .field r) ↔ c.Expands r := by
    simp only [Expands, PropertySpec.expands_iff, List.mem_append, or_and_right, exists_or]
  rw [member, Refers, ← expands]
  simp only [List.not_mem_nil, false_or, PropertySpec.reference?_eq_some .field, ← exists_or, ← and_or_left]

end CommandSpec

namespace EventSpec

def HasTextRefs (e : EventSpec) : Prop :=
  ∀ p ∈ e.parameters, p.HasTextRefs

def Expands (e : EventSpec) (r : Value) : Prop :=
  ∃ p ∈ e.parameters, p.Expands .parameter r

def Refers (e : EventSpec) (r : Value) : Prop :=
  e.Expands r ∨ ∃ p ∈ e.parameters, p.HasIdleRef r

theorem exists_refs {e : EventSpec} (textual : e.HasTextRefs) :
    ∃ refs, e.refs = .ok refs ∧ ∀ r, r ∈ refs ↔ e.Refers r := by
  obtain ⟨refs, collected, member⟩ := propertyRefs_text textual [] (by simp)
  refine ⟨refs, collected, fun r => ?_⟩
  rw [member]
  simp only [List.not_mem_nil, false_or, PropertySpec.reference?_eq_some .parameter, Refers, Expands, ← exists_or,
    ← and_or_left]

end EventSpec

/-! ## Domains -/

theorem mapM_refs {α : Type} {refs : α → Except Fault (List Value)} {Refers : α → Value → Prop} {as : List α}
    (each : ∀ a ∈ as, ∃ rs, refs a = .ok rs ∧ ∀ r, r ∈ rs ↔ Refers a r) :
    ∃ rss, as.mapM refs = .ok rss ∧ ∀ r, r ∈ rss.flatten ↔ ∃ a ∈ as, Refers a r := by
  induction as with
  | nil => exact ⟨[], rfl, by simp⟩
  | cons a rest ih =>
      obtain ⟨here, others⟩ := List.forall_mem_cons.mp each
      obtain ⟨rs, found, inside⟩ := here
      obtain ⟨rss, collected, member⟩ := ih others
      refine ⟨rs :: rss, ?_, fun r => ?_⟩
      · rw [List.mapM_cons, found, collected]
        rfl
      · rw [List.flatten_cons, List.mem_append, inside, member]
        simp

theorem splitOn_point {cs first second : List Char} (cut : cs.splitOn '.' = [first, second]) :
    cs = first ++ '.' :: second ∧ '.' ∉ first ∧ cs.count '.' = 1 := by
  have clean : ∀ part ∈ [first, second], '.' ∉ part := fun part member =>
    Text.not_mem_of_mem_splitOn (cut ▸ member)
  have whole : ['.'].intercalate (cs.splitOn '.') = cs := List.intercalate_splitOn '.'
  rw [cut] at whole
  simp only [List.forall_mem_cons, List.not_mem_nil, false_implies, implies_true, and_true] at clean
  have same : cs = first ++ '.' :: second := by simpa using whole.symm
  refine ⟨same, clean.1, ?_⟩
  simp [same, List.count_append, List.count_eq_zero.mpr clean.1, List.count_eq_zero.mpr clean.2]

theorem eq_of_cut {first second name rest : List Char} (clean : '.' ∉ first) (clean' : '.' ∉ name)
    (same : first ++ '.' :: second = name ++ '.' :: rest) : first = name := by
  induction first generalizing name with
  | nil =>
      cases name with
      | nil => rfl
      | cons c name => simp_all
  | cons c first ih =>
      cases name with
      | nil => simp_all
      | cons c' name =>
          simp only [List.cons_append, List.cons.injEq] at same
          obtain ⟨rfl, same⟩ := same
          simp only [List.mem_cons, not_or] at clean clean'
          rw [ih clean.2 clean'.2 same]

namespace DomainSpec

structure HasTextRefs (d : DomainSpec) : Prop where
  types : ∀ t ∈ d.types, t.HasTextRefs
  commands : ∀ c ∈ d.commands, c.HasTextRefs
  events : ∀ e ∈ d.events, e.HasTextRefs

def Refers (d : DomainSpec) (r : Value) : Prop :=
  (∃ t ∈ d.types, t.choices.truthy = false ∧ t.Refers r) ∨ (∃ c ∈ d.commands, c.Refers r) ∨
    ∃ e ∈ d.events, e.Refers r

def Deprecates (d : DomainSpec) : Prop :=
  (∃ c ∈ d.commands, c.deprecated.truthy = true) ∨ ∃ e ∈ d.events, e.deprecated.truthy = true

/-- A reference that leads to no other domain: it has no point, or more than one, or names the domain
itself. -/
def IsNear (d : DomainSpec) (r : Value) : Prop :=
  ∃ s, r = .text s ∧ (s.toList.count '.' ≠ 1 ∨
    ∃ name rest, d.domain = .text name ∧ s = name ++ "." ++ rest)

theorem exists_refs {d : DomainSpec} (textual : d.HasTextRefs) :
    ∃ refs, d.refs = .ok refs ∧ ∀ r, r ∈ refs ↔ d.Refers r := by
  obtain ⟨types, typesFound, inTypes⟩ := mapM_refs fun t member => TypeSpec.exists_refs (textual.types t member)
  obtain ⟨commands, commandsFound, inCommands⟩ :=
    mapM_refs fun c member => CommandSpec.exists_refs (textual.commands c member)
  obtain ⟨events, eventsFound, inEvents⟩ :=
    mapM_refs fun e member => EventSpec.exists_refs (textual.events e member)
  refine ⟨(types ++ commands ++ events).flatten, ?_, fun r => ?_⟩
  · simp only [refs, typesFound, commandsFound, eventsFound]
    rfl
  · simp only [List.flatten_append, List.mem_append, inTypes, inCommands, inEvents, Refers, or_assoc]

theorem usesDeprecation_iff {d : DomainSpec} : d.usesDeprecation = true ↔ d.Deprecates := by
  simp [usesDeprecation, Deprecates]

theorem dependency?_of_isNear {d : DomainSpec} {r : Value} (near : d.IsNear r) (style : Style) :
    d.dependency? style r = .ok none := by
  obtain ⟨s, rfl, near⟩ := near
  unfold dependency?
  dsimp only
  split
  · rename_i first second split
    obtain ⟨cut, clean, once⟩ := splitOn_point split
    rcases near with never | ⟨name, rest, named, rfl⟩
    · exact absurd once never
    · have cut' : first ++ '.' :: second = name.toList ++ '.' :: rest.toList := by simpa using cut.symm
      have clean' : '.' ∉ name.toList := by
        have point : ".".toList.count '.' = 1 := by decide
        rw [String.toList_append, String.toList_append, List.count_append, List.count_append, point] at once
        rw [← List.count_eq_zero]
        omega
      have same := eq_of_cut clean clean' cut'
      rw [if_pos]
      simp [named, Value.isText, Value.core, same]
  · rfl

theorem mapM_dependency?_of_isNear {d : DomainSpec} {refs : List Value} (near : ∀ r ∈ refs, d.IsNear r)
    (style : Style) : refs.mapM (d.dependency? style) = .ok (refs.map fun _ => none) := by
  induction refs with
  | nil => rfl
  | cons r rest ih =>
      obtain ⟨here, others⟩ := List.forall_mem_cons.mp near
      rw [List.mapM_cons, dependency?_of_isNear here, ih others]
      rfl

theorem importedModules_of_isNear {d : DomainSpec} (textual : d.HasTextRefs)
    (near : ∀ r, d.Refers r → d.IsNear r) (style : Style) : d.importedModules style = .ok [] := by
  obtain ⟨refs, found, member⟩ := exists_refs textual
  have none := mapM_dependency?_of_isNear (fun r inside => near r ((member r).mp inside)) style
  have empty : (refs.map fun _ => (Option.none : Option String)).filterMap id = [] := by simp
  simp only [importedModules, found, none, bind, Except.bind, pure, Except.pure, empty, List.eraseDups_nil,
    List.mergeSort_nil]

theorem importCode_eq {d : DomainSpec} (textual : d.HasTextRefs) (near : ∀ r, d.Refers r → d.IsNear r)
    (style : Style) : d.importCode style =
      .ok (if d.usesDeprecation then "\nfrom deprecated.sphinx import deprecated # type: ignore" else "") := by
  rw [importCode, importedModules_of_isNear textual near]
  exact congrArg Except.ok String.empty_append

theorem importCode_congr {d d' : DomainSpec} (textual : d.HasTextRefs) (textual' : d'.HasTextRefs)
    (near : ∀ r, d.Refers r → d.IsNear r) (domain : d'.domain = d.domain)
    (refers : ∀ r, d'.Refers r ↔ d.Refers r) (deprecates : d'.Deprecates ↔ d.Deprecates) (style : Style) :
    d'.importCode style = d.importCode style := by
  have near' : ∀ r, d'.Refers r → d'.IsNear r := by
    intro r inside
    unfold IsNear
    rw [domain]
    exact near r ((refers r).mp inside)
  have same : d'.usesDeprecation = d.usesDeprecation := by
    rw [Bool.eq_iff_iff, usesDeprecation_iff, usesDeprecation_iff, deprecates]
  rw [importCode_eq textual near, importCode_eq textual' near', same]

end DomainSpec

/-! ## Order and repetition -/

def SameUpTo {α : Type} (R : α → α → Prop) (as bs : List α) : Prop :=
  (∀ a ∈ as, ∃ b ∈ bs, R a b) ∧ ∀ b ∈ bs, ∃ a ∈ as, R a b

theorem SameUpTo.exists_iff {α : Type} {R : α → α → Prop} {as bs : List α} (same : SameUpTo R as bs)
    {Q : α → Prop} (keeps : ∀ a b, R a b → (Q b ↔ Q a)) : (∃ b ∈ bs, Q b) ↔ ∃ a ∈ as, Q a := by
  constructor
  · rintro ⟨b, member, holds⟩
    obtain ⟨a, partner, related⟩ := same.2 b member
    exact ⟨a, partner, (keeps a b related).mp holds⟩
  · rintro ⟨a, member, holds⟩
    obtain ⟨b, partner, related⟩ := same.1 a member
    exact ⟨b, partner, (keeps a b related).mpr holds⟩

theorem SameUpTo.forall_of {α : Type} {R : α → α → Prop} {as bs : List α} (same : SameUpTo R as bs)
    {Q : α → Prop} (keeps : ∀ a b, R a b → (Q b ↔ Q a)) (all : ∀ a ∈ as, Q a) : ∀ b ∈ bs, Q b := by
  intro b member
  obtain ⟨a, partner, related⟩ := same.2 b member
  exact (keeps a b related).mpr (all a partner)

namespace TypeSpec

def Rearranged (t t' : TypeSpec) : Prop :=
  ∃ properties, t' = { t with properties } ∧ ∀ p, p ∈ properties ↔ p ∈ t.properties

theorem Rearranged.hasTextRefs {t t' : TypeSpec} (rearranged : t.Rearranged t') :
    t'.HasTextRefs ↔ t.HasTextRefs := by
  obtain ⟨properties, rfl, same⟩ := rearranged
  simp only [HasTextRefs, same]

theorem Rearranged.refers {t t' : TypeSpec} (rearranged : t.Rearranged t') (r : Value) :
    t'.choices.truthy = false ∧ t'.Refers r ↔ t.choices.truthy = false ∧ t.Refers r := by
  obtain ⟨properties, rfl, same⟩ := rearranged
  have empty : properties = [] ↔ t.properties = [] := by
    simp only [List.eq_nil_iff_forall_not_mem, same]
  simp only [Refers, Expands, dependsOn_wrapperBase, same, empty]

end TypeSpec

namespace CommandSpec

def Rearranged (c c' : CommandSpec) : Prop :=
  ∃ parameters returns, c' = { c with parameters, returns } ∧ (∀ p, p ∈ parameters ↔ p ∈ c.parameters) ∧
    ∀ p, p ∈ returns ↔ p ∈ c.returns

theorem Rearranged.hasTextRefs {c c' : CommandSpec} (rearranged : c.Rearranged c') :
    c'.HasTextRefs ↔ c.HasTextRefs := by
  obtain ⟨parameters, returns, rfl, sameParameters, sameReturns⟩ := rearranged
  simp only [HasTextRefs, List.mem_append, sameParameters, sameReturns]

theorem Rearranged.refers {c c' : CommandSpec} (rearranged : c.Rearranged c') (r : Value) :
    c'.Refers r ↔ c.Refers r := by
  obtain ⟨parameters, returns, rfl, sameParameters, sameReturns⟩ := rearranged
  simp only [Refers, Expands, List.mem_append, sameParameters, sameReturns]

theorem Rearranged.deprecated {c c' : CommandSpec} (rearranged : c.Rearranged c') :
    c'.deprecated.truthy = true ↔ c.deprecated.truthy = true := by
  obtain ⟨parameters, returns, rfl, -, -⟩ := rearranged
  rfl

end CommandSpec

namespace EventSpec

def Rearranged (e e' : EventSpec) : Prop :=
  ∃ parameters, e' = { e with parameters } ∧ ∀ p, p ∈ parameters ↔ p ∈ e.parameters

theorem Rearranged.hasTextRefs {e e' : EventSpec} (rearranged : e.Rearranged e') :
    e'.HasTextRefs ↔ e.HasTextRefs := by
  obtain ⟨parameters, rfl, same⟩ := rearranged
  simp only [HasTextRefs, same]

theorem Rearranged.refers {e e' : EventSpec} (rearranged : e.Rearranged e') (r : Value) :
    e'.Refers r ↔ e.Refers r := by
  obtain ⟨parameters, rfl, same⟩ := rearranged
  simp only [Refers, Expands, same]

theorem Rearranged.deprecated {e e' : EventSpec} (rearranged : e.Rearranged e') :
    e'.deprecated.truthy = true ↔ e.deprecated.truthy = true := by
  obtain ⟨parameters, rfl, -⟩ := rearranged
  rfl

end EventSpec

namespace DomainSpec

/-- The same declarations in another order, some of them perhaps repeated, and each of them rearranged. -/
structure Rearranged (d d' : DomainSpec) : Prop where
  domain : d'.domain = d.domain
  types : SameUpTo TypeSpec.Rearranged d.types d'.types
  commands : SameUpTo CommandSpec.Rearranged d.commands d'.commands
  events : SameUpTo EventSpec.Rearranged d.events d'.events

namespace Rearranged

variable {d d' : DomainSpec}

theorem hasTextRefs (rearranged : d.Rearranged d') (textual : d.HasTextRefs) : d'.HasTextRefs where
  types := rearranged.types.forall_of (fun _ _ => TypeSpec.Rearranged.hasTextRefs) textual.types
  commands := rearranged.commands.forall_of (fun _ _ => CommandSpec.Rearranged.hasTextRefs) textual.commands
  events := rearranged.events.forall_of (fun _ _ => EventSpec.Rearranged.hasTextRefs) textual.events

theorem refers (rearranged : d.Rearranged d') (r : Value) : d'.Refers r ↔ d.Refers r := by
  have types := rearranged.types.exists_iff fun _ _ related => TypeSpec.Rearranged.refers related r
  have commands := rearranged.commands.exists_iff fun _ _ related => CommandSpec.Rearranged.refers related r
  have events := rearranged.events.exists_iff fun _ _ related => EventSpec.Rearranged.refers related r
  unfold Refers
  rw [types, commands, events]

theorem deprecates (rearranged : d.Rearranged d') : d'.Deprecates ↔ d.Deprecates := by
  have commands := rearranged.commands.exists_iff fun _ _ => CommandSpec.Rearranged.deprecated
  have events := rearranged.events.exists_iff fun _ _ => EventSpec.Rearranged.deprecated
  unfold Deprecates
  rw [commands, events]

theorem importCode_eq (rearranged : d.Rearranged d') (textual : d.HasTextRefs)
    (near : ∀ r, d.Refers r → d.IsNear r) (style : Style) : d'.importCode style = d.importCode style :=
  importCode_congr textual (rearranged.hasTextRefs textual) near rearranged.domain rearranged.refers
    rearranged.deprecates style

end Rearranged

end DomainSpec

/-- The references that are collected for a declaration are those its code expands, and those its properties
have beside items without one. The imports of a domain whose references lead nowhere else hold the line for
deprecation if anything is deprecated, and nothing otherwise, in whichever order things are declared and
however often. -/
theorem references_collected (style : Style) :
    (∀ t : TypeSpec, t.choices.truthy = false → t.HasTextRefs →
      ∃ refs, t.refs = .ok refs ∧ ∀ r, r ∈ refs ↔ t.Expands r ∨ ∃ p ∈ t.properties, p.HasIdleRef r) ∧
    (∀ c : CommandSpec, c.HasTextRefs → ∃ refs, c.refs = .ok refs ∧
      ∀ r, r ∈ refs ↔ c.Expands r ∨ ∃ p ∈ c.parameters ++ c.returns, p.HasIdleRef r) ∧
    (∀ e : EventSpec, e.HasTextRefs →
      ∃ refs, e.refs = .ok refs ∧ ∀ r, r ∈ refs ↔ e.Expands r ∨ ∃ p ∈ e.parameters, p.HasIdleRef r) ∧
    ∀ d : DomainSpec, d.HasTextRefs → (∀ r, d.Refers r → d.IsNear r) →
      (∃ refs, d.refs = .ok refs ∧ ∀ r, r ∈ refs ↔ d.Refers r) ∧
      (d.Deprecates → d.importCode style = .ok "\nfrom deprecated.sphinx import deprecated # type: ignore") ∧
      (¬ d.Deprecates → d.importCode style = .ok "") ∧
      (∀ d' : DomainSpec, d'.HasTextRefs → d'.domain = d.domain → (∀ r, d'.Refers r ↔ d.Refers r) →
        (d'.Deprecates ↔ d.Deprecates) → d'.importCode style = d.importCode style) ∧
      ∀ d', d.Rearranged d' → d'.importCode style = d.importCode style := by
  refine ⟨fun t structured textual => ?_, fun c textual => c.exists_refs textual,
    fun e textual => e.exists_refs textual, fun d textual near => ?_⟩
  · obtain ⟨refs, collected, member⟩ := t.exists_refs textual
    refine ⟨refs, collected, fun r => ?_⟩
    rw [member, structured, eq_self_iff_true, true_and]
    rfl
  · have code := d.importCode_eq textual near style
    refine ⟨d.exists_refs textual, fun deprecates => ?_, fun spares => ?_, fun d' textual' => ?_,
      fun d' rearranged => ?_⟩
    · rw [code, if_pos (DomainSpec.usesDeprecation_iff.mpr deprecates)]
    · rw [code, if_neg (mt DomainSpec.usesDeprecation_iff.mp spares)]
    · exact fun domain refers deprecates =>
        DomainSpec.importCode_congr textual textual' near domain refers deprecates style
    · exact rearranged.importCode_eq textual near style

def shelf : TypeSpec where
  id := .text "Shelf"
  description := .null
  type := .text "object"
  items := none
  choices := .null
  properties :=
    [ { PropertySpec.called "books" with items := some ⟨.null, .text "Book"⟩ },
      { PropertySpec.called "labels" with ref := .text "Label", items := some ⟨.text "string", .null⟩ } ]

def lending : CommandSpec where
  name := .text "lend"
  description := .null
  experimental := .bool false
  deprecated := .bool true
  parameters := [{ PropertySpec.called "book" with ref := .text "Library.Book" }]
  returns := [{ PropertySpec.called "due" with ref := .text "Time.Calendar.Date" }]
  domain := .text "Library"

def library : DomainSpec where
  domain := .text "Library"
  description := .null
  experimental := .bool false
  dependencies := .list []
  types := [shelf]
  commands := [lending]
  events := []

def shelvedTwice : DomainSpec :=
  { library with types := [shelf, { shelf with properties := shelf.properties.reverse }] }

theorem hasTextRefs_shelf : shelf.HasTextRefs := by
  refine ⟨nofun, List.forall_mem_cons.mpr ⟨⟨nofun, ?_⟩, List.forall_mem_singleton.mpr ⟨fun _ => ⟨_, rfl⟩, ?_⟩⟩⟩
  · rintro _ ⟨⟩ -
    exact ⟨"Book", rfl⟩
  · rintro _ ⟨⟩ ⟨⟩

theorem hasTextRefs_lending : lending.HasTextRefs :=
  List.forall_mem_cons.mpr ⟨⟨fun _ => ⟨_, rfl⟩, nofun⟩, List.forall_mem_singleton.mpr ⟨fun _ => ⟨_, rfl⟩, nofun⟩⟩

theorem hasTextRefs_library : library.HasTextRefs where
  types := List.forall_mem_singleton.mpr hasTextRefs_shelf
  commands := List.forall_mem_singleton.mpr hasTextRefs_lending
  events := List.forall_mem_nil _

theorem isNear_library {r : Value} (refers : library.Refers r) : library.IsNear r := by
  have collects : library.refs =
      .ok [.text "Book", .text "Label", .text "Library.Book", .text "Time.Calendar.Date"] := rfl
  obtain ⟨refs, collected, member⟩ := DomainSpec.exists_refs hasTextRefs_library
  obtain rfl := Except.ok.inj (collects.symm.trans collected)
  simp only [← member, List.mem_cons, List.not_mem_nil, or_false] at refers
  rcases refers with rfl | rfl | rfl | rfl
  · exact ⟨_, rfl, .inl (by decide)⟩
  · exact ⟨_, rfl, .inl (by decide)⟩
  · exact ⟨_, rfl, .inr ⟨"Library", "Book", rfl, rfl⟩⟩
  · exact ⟨_, rfl, .inl (by decide)⟩

theorem rearranged_library : library.Rearranged shelvedTwice where
  domain := rfl
  types := by
    have same : shelf.Rearranged shelf := ⟨_, rfl, fun _ => Iff.rfl⟩
    have turned : shelf.Rearranged { shelf with properties := shelf.properties.reverse } :=
      ⟨_, rfl, fun _ => List.mem_reverse⟩
    refine ⟨List.forall_mem_singleton.mpr ⟨shelf, List.mem_cons_self, same⟩, List.forall_mem_cons.mpr ⟨?_, ?_⟩⟩
    · exact ⟨shelf, List.mem_singleton_self _, same⟩
    · exact List.forall_mem_singleton.mpr ⟨shelf, List.mem_singleton_self _, turned⟩
  commands := by
    have same : lending.Rearranged lending := ⟨_, _, rfl, fun _ => Iff.rfl, fun _ => Iff.rfl⟩
    exact ⟨List.forall_mem_singleton.mpr ⟨lending, List.mem_singleton_self _, same⟩,
      List.forall_mem_singleton.mpr ⟨lending, List.mem_singleton_self _, same⟩⟩
  events := ⟨nofun, nofun⟩

theorem references_collected_library :
    shelf.choices.truthy = false ∧ shelf.HasTextRefs ∧ library.HasTextRefs ∧
    (∀ r, library.Refers r → library.IsNear r) ∧ library.Deprecates ∧ library.Rearranged shelvedTwice ∧
    (∀ r, r ∈ [.text "Book", .text "Label"] ↔ shelf.Expands r ∨ ∃ p ∈ shelf.properties, p.HasIdleRef r) ∧
    (∀ r, r ∈ [.text "Library.Book", .text "Time.Calendar.Date"] ↔
      lending.Expands r ∨ ∃ p ∈ lending.parameters ++ lending.returns, p.HasIdleRef r) ∧
    library.importCode .plain = .ok "\nfrom deprecated.sphinx import deprecated # type: ignore" ∧
    shelvedTwice.importCode .plain = library.importCode .plain := by
  have deprecates : library.Deprecates := .inl ⟨lending, List.mem_singleton_self _, rfl⟩
  obtain ⟨types, commands, -, domains⟩ := references_collected .plain
  obtain ⟨_, ofShelf, inShelf⟩ := types shelf rfl hasTextRefs_shelf
  obtain ⟨_, ofLending, inLending⟩ := commands lending hasTextRefs_lending
  obtain ⟨-, line, -, -, rearranged⟩ := domains library hasTextRefs_library fun _ => isNear_library
  cases ofShelf
  cases ofLending
  exact ⟨rfl, hasTextRefs_shelf, hasTextRefs_library, fun _ => isNear_library, deprecates, rearranged_library,
    inShelf, inLending, line deprecates, rearranged shelvedTwice rearranged_library⟩

end DevTools.Codegen
