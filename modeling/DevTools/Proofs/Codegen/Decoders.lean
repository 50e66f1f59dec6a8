import DevTools.Catalogue
import DevTools.Codegen.Property
import DevTools.Proofs.Codegen.Evaluation

namespace DevTools.Codegen

/-! ## The tree of a decoder -/

def entryTree (dict key : String) : Primary :=
  .mk (.name dict) (.entry key .nil)

def itemTree : Primary :=
  .mk (.name loopVariable) .nil

def Element.tree (e : Element) (argument : Primary) : Primary :=
  match e with
  | .primitive .any => argument
  | .primitive kind => .mk (.name (primitiveName kind)) (.call (.plain argument) .nil)
  | .reference name => .mk (.name name) (.decoder (.call (.plain argument) .nil))

def Target.valueTree (t : Target) (dict key : String) : Primary :=
  if t.repeated then
    .mk (.each (.plain (t.element.tree itemTree)) loopVariable (entryTree dict key)) .nil
  else t.element.tree (entryTree dict key)

def Target.tree (t : Target) (dict key : String) : Test :=
  if t.optional then
    .choice (t.valueTree dict key) key (.mk (.name dict) .nil) (.plain (.mk .none .nil))
  else .plain (t.valueTree dict key)

def Element.isNamed : Element → Bool
  | .primitive _ => true
  | .reference name => isIdentifier name

inductive Element.ReadAs : Element → Element → Prop
  | primitive (kind : Primitive) : ReadAs (.primitive kind) (.primitive kind)
  | reference {text name : String} : Spells text.toList [.name name] →
      ReadAs (.reference text) (.reference name)

theorem Element.readAs_self {e : Element} (named : e.isNamed = true) : e.ReadAs e := by
  cases e with
  | primitive kind => exact .primitive kind
  | reference name => exact .reference (.name named)

theorem isIdentifier_primitiveName {kind : Primitive} (converts : kind ≠ .any) :
    isIdentifier (primitiveName kind) = true := by
  cases kind with
  | any => exact absurd rfl converts
  | _ => rfl

theorem spells_entry {dict key : String} (identifier : isIdentifier dict = true)
    (plain : key.toList.all isReadable = true) :
    Spells (Expr.entry dict key).render.toList (entryTree dict key).tokens := by
  have bracketed : Spells ('[' :: '\'' :: (key.toList ++ '\'' :: [']']))
      [.openBracket, .text key, .closeBracket] :=
    .punctuation rfl (.quoted plain (.punctuation rfl .nil))
  have whole := (Spells.name identifier).append bracketed (.cons rfl)
  simpa [Expr.render, entryTree, Primary.tokens, Atom.tokens, Trailers.tokens] using whole

theorem spells_item : Spells Expr.item.render.toList itemTree.tokens := by
  have identifier : isIdentifier loopVariable = true := rfl
  exact Spells.name identifier

theorem spells_call {argument : List Char} {ts : List Token} (spelled : Spells argument ts) :
    Spells ('(' :: (argument ++ [')'])) (.openParen :: (ts ++ [.closeParen])) :=
  .punctuation rfl (spelled.append (.punctuation rfl .nil) (.cons rfl))

theorem spells_convert {kind : Primitive} (converts : kind ≠ .any) {argument : Expr} {tree : Primary}
    (spelled : Spells argument.render.toList tree.tokens) :
    Spells (Expr.convert kind argument).render.toList
      (Primary.mk (.name (primitiveName kind)) (.call (.plain tree) .nil)).tokens := by
  have identifier := isIdentifier_primitiveName converts
  have whole := (Spells.name identifier).append (spells_call spelled) (.cons rfl)
  simpa [Expr.render, conversionCode, Primary.tokens, Atom.tokens, Trailers.tokens, Test.tokens] using whole

theorem spells_decode {text name : String} (named : Spells text.toList [.name name]) {argument : Expr}
    {tree : Primary} (spelled : Spells argument.render.toList tree.tokens) :
    Spells (Expr.decode text argument).render.toList
      (Primary.mk (.name name) (.decoder (.call (.plain tree) .nil))).tokens := by
  have method : isIdentifier "from_json" = true := rfl
  have called := (Spells.name method).append (spells_call spelled) (.cons rfl)
  have pointed := Spells.punctuation (c := '.') rfl called
  have whole := named.append pointed (.cons rfl)
  simpa [Expr.render, Primary.tokens, Atom.tokens, Trailers.tokens, Test.tokens] using whole

theorem Element.decoder_primitive {kind : Primitive} (converts : kind ≠ .any) (argument : Expr) :
    (Element.primitive kind).decoder argument = .convert kind argument := by
  cases kind with
  | any => exact absurd rfl converts
  | _ => rfl

theorem Element.tree_primitive {kind : Primitive} (converts : kind ≠ .any) (argument : Primary) :
    (Element.primitive kind).tree argument =
      .mk (.name (primitiveName kind)) (.call (.plain argument) .nil) := by
  cases kind with
  | any => exact absurd rfl converts
  | _ => rfl

theorem Element.spells {e e' : Element} (read : e.ReadAs e') {argument : Expr} {tree : Primary}
    (spelled : Spells argument.render.toList tree.tokens) :
    Spells (e.decoder argument).render.toList (e'.tree tree).tokens := by
  cases read with
  | primitive kind =>
      by_cases converts : kind = .any
      · subst converts
        exact spelled
      · rw [decoder_primitive converts, tree_primitive converts]
        exact spells_convert converts spelled
  | reference named => exact spells_decode named spelled

theorem spells_for : Spells ['f', 'o', 'r'] [.forWord] :=
  .word rfl rfl rfl

theorem spells_in : Spells ['i', 'n'] [.inWord] :=
  .word rfl rfl rfl

theorem spells_if : Spells ['i', 'f'] [.ifWord] :=
  .word rfl rfl rfl

theorem spells_else : Spells ['e', 'l', 's', 'e'] [.elseWord] :=
  .word rfl rfl rfl

theorem spells_none : Spells ['N', 'o', 'n', 'e'] [.noneWord] :=
  .word rfl rfl rfl

theorem spells_each {body source : Expr} {tree tree' : Primary}
    (spelled : Spells body.render.toList tree.tokens)
    (spelled' : Spells source.render.toList tree'.tokens) :
    Spells (Expr.each body source).render.toList
      (Primary.mk (.each (.plain tree) loopVariable tree') .nil).tokens := by
  have closed := spelled'.append (.punctuation (c := ']') rfl .nil) (.cons rfl)
  have looped := spells_in.append (.space closed) (.cons rfl)
  have item := spells_item.append (.space looped) (.cons rfl)
  have loop := spells_for.append (.space item) (.cons rfl)
  have whole := Spells.punctuation (c := '[') rfl (spelled.append (.space loop) (.cons rfl))
  simpa [Expr.render, Primary.tokens, Atom.tokens, Trailers.tokens, Test.tokens, itemTree] using whole

theorem spells_ifPresent {value : Expr} {tree : Primary} {dict key : String}
    (identifier : isIdentifier dict = true) (plain : key.toList.all isReadable = true)
    (spelled : Spells value.render.toList tree.tokens) :
    Spells (Expr.ifPresent value key dict).render.toList
      (Test.choice tree key (.mk (.name dict) .nil) (.plain (.mk .none .nil))).tokens := by
  have missing := spells_else.append (.space spells_none) (.cons rfl)
  have held := (Spells.name identifier).append (.space missing) (.cons rfl)
  have asked := Spells.quoted plain (.space (spells_in.append (.space held) (.cons rfl)))
  have whole := spelled.append (.space (spells_if.append (.space asked) (.cons rfl))) (.cons rfl)
  simpa [Expr.render, Primary.tokens, Atom.tokens, Trailers.tokens, Test.tokens] using whole

theorem Target.spells {t : Target} {e : Element} (read : t.element.ReadAs e) {dict key : String}
    (identifier : isIdentifier dict = true) (plain : key.toList.all isReadable = true) :
    Spells (t.decoder dict key).render.toList ({ t with element := e }.tree dict key).tokens := by
  have entry := spells_entry identifier plain
  obtain ⟨element, repeated, optional⟩ := t
  cases repeated with
  | false =>
      have value := Element.spells read entry
      cases optional with
      | false => exact value
      | true => exact spells_ifPresent identifier plain value
  | true =>
      have value := spells_each (Element.spells read spells_item) entry
      cases optional with
      | false => exact value
      | true => exact spells_ifPresent identifier plain value

theorem mem_render_decoder (t : Target) (dict : String) {key : String} {c : Char} (inside : c ∈ key.toList) :
    c ∈ (t.decoder dict key).render.toList := by
  have entry : c ∈ (Expr.entry dict key).render.toList := by simp [Expr.render, inside]
  have decoded (e : Element) : c ∈ (e.decoder (.entry dict key)).render.toList := by
    cases e with
    | primitive kind => cases kind <;> simp [Element.decoder, Expr.render, conversionCode, inside]
    | reference name => simp [Element.decoder, Expr.render, inside]
  obtain ⟨element, repeated, optional⟩ := t
  cases optional <;> cases repeated <;> simp [Target.decoder, Expr.render, inside, decoded]

theorem Target.parses_iff {t : Target} {e : Element} (read : t.element.ReadAs e) {dict key : String}
    (identifier : isIdentifier dict = true) (plain : key.toList.all isQuotable = true) {tree : Test} :
    Parses (t.decoder dict key).render tree ↔
      '\x00' ∉ key.toList ∧ tree = { t with element := e }.tree dict key := by
  have parses (clean : '\x00' ∉ key.toList) :
      Parses (t.decoder dict key).render ({ t with element := e }.tree dict key) :=
    (spells read identifier (all_isReadable plain clean)).lex
  constructor
  · intro reads
    have clean : '\x00' ∉ key.toList := by
      intro null
      rw [Parses, Pending.lex_null (mem_render_decoder t dict null)] at reads
      cases reads
    exact ⟨clean, reads.unique (parses clean)⟩
  · rintro ⟨clean, rfl⟩
    exact parses clean

/-! ## The value of a decoder -/

def Element.item (e : Element) (type : TypeName) : Item :=
  match e with
  | .primitive kind => .primitive kind
  | .reference _ => .reference ⟨type, false⟩

def Element.callee? (e : Element) : Option String :=
  match e with
  | .primitive .any => none
  | .primitive kind => some (primitiveName kind)
  | .reference name => some name

def Element.meaning (e : Element) (type : TypeName) : Meaning :=
  match e with
  | .primitive kind => .conversion kind
  | .reference _ => .type type

theorem Element.callee?_primitive {kind : Primitive} (converts : kind ≠ .any) :
    (Element.primitive kind).callee? = some (primitiveName kind) := by
  cases kind with
  | any => exact absurd rfl converts
  | _ => rfl

section Value

variable {p : Protocol} {naming : Naming} {scope : Scope} {type : TypeName}

def outcome (x : Except Fault Value) : Except Failure Meaning :=
  .value <$> orFail x

theorem eval_name {s : String} {m : Meaning} (bound : scope (naming.normal s) = some m) :
    (Atom.name s).eval p naming scope = .ok m := by
  simp only [Atom.eval, bound]

theorem eval_entry {dict : String} (key : String) {v : Value}
    (bound : scope (naming.normal dict) = some (.value v)) :
    (entryTree dict key).eval p naming scope = outcome (v.entry key) := by
  simp only [entryTree, Primary.eval, eval_name bound, Trailers.eval, bind, Except.bind, Meaning.toValue]
  cases v.entry key <;> rfl

theorem Element.eval_tree {e : Element}
    (known : ∀ name ∈ e.callee?, scope (naming.normal name) = some (e.meaning type))
    {argument : Primary} {x : Except Fault Value}
    (evaluated : argument.eval p naming scope = outcome x) :
    (e.tree argument).eval p naming scope =
      outcome (x >>= fun v => p.decodeItem v (e.item type)) := by
  cases e with
  | primitive kind =>
      have converted (v : Value) : p.decodeItem v (.primitive kind) = kind.convert v := by
        rw [Protocol.decodeItem_eq]
        rfl
      simp only [Element.item, converted]
      by_cases converts : kind = .any
      · subst converts
        rw [Element.tree, evaluated]
        cases x <;> rfl
      · have bound : scope (naming.normal (primitiveName kind)) = some (.conversion kind) :=
          known _ (callee?_primitive converts)
        rw [tree_primitive converts]
        simp only [Primary.eval, eval_name bound, Trailers.eval, Test.eval, evaluated, bind, Except.bind]
        cases x with
        | error fault => rfl
        | ok v =>
            simp only [outcome, orFail, Functor.map, Except.map, Meaning.toValue, Meaning.call]
  | reference name =>
      have bound : scope (naming.normal name) = some (.type type) := known _ rfl
      simp only [Element.tree, Primary.eval, eval_name bound, Trailers.eval, Test.eval, evaluated, bind,
        Except.bind, Meaning.decoderOf]
      cases x with
      | error fault => rfl
      | ok v =>
          simp only [outcome, orFail, Functor.map, Except.map, Meaning.toValue, Meaning.call,
            Protocol.decode, Element.item]

theorem eval_items {body : Test} {item : String} {decoded : Item}
    (each : ∀ x, body.eval p naming (scope.bind (naming.normal item) (.value x)) =
      outcome (p.decodeItem x decoded)) (items : List Value) :
    (items.mapM fun x => do
      (← body.eval p naming (scope.bind (naming.normal item) (.value x))).toValue) =
        orFail (p.decodeItems items decoded) := by
  induction items with
  | nil => rfl
  | cons x rest ih =>
      rw [List.mapM_cons, ih, each, Protocol.decodeItems]
      cases p.decodeItem x decoded with
      | error fault => rfl
      | ok value => cases p.decodeItems rest decoded <;> rfl

theorem eval_each {body : Test} {item : String} {source : Primary} {decoded : Item}
    {x : Except Fault Value} (evaluated : source.eval p naming scope = outcome x)
    (each : ∀ x, body.eval p naming (scope.bind (naming.normal item) (.value x)) =
      outcome (p.decodeItem x decoded)) :
    (Atom.each body item source).eval p naming scope =
      outcome (x >>= fun v => .list <$> p.decodeAll v decoded) := by
  simp only [Atom.eval, evaluated, eval_items each, Protocol.decodeAll_eq]
  cases x with
  | error fault => rfl
  | ok v =>
      simp only [outcome, orFail, Functor.map, Except.map, Meaning.toValue, bind, Except.bind]
      cases v.items with
      | error fault => rfl
      | ok items =>
          dsimp only
          cases p.decodeItems items decoded <;> rfl

theorem eval_atom {atom : Atom} {x : Except Fault Value}
    (evaluated : atom.eval p naming scope = outcome x) :
    (Primary.mk atom .nil).eval p naming scope = outcome x := by
  simp only [Primary.eval, evaluated]
  cases x <;> rfl

def Target.shape (t : Target) (type : TypeName) : Shape :=
  if t.repeated then .many (t.element.item type) else .one (t.element.item type)

def Target.slot (t : Target) (key : String) (type : TypeName) : Slot :=
  ⟨key, t.shape type, t.optional⟩

theorem Target.eval_valueTree {t : Target} {dict : String} (key : String) {v : Value}
    (bound : scope (naming.normal dict) = some (.value v))
    (known : ∀ name ∈ t.element.callee?, scope (naming.normal name) = some (t.element.meaning type))
    (clear : t.repeated = true → ∀ name ∈ t.element.callee?,
      naming.normal name ≠ naming.normal loopVariable) :
    (t.valueTree dict key).eval p naming scope =
      outcome (v.entry key >>= fun w => p.decodeShape w (t.shape type)) := by
  have entry := eval_entry (p := p) key bound
  obtain ⟨element, repeated, optional⟩ := t
  cases repeated with
  | false => exact Element.eval_tree known entry
  | true =>
      have each (x : Value) : (Test.plain (element.tree itemTree)).eval p naming
          (scope.bind (naming.normal loopVariable) (.value x)) =
            outcome (p.decodeItem x (element.item type)) := by
        have here : scope.bind (naming.normal loopVariable) (.value x) (naming.normal loopVariable) =
            some (.value x) := if_pos rfl
        have item : itemTree.eval p naming (scope.bind (naming.normal loopVariable) (.value x)) =
            outcome (.ok x) := eval_atom (eval_name here)
        refine Element.eval_tree (fun name called => ?_) item
        rw [Scope.bind, if_neg (clear rfl name called)]
        exact known name called
      exact eval_atom (eval_each entry each)

theorem Target.unresolved?_shape (t : Target) (type : TypeName) : (t.shape type).unresolved? = none := by
  obtain ⟨element, repeated, optional⟩ := t
  cases repeated <;> cases element <;> rfl

theorem Target.eval_tree {t : Target} {dict key : String} {v : Value}
    (bound : scope (naming.normal dict) = some (.value v))
    (known : ∀ name ∈ t.element.callee?, scope (naming.normal name) = some (t.element.meaning type))
    (clear : t.repeated = true → ∀ name ∈ t.element.callee?,
      naming.normal name ≠ naming.normal loopVariable) :
    (t.tree dict key).eval p naming scope =
      outcome (decodeSlotWith v (p.entryDecoder v) (t.slot key type)) := by
  have value := Target.eval_valueTree (p := p) key bound known clear
  have present : decodePresentWith (p.entryDecoder v) (t.slot key type) =
      v.entry key >>= fun w => p.decodeShape w (t.shape type) := by
    rw [decodePresentWith, Target.slot, Target.unresolved?_shape, Protocol.entryDecoder_eq]
  unfold Target.tree decodeSlotWith
  rw [present]
  cases optional : t.optional with
  | false =>
      simp only [Target.slot, optional, Bool.false_eq_true, ↓reduceIte, Test.eval]
      exact value
  | true =>
      simp only [Target.slot, optional, ↓reduceIte, Test.eval, Primary.eval, eval_name bound, Trailers.eval,
        bind, Except.bind, Meaning.toValue]
      cases v.holds key with
      | error fault => rfl
      | ok holds =>
          cases holds with
          | false => rfl
          | true => exact value

end Value

/-! ## Properties -/

def conversions : Scope := fun name =>
  ([Primitive.text, .integer, .number, .boolean, .dict].find? (primitiveName · == name)).map .conversion

def decoderScope (naming : Naming) (e : Element) (type : TypeName) (dict : String) (v : Value) : Scope :=
  let types := match e with
    | .primitive _ => conversions
    | .reference name => conversions.bind (naming.normal name) (.type type)
  types.bind (naming.normal dict) (.value v)

/-- What the code calls has another name than the dictionary and, in a list, than the variable. -/
def Target.IsClear (naming : Naming) (t : Target) (dict : String) : Prop :=
  ∀ name ∈ t.element.callee?, naming.normal name ≠ naming.normal dict ∧
    (t.repeated = true → naming.normal name ≠ naming.normal loopVariable)

theorem conversions_primitiveName {kind : Primitive} (converts : kind ≠ .any) :
    conversions (primitiveName kind) = some (.conversion kind) := by
  cases kind with
  | any => exact absurd rfl converts
  | _ => rfl

theorem Naming.normal_primitiveName (naming : Naming) (kind : Primitive) :
    naming.normal (primitiveName kind) = primitiveName kind := by
  refine naming.ascii _ ?_
  cases kind <;> decide

theorem decoderScope_callee {naming : Naming} {e : Element} {type : TypeName} {dict : String} {v : Value}
    {name : String} (called : name ∈ e.callee?) (differs : naming.normal name ≠ naming.normal dict) :
    decoderScope naming e type dict v (naming.normal name) = some (e.meaning type) := by
  simp only [decoderScope]
  rw [Scope.bind, if_neg differs]
  cases e with
  | primitive kind =>
      by_cases converts : kind = .any
      · subst converts
        cases called
      · rw [Element.callee?_primitive converts] at called
        cases called
        rw [naming.normal_primitiveName]
        exact conversions_primitiveName converts
  | reference name =>
      cases called
      exact if_pos rfl

def specName : Primitive → String
  | .text => "string"
  | .integer => "integer"
  | .number => "number"
  | .boolean => "boolean"
  | .dict => "object"
  | .any => "any"

inductive Names : (type ref : Value) → Element → Prop
  | reference {type : Value} {name : String} : isIdentifier name = true →
      Names type (.text name) (.reference name)
  | primitive {ref : Value} (kind : Primitive) : ref.truthy = false →
      Names (.text (specName kind)) ref (.primitive kind)

structure PropertySpec.Describes (spec : PropertySpec) (key : String) (t : Target) : Prop where
  name : spec.name = .text key
  plain : key.toList.all isQuotable = true
  optional : t.optional = spec.optional.truthy
  element : match spec.items with
    | some items => t.repeated = true ∧ Names items.type items.ref t.element
    | none => t.repeated = false ∧ Names spec.type spec.ref t.element

theorem occursIn_point {cs : List Char} : Value.occursIn ['.'] cs = true ↔ '.' ∈ cs := by
  induction cs with
  | nil => simp [Value.occursIn]
  | cons c rest ih => simp [Value.occursIn, List.isPrefixOf, ih]

theorem isNameChar_of_isIdentifier {s : String} (identifier : isIdentifier s = true) :
    s ≠ "" ∧ ∀ c ∈ s.toList, isNameChar c = true := by
  unfold isIdentifier at identifier
  split at identifier
  · cases identifier
  · rename_i c cs equal
    simp only [Bool.and_eq_true] at identifier
    obtain ⟨⟨first, others⟩, -⟩ := identifier
    refine ⟨?_, ?_⟩
    · rintro rfl
      cases equal
    · rw [equal]
      refine List.forall_mem_cons.mpr ⟨?_, List.all_eq_true.mp others⟩
      rw [isNameChar, first]
      rfl

theorem Names.element {type ref : Value} {e : Element} (names : Names type ref e) (style : Style) :
    Codegen.element style.referenceName type ref = .ok e := by
  cases names with
  | @reference _ name identifier =>
      obtain ⟨filled, chars⟩ := isNameChar_of_isIdentifier identifier
      have absent : '.' ∉ name.toList := by
        intro inside
        cases chars '.' inside
      have undotted : (Value.text name).holds "." = .ok false :=
        congrArg Except.ok (Bool.eq_false_iff.mpr (mt occursIn_point.mp absent))
      have truthy : (Value.text name).truthy = true := by simpa [Value.truthy, Value.core] using filled
      simp only [Codegen.element, truthy, ↓reduceIte, Style.referenceName, undotted]
      rfl
  | primitive kind untrue =>
      simp only [Codegen.element, untrue, Bool.false_eq_true, ↓reduceIte]
      cases kind <;> rfl

theorem Names.isNamed {type ref : Value} {e : Element} (names : Names type ref e) : e.isNamed = true := by
  cases names with
  | reference identifier => exact identifier
  | primitive => rfl

theorem PropertySpec.Describes.isNamed {spec : PropertySpec} {key : String} {t : Target}
    (described : spec.Describes key t) : t.element.isNamed = true := by
  have content := described.element
  cases items : spec.items with
  | none =>
      rw [items] at content
      exact content.2.isNamed
  | some items' =>
      rw [items] at content
      exact content.2.isNamed

theorem PropertySpec.Describes.target {spec : PropertySpec} {key : String} {t : Target}
    (described : spec.Describes key t) (style : Style) : spec.target style.referenceName = .ok t := by
  obtain ⟨element, repeated, optional⟩ := t
  have isOptional : optional = spec.optional.truthy := described.optional
  have content := described.element
  unfold PropertySpec.target
  cases items : spec.items with
  | none =>
      rw [items] at content
      obtain ⟨rfl, names⟩ := content
      simp only [isOptional, names.element]
      rfl
  | some items' =>
      rw [items] at content
      obtain ⟨rfl, names⟩ := content
      simp only [isOptional, names.element]
      rfl

theorem PropertySpec.Describes.decoder {spec : PropertySpec} {key : String} {t : Target}
    (described : spec.Describes key t) (style : Style) (dict : String) :
    spec.decoder style.referenceName dict = .ok (t.decoder dict key).render := by
  simp only [PropertySpec.decoder, described.target, described.name]
  rfl

/-- The code of a property is read in one way, unless there is a null character in its name. If none of its names
hides another, its value is that of the slot which the property describes. -/
theorem decoder_code_agrees (p : Protocol) (naming : Naming) (style : Style) {spec : PropertySpec}
    {key dict : String} {t : Target} (described : spec.Describes key t) (identifier : isIdentifier dict = true) :
    ∃ text, spec.decoderCode style .field dict = .ok text ∧ spec.decoderCode style .returned dict = .ok text ∧
      spec.returnCode style .returned dict = .ok text ∧
      ((∃ tree, Parses text tree) ↔ '\x00' ∉ key.toList) ∧
      ∀ tree, Parses text tree → (∀ other, Parses text other → other = tree) ∧
        (t.IsClear naming dict → ∀ v type,
          tree.eval p naming (decoderScope naming t.element type dict v) =
            outcome (decodeSlotWith v (p.entryDecoder v) (t.slot key type))) := by
  have code := described.decoder style dict
  have reads {tree : Test} : Parses (t.decoder dict key).render tree ↔
      '\x00' ∉ key.toList ∧ tree = t.tree dict key :=
    Target.parses_iff (Element.readAs_self described.isNamed) identifier described.plain
  refine ⟨_, ?_, ?_, code, ?_, fun tree parses => ⟨fun other parses' => parses'.unique parses, ?_⟩⟩
  · simp only [PropertySpec.decoderCode, code]
    rfl
  · simp only [PropertySpec.decoderCode, code]
    rfl
  · simp [reads]
  · obtain ⟨-, rfl⟩ := reads.mp parses
    intro clear v type
    have bound : decoderScope naming t.element type dict v (naming.normal dict) = some (.value v) :=
      if_pos rfl
    refine Target.eval_tree bound (fun name called => ?_) fun repeated name called => ?_
    · exact decoderScope_callee called (clear name called).1
    · exact (clear name called).2 repeated

/-! ## Names that hide others -/

def Naming.plain : Naming where
  normal s := s
  ascii _ _ := rfl

def PropertySpec.called (name : String) : PropertySpec where
  name := .text name
  description := .null
  type := .null
  ref := .null
  choices := .null
  items := none
  optional := .bool false
  experimental := .bool false
  deprecated := .bool false

def frameIds : PropertySpec :=
  { PropertySpec.called "all \"frames\"" with
    items := some ⟨.null, .text "FrameId"⟩, optional := .bool true }

def Style.plain : Style where
  underscored name := .ok name.plain
  camelized name := .ok name.plain
  uppercase name := name
  version := versionText

theorem decoder_code_agrees_frameIds :
    frameIds.Describes "all \"frames\"" ⟨.reference "FrameId", true, true⟩ ∧ isIdentifier "json" = true ∧
    ∃ text tree, frameIds.decoderCode .plain .field "json" = .ok text ∧ Parses text tree ∧
      tree.eval protocol .plain (decoderScope .plain (.reference "FrameId") ⟨"page", "FrameId"⟩ "json"
        (.dict [(.text "all \"frames\"", .text "ab")])) =
      .ok (.value (.list [.wrapped ⟨"page", "FrameId"⟩ (.text "a"), .wrapped ⟨"page", "FrameId"⟩ (.text "b")])) := by
  have described : frameIds.Describes "all \"frames\"" ⟨.reference "FrameId", true, true⟩ :=
    ⟨rfl, rfl, rfl, rfl, .reference rfl⟩
  have identifier : isIdentifier "json" = true := rfl
  obtain ⟨text, code, -, -, readable, agrees⟩ :=
    decoder_code_agrees protocol .plain .plain described identifier
  obtain ⟨tree, parses⟩ := readable.mpr (by decide)
  refine ⟨described, identifier, text, tree, code, parses, ?_⟩
  have clear : Target.IsClear .plain ⟨.reference "FrameId", true, true⟩ "json" := by
    rintro name ⟨⟩
    exact ⟨by decide, by decide⟩
  exact (agrees tree parses).2 clear _ _

def hiddenType : PropertySpec :=
  { PropertySpec.called "x" with items := some ⟨.null, .text "i"⟩ }

def hiddenConversion : PropertySpec :=
  { PropertySpec.called "x" with type := .text "integer" }

def nullNamed : PropertySpec :=
  { PropertySpec.called "\x00" with type := .text "integer" }

theorem decoder_code_hides :
    (∃ tree, hiddenType.Describes "x" ⟨.reference "i", true, false⟩ ∧ isIdentifier "d" = true ∧
      hiddenType.decoderCode .plain .field "d" = .ok "[i.from_json(i) for i in d['x']]" ∧
      Parses "[i.from_json(i) for i in d['x']]" tree ∧
      let v := Value.dict [(.text "x", .list [.text "a"])]
      tree.eval protocol .plain (decoderScope .plain (.reference "i") ⟨"page", "FrameId"⟩ "d" v) =
        .error (.fault (.noAttribute "str" "from_json")) ∧
      decodeSlotWith v (protocol.entryDecoder v)
          (Target.slot ⟨.reference "i", true, false⟩ "x" ⟨"page", "FrameId"⟩) =
        .ok (.list [.wrapped ⟨"page", "FrameId"⟩ (.text "a")])) ∧
    (∃ tree, hiddenConversion.Describes "x" ⟨.primitive .integer, false, false⟩ ∧
      isIdentifier "int" = true ∧ hiddenConversion.decoderCode .plain .field "int" = .ok "int(int['x'])" ∧
      Parses "int(int['x'])" tree ∧
      let v := Value.dict [(.text "x", .int 1)]
      tree.eval protocol .plain (decoderScope .plain (.primitive .integer) ⟨"page", "FrameId"⟩ "int" v) =
        .error (.notCallable v) ∧
      decodeSlotWith v (protocol.entryDecoder v)
          (Target.slot ⟨.primitive .integer, false, false⟩ "x" ⟨"page", "FrameId"⟩) = .ok (.int 1)) ∧
    nullNamed.Describes "\x00" ⟨.primitive .integer, false, false⟩ ∧
      nullNamed.decoderCode .plain .field "d" = .ok "int(d['\x00'])" ∧
      ∀ tree, ¬ Parses "int(d['\x00'])" tree := by
  refine ⟨?_, ?_, ?_⟩
  · have described : hiddenType.Describes "x" ⟨.reference "i", true, false⟩ :=
      ⟨rfl, rfl, rfl, rfl, .reference rfl⟩
    have identifier : isIdentifier "d" = true := rfl
    have parses := (Target.parses_iff (Element.readAs_self described.isNamed) identifier described.plain).mpr
      ⟨by decide, rfl⟩
    exact ⟨_, described, identifier, rfl, parses, rfl, rfl⟩
  · have described : hiddenConversion.Describes "x" ⟨.primitive .integer, false, false⟩ :=
      ⟨rfl, rfl, rfl, rfl, .primitive .integer rfl⟩
    have identifier : isIdentifier "int" = true := rfl
    have parses := (Target.parses_iff (Element.readAs_self described.isNamed) identifier described.plain).mpr
      ⟨by decide, rfl⟩
    exact ⟨_, described, identifier, rfl, parses, rfl, rfl⟩
  · have described : nullNamed.Describes "\x00" ⟨.primitive .integer, false, false⟩ :=
      ⟨rfl, rfl, rfl, rfl, .primitive .integer rfl⟩
    have identifier : isIdentifier "d" = true := rfl
    refine ⟨described, rfl, fun tree parses => ?_⟩
    obtain ⟨clean, -⟩ := (Target.parses_iff (t := ⟨.primitive .integer, false, false⟩)
      (Element.readAs_self described.isNamed) identifier described.plain).mp parses
    exact absurd clean (by decide)

end DevTools.Codegen
