import DevTools.Proofs.Codegen.Comments
import DevTools.Proofs.Codegen.Decoders
import DevTools.Proofs.Codegen.Indentation
import DevTools.Proofs.Codegen.References
import Mathlib.Data.List.Forall2

namespace DevTools.Text

/-! ## Lines at the margin -/

def isInside (line : List Char) : Bool :=
  line.all isBlank || (List.replicate 4 ' ').isPrefixOf line

def flushLines (text : List Char) : List (List Char) :=
  (lines text).filter (!isInside ·)

theorem flushLines_eq_nil {text : List Char} :
    flushLines text = [] ↔ ∀ line ∈ lines text, isInside line = true := by
  simp [flushLines]

theorem isInside_newline {line : List Char} (inside : isInside line = true) :
    isInside (line ++ ['\n']) = true := by
  have newline : isBlank '\n' = true := rfl
  rcases Bool.or_eq_true_iff.mp inside with blank | indented
  · simp [isInside, List.all_append, blank, newline]
  · rw [isInside, Bool.or_eq_true_iff]
    right
    rw [List.isPrefixOf_iff_prefix] at indented ⊢
    exact indented.trans (List.prefix_append _ _)

theorem flushLines_newline {text : List Char} (inset : flushLines text = []) :
    flushLines (text ++ ['\n']) = [] := by
  rw [flushLines_eq_nil] at inset ⊢
  rcases lines_newline text with own | ⟨before, last, cut, joined⟩
  · rw [own]
    exact List.forall_mem_append.mpr ⟨inset, List.forall_mem_singleton.mpr rfl⟩
  · rw [cut] at inset
    obtain ⟨others, here⟩ := List.forall_mem_append.mp inset
    have inside := isInside_newline (here last List.mem_cons_self)
    rw [joined]
    exact List.forall_mem_append.mpr ⟨others, List.forall_mem_singleton.mpr inside⟩

theorem lines_newline_append (before after : List Char) :
    lines (before ++ '\n' :: after) = lines (before ++ ['\n']) ++ lines after := by
  rw [List.append_cons]
  exact lines_append (breaks_newline before after)

theorem flushLines_inset_append {before : List Char} (inset : flushLines before = []) (after : List Char) :
    flushLines (before ++ '\n' :: after) = flushLines after := by
  have ended := flushLines_newline inset
  unfold flushLines at ended ⊢
  rw [lines_newline_append, List.filter_append, ended, List.nil_append]

theorem flushLines_cons_newline (after : List Char) : flushLines ('\n' :: after) = flushLines after :=
  @flushLines_inset_append [] rfl after

theorem flushLines_indent (s : String) : flushLines (indent 4 s).toList = [] := by
  rw [flushLines_eq_nil]
  intro line member
  cases blank : line.all isBlank with
  | true => rw [isInside, blank, Bool.true_or]
  | false =>
      rw [isInside, blank, Bool.false_or, List.isPrefixOf_iff_prefix]
      exact replicate_prefix_of_mem_lines member blank

theorem inner_of_all {text : List Char} (all : text.all (!isLineEnd ·) = true) :
    ∀ c ∈ text, isLineEnd c = false := by
  simpa using all

theorem lines_headed {head : List Char} (inner : ∀ c ∈ head, isLineEnd c = false) (body : List Char) :
    lines (head ++ '\n' :: body) = (head ++ ['\n']) :: lines body := by
  rw [lines_newline_append, lines_inner_append inner (lines_singleton '\n')]
  rfl

end DevTools.Text

namespace DevTools.Codegen

/-! ## Types that are looked up -/

def IsTextOrNull (v : Value) : Prop :=
  v = .null ∨ ∃ s, v = .text s

def builtinTypes : List (String × String) :=
  [ ("any", "typing.Any"), ("boolean", "bool"), ("integer", "int"), ("number", "float"),
    ("object", "dict"), ("string", "str") ]

def builtinType? : Value → Option String
  | .text name => builtinTypes.lookup name
  | _ => none

theorem primitiveOf_of_known {v : Value} {base : String} (known : builtinType? v = some base) :
    ∃ kind, primitiveOf v = .ok kind ∧ primitiveName kind = base := by
  cases v with
  | text name =>
      have member : (name, base) ∈ builtinTypes := by
        obtain ⟨before, after, split, -⟩ := List.lookup_eq_some_iff.mp known
        rw [split]
        exact List.mem_append_right _ List.mem_cons_self
      simp only [builtinTypes, List.mem_cons, Prod.mk.injEq, List.not_mem_nil, or_false] at member
      rcases member with ⟨rfl, rfl⟩ | ⟨rfl, rfl⟩ | ⟨rfl, rfl⟩ | ⟨rfl, rfl⟩ | ⟨rfl, rfl⟩ | ⟨rfl, rfl⟩
      · exact ⟨.any, rfl, rfl⟩
      · exact ⟨.boolean, rfl, rfl⟩
      · exact ⟨.integer, rfl, rfl⟩
      · exact ⟨.number, rfl, rfl⟩
      · exact ⟨.dict, rfl, rfl⟩
      · exact ⟨.text, rfl, rfl⟩
  | _ => cases known

theorem primitiveOf_of_unknown {v : Value} (named : IsTextOrNull v) (unknown : builtinType? v = none) :
    primitiveOf v = .error (.missingKey v) := by
  rcases named with rfl | ⟨name, rfl⟩
  · rfl
  · simp only [builtinType?, builtinTypes, List.lookup_eq_none_iff, List.forall_mem_cons, List.not_mem_nil,
      bne_iff_ne, ne_eq, false_implies, implies_true, and_true] at unknown
    obtain ⟨any, boolean, integer, number, object, string⟩ := unknown
    simp [primitiveOf, Value.keyFault?, Value.isText, Value.core, any, boolean, integer, number, object, string]

/-! ## Wrappers -/

def IsPlainRef (ref : Value) : Prop :=
  ref = .null ∨ ∃ name, ref = .text name ∧ '.' ∉ name.toList

theorem IsPlainRef.exists_text {ref : Value} (plain : IsPlainRef ref) (truthy : ref.truthy = true) :
    ∃ name, ref = .text name ∧ '.' ∉ name.toList := by
  rcases plain with rfl | named
  · cases truthy
  · exact named

theorem IsPlainRef.referenceName {ref : Value} (plain : IsPlainRef ref) (truthy : ref.truthy = true)
    (style : Style) : style.referenceName ref = .ok ref.plain := by
  obtain ⟨name, rfl, clean⟩ := plain.exists_text truthy
  have undotted : (Value.text name).holds "." = .ok false :=
    congrArg Except.ok (Bool.eq_false_iff.mpr (mt occursIn_point.mp clean))
  simp only [Style.referenceName, undotted]
  rfl

namespace TypeSpec

/-- A type without choices and properties, whose name is a text on one line. A reference of its items may hold
line ends; it is written in indented code only. -/
structure IsWrapper (t : TypeSpec) : Prop where
  choices : t.choices.truthy = false
  properties : t.properties = []
  id : ∃ name, t.id = .text name ∧ ∀ c ∈ name.toList, Text.isLineEnd c = false
  description : IsTextOrNull t.description
  type : IsTextOrNull t.type
  items : ∀ items ∈ t.items, IsTextOrNull items.type ∧ IsPlainRef items.ref

def lookedUp? (t : TypeSpec) : Option Value :=
  match t.items with
  | some items => if items.ref.truthy then none else some items.type
  | none => some t.type

def missingType? (t : TypeSpec) : Option Value :=
  t.lookedUp?.filter fun v => (builtinType? v).isNone

def superclass (t : TypeSpec) : String :=
  match t.items with
  | some _ => "list"
  | none => (builtinType? t.type).getD ""

def classHead (t : TypeSpec) : String :=
  "class " ++ t.id.plain ++ "(" ++ t.superclass ++ "):"

theorem wrapperBase_of_missing {t : TypeSpec} (wrapper : t.IsWrapper) {v : Value}
    (missing : t.missingType? = some v) (style : Style) :
    t.wrapperBase style.referenceName = .error (.missingKey v) := by
  obtain ⟨looked, unknown⟩ := Option.filter_eq_some_iff.mp missing
  rw [Option.isNone_iff_eq_none] at unknown
  unfold lookedUp? at looked
  cases found : t.items with
  | none =>
      simp only [found, Option.some.injEq] at looked
      subst looked
      simp only [wrapperBase, found, primitiveOf_of_unknown wrapper.type unknown]
      rfl
  | some items =>
      cases truthy : items.ref.truthy with
      | true => simp [found, truthy] at looked
      | false =>
          simp only [found, truthy, Bool.false_eq_true, ↓reduceIte, Option.some.injEq] at looked
          subst looked
          have refused := primitiveOf_of_unknown (wrapper.items items found).1 unknown
          simp only [wrapperBase, found, element, truthy, Bool.false_eq_true, ↓reduceIte, refused]
          rfl

theorem wrapperBase_of_found {t : TypeSpec} (wrapper : t.IsWrapper) (found : t.missingType? = none)
    (style : Style) : ∃ hint, t.wrapperBase style.referenceName = .ok (hint, t.superclass) := by
  have known : ∀ v ∈ t.lookedUp?, ∃ base, builtinType? v = some base := by
    intro v looked
    have filled := Option.filter_eq_none_iff.mp found v looked
    rw [Option.isNone_iff_eq_none] at filled
    exact Option.ne_none_iff_exists'.mp filled
  unfold lookedUp? at known
  cases itemized : t.items with
  | none =>
      simp only [itemized, Option.mem_def, Option.some.injEq, forall_eq'] at known
      obtain ⟨base, known⟩ := known
      obtain ⟨kind, accepted, called⟩ := primitiveOf_of_known known
      refine ⟨base, ?_⟩
      simp only [wrapperBase, superclass, itemized, accepted, known, Option.getD_some]
      rw [← called]
      rfl
  | some items =>
      have element_ok : ∃ e, element style.referenceName items.type items.ref = .ok e := by
        cases truthy : items.ref.truthy with
        | true =>
            have written := (wrapper.items items itemized).2.referenceName truthy style
            simp [element, truthy, written, Functor.map, Except.map]
        | false =>
            simp only [itemized, truthy, Bool.false_eq_true, ↓reduceIte, Option.mem_def, Option.some.injEq,
              forall_eq'] at known
            obtain ⟨base, known⟩ := known
            obtain ⟨kind, accepted, -⟩ := primitiveOf_of_known known
            simp [element, truthy, accepted, Functor.map, Except.map]
      obtain ⟨e, accepted⟩ := element_ok
      refine ⟨listHint e.typeHint, ?_⟩
      simp only [wrapperBase, superclass, itemized, accepted]
      rfl

end TypeSpec

/-! ## Classes -/

def IsClass (head text : String) : Prop :=
  ∃ body, text.toList = head.toList ++ '\n' :: body ∧ Text.flushLines body = []

theorem exists_docstring {description : Value} (named : IsTextOrNull description) :
    ∃ doc, docstring description = .ok doc := by
  rcases named with rfl | ⟨d, rfl⟩
  · exact ⟨"", rfl⟩
  · by_cases empty : d = ""
    · subst empty
      exact ⟨"", rfl⟩
    · refine ⟨docstringText d, ?_⟩
      rw [docstring, descriptionText?_text empty]
      rfl

theorem exists_classDoc {description : Value} (named : IsTextOrNull description) :
    ∃ doc, classDoc description = .ok doc ∧
      ∀ after, Text.flushLines (doc.toList ++ after) = Text.flushLines after := by
  obtain ⟨inner, written⟩ := exists_docstring named
  rw [classDoc, written]
  refine ⟨_, rfl, fun after => ?_⟩
  split
  · rfl
  · rw [String.toList_append, List.append_assoc]
    exact Text.flushLines_inset_append (Text.flushLines_indent inner) after

theorem isClass_of_pieces {name base doc : String}
    (inset : ∀ after, Text.flushLines (doc.toList ++ after) = Text.flushLines after)
    (toJson fromJson repr : String) :
    IsClass ("class " ++ name ++ "(" ++ base ++ "):") ("class " ++ name ++ "(" ++ base ++ "):\n" ++ doc ++
      Text.indent 4 toJson ++ "\n\n" ++ Text.indent 4 fromJson ++ "\n\n" ++ Text.indent 4 repr) := by
  refine ⟨doc.toList ++ ((Text.indent 4 toJson).toList ++ '\n' :: '\n' ::
    ((Text.indent 4 fromJson).toList ++ '\n' :: '\n' :: (Text.indent 4 repr).toList)), ?_, ?_⟩
  · simp
  · rw [inset, Text.flushLines_inset_append (Text.flushLines_indent toJson), Text.flushLines_cons_newline,
      Text.flushLines_inset_append (Text.flushLines_indent fromJson), Text.flushLines_cons_newline,
      Text.flushLines_indent]

namespace TypeSpec

theorem code_of_missing {t : TypeSpec} (wrapper : t.IsWrapper) {v : Value}
    (missing : t.missingType? = some v) (style : Style) : t.code style = .error (.missingKey v) := by
  simp only [code, wrapper.choices, wrapper.properties, primitiveCode,
    wrapperBase_of_missing wrapper missing]
  rfl

theorem code_of_found {t : TypeSpec} (wrapper : t.IsWrapper) (found : t.missingType? = none) (style : Style) :
    ∃ text, t.code style = .ok text ∧ IsClass t.classHead text := by
  obtain ⟨hint, based⟩ := wrapperBase_of_found wrapper found style
  obtain ⟨doc, documented, inset⟩ := exists_classDoc wrapper.description
  simp only [code, wrapper.choices, wrapper.properties, primitiveCode, based, documented]
  exact ⟨_, rfl, isClass_of_pieces inset _ _ _⟩

theorem inner_superclass (t : TypeSpec) : ∀ c ∈ t.superclass.toList, Text.isLineEnd c = false := by
  unfold superclass
  split
  · exact Text.inner_of_all rfl
  · cases known : builtinType? t.type with
    | none => exact List.forall_mem_nil _
    | some base =>
        obtain ⟨kind, -, rfl⟩ := primitiveOf_of_known known
        cases kind <;> exact Text.inner_of_all rfl

theorem inner_classHead {t : TypeSpec} (wrapper : t.IsWrapper) :
    ∀ c ∈ t.classHead.toList, Text.isLineEnd c = false := by
  obtain ⟨name, named, inner⟩ := wrapper.id
  simp only [classHead, named, Value.plain, String.toList_append, List.forall_mem_append]
  exact ⟨⟨⟨⟨Text.inner_of_all rfl, inner⟩, Text.inner_of_all rfl⟩, inner_superclass t⟩, Text.inner_of_all rfl⟩

theorem flush_classHead (t : TypeSpec) : Text.isInside (t.classHead ++ "\n").toList = false := by
  simp only [classHead, String.toList_append]
  rfl

end TypeSpec

theorem IsClass.lines {head text : String} (isClass : IsClass head text)
    (inner : ∀ c ∈ head.toList, Text.isLineEnd c = false) :
    ∃ body, Text.lines text.toList = (head ++ "\n").toList :: body ∧ ∀ line ∈ body, Text.isInside line = true := by
  obtain ⟨body, split, inset⟩ := isClass
  refine ⟨Text.lines body, ?_, Text.flushLines_eq_nil.mp inset⟩
  rw [split, Text.lines_headed inner, String.toList_append]
  rfl

theorem IsClass.flushLines_append {head text : String} (isClass : IsClass head text)
    (inner : ∀ c ∈ head.toList, Text.isLineEnd c = false)
    (flush : Text.isInside (head ++ "\n").toList = false) (after : List Char) :
    Text.flushLines (text.toList ++ '\n' :: after) = (head ++ "\n").toList :: Text.flushLines after := by
  obtain ⟨body, split, inset⟩ := isClass
  have headed : Text.flushLines (head.toList ++ '\n' :: (body ++ '\n' :: after)) =
      (head ++ "\n").toList :: Text.flushLines (body ++ '\n' :: after) := by
    rw [Text.flushLines, Text.lines_headed inner, List.filter_cons_of_pos]
    · simp [Text.flushLines]
    · simpa using flush
  rw [split, List.append_assoc, List.cons_append, headed, Text.flushLines_inset_append inset]

/-! ## Modules -/

namespace DomainSpec

structure HasOnlyWrappers (d : DomainSpec) : Prop where
  types : ∀ t ∈ d.types, t.IsWrapper
  commands : d.commands = []
  events : d.events = []

theorem flushLines_classes {types : List TypeSpec} {texts : List String} (wrappers : ∀ t ∈ types, t.IsWrapper)
    (classes : List.Forall₂ (fun t text => IsClass t.classHead text) types texts) :
    Text.flushLines ((String.intercalate "\n\n\n" texts).toList ++ ['\n']) =
      types.map fun t => (t.classHead ++ "\n").toList := by
  induction classes with
  | nil => rfl
  | @cons t text types texts isClass others ih =>
      obtain ⟨here, later⟩ := List.forall_mem_cons.mp wrappers
      have step := isClass.flushLines_append (TypeSpec.inner_classHead here) t.flush_classHead
      rw [String.toList_intercalate] at ih ⊢
      rw [List.map_cons, List.map_cons, ← ih later]
      cases texts with
      | nil =>
          rw [List.map_nil, List.intercalate_singleton]
          exact step []
      | cons next texts =>
          -- Of the three line feeds between two classes the first one ends the body.
          rw [List.map_cons, List.intercalate_cons_cons, List.append_assoc, List.append_assoc]
          refine (step _).trans (congrArg _ ?_)
          exact (Text.flushLines_cons_newline _).trans (Text.flushLines_cons_newline _)

theorem mapM_code_of_missing {types : List TypeSpec} (wrappers : ∀ t ∈ types, t.IsWrapper) {v : Value}
    (missing : types.findSome? TypeSpec.missingType? = some v) (style : Style) :
    types.mapM (·.code style) = .error (.missingKey v) := by
  induction types with
  | nil => cases missing
  | cons t types ih =>
      obtain ⟨here, later⟩ := List.forall_mem_cons.mp wrappers
      rw [List.findSome?_cons] at missing
      rw [List.mapM_cons]
      cases first : t.missingType? with
      | some w =>
          rw [first] at missing
          cases missing
          rw [TypeSpec.code_of_missing here first]
          rfl
      | none =>
          rw [first] at missing
          obtain ⟨text, written, -⟩ := TypeSpec.code_of_found here first style
          rw [written, ih later missing]
          rfl

theorem mapM_code_of_found {types : List TypeSpec} (wrappers : ∀ t ∈ types, t.IsWrapper)
    (found : types.findSome? TypeSpec.missingType? = none) (style : Style) :
    ∃ texts, types.mapM (·.code style) = .ok texts ∧
      List.Forall₂ (fun t text => IsClass t.classHead text) types texts := by
  induction types with
  | nil => exact ⟨[], rfl, .nil⟩
  | cons t types ih =>
      obtain ⟨here, later⟩ := List.forall_mem_cons.mp wrappers
      obtain ⟨first, others⟩ := List.forall_mem_cons.mp (List.findSome?_eq_none_iff.mp found)
      obtain ⟨text, written, isClass⟩ := TypeSpec.code_of_found here first style
      obtain ⟨texts, mapped, classes⟩ := ih later (List.findSome?_eq_none_iff.mpr others)
      refine ⟨text :: texts, ?_, .cons isClass classes⟩
      rw [List.mapM_cons, written, mapped]
      rfl

namespace HasOnlyWrappers

variable {d : DomainSpec} (wrappers : d.HasOnlyWrappers)

include wrappers

theorem hasTextRefs : d.HasTextRefs where
  types t member := by
    have wrapper := wrappers.types t member
    refine ⟨fun items inside truthy => ?_, by simp [wrapper.properties]⟩
    obtain ⟨name, text, -⟩ := (wrapper.items items inside).2.exists_text truthy
    exact ⟨name, text⟩
  commands := by simp [wrappers.commands]
  events := by simp [wrappers.events]

theorem isNear {r : Value} (refers : d.Refers r) : d.IsNear r := by
  rcases refers with ⟨t, member, -, refers⟩ | ⟨c, member, -⟩ | ⟨e, member, -⟩
  · have wrapper := wrappers.types t member
    simp only [TypeSpec.Refers, TypeSpec.Expands, wrapper.properties, true_and,
      TypeSpec.dependsOn_wrapperBase, List.not_mem_nil, false_and, exists_false, or_false] at refers
    obtain ⟨items, inside, truthy, rfl⟩ := refers
    obtain ⟨name, text, clean⟩ := (wrapper.items items inside).2.exists_text truthy
    refine ⟨name, text, .inl ?_⟩
    rw [List.count_eq_zero.mpr clean]
    decide
  · simp [wrappers.commands] at member
  · simp [wrappers.events] at member

theorem importCode_eq_empty (style : Style) : d.importCode style = .ok "" := by
  have current : d.usesDeprecation = false := by simp [usesDeprecation, wrappers.commands, wrappers.events]
  rw [importCode_eq wrappers.hasTextRefs fun _ => wrappers.isNear, current]
  rfl

end HasOnlyWrappers

theorem breaks_headerCode (d : DomainSpec) (after : List Char) : Text.Breaks d.headerCode.toList after := by
  obtain ⟨before, split⟩ : ∃ before, d.headerCode =
      before ++ "from dataclasses import dataclass\nimport enum\nimport typing\n\n" := ⟨_, rfl⟩
  have last : "from dataclasses import dataclass\nimport enum\nimport typing\n\n".toList.getLast? = some '\n' := by
    decide
  refine ⟨'\n', ?_, rfl, nofun⟩
  rw [split, String.toList_append, List.getLast?_append, last, Option.some_or]
  rfl

theorem code_of_missing {d : DomainSpec} (wrappers : d.HasOnlyWrappers) {v : Value}
    (missing : d.types.findSome? TypeSpec.missingType? = some v) (style : Style) :
    d.code style = .error (.missingKey v) := by
  simp only [code, wrappers.importCode_eq_empty, mapM_code_of_missing wrappers.types missing]
  rfl

theorem code_of_found {d : DomainSpec} (wrappers : d.HasOnlyWrappers)
    (found : d.types.findSome? TypeSpec.missingType? = none) (style : Style) :
    ∃ text, d.code style = .ok (d.headerCode ++ text) ∧
      Text.flushLines text.toList = d.types.map fun t => (t.classHead ++ "\n").toList := by
  obtain ⟨texts, mapped, classes⟩ := mapM_code_of_found wrappers.types found style
  refine ⟨"\n" ++ String.intercalate "\n\n\n" texts ++ "\n", ?_, ?_⟩
  · simp only [code, wrappers.importCode_eq_empty, mapped, wrappers.commands, wrappers.events, List.mapM_nil]
    simp [bind, Except.bind, pure, Except.pure, String.append_assoc]
  · rw [String.toList_append, String.toList_append, List.append_assoc, ← flushLines_classes wrappers.types classes]
    exact Text.flushLines_cons_newline _

end DomainSpec

/-- The code of a wrapper is refused for a type that is missing or unknown. Otherwise it is one line that heads
the class, and lines inside. In the module of a domain of wrappers the lines at the margin are, behind the head of
the module, the ones that head the classes, in the order of the types. -/
theorem wrapper_classes_laid_out (style : Style) :
    (∀ t : TypeSpec, t.IsWrapper →
      (∀ v, t.missingType? = some v → t.code style = .error (.missingKey v)) ∧
      (t.missingType? = none → ∃ text body, t.code style = .ok text ∧
        Text.lines text.toList = (t.classHead ++ "\n").toList :: body ∧
        ∀ line ∈ body, Text.isInside line = true)) ∧
    ∀ d : DomainSpec, d.HasOnlyWrappers →
      (∀ v, d.types.findSome? TypeSpec.missingType? = some v → d.code style = .error (.missingKey v)) ∧
      (d.types.findSome? TypeSpec.missingType? = none → ∃ text, d.code style = .ok (d.headerCode ++ text) ∧
        Text.lines (d.headerCode ++ text).toList =
          Text.lines d.headerCode.toList ++ Text.lines text.toList ∧
        Text.flushLines text.toList = d.types.map fun t => (t.classHead ++ "\n").toList) := by
  refine ⟨fun t wrapper => ⟨fun v missing => ?_, fun found => ?_⟩,
    fun d wrappers => ⟨fun v missing => ?_, fun found => ?_⟩⟩
  · exact t.code_of_missing wrapper missing style
  · obtain ⟨text, written, isClass⟩ := t.code_of_found wrapper found style
    obtain ⟨body, cut, inside⟩ := isClass.lines (t.inner_classHead wrapper)
    exact ⟨text, body, written, cut, inside⟩
  · exact d.code_of_missing wrappers missing style
  · obtain ⟨text, written, flush⟩ := d.code_of_found wrappers found style
    refine ⟨text, written, ?_, flush⟩
    rw [String.toList_append]
    exact Text.lines_append (d.breaks_headerCode _)

def noteDomain : DomainSpec where
  domain := .text "Notes"
  description := .null
  experimental := .bool true
  dependencies := .list []
  types :=
    [ { id := .text "NoteId", description := .text "class |a\n\u2028b|s\x0d\n\n  \x0d", type := .text "string",
        items := none, choices := .null, properties := [] },
      { id := .text "NoteIds", description := .null, type := .text "array",
        items := some ⟨.null, .text "NoteId"⟩, choices := .list [], properties := [] } ]
  commands := []
  events := []

theorem noteDomain_hasOnlyWrappers : noteDomain.HasOnlyWrappers := by
  refine ⟨?_, rfl, rfl⟩
  unfold noteDomain
  refine List.forall_mem_cons.mpr ⟨?_, List.forall_mem_singleton.mpr ?_⟩
  · exact ⟨rfl, rfl, ⟨"NoteId", rfl, Text.inner_of_all rfl⟩, .inr ⟨_, rfl⟩, .inr ⟨_, rfl⟩, nofun⟩
  · refine ⟨rfl, rfl, ⟨"NoteIds", rfl, Text.inner_of_all rfl⟩, .inl rfl, .inr ⟨_, rfl⟩, ?_⟩
    rintro _ ⟨⟩
    exact ⟨.inl rfl, .inr ⟨"NoteId", rfl, by decide⟩⟩

theorem wrapper_classes_laid_out_notes :
    noteDomain.HasOnlyWrappers ∧ ∃ text, noteDomain.code .plain = .ok (noteDomain.headerCode ++ text) ∧
      Text.flushLines text.toList = ["class NoteId(str):\n".toList, "class NoteIds(list):\n".toList] := by
  have wrappers := noteDomain_hasOnlyWrappers
  obtain ⟨text, written, -, flush⟩ := ((wrapper_classes_laid_out .plain).2 noteDomain wrappers).2 (by decide)
  refine ⟨wrappers, text, written, flush.trans ?_⟩
  decide

end DevTools.Codegen
