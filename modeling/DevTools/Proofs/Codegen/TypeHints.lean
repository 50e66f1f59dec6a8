import DevTools.Proofs.Codegen.Decoders

/-!
# Type hints

A type hint is a text of a second small language, with the tokens of the first one.

    hint ::= NAME | "typing" "." "Any" | "typing" "." "List" "[" hint "]" | "typing" "." "Optional" "[" hint "]"

The hint of a target can be read, and in one way only, if the name of its type can.
-/

namespace DevTools.Codegen

/-! ## Hints -/

inductive Hint where
  | name (s : String)
  | any
  | list (item : Hint)
  | optional (held : Hint)

namespace Hint

def subscript (generic : String) (ts : List Token) : List Token :=
  .name "typing" :: .point :: .name generic :: .openBracket :: (ts ++ [.closeBracket])

def tokens : Hint → List Token
  | name s => [.name s]
  | any => [.name "typing", .point, .name "Any"]
  | list item => subscript "List" item.tokens
  | optional held => subscript "Optional" held.tokens

theorem tokens_injective {h h' : Hint} (same : h.tokens = h'.tokens) : h = h' := by
  induction h generalizing h' with
  | name s => cases h' <;> simp_all [tokens, subscript]
  | any => cases h' <;> simp_all [tokens, subscript]
  | list item ih =>
      cases h' with
      | list item' =>
          simp only [tokens, subscript, List.cons.injEq, List.append_cancel_right_eq, true_and] at same
          rw [ih same]
      | _ => simp [tokens, subscript] at same
  | optional held ih =>
      cases h' with
      | optional held' =>
          simp only [tokens, subscript, List.cons.injEq, List.append_cancel_right_eq, true_and] at same
          rw [ih same]
      | _ => simp [tokens, subscript] at same

theorem head?_tokens (h : Hint) : ∃ s, h.tokens.head? = some (.name s) := by
  cases h <;> exact ⟨_, rfl⟩

end Hint

def Denotes (text : String) (h : Hint) : Prop :=
  Pending.nothing.lex text.toList = some h.tokens

theorem Denotes.unique {text : String} {h h' : Hint} (denotes : Denotes text h)
    (denotes' : Denotes text h') : h = h' :=
  Hint.tokens_injective (Option.some.inj (denotes.symm.trans denotes'))

namespace Pending

end Pending

/-! ## The hints of targets -/

theorem not_denotes_enclosed {text : String} {c : Char} {rest : List Char} (begins : text.toList = c :: rest)
    (bracket : c = '[' ∨ c = '(' ∨ c = '\x7b') (h : Hint) : ¬ Denotes text h := by
  obtain ⟨s, head⟩ := h.head?_tokens
  have none_of {t : Token} (token : punctuation? c = some t) (other : t ≠ .name s) : ¬ Denotes text h := by
    intro denotes
    rw [Denotes, begins, Pending.lex_punctuation token] at denotes
    obtain ⟨ts, -, same⟩ := Option.map_eq_some_iff.mp denotes
    rw [← same] at head
    exact other (Option.some.inj head)
  rcases bracket with rfl | rfl | rfl
  · exact none_of rfl nofun
  · exact none_of rfl nofun
  · intro denotes
    rw [Denotes, begins] at denotes
    cases denotes

namespace Element

def hint : Element → Hint
  | .primitive .any => .any
  | .primitive kind => .name (primitiveName kind)
  | .reference name => .name name

def IsLocal : Element → Prop
  | .primitive _ => True
  | .reference text => '.' ∉ text.toList ∨ ∀ h, ¬ Denotes text h

theorem hint_primitive {kind : Primitive} (converts : kind ≠ .any) :
    (Element.primitive kind).hint = .name (primitiveName kind) := by
  cases kind with
  | any => exact absurd rfl converts
  | _ => rfl

end Element

namespace Target

def hint (t : Target) : Hint :=
  let whole := if t.repeated then .list t.element.hint else t.element.hint
  if t.optional then .optional whole else whole

end Target

end DevTools.Codegen
