import DevTools.Codegen.Target

/-!
# Grammar of decoding code

The code that decodes a property is an expression of a small language.

    test    ::= primary | primary "if" TEXT "in" primary "else" test
    primary ::= atom trailer*
    atom    ::= NAME | "None" | "[" test "for" NAME "in" primary "]"
    trailer ::= "[" TEXT "]" | "(" test ")" | "." "from_json"

A text of one line is cut into tokens, each as long as can be, with spaces, tabs and form feeds between them,
and the tokens are the leaves of a syntax tree. The leaves determine the tree: an expression is read in one way
only.
-/

namespace DevTools.Codegen

inductive Token where
  | name (s : String)
  | text (s : String)
  | openBracket | closeBracket | openParen | closeParen | point
  | forWord | inWord | ifWord | elseWord | noneWord
deriving DecidableEq

/-! ## Syntax trees -/

mutual

inductive Test where
  | plain (value : Primary)
  | choice (value : Primary) (key : String) (dict : Primary) (otherwise : Test)

inductive Primary where
  | mk (atom : Atom) (trailers : Trailers)

inductive Atom where
  | name (s : String)
  | none
  | each (body : Test) (item : String) (source : Primary)

inductive Trailers where
  | nil
  | entry (key : String) (rest : Trailers)
  | call (argument : Test) (rest : Trailers)
  | decoder (rest : Trailers)

end

mutual

def Test.tokens : Test → List Token
  | .plain value => value.tokens
  | .choice value key dict otherwise =>
    value.tokens ++ .ifWord :: .text key :: .inWord :: (dict.tokens ++ .elseWord :: otherwise.tokens)

def Primary.tokens : Primary → List Token
  | .mk atom trailers => atom.tokens ++ trailers.tokens

def Atom.tokens : Atom → List Token
  | .name s => [.name s]
  | .none => [.noneWord]
  | .each body item source =>
    .openBracket :: (body.tokens ++ .forWord :: .name item :: .inWord :: (source.tokens ++ [.closeBracket]))

def Trailers.tokens : Trailers → List Token
  | .nil => []
  | .entry key rest => .openBracket :: .text key :: .closeBracket :: rest.tokens
  | .call argument rest => .openParen :: (argument.tokens ++ .closeParen :: rest.tokens)
  | .decoder rest => .point :: .name "from_json" :: rest.tokens

end

/-! ## Unique readability -/

def Token.opensTrailer : Token → Bool
  | .openBracket => true
  | .openParen => true
  | .point => true
  | _ => false

def EndsPrimary (ts : List Token) : Prop :=
  ∀ t ∈ ts.head?, t.opensTrailer = false

def EndsTest (ts : List Token) : Prop :=
  EndsPrimary ts ∧ ts.head? ≠ some .ifWord

theorem EndsPrimary.cons {t : Token} {ts : List Token} (closed : t.opensTrailer = false) :
    EndsPrimary (t :: ts) := by
  intro t' head
  cases head
  exact closed

theorem endsTest_forWord {ts : List Token} : EndsTest (.forWord :: ts) :=
  ⟨.cons rfl, nofun⟩

theorem endsTest_closeParen {ts : List Token} : EndsTest (.closeParen :: ts) :=
  ⟨.cons rfl, nofun⟩

theorem EndsPrimary.eq_nil {t : Trailers} {r r' : List Token} (ends : EndsPrimary r)
    (same : r = t.tokens ++ r') : t = .nil := by
  subst same
  cases t with
  | nil => rfl
  | entry key rest => cases ends .openBracket rfl
  | call argument rest => cases ends .openParen rfl
  | decoder rest => cases ends .point rfl

mutual

-- What follows decides where a test or a primary ends. An atom shows its end by itself.
theorem Test.tokens_append (t t' : Test) {r r' : List Token} (ends : EndsTest r) (ends' : EndsTest r')
    (same : t.tokens ++ r = t'.tokens ++ r') : t = t' ∧ r = r' := by
  cases t with
  | plain value =>
      cases t' with
      | plain value' =>
          obtain ⟨rfl, rest⟩ := value.tokens_append value' ends.1 ends'.1 same
          exact ⟨rfl, rest⟩
      | choice value' key' dict' otherwise' =>
          rw [Test.tokens, Test.tokens, List.append_assoc] at same
          obtain ⟨-, rest⟩ := value.tokens_append value' ends.1 (.cons rfl) same
          exact absurd (congrArg List.head? rest) ends.2
  | choice value key dict otherwise =>
      cases t' with
      | plain value' =>
          rw [Test.tokens, Test.tokens, List.append_assoc] at same
          obtain ⟨-, rest⟩ := value.tokens_append value' (.cons rfl) ends'.1 same
          exact absurd (congrArg List.head? rest.symm) ends'.2
      | choice value' key' dict' otherwise' =>
          simp only [Test.tokens, List.append_assoc, List.cons_append] at same
          obtain ⟨rfl, asked⟩ := value.tokens_append value' (.cons rfl) (.cons rfl) same
          simp only [List.cons.injEq, Token.text.injEq, true_and] at asked
          obtain ⟨rfl, held⟩ := asked
          obtain ⟨rfl, missing⟩ := dict.tokens_append dict' (.cons rfl) (.cons rfl) held
          obtain ⟨rfl, rest⟩ := otherwise.tokens_append otherwise' ends ends' (List.cons.inj missing).2
          exact ⟨rfl, rest⟩
termination_by structural t

theorem Primary.tokens_append (t t' : Primary) {r r' : List Token} (ends : EndsPrimary r)
    (ends' : EndsPrimary r') (same : t.tokens ++ r = t'.tokens ++ r') : t = t' ∧ r = r' := by
  cases t with
  | mk atom trailers =>
      cases t' with
      | mk atom' trailers' =>
          rw [Primary.tokens, Primary.tokens, List.append_assoc, List.append_assoc] at same
          obtain ⟨rfl, behind⟩ := atom.tokens_append atom' same
          obtain ⟨rfl, rest⟩ := trailers.tokens_append trailers' ends ends' behind
          exact ⟨rfl, rest⟩
termination_by structural t

theorem Atom.tokens_append (t t' : Atom) {r r' : List Token} (same : t.tokens ++ r = t'.tokens ++ r') :
    t = t' ∧ r = r' := by
  cases t with
  | name s => cases t' <;> simp_all [Atom.tokens]
  | none => cases t' <;> simp_all [Atom.tokens]
  | each body item source =>
      cases t' with
      | name s' => simp [Atom.tokens] at same
      | none => simp [Atom.tokens] at same
      | each body' item' source' =>
          simp only [Atom.tokens, List.cons_append, List.append_assoc, List.cons.injEq, true_and] at same
          obtain ⟨rfl, loop⟩ := body.tokens_append body' endsTest_forWord endsTest_forWord same
          simp only [List.cons.injEq, Token.name.injEq, true_and] at loop
          obtain ⟨rfl, looped⟩ := loop
          obtain ⟨rfl, rest⟩ := source.tokens_append source' (.cons rfl) (.cons rfl) looped
          exact ⟨rfl, (List.cons.inj rest).2⟩
termination_by structural t

theorem Trailers.tokens_append (t t' : Trailers) {r r' : List Token} (ends : EndsPrimary r)
    (ends' : EndsPrimary r') (same : t.tokens ++ r = t'.tokens ++ r') : t = t' ∧ r = r' := by
  cases t with
  | nil =>
      obtain rfl := ends.eq_nil same
      exact ⟨rfl, same⟩
  | entry key rest =>
      cases t' with
      | nil => cases ends'.eq_nil same.symm
      | entry key' rest' =>
          simp only [Trailers.tokens, List.cons_append, List.cons.injEq, Token.text.injEq, true_and] at same
          obtain ⟨rfl, behind⟩ := same
          obtain ⟨rfl, equal⟩ := rest.tokens_append rest' ends ends' behind
          exact ⟨rfl, equal⟩
      | call argument' rest' => simp [Trailers.tokens] at same
      | decoder rest' => simp [Trailers.tokens] at same
  | call argument rest =>
      cases t' with
      | nil => cases ends'.eq_nil same.symm
      | entry key' rest' => simp [Trailers.tokens] at same
      | call argument' rest' =>
          simp only [Trailers.tokens, List.cons_append, List.append_assoc, List.cons.injEq,
            true_and] at same
          obtain ⟨rfl, behind⟩ :=
            argument.tokens_append argument' endsTest_closeParen endsTest_closeParen same
          obtain ⟨rfl, equal⟩ := rest.tokens_append rest' ends ends' (List.cons.inj behind).2
          exact ⟨rfl, equal⟩
      | decoder rest' => simp [Trailers.tokens] at same
  | decoder rest =>
      cases t' with
      | nil => cases ends'.eq_nil same.symm
      | entry key' rest' => simp [Trailers.tokens] at same
      | call argument' rest' => simp [Trailers.tokens] at same
      | decoder rest' =>
          simp only [Trailers.tokens, List.cons_append, List.cons.injEq, true_and] at same
          obtain ⟨rfl, equal⟩ := rest.tokens_append rest' ends ends' same
          exact ⟨rfl, equal⟩
termination_by structural t

end

theorem Test.tokens_injective {t t' : Test} (same : t.tokens = t'.tokens) : t = t' := by
  have ends : EndsTest [] := ⟨nofun, nofun⟩
  refine (t.tokens_append t' ends ends ?_).1
  rw [same]

/-! ## Texts -/

def isNameStart (c : Char) : Bool :=
  c.isAlpha || c == '_' || 128 ≤ c.toNat

def isNameChar (c : Char) : Bool :=
  isNameStart c || c.isDigit

def keywords : List String :=
  [ "False", "None", "True", "and", "as", "assert", "async", "await", "break", "class", "continue",
    "def", "del", "elif", "else", "except", "finally", "for", "from", "global", "if", "import", "in",
    "is", "lambda", "nonlocal", "not", "or", "pass", "raise", "return", "try", "while", "with", "yield" ]

def keywordToken? : String → Option Token
  | "for" => some .forWord
  | "in" => some .inWord
  | "if" => some .ifWord
  | "else" => some .elseWord
  | "None" => some .noneWord
  | _ => none

def wordToken? (word : String) : Option Token :=
  if keywords.contains word then keywordToken? word else some (.name word)

def isIdentifier (s : String) : Bool :=
  match s.toList with
  | [] => false
  | c :: rest => isNameStart c && rest.all isNameChar && !keywords.contains s

def punctuation? : Char → Option Token
  | '[' => some .openBracket
  | ']' => some .closeBracket
  | '(' => some .openParen
  | ')' => some .closeParen
  | '.' => some .point
  | _ => none

def isGap (c : Char) : Bool :=
  c == ' ' || c == '\t' || c == '\x0c'

def isQuotable (c : Char) : Bool :=
  c != '\'' && c != '\\' && c != '\n' && c != '\r'

def isReadable (c : Char) : Bool :=
  isQuotable c && c != '\x00'

theorem all_isReadable {cs : List Char} (quotable : cs.all isQuotable = true) (clean : '\x00' ∉ cs) :
    cs.all isReadable = true := by
  rw [List.all_eq_true] at quotable ⊢
  intro c member
  have other : c ≠ '\x00' := fun null => clean (null ▸ member)
  simp [isReadable, quotable c member, other]

inductive Pending where
  | nothing
  | word (cs : List Char)
  | quoted (cs : List Char)

namespace Pending

def start (c : Char) : Option (List Token × Pending) :=
  if isGap c then some ([], nothing)
  else if c = '\'' then some ([], quoted [])
  else if isNameStart c then some ([], word [c])
  else (punctuation? c).map fun t => ([t], nothing)

/-- Takes one more character. A name that runs into a quote would change how the text is quoted, and is
refused. -/
def step (c : Char) : Pending → Option (List Token × Pending)
  | nothing => start c
  | word cs =>
    if isNameChar c then some ([], word (cs ++ [c]))
    else if c = '\'' then none
    else do
      let t ← wordToken? (String.ofList cs)
      let (ts, next) ← start c
      return (t :: ts, next)
  | quoted cs =>
    if c = '\'' then some ([.text (String.ofList cs)], nothing)
    else if isReadable c then some ([], quoted (cs ++ [c]))
    else none

def finish : Pending → Option (List Token)
  | nothing => some []
  | word cs => (wordToken? (String.ofList cs)).map ([·])
  | quoted _ => none

def lex : Pending → List Char → Option (List Token)
  | pending, [] => pending.finish
  | pending, c :: rest => do
    let (ts, next) ← pending.step c
    return ts ++ (← next.lex rest)

end Pending

def Parses (text : String) (tree : Test) : Prop :=
  Pending.nothing.lex text.toList = some tree.tokens

theorem Parses.unique {text : String} {t t' : Test} (parses : Parses text t)
    (parses' : Parses text t') : t = t' :=
  Test.tokens_injective (Option.some.inj (parses.symm.trans parses'))

/-! ## Texts of tokens -/

def EndsWord (cs : List Char) : Prop :=
  ∀ c ∈ cs.head?, isNameChar c = false ∧ c ≠ '\''

/-- The characters spell the tokens wherever a word ends behind them. -/
def Spells (cs : List Char) (ts : List Token) : Prop :=
  ∀ rest, EndsWord rest → Pending.nothing.lex (cs ++ rest) = (ts ++ ·) <$> Pending.nothing.lex rest

namespace Pending

theorem lex_gap {c : Char} (gap : isGap c = true) (rest : List Char) :
    nothing.lex (c :: rest) = nothing.lex rest := by
  simp [lex, step, start, gap]

theorem lex_word {cs : List Char} (chars : ∀ c ∈ cs, isNameChar c = true) (begun rest : List Char) :
    (word begun).lex (cs ++ rest) = (word (begun ++ cs)).lex rest := by
  induction cs generalizing begun with
  | nil => simp
  | cons c cs ih =>
      obtain ⟨here, others⟩ := List.forall_mem_cons.mp chars
      simp [lex, step, here, ih others]

theorem lex_quoted {cs : List Char} (chars : ∀ c ∈ cs, isReadable c = true) (begun rest : List Char) :
    (quoted begun).lex (cs ++ '\'' :: rest) =
      (.text (String.ofList (begun ++ cs)) :: ·) <$> nothing.lex rest := by
  induction cs generalizing begun with
  | nil =>
      simp only [List.nil_append, List.append_nil, lex, step, ↓reduceIte, bind, Option.bind, pure]
      cases nothing.lex rest <;> rfl
  | cons c cs ih =>
      obtain ⟨here, others⟩ := List.forall_mem_cons.mp chars
      have notQuote : c ≠ '\'' := by
        rintro rfl
        cases here
      have tail := ih others (begun ++ [c])
      rw [List.append_assoc, List.singleton_append] at tail
      rw [← tail]
      simp [lex, step, here, notQuote]

theorem lex_word_end {cs : List Char} {t : Token} (token : wordToken? (String.ofList cs) = some t)
    {rest : List Char} (ends : EndsWord rest) :
    (word cs).lex rest = (t :: ·) <$> nothing.lex rest := by
  cases rest with
  | nil => simp [lex, finish, token]
  | cons c rest =>
      obtain ⟨notName, notQuote⟩ := ends c rfl
      simp only [lex, step, notName, notQuote, token, Bool.false_eq_true, ↓reduceIte]
      cases start c with
      | none => rfl
      | some next =>
          obtain ⟨ts, next⟩ := next
          simp only [bind, Option.bind, pure]
          cases next.lex rest <;> rfl

theorem lex_word_start {c : Char} (first : isNameStart c = true) (rest : List Char) :
    nothing.lex (c :: rest) = (word [c]).lex rest := by
  have notGap : isGap c = false := by
    rw [Bool.eq_false_iff]
    intro gap
    simp only [isGap, Bool.or_eq_true, beq_iff_eq] at gap
    rcases gap with (rfl | rfl) | rfl <;> cases first
  have notQuote : c ≠ '\'' := by
    rintro rfl
    cases first
  simp [lex, step, start, notGap, notQuote, first]

theorem lex_punctuation {c : Char} {t : Token} (token : punctuation? c = some t) (rest : List Char) :
    nothing.lex (c :: rest) = (t :: ·) <$> nothing.lex rest := by
  have begun : start c = some ([t], nothing) := by
    unfold punctuation? at token
    split at token <;> cases token <;> rfl
  simp only [lex, step, begun, bind, Option.bind, pure]
  cases nothing.lex rest <;> rfl

theorem lex_cons {pending : Pending} {c : Char} {cs : List Char} {ts : List Token}
    (read : pending.lex (c :: cs) = some ts) : ∃ first next others,
      pending.step c = some (first, next) ∧ next.lex cs = some others ∧ first ++ others = ts := by
  rw [lex] at read
  cases stepped : pending.step c with
  | none => simp [stepped] at read
  | some taken =>
      obtain ⟨first, next⟩ := taken
      simp only [stepped, bind, Option.bind, pure] at read
      cases lexed : next.lex cs with
      | none => simp [lexed] at read
      | some others =>
          simp only [lexed, Option.some.injEq] at read
          exact ⟨first, next, others, rfl, lexed, read⟩

theorem lex_null {pending : Pending} {cs : List Char} (null : '\x00' ∈ cs) : pending.lex cs = none := by
  rw [Option.eq_none_iff_forall_ne_some]
  intro ts read
  induction cs generalizing pending ts with
  | nil => cases null
  | cons c cs ih =>
      obtain ⟨first, next, others, stepped, lexed, -⟩ := lex_cons read
      rcases List.mem_cons.mp null with rfl | later
      · cases pending with
        | nothing => cases stepped
        | word begun =>
            simp only [step] at stepped
            obtain ⟨t, -, behind⟩ := Option.bind_eq_some_iff.mp stepped
            cases behind
        | quoted begun => cases stepped
      · exact ih later others lexed

end Pending

namespace EndsWord

theorem nil : EndsWord [] :=
  nofun

theorem cons {c : Char} {cs : List Char} (closed : (isNameChar c || c == '\'') = false) :
    EndsWord (c :: cs) := by
  intro c' head
  cases head
  simpa using closed

theorem append {cs rest : List Char} (ends : EndsWord cs) (rest_ends : EndsWord rest) :
    EndsWord (cs ++ rest) := by
  cases cs with
  | nil => exact rest_ends
  | cons c cs => exact fun c' head => ends c' head

end EndsWord

namespace Spells

theorem nil : Spells [] [] := by
  intro rest _
  simp

theorem lex {cs : List Char} {ts : List Token} (spelled : Spells cs ts) :
    Pending.nothing.lex cs = some ts := by
  simpa [Pending.lex, Pending.finish] using spelled [] .nil

theorem append {cs cs' : List Char} {ts ts' : List Token} (first : Spells cs ts)
    (second : Spells cs' ts') (ends : EndsWord cs') : Spells (cs ++ cs') (ts ++ ts') := by
  intro rest ends_rest
  rw [List.append_assoc, first _ (ends.append ends_rest), second rest ends_rest]
  cases Pending.nothing.lex rest <;> simp

theorem space {cs : List Char} {ts : List Token} (behind : Spells cs ts) : Spells (' ' :: cs) ts := by
  intro rest ends
  rw [List.cons_append, Pending.lex_gap rfl, behind rest ends]

theorem punctuation {c : Char} {t : Token} (token : punctuation? c = some t) {cs : List Char}
    {ts : List Token} (behind : Spells cs ts) : Spells (c :: cs) (t :: ts) := by
  intro rest ends
  rw [List.cons_append, Pending.lex_punctuation token, behind rest ends]
  cases Pending.nothing.lex rest <;> rfl

theorem quoted {key : String} (plain : key.toList.all isReadable = true) {cs : List Char}
    {ts : List Token} (behind : Spells cs ts) :
    Spells ('\'' :: (key.toList ++ '\'' :: cs)) (.text key :: ts) := by
  intro rest ends
  have opened (rest : List Char) : Pending.nothing.lex ('\'' :: rest) = (Pending.quoted []).lex rest := by
    have notGap : isGap '\'' = false := rfl
    simp [Pending.lex, Pending.step, Pending.start, notGap]
  rw [List.cons_append, opened, List.append_assoc, List.cons_append,
    Pending.lex_quoted (List.all_eq_true.mp plain), behind rest ends, List.nil_append,
    String.ofList_toList]
  cases Pending.nothing.lex rest <;> rfl

theorem word {c : Char} {cs : List Char} (first : isNameStart c = true)
    (others : cs.all isNameChar = true) {t : Token}
    (token : wordToken? (String.ofList (c :: cs)) = some t) : Spells (c :: cs) [t] := by
  intro rest ends
  rw [List.cons_append, Pending.lex_word_start first, Pending.lex_word (List.all_eq_true.mp others),
    List.singleton_append, Pending.lex_word_end token ends]
  cases Pending.nothing.lex rest <;> rfl

theorem name {s : String} (identifier : isIdentifier s = true) : Spells s.toList [.name s] := by
  unfold isIdentifier at identifier
  split at identifier
  · cases identifier
  · rename_i c cs equal
    simp only [Bool.and_eq_true, Bool.not_eq_true'] at identifier
    obtain ⟨⟨first, others⟩, notKeyword⟩ := identifier
    have spelled : String.ofList (c :: cs) = s := by rw [← equal, String.ofList_toList]
    rw [equal]
    refine word first others ?_
    simp only [spelled, wordToken?, notKeyword, Bool.false_eq_true, ↓reduceIte]

end Spells

end DevTools.Codegen
