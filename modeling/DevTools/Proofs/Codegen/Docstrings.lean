import DevTools.Proofs.Codegen.Backticks

/-!
# Docstrings

A docstring is a raw literal. It ends with the first three quotes in a row; a backslash keeps the character
behind it inside, and both belong to the value.

Escaping a description puts in apostrophes, but never next to a quote. So it depends on the description
alone whether its docstring is one literal: a description that holds three quotes ends the literal, and
what stands behind them is read as code.
-/

namespace DevTools.Codegen

/-! ## Raw literals -/

def closingQuotes : List Char :=
  ['\'', '\'', '\'']

def readBody : List Char → Option (List Char × List Char)
  | '\'' :: '\'' :: '\'' :: behind => some ([], behind)
  | '\\' :: c :: rest => (readBody rest).map fun (body, behind) => ('\\' :: c :: body, behind)
  | c :: rest => (readBody rest).map fun (body, behind) => (c :: body, behind)
  | [] => none

def readLiteral : List Char → Option (List Char × List Char)
  | 'r' :: '\'' :: '\'' :: '\'' :: rest => readBody rest
  | _ => none

def keepsNext (text : List Char) : Bool :=
  text.foldl (fun kept c => !kept && c == '\\') false

/-- There are three quotes in the text, and no backslash keeps the first of them inside. -/
def HoldsEnd (text : List Char) : Prop :=
  ∃ before behind, keepsNext before = false ∧ text = before ++ closingQuotes ++ behind

theorem keepsNext_cons {c : Char} (other : c ≠ '\\') (text : List Char) :
    keepsNext (c :: text) = keepsNext text := by
  have differs : (c == '\\') = false := beq_false_of_ne other
  simp [keepsNext, differs]

theorem keepsNext_pair (c : Char) (text : List Char) :
    keepsNext ('\\' :: c :: text) = keepsNext text := by
  simp [keepsNext]

theorem readBody_split {text body behind : List Char} (found : readBody text = some (body, behind)) :
    keepsNext body = false ∧ text = body ++ closingQuotes ++ behind := by
  fun_induction readBody text generalizing body with
  | case1 =>
      cases found
      exact ⟨rfl, rfl⟩
  | case2 c rest ih =>
      obtain ⟨⟨inner, _⟩, read, equal⟩ := Option.map_eq_some_iff.mp found
      cases equal
      obtain ⟨kept, rfl⟩ := ih read
      exact ⟨by rw [keepsNext_pair, kept], rfl⟩
  | case3 c rest _ noPair ih =>
      obtain ⟨⟨inner, _⟩, read, equal⟩ := Option.map_eq_some_iff.mp found
      cases equal
      have other : c ≠ '\\' := by
        intro slash
        cases rest with
        | nil => cases read
        | cons next others => exact noPair next others slash rfl
      obtain ⟨kept, rfl⟩ := ih read
      exact ⟨by rw [keepsNext_cons other, kept], rfl⟩
  | case4 => cases found

theorem readBody_append {text body behind : List Char} (found : readBody text = some (body, behind))
    (tail : List Char) : readBody (text ++ tail) = some (body, behind ++ tail) := by
  fun_induction readBody text generalizing body with
  | case1 =>
      cases found
      rfl
  | case2 c rest ih =>
      obtain ⟨⟨inner, _⟩, read, equal⟩ := Option.map_eq_some_iff.mp found
      cases equal
      simp [readBody, ih read]
  | case3 c rest noQuotes noPair ih =>
      obtain ⟨⟨inner, _⟩, read, equal⟩ := Option.map_eq_some_iff.mp found
      cases equal
      have longer := ih read
      -- What holds an end has more characters than decide how the first one is read.
      have split := congrArg List.length (readBody_split read).2
      match rest with
      | [] => cases read
      | [_] =>
          simp only [List.length_append, closingQuotes, List.length_cons, List.length_nil] at split
          omega
      | a :: b :: others =>
          rw [List.cons_append, readBody.eq_3]
          · rw [longer]
            rfl
          · rintro behind' rfl equal
            simp only [List.cons_append, List.cons.injEq] at equal
            exact noQuotes others rfl (by rw [equal.1, equal.2.1])
          · intro next others' slash equal
            exact noPair a (b :: others) slash rfl
  | case4 => cases found

theorem readBody_newline {text : List Char} (missing : readBody text = none) :
    readBody (text ++ '\n' :: closingQuotes) = some (text ++ ['\n'], []) := by
  fun_induction readBody text with
  | case1 => cases missing
  | case2 c rest ih => simp [readBody, ih (Option.map_eq_none_iff.mp missing)]
  | case3 c rest noQuotes noPair ih =>
      have tail := ih (Option.map_eq_none_iff.mp missing)
      by_cases slash : c = '\\'
      · -- A backslash at the end keeps the line feed.
        cases rest with
        | nil =>
            subst slash
            rfl
        | cons next others => exact absurd rfl (noPair next others slash)
      · rw [List.cons_append, readBody.eq_3, tail]
        · rfl
        · intro behind quote equal
          match rest with
          | [] => cases equal
          | [_] => simp at equal
          | a :: b :: others =>
              simp only [List.cons_append, List.cons.injEq] at equal
              exact noQuotes others quote (by rw [equal.1, equal.2.1])
        · intro next others same
          exact absurd same slash
  | case4 => rfl

/-! ## Looking for the end -/

inductive Ending where
  | inside | oneQuote | twoQuotes | kept | closed
deriving DecidableEq

namespace Ending

def step : Ending → Char → Ending
  | closed, _ => closed
  | kept, _ => inside
  | _, '\\' => kept
  | inside, '\'' => oneQuote
  | oneQuote, '\'' => twoQuotes
  | twoQuotes, '\'' => closed
  | _, _ => inside

def after (e : Ending) (text : List Char) : Ending :=
  text.foldl step e

def seen : Ending → List Char
  | oneQuote => ['\'']
  | twoQuotes => ['\'', '\'']
  | kept => ['\\']
  | _ => []

theorem after_cons (e : Ending) (c : Char) (text : List Char) :
    e.after (c :: text) = (e.step c).after text := rfl

theorem after_nil (e : Ending) : e.after [] = e := rfl

theorem after_append (e : Ending) (text more : List Char) :
    e.after (text ++ more) = (e.after text).after more :=
  List.foldl_append

theorem after_closed (text : List Char) : closed.after text = closed := by
  induction text with
  | nil => rfl
  | cons c rest ih => exact ih

theorem step_other {c : Char} (slash : c ≠ '\\') (quote : c ≠ '\'') {e : Ending} (notClosed : e ≠ closed) :
    e.step c = inside := by
  cases e with
  | closed => exact absurd rfl notClosed
  | _ => simp [step, quote]

theorem isSome_readBody_step {e : Ending} (notClosed : e ≠ closed) (c : Char) (rest : List Char) :
    (readBody (e.seen ++ c :: rest)).isSome =
      (e.step c matches .closed || (readBody ((e.step c).seen ++ rest)).isSome) := by
  by_cases slash : c = '\\'
  · subst slash
    cases e <;> simp_all [step, seen, readBody]
  · by_cases quote : c = '\''
    · subst quote
      cases e <;> simp_all [step, seen, readBody]
    · rw [step_other slash quote notClosed]
      cases e <;> simp_all [seen, readBody]

theorem isSome_readBody {e : Ending} {text : List Char} (found : e.after text = closed)
    (notClosed : e ≠ closed) : (readBody (e.seen ++ text)).isSome = true := by
  induction text generalizing e with
  | nil => exact absurd found notClosed
  | cons c rest ih =>
      rw [isSome_readBody_step notClosed]
      by_cases now : e.step c = closed
      · simp [now]
      · simp [ih found now]

theorem step_eq_kept_iff {e : Ending} (notClosed : e ≠ closed) (c : Char) :
    e.step c = kept ↔ e ≠ kept ∧ c = '\\' := by
  by_cases slash : c = '\\'
  · subst slash
    cases e <;> simp_all [step]
  · by_cases quote : c = '\''
    · subst quote
      cases e <;> simp [step]
    · simp [step_other slash quote notClosed, slash]

theorem keepsNext_of_after {e : Ending} (keeps : Bool) (agree : e ≠ closed → (e = kept ↔ keeps = true))
    {text : List Char} (last : e.after text = kept) :
    text.foldl (fun kept c => !kept && c == '\\') keeps = true := by
  induction text generalizing e keeps with
  | nil =>
      have notClosed : e ≠ closed := by
        rintro rfl
        cases last
      exact (agree notClosed).mp last
  | cons c rest ih =>
      refine ih (e := e.step c) _ (fun notClosed => ?_) last
      have before : e ≠ closed := by
        rintro rfl
        exact notClosed rfl
      simp [step_eq_kept_iff before, agree before]

theorem after_closingQuotes {e : Ending} (notKept : e ≠ kept) : e.after closingQuotes = closed := by
  cases e with
  | kept => exact absurd rfl notKept
  | _ => rfl

theorem step_backtick_step (e : Ending) : (e.step backtick).step backtick = e.step backtick := by
  cases e <;> rfl

theorem after_gap (e : Ending) (word : List Char) :
    (e.step backtick).after (gap word ++ word) = (e.step backtick).after word := by
  unfold gap
  split
  · rfl
  · split
    · rename_i s
      subst s
      cases e <;> rfl
    · cases e <;> rfl

theorem after_rendering {text : List Char} {passages : List Passage} (marking : Marking text passages)
    (e : Ending) : e.after (rendering passages) = e.after text := by
  induction marking generalizing e with
  | nil => rfl
  | plain _ _ ih => exact ih _
  | @span code word rest passages _ _ _ _ _ ih =>
      simp only [rendering_cons, Passage.written, List.cons_append, List.nil_append, after_cons, after_append,
        after_nil, step_backtick_step, ih]
      rw [← after_append _ (gap word), after_gap]

theorem after_backticked (e : Ending) (text : List Char) : e.after (backticked text) = e.after text := by
  induction text generalizing e with
  | nil => rfl
  | cons c rest ih =>
      have same : e.step (if c = '|' then backtick else c) = e.step c := by
        split
        · rename_i bar
          subst bar
          cases e <;> rfl
        · rfl
      rw [backticked, List.map_cons, after_cons, same]
      exact ih _

theorem after_escapeChars (e : Ending) (text : List Char) : e.after (escapeChars text) = e.after text := by
  obtain ⟨passages, marking, same⟩ := escapeChars_marking text
  rw [same, after_rendering marking, after_backticked]

end Ending

theorem HoldsEnd.closed {text : List Char} (holds : HoldsEnd text) :
    Ending.inside.after text = .closed := by
  obtain ⟨before, behind, released, rfl⟩ := holds
  have notKept : Ending.inside.after before ≠ .kept := by
    intro kept
    have keeps := Ending.keepsNext_of_after false (by simp) kept
    exact absurd (released.symm.trans keeps) (by decide)
  rw [Ending.after_append, Ending.after_append, Ending.after_closingQuotes notKept, Ending.after_closed]

theorem holdsEnd_iff_isSome {text : List Char} : HoldsEnd text ↔ (readBody text).isSome = true := by
  constructor
  · intro holds
    exact Ending.isSome_readBody holds.closed (by decide)
  · intro found
    obtain ⟨⟨body, behind⟩, read⟩ := Option.isSome_iff_exists.mp found
    obtain ⟨released, split⟩ := readBody_split read
    exact ⟨body, behind, released, split⟩

theorem holdsEnd_iff_closed {text : List Char} :
    HoldsEnd text ↔ Ending.inside.after text = .closed := by
  constructor
  · exact HoldsEnd.closed
  · intro closed
    exact holdsEnd_iff_isSome.mpr (Ending.isSome_readBody closed (by decide))

theorem holdsEnd_newline_escapeChars (text : List Char) :
    HoldsEnd ('\n' :: escapeChars text) ↔ HoldsEnd text := by
  rw [holdsEnd_iff_closed, holdsEnd_iff_closed, Ending.after_cons]
  exact Iff.of_eq (congrArg (· = _) (Ending.after_escapeChars .inside text))

theorem docstring_text {d : String} (filled : d ≠ "") :
    ∃ text, docstring (.text d) = .ok text ∧
      readLiteral text.toList = readBody ('\n' :: escapeChars d.toList ++ '\n' :: closingQuotes) := by
  have truthy : (Value.text d).truthy = true := by simpa [Value.truthy, Value.core] using filled
  refine ⟨docstringText d, ?_, ?_⟩
  · simp only [docstring, descriptionText?, truthy, ↓reduceIte, descriptionText]
    rfl
  · simp [docstringText, toList_escapeBackticks, readLiteral, closingQuotes]

/-- A docstring is one literal, with the escaped description between line feeds as its value, just if the
description holds no end of a literal. Otherwise the literal ends inside the description. -/
theorem docstring_complete_iff {d : String} (filled : d ≠ "") :
    ∃ text, docstring (.text d) = .ok text ∧
      (readLiteral text.toList = some ('\n' :: (escapeBackticks d).toList ++ ['\n'], []) ↔
        ¬ HoldsEnd d.toList) ∧
      (HoldsEnd d.toList → ∃ value behind,
        '\n' :: (escapeBackticks d).toList = value ++ closingQuotes ++ behind ∧
        readLiteral text.toList = some (value, behind ++ '\n' :: closingQuotes)) := by
  obtain ⟨text, written, read⟩ := docstring_text filled
  rw [toList_escapeBackticks]
  have early : HoldsEnd d.toList → ∃ value behind,
      '\n' :: escapeChars d.toList = value ++ closingQuotes ++ behind ∧
      readLiteral text.toList = some (value, behind ++ '\n' :: closingQuotes) := by
    intro holds
    have found := holdsEnd_iff_isSome.mp ((holdsEnd_newline_escapeChars d.toList).mpr holds)
    obtain ⟨⟨value, behind⟩, found⟩ := Option.isSome_iff_exists.mp found
    refine ⟨value, behind, (readBody_split found).2, ?_⟩
    rw [read]
    exact readBody_append found _
  refine ⟨text, written, ⟨fun complete holds => ?_, fun unheld => ?_⟩, early⟩
  · obtain ⟨value, behind, -, ends⟩ := early holds
    have rest := congrArg Prod.snd (Option.some.inj (complete.symm.trans ends))
    simp at rest
  · rw [← holdsEnd_newline_escapeChars, holdsEnd_iff_isSome, Option.not_isSome_iff_eq_none] at unheld
    rw [read]
    exact readBody_newline unheld

theorem docstring_complete_iff_keptQuote :
    "\\''' after \x60Node\x60s" ≠ "" ∧
    ∃ text, docstring (.text "\\''' after \x60Node\x60s") = .ok text ∧
      readLiteral text.toList = some ("\n\\''' after \x60\x60Node\x60\x60's\n".toList, []) := by
  have filled : "\\''' after \x60Node\x60s" ≠ "" := by decide
  refine ⟨filled, ?_⟩
  obtain ⟨text, written, complete, -⟩ := docstring_complete_iff filled
  refine ⟨text, written, (complete.mpr ?_).trans ?_⟩
  · rw [holdsEnd_iff_isSome]
    decide
  · decide

theorem docstring_closed_early :
    docstring (.text "'''\nimport os\nr'''") = .ok "r'''\n'''\nimport os\nr'''\n'''" ∧
    readLiteral "r'''\n'''\nimport os\nr'''\n'''".toList = some (['\n'], "\nimport os\nr'''\n'''".toList) ∧
    ¬ ∀ d, d ≠ "" → ∃ text, docstring (.text d) = .ok text ∧
      readLiteral text.toList = some ('\n' :: (escapeBackticks d).toList ++ ['\n'], []) := by
  refine ⟨rfl, by decide, fun complete => ?_⟩
  obtain ⟨text, written, read⟩ := complete "'''\nimport os\nr'''" (by decide)
  cases written
  revert read
  decide

end DevTools.Codegen
