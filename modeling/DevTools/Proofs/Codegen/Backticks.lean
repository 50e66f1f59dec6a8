import DevTools.Codegen.Comment
import DevTools.Proofs.Text.Lines

namespace DevTools.Codegen

/-! ## Markings -/

def backticked (text : List Char) : List Char :=
  text.map fun c => if c = '|' then backtick else c

def StartsWithCode (text : List Char) : Prop :=
  ∃ code rest, code ≠ [] ∧ backtick ∉ code ∧ text = backtick :: (code ++ backtick :: rest)

inductive Passage where
  | plain (c : Char)
  | span (code word : List Char)

/-- The passages of a text, found from left to right. The word behind code is as long as can be. -/
inductive Marking : List Char → List Passage → Prop
  | nil : Marking [] []
  -- A character stays only where no code starts.
  | plain {c : Char} {rest : List Char} {passages : List Passage} :
      ¬ StartsWithCode (c :: rest) → Marking rest passages →
      Marking (c :: rest) (.plain c :: passages)
  | span {code word rest : List Char} {passages : List Passage} :
      code ≠ [] → backtick ∉ code → (∀ c ∈ word, Text.isWord c = true) →
      (∀ c ∈ rest.head?, Text.isWord c = false) → Marking rest passages →
      Marking (backtick :: (code ++ backtick :: (word ++ rest))) (.span code word :: passages)

def gap (word : List Char) : List Char :=
  if word = [] then [] else if word = ['s'] then [Text.apostrophe] else [' ']

namespace Passage

def isSpan : Passage → Bool
  | plain _ => false
  | span _ _ => true

def written : Passage → List Char
  | plain c => [c]
  | span code word => [backtick, backtick] ++ code ++ [backtick, backtick] ++ gap word ++ word

def letters (inserted : List Char → List Char) : Passage → List Char
  | plain c => if c = backtick then [] else [c]
  | span code word => code ++ inserted word ++ word

end Passage

def rendering (passages : List Passage) : List Char :=
  passages.flatMap Passage.written

/-! ## Every description has a marking -/

theorem isWord_backtick : Text.isWord backtick = false := by
  decide +kernel

theorem isWord_apostrophe : Text.isWord Text.apostrophe = false := by
  decide +kernel

theorem isWord_space : Text.isWord ' ' = false := by
  decide +kernel

theorem backtick_not_mem_word {word : List Char} (isWord : ∀ c ∈ word, Text.isWord c = true) :
    backtick ∉ word := by
  intro inside
  have impossible := isWord backtick inside
  rw [isWord_backtick] at impossible
  cases impossible

theorem separateWord_cut (text : List Char) :
    ∃ word after, text = word ++ after ∧ (∀ c ∈ word, Text.isWord c = true) ∧
      (∀ c ∈ after.head?, Text.isWord c = false) ∧ separateWord text = gap word ++ text := by
  refine ⟨text.takeWhile Text.isWord, text.dropWhile Text.isWord, ?_, ?_, ?_, ?_⟩
  · exact List.takeWhile_append_dropWhile.symm
  · exact List.all_eq_true.mp List.all_takeWhile
  · intro c first
    have stopped := List.head?_dropWhile_not Text.isWord text
    rwa [Option.mem_def.mp first] at stopped
  · unfold separateWord gap
    generalize text.takeWhile Text.isWord = word
    split
    · rfl
    · rfl
    · rename_i filled other
      rw [if_neg filled, if_neg other]
      rfl

theorem isWord_behind {after : List Char} {parts : List (List Char)}
    (stops : ∀ c ∈ after.head?, Text.isWord c = false) :
    ∀ c ∈ (after ++ parts.flatMap (backtick :: ·)).head?, Text.isWord c = false := by
  cases after with
  | cons c rest => exact stops
  | nil =>
      cases parts with
      | nil => exact stops
      | cons part others =>
          rintro _ ⟨⟩
          exact isWord_backtick

theorem not_startsWithCode_of_ne {c : Char} {rest : List Char} (differs : c ≠ backtick) :
    ¬ StartsWithCode (c :: rest) := by
  rintro ⟨code, after, -, -, equal⟩
  exact differs (List.cons.inj equal).1

theorem not_startsWithCode_of_not_mem {part : List Char} (clean : backtick ∉ part) :
    ¬ StartsWithCode (backtick :: part) := by
  rintro ⟨code, after, -, -, equal⟩
  rw [(List.cons.inj equal).2] at clean
  simp at clean

theorem not_startsWithCode_of_empty (rest : List Char) :
    ¬ StartsWithCode (backtick :: backtick :: rest) := by
  rintro ⟨code, after, filled, clean, equal⟩
  cases code with
  | nil => exact filled rfl
  | cons c others =>
      have same : backtick = c := (List.cons.inj (List.cons.inj equal).2).1
      exact clean (same ▸ List.mem_cons_self)

theorem Marking.plain_append {part text : List Char} {passages : List Passage}
    (clean : backtick ∉ part) (marking : Marking text passages) :
    Marking (part ++ text) (part.map .plain ++ passages) := by
  induction part with
  | nil => exact marking
  | cons c rest ih =>
      simp only [List.mem_cons, not_or] at clean
      exact .plain (not_startsWithCode_of_ne (Ne.symm clean.1)) (ih clean.2)

theorem rendering_cons (passage : Passage) (passages : List Passage) :
    rendering (passage :: passages) = passage.written ++ rendering passages :=
  List.flatMap_cons

theorem rendering_plain_append (part : List Char) (passages : List Passage) :
    rendering (part.map .plain ++ passages) = part ++ rendering passages := by
  induction part with
  | nil => rfl
  | cons c rest ih =>
      simp only [List.map_cons, List.cons_append, rendering_cons, ih, Passage.written]
      rfl

theorem marking_of_parts {parts : List (List Char)} (clean : ∀ part ∈ parts, backtick ∉ part) :
    ∃ passages, Marking (parts.flatMap (backtick :: ·)) passages ∧
      doubleBackticks parts = rendering passages := by
  fun_induction doubleBackticks parts with
  | case1 => exact ⟨[], .nil, rfl⟩
  | case2 part =>
      have clean := clean part List.mem_cons_self
      refine ⟨_, .plain (not_startsWithCode_of_not_mem ?_) (.plain_append clean .nil), ?_⟩
      · simpa using clean
      · rw [rendering_cons, rendering_plain_append]
        simp [Passage.written, rendering]
  | case3 next rest ih =>
      obtain ⟨passages, marking, same⟩ := ih fun part inside => clean part (List.mem_cons_of_mem _ inside)
      refine ⟨_, .plain (not_startsWithCode_of_empty _) marking, ?_⟩
      rw [rendering_cons, same]
      rfl
  | case4 code next rest filled ih =>
      simp only [List.forall_mem_cons] at clean
      obtain ⟨cleanCode, cleanNext, cleanRest⟩ := clean
      obtain ⟨passages, marking, same⟩ := ih cleanRest
      obtain ⟨word, after, rfl, isWord, stops, separated⟩ := separateWord_cut next
      have cleanAfter : backtick ∉ after := fun inside => cleanNext (List.mem_append_right _ inside)
      have span := Marking.span filled cleanCode isWord (isWord_behind stops)
        (.plain_append cleanAfter marking)
      rw [← List.append_assoc word] at span
      refine ⟨_, span, ?_⟩
      rw [rendering_cons, rendering_plain_append, same, separated]
      simp [Passage.written]

theorem intercalate_cons {separator : Char} (first : List Char) (parts : List (List Char)) :
    List.intercalate [separator] (first :: parts) = first ++ parts.flatMap (separator :: ·) := by
  induction parts generalizing first with
  | nil => simp
  | cons part rest ih => simp [List.intercalate_cons_cons, ih]

theorem escapeChars_marking (text : List Char) :
    ∃ passages, Marking (backticked text) passages ∧ escapeChars text = rendering passages := by
  cases split : (backticked text).splitOn backtick with
  | nil => exact absurd split (List.splitOn_ne_nil _ _)
  | cons first parts =>
      have clean : ∀ part ∈ first :: parts, backtick ∉ part := fun part inside =>
        Text.not_mem_of_mem_splitOn (split ▸ inside)
      have whole : [backtick].intercalate ((backticked text).splitOn backtick) = backticked text :=
        List.intercalate_splitOn backtick
      rw [split, intercalate_cons] at whole
      simp only [List.forall_mem_cons] at clean
      obtain ⟨passages, marking, same⟩ := marking_of_parts clean.2
      refine ⟨first.map .plain ++ passages, whole ▸ marking.plain_append clean.1, ?_⟩
      unfold backticked at split
      rw [rendering_plain_append, ← same, escapeChars, split]

/-! ## What a rendering holds -/

theorem gap_eq {word : List Char} (filled : word ≠ []) :
    gap word = [Text.apostrophe] ∨ gap word = [' '] := by
  unfold gap
  rw [if_neg filled]
  split
  · exact .inl rfl
  · exact .inr rfl

theorem mem_gap {word : List Char} {c : Char} (inside : c ∈ gap word) :
    c = Text.apostrophe ∨ c = ' ' := by
  by_cases empty : word = []
  · subst empty
    cases inside
  · rcases gap_eq empty with equal | equal
    · exact .inl (List.mem_singleton.mp (equal ▸ inside))
    · exact .inr (List.mem_singleton.mp (equal ▸ inside))

theorem not_mem_gap {c : Char} (apostrophe : c ≠ Text.apostrophe) (space : c ≠ ' ') (word : List Char) :
    c ∉ gap word := by
  intro inside
  rcases mem_gap inside with equal | equal
  · exact apostrophe equal
  · exact space equal

theorem backtick_not_mem_gap (word : List Char) : backtick ∉ gap word :=
  not_mem_gap (by decide) (by decide) word

theorem filter_of_not_mem {part : List Char} (clean : backtick ∉ part) :
    part.filter (· != backtick) = part :=
  List.filter_eq_self.mpr fun _ inside => bne_iff_ne.mpr fun equal => clean (equal ▸ inside)

namespace Marking

variable {text : List Char} {passages : List Passage}

theorem filter_text (marking : Marking text passages) :
    text.filter (· != backtick) = passages.flatMap (Passage.letters fun _ => []) := by
  induction marking with
  | nil => rfl
  | @plain c rest _ _ _ ih =>
      rw [List.filter_cons, List.flatMap_cons, ← ih]
      by_cases same : c = backtick <;> simp [Passage.letters, same]
  | span _ clean isWord _ _ ih =>
      have word := filter_of_not_mem (backtick_not_mem_word isWord)
      rw [List.flatMap_cons, ← ih, Passage.letters]
      simp [List.filter_append, filter_of_not_mem clean, word]

theorem filter_rendering (marking : Marking text passages) :
    (rendering passages).filter (· != backtick) = passages.flatMap (Passage.letters gap) := by
  induction marking with
  | nil => rfl
  | @plain c rest _ _ _ ih =>
      rw [rendering_cons, List.filter_append, List.flatMap_cons, ih]
      by_cases same : c = backtick <;> simp [Passage.letters, Passage.written, same]
  | @span code word rest _ _ clean isWord _ _ ih =>
      have codeKept := filter_of_not_mem clean
      have wordKept := filter_of_not_mem (backtick_not_mem_word isWord)
      have gapKept := filter_of_not_mem (backtick_not_mem_gap word)
      rw [rendering_cons, List.filter_append, List.flatMap_cons, ih]
      simp [Passage.letters, Passage.written, List.filter_append, codeKept, wordKept, gapKept]

theorem count_backtick (marking : Marking text passages) :
    (rendering passages).count backtick = text.count backtick + 2 * passages.countP Passage.isSpan := by
  induction marking with
  | nil => rfl
  | plain _ _ ih =>
      simp only [rendering_cons, Passage.written, List.cons_append, List.nil_append, List.count_cons, ih,
        List.countP_cons, Passage.isSpan, Bool.false_eq_true, ↓reduceIte]
      omega
  | @span code word rest _ _ clean isWord _ _ ih =>
      have noneInCode := List.count_eq_zero.mpr clean
      have noneInWord := List.count_eq_zero.mpr (backtick_not_mem_word isWord)
      have noneInGap := List.count_eq_zero.mpr (backtick_not_mem_gap word)
      simp only [rendering_cons, Passage.written, List.cons_append, List.nil_append, List.count_cons_self,
        List.count_nil, List.count_append, ih, List.countP_cons, Passage.isSpan, noneInCode, noneInWord, noneInGap,
        ↓reduceIte]
      omega

theorem count_rendering {c : Char} (mark : backtick ≠ c) (outside : ∀ word, c ∉ gap word)
    (marking : Marking text passages) : (rendering passages).count c = text.count c := by
  induction marking with
  | nil => rfl
  | plain _ _ ih =>
      simp [rendering_cons, Passage.written, List.count_cons, ih]
  | @span code word rest _ _ clean isWord _ _ ih =>
      have noneInGap := List.count_eq_zero.mpr (outside word)
      simp [rendering_cons, Passage.written, List.count_append, ih, noneInGap, mark]

theorem head?_rendering (marking : Marking text passages) :
    (rendering passages).head? = text.head? := by
  cases marking <;> rfl

theorem suffix {before : List Passage} (marking : Marking text (before ++ passages)) :
    ∃ rest, Marking rest passages := by
  induction before generalizing text with
  | nil => exact ⟨text, marking⟩
  | cons passage others ih =>
      cases marking with
      | plain _ marking => exact ih marking
      | span _ _ _ _ marking => exact ih marking

theorem isWord_behind_span {code word : List Char}
    (marking : Marking text (.span code word :: passages)) :
    ∀ c ∈ (gap word ++ word ++ rendering passages).head?, Text.isWord c = false := by
  cases marking with
  | span _ _ _ stops marking =>
      intro c first
      by_cases empty : word = []
      · subst empty
        refine stops c ?_
        rw [← marking.head?_rendering]
        exact first
      · rcases gap_eq empty with equal | equal
        · rw [equal] at first
          cases first
          exact isWord_apostrophe
        · rw [equal] at first
          cases first
          exact isWord_space

end Marking

theorem toList_escapeBackticks (s : String) : (escapeBackticks s).toList = escapeChars s.toList := by
  simp [escapeBackticks]

theorem count_newline_backticked (text : List Char) :
    (backticked text).count '\n' = text.count '\n' := by
  induction text with
  | nil => rfl
  | cons c rest ih =>
      rw [backticked, List.map_cons, List.count_cons, List.count_cons, ← backticked, ih]
      by_cases bar : c = '|'
      · subst bar
        rfl
      · rw [if_neg bar]

/-- Escaping writes the marking of a description. Apart from backticks it inserts what sets words off and
nothing else, and the double backticks behind code are followed by no word. -/
theorem escaping_renders_marking (s : String) :
    ∃ passages, Marking (backticked s.toList) passages ∧
      (escapeBackticks s).toList = rendering passages ∧
      (backticked s.toList).filter (· != backtick) = passages.flatMap (Passage.letters fun _ => []) ∧
      (escapeBackticks s).toList.filter (· != backtick) = passages.flatMap (Passage.letters gap) ∧
      (escapeBackticks s).toList.count backtick =
        (backticked s.toList).count backtick + 2 * passages.countP Passage.isSpan ∧
      (escapeBackticks s).toList.count '\n' = s.toList.count '\n' ∧
      ∀ before code word after, passages = before ++ .span code word :: after →
        ∃ behind, (escapeBackticks s).toList =
            rendering before ++ [backtick, backtick] ++ code ++ [backtick, backtick] ++ behind ∧
          ∀ c ∈ behind.head?, Text.isWord c = false := by
  obtain ⟨passages, marking, same⟩ := escapeChars_marking s.toList
  rw [toList_escapeBackticks, same]
  refine ⟨passages, marking, rfl, marking.filter_text, marking.filter_rendering, marking.count_backtick, ?_, ?_⟩
  · rw [marking.count_rendering (by decide) (not_mem_gap (by decide) (by decide)), count_newline_backticked]
  · rintro before code word after rfl
    obtain ⟨rest, marking⟩ := marking.suffix
    refine ⟨gap word ++ word ++ rendering after, ?_, marking.isWord_behind_span⟩
    simp [rendering, Passage.written]

/-! ## Escaping again -/

def HasCode (text : List Char) : Prop :=
  ∃ before rest, text = before ++ rest ∧ StartsWithCode rest

theorem HasCode.append {text : List Char} (hasCode : HasCode text) (before : List Char) :
    HasCode (before ++ text) := by
  obtain ⟨others, rest, rfl, starts⟩ := hasCode
  exact ⟨before ++ others, rest, (List.append_assoc _ _ _).symm, starts⟩

theorem not_hasCode_cons {c : Char} {rest : List Char} (here : ¬ StartsWithCode (c :: rest))
    (later : ¬ HasCode rest) : ¬ HasCode (c :: rest) := by
  rintro ⟨before, after, equal, starts⟩
  cases before with
  | nil => exact here (equal ▸ starts)
  | cons d others => exact later ⟨others, after, (List.cons.inj equal).2, starts⟩

namespace Marking

variable {text : List Char} {passages : List Passage}

theorem not_hasCode (marking : Marking text passages) (noSpan : passages.countP Passage.isSpan = 0) :
    ¬ HasCode text ∧ rendering passages = text := by
  induction marking with
  | nil =>
      refine ⟨?_, rfl⟩
      rintro ⟨before, rest, empty, code, after, -, -, rfl⟩
      simp at empty
  | plain here _ ih =>
      obtain ⟨later, same⟩ := ih (by simpa [Passage.isSpan] using noSpan)
      refine ⟨not_hasCode_cons here later, ?_⟩
      rw [rendering_cons, same]
      rfl
  | span => simp [List.countP_cons, Passage.isSpan] at noSpan

theorem hasCode (marking : Marking text passages) (someSpan : passages.countP Passage.isSpan ≠ 0) :
    HasCode text ∧ HasCode (rendering passages) := by
  induction marking with
  | nil => exact absurd rfl someSpan
  | @plain c _ _ _ _ ih =>
      obtain ⟨source, rendered⟩ := ih (by simpa [Passage.isSpan] using someSpan)
      exact ⟨source.append [c], rendered.append [c]⟩
  | @span code word rest passages filled clean _ _ _ _ =>
      refine ⟨⟨[], _, rfl, code, word ++ rest, filled, clean, rfl⟩, ?_⟩
      -- The inner ones of the double backticks enclose the code once more.
      refine ⟨[backtick], _, ?_, code, backtick :: (gap word ++ word ++ rendering passages), filled, clean, rfl⟩
      simp [rendering_cons, Passage.written]

theorem hasCode_iff (marking : Marking text passages) :
    HasCode text ↔ passages.countP Passage.isSpan ≠ 0 :=
  ⟨fun hasCode noSpan => (marking.not_hasCode noSpan).1 hasCode, fun someSpan => (marking.hasCode someSpan).1⟩

end Marking

theorem backticked_of_not_mem {text : List Char} (noBar : '|' ∉ text) : backticked text = text := by
  have kept : ∀ c ∈ text, (if c = '|' then backtick else c) = c := by
    intro c inside
    refine if_neg fun bar => noBar ?_
    rw [← bar]
    exact inside
  exact (List.map_congr_left kept).trans (List.map_id text)

theorem bar_not_mem_backticked (text : List Char) : '|' ∉ backticked text := by
  intro inside
  obtain ⟨c, -, equal⟩ := List.mem_map.mp inside
  split at equal
  · revert equal
    decide
  · exact absurd equal ‹_›

theorem backticked_escapeChars (text : List Char) : backticked (escapeChars text) = escapeChars text := by
  obtain ⟨passages, marking, same⟩ := escapeChars_marking text
  refine backticked_of_not_mem (List.count_eq_zero.mp ?_)
  rw [same, marking.count_rendering (by decide) (not_mem_gap (by decide) (by decide))]
  exact List.count_eq_zero.mpr (bar_not_mem_backticked text)

theorem escapeChars_of_not_hasCode {text : List Char} (noCode : ¬ HasCode (backticked text)) :
    escapeChars text = backticked text := by
  obtain ⟨passages, marking, same⟩ := escapeChars_marking text
  rw [marking.hasCode_iff, ne_eq, Decidable.not_not] at noCode
  rw [same, (marking.not_hasCode noCode).2]

theorem count_escapeChars_of_hasCode {text : List Char} (hasCode : HasCode (backticked text)) :
    (backticked text).count backtick < (escapeChars text).count backtick ∧ HasCode (escapeChars text) := by
  obtain ⟨passages, marking, same⟩ := escapeChars_marking text
  rw [marking.hasCode_iff] at hasCode
  rw [same]
  refine ⟨?_, (marking.hasCode hasCode).2⟩
  rw [marking.count_backtick]
  omega

/-- A second pass leaves a description alone just if there is no code in it. Otherwise there is code in what
it gives, too, so that no number of passes comes to an end. -/
theorem escaping_again_iff (s : String) :
    (escapeBackticks (escapeBackticks s) = escapeBackticks s ↔ ¬ HasCode (backticked s.toList)) ∧
    (HasCode (backticked s.toList) → HasCode (escapeBackticks s).toList ∧
      (escapeBackticks s).toList.count backtick <
        (escapeBackticks (escapeBackticks s)).toList.count backtick) := by
  have grows : HasCode (backticked s.toList) → HasCode (escapeBackticks s).toList ∧
      (escapeBackticks s).toList.count backtick <
        (escapeBackticks (escapeBackticks s)).toList.count backtick := by
    intro hasCode
    have again := (count_escapeChars_of_hasCode hasCode).2
    have more := (count_escapeChars_of_hasCode ((backticked_escapeChars s.toList).symm ▸ again)).1
    rw [backticked_escapeChars] at more
    simpa only [toList_escapeBackticks] using ⟨again, more⟩
  refine ⟨⟨fun same hasCode => ?_, fun noCode => ?_⟩, grows⟩
  · have more := (grows hasCode).2
    rw [same] at more
    exact Nat.lt_irrefl _ more
  · rw [← escapeChars_of_not_hasCode noCode, ← backticked_escapeChars] at noCode
    refine String.toList_injective ?_
    rw [toList_escapeBackticks, toList_escapeBackticks, escapeChars_of_not_hasCode noCode,
      backticked_escapeChars]

theorem escaping_not_idempotent :
    escapeBackticks "\x60a\x60" = "\x60\x60a\x60\x60" ∧
    escapeBackticks "\x60\x60a\x60\x60" = "\x60\x60\x60a\x60\x60\x60" ∧
    ¬ ∀ s, escapeBackticks (escapeBackticks s) = escapeBackticks s := by
  refine ⟨by decide, by decide, fun idempotent => ?_⟩
  have same := idempotent "\x60a\x60"
  revert same
  decide

end DevTools.Codegen
