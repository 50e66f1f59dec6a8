import DevTools.Text.Lines
import Mathlib.Data.List.Chain

namespace DevTools.Text

/-! ## The first character -/

theorem lines_singleton (c : Char) : lines [c] = [[c]] := by
  rw [lines.eq_3]
  · split <;> rfl
  · nofun

theorem lines_cons_end {c : Char} {rest : List Char} (ends : isLineEnd c = true)
    (alone : c = '\x0d' → rest.head? ≠ some '\x0a') : lines (c :: rest) = [c] :: lines rest := by
  rw [lines.eq_3]
  · rw [if_pos ends]
  · rintro after rfl rfl
    exact alone rfl rfl

theorem lines_cons_inner {c : Char} {rest line : List Char} {more : List (List Char)}
    (inner : isLineEnd c = false) (cut : lines rest = line :: more) :
    lines (c :: rest) = (c :: line) :: more := by
  rw [lines.eq_3]
  · rw [inner, cut]
    rfl
  · rintro after rfl
    cases inner

theorem lines_inner_append {body text line : List Char} {more : List (List Char)}
    (inner : ∀ c ∈ body, isLineEnd c = false) (cut : lines text = line :: more) :
    lines (body ++ text) = (body ++ line) :: more := by
  induction body with
  | nil => exact cut
  | cons c body ih =>
      obtain ⟨here, others⟩ := List.forall_mem_cons.mp inner
      exact lines_cons_inner here (ih others)

theorem eq_nil_of_lines {text : List Char} (empty : lines text = []) : text = [] := by
  have whole := flatten_lines text
  rw [empty] at whole
  exact whole.symm

/-! ## Texts that are put together -/

/-- The first text ends with a line end, which takes nothing of the second along. -/
def Breaks (before after : List Char) : Prop :=
  ∃ c ∈ before.getLast?, isLineEnd c = true ∧ (c = '\x0d' → after.head? ≠ some '\x0a')

theorem Breaks.of_cons {c d : Char} {rest after : List Char} (breaks : Breaks (c :: d :: rest) after) :
    Breaks (d :: rest) after := by
  simpa only [Breaks, List.getLast?_cons_cons] using breaks

theorem breaks_newline (before after : List Char) : Breaks (before ++ ['\n']) after := by
  refine ⟨'\n', ?_, rfl, nofun⟩
  rw [List.getLast?_concat]
  rfl

theorem lines_append {before after : List Char} (breaks : Breaks before after) :
    lines (before ++ after) = lines before ++ lines after := by
  fun_induction lines before with
  | case1 =>
      obtain ⟨c, last, -⟩ := breaks
      cases last
  | case2 rest ih =>
      cases rest with
      | nil => rfl
      | cons d rest => exact congrArg _ (ih breaks.of_cons.of_cons)
  | case3 c rest apart ends ih =>
      -- Only as the last character can a carriage return meet a line feed that it did not meet before.
      cases rest with
      | nil =>
          obtain ⟨_, ⟨⟩, -, alone⟩ := breaks
          exact lines_cons_end ends alone
      | cons d rest =>
          rw [List.cons_append, lines_cons_end ends, ih breaks.of_cons]
          · rfl
          · rintro rfl first
            cases first
            exact apart rest rfl rfl
  | case4 c rest _ inner empty _ =>
      cases eq_nil_of_lines empty
      obtain ⟨_, ⟨⟩, ends, -⟩ := breaks
      exact absurd ends inner
  | case5 c rest _ inner line more cut ih =>
      cases rest with
      | nil => cases cut
      | cons d rest =>
          have joined := ih breaks.of_cons
          rw [cut] at joined
          exact lines_cons_inner (Bool.eq_false_iff.mpr inner) joined

/-! ## Lines that are put together -/

def IsLine (line : List Char) : Prop :=
  lines line = [line]

theorem IsLine.ne_nil {line : List Char} (isLine : IsLine line) : line ≠ [] := by
  rintro rfl
  cases isLine

theorem isLine_of_mem_lines {text line : List Char} (member : line ∈ lines text) : IsLine line := by
  fun_induction lines text generalizing line with
  | case1 => cases member
  | case2 rest ih =>
      rcases List.mem_cons.mp member with rfl | later
      · rfl
      · exact ih later
  | case3 c rest _ _ ih =>
      rcases List.mem_cons.mp member with rfl | later
      · exact lines_singleton c
      · exact ih later
  | case4 c rest =>
      rw [List.mem_singleton.mp member]
      exact lines_singleton c
  | case5 c rest _ inner first more cut ih =>
      rw [cut] at ih
      rcases List.mem_cons.mp member with rfl | later
      · exact lines_cons_inner (Bool.eq_false_iff.mpr inner) (ih List.mem_cons_self)
      · exact ih (List.mem_cons_of_mem _ later)

theorem head?_of_mem_head?_lines {text line : List Char} (first : line ∈ (lines text).head?) :
    line.head? = text.head? := by
  obtain ⟨more, cut⟩ := List.head?_eq_some_iff.mp first
  have filled := (isLine_of_mem_lines (cut ▸ List.mem_cons_self)).ne_nil
  have whole := flatten_lines text
  rw [cut, List.flatten_cons] at whole
  rw [← whole, List.head?_append_of_ne_nil _ filled]

theorem breaks_lines (text : List Char) : (lines text).IsChain Breaks := by
  fun_induction lines text with
  | case1 => exact .nil
  | case2 rest ih => exact List.isChain_cons.mpr ⟨fun line _ => breaks_newline ['\x0d'] line, ih⟩
  | case3 c rest apart ends ih =>
      refine List.isChain_cons.mpr ⟨fun line first => ⟨c, rfl, ends, fun returns feed => ?_⟩, ih⟩
      rw [head?_of_mem_head?_lines first] at feed
      obtain ⟨after, equal⟩ := List.head?_eq_some_iff.mp feed
      exact apart after returns equal
  | case4 c rest => exact .singleton _
  | case5 c rest _ _ line more cut ih =>
      rw [cut, List.isChain_cons] at ih
      refine List.isChain_cons.mpr ⟨fun next second => ?_, ih.2⟩
      obtain ⟨d, last, ends, alone⟩ := ih.1 next second
      refine ⟨d, ?_, ends, alone⟩
      rw [List.getLast?_cons, Option.mem_def.mp last]
      rfl

theorem lines_flatten {rows : List (List Char)} (isLine : ∀ row ∈ rows, IsLine row)
    (breaks : rows.IsChain Breaks) : lines rows.flatten = rows := by
  induction rows with
  | nil => rfl
  | cons row rest ih =>
      obtain ⟨here, others⟩ := List.forall_mem_cons.mp isLine
      cases rest with
      | nil =>
          rw [List.flatten_singleton]
          exact here
      | cons next more =>
          obtain ⟨first, later⟩ := List.isChain_cons_cons.mp breaks
          have apart : Breaks row (next :: more).flatten := by
            obtain ⟨c, last, ends, alone⟩ := first
            refine ⟨c, last, ends, fun returns => ?_⟩
            rw [List.flatten_cons, List.head?_append_of_ne_nil]
            · exact alone returns
            · exact (others next List.mem_cons_self).ne_nil
          rw [List.flatten_cons, lines_append apart, ih others later, here]
          rfl

/-! ## A line feed at the end -/

theorem lines_newline (text : List Char) :
    lines (text ++ ['\n']) = lines text ++ [['\n']] ∨
    ∃ before last, lines text = before ++ [last] ∧ lines (text ++ ['\n']) = before ++ [last ++ ['\n']] := by
  fun_induction lines text with
  | case1 => exact .inl rfl
  | case2 rest ih =>
      rcases ih with own | ⟨before, last, cut, joined⟩
      · exact .inl (congrArg _ own)
      · exact .inr ⟨_ :: before, last, congrArg _ cut, congrArg _ joined⟩
  | case3 c rest apart ends ih =>
      -- A carriage return at the end of the text takes the line feed along.
      by_cases takes : rest = [] ∧ c = '\x0d'
      · obtain ⟨rfl, rfl⟩ := takes
        exact .inr ⟨[], ['\x0d'], rfl, rfl⟩
      · have alone : c = '\x0d' → (rest ++ ['\n']).head? ≠ some '\x0a' := by
          intro returns feed
          cases rest with
          | nil => exact takes ⟨rfl, returns⟩
          | cons d rest =>
              cases feed
              exact apart rest returns rfl
        rw [List.cons_append, lines_cons_end ends alone]
        rcases ih with own | ⟨before, last, cut, joined⟩
        · exact .inl (congrArg _ own)
        · exact .inr ⟨_ :: before, last, congrArg _ cut, congrArg _ joined⟩
  | case4 c rest _ inner empty _ =>
      cases eq_nil_of_lines empty
      exact .inr ⟨[], [c], rfl, lines_cons_inner (Bool.eq_false_iff.mpr inner) rfl⟩
  | case5 c rest _ inner line more cut ih =>
      have inner := Bool.eq_false_iff.mpr inner
      rw [cut] at ih
      rcases ih with own | ⟨before, last, split, joined⟩
      · exact .inl (lines_cons_inner inner own)
      · cases before with
        | nil =>
            cases split
            exact .inr ⟨[], c :: line, rfl, lines_cons_inner inner joined⟩
        | cons first before =>
            cases split
            exact .inr ⟨(c :: line) :: before, last, rfl, lines_cons_inner inner joined⟩

/-! ## Parts between separators -/

theorem not_mem_of_mem_splitOn {separator : Char} {text part : List Char}
    (member : part ∈ text.splitOn separator) : separator ∉ part := by
  induction text generalizing part with
  | nil =>
      obtain rfl := List.mem_singleton.mp member
      exact List.not_mem_nil
  | cons c rest ih =>
      rw [List.splitOn_cons_eq_if_modifyHead] at member
      split at member
      · rcases List.mem_cons.mp member with rfl | inside
        · exact List.not_mem_nil
        · exact ih inside
      · rename_i differs
        cases cut : rest.splitOn separator with
        | nil => exact absurd cut (List.splitOn_ne_nil _ _)
        | cons first others =>
            rw [cut] at member ih
            rcases List.mem_cons.mp member with rfl | inside
            · have clean := ih List.mem_cons_self
              have other : separator ≠ c := fun same => differs (beq_iff_eq.mpr same.symm)
              simp [other, clean]
            · exact ih (List.mem_cons_of_mem _ inside)

theorem length_splitOn (separator : Char) (text : List Char) :
    (text.splitOn separator).length = text.count separator + 1 := by
  induction text with
  | nil => rfl
  | cons c rest ih =>
      rw [List.splitOn_cons_eq_if_modifyHead, List.count_cons]
      split <;> simp [ih]

end DevTools.Text
