import DevTools.Codegen.Comment
import DevTools.Proofs.Text.Lines

namespace DevTools.Text

/-! ## What can be told of a line -/

def outdentLine (width : Nat) (line : List Char) : List Char :=
  if line.all isBlank then line else line.drop width

def outdent (width : Nat) (text : String) : String :=
  String.ofList ((lines text.toList).map (outdentLine width)).flatten

def lineEnding (line : List Char) : List Char :=
  line.dropWhile (!isLineEnd ·)

def blankLine? (line : List Char) : Option (List Char) :=
  if line.all isBlank then some line else none

/-- Two texts have equally many lines with the same ends, and the same blank lines at the same places. -/
structure AgreeInLines (text text' : List Char) : Prop where
  count : (lines text').length = (lines text).length
  endings : (lines text').map lineEnding = (lines text).map lineEnding
  blanks : (lines text').map blankLine? = (lines text).map blankLine?

/-! ## Indented lines -/

theorem indentLine_of_blank {line : List Char} (blank : line.all isBlank = true) (width : Nat) :
    indentLine width line = line :=
  if_pos blank

theorem indentLine_of_not_blank {line : List Char} (filled : line.all isBlank = false) (width : Nat) :
    indentLine width line = List.replicate width ' ' ++ line :=
  if_neg (Bool.eq_false_iff.mp filled)

theorem all_isBlank_indentLine (width : Nat) (line : List Char) :
    (indentLine width line).all isBlank = line.all isBlank := by
  cases blank : line.all isBlank with
  | true => rw [indentLine_of_blank blank, blank]
  | false => rw [indentLine_of_not_blank blank, List.all_append, blank, Bool.and_false]

theorem indentLine_indentLine (a b : Nat) (line : List Char) :
    indentLine b (indentLine a line) = indentLine (a + b) line := by
  cases blank : line.all isBlank with
  | true => rw [indentLine_of_blank blank, indentLine_of_blank blank, indentLine_of_blank blank]
  | false =>
      have still := (all_isBlank_indentLine a line).trans blank
      rw [indentLine_of_not_blank still, indentLine_of_not_blank blank, indentLine_of_not_blank blank,
        ← List.append_assoc, List.replicate_append_replicate, Nat.add_comm b]

theorem outdentLine_indentLine (width : Nat) (line : List Char) :
    outdentLine width (indentLine width line) = line := by
  rw [outdentLine, all_isBlank_indentLine]
  cases blank : line.all isBlank with
  | true => exact indentLine_of_blank blank width
  | false =>
      rw [indentLine_of_not_blank blank, if_neg Bool.false_ne_true]
      exact List.drop_left' List.length_replicate

theorem not_isLineEnd_of_mem_replicate {width : Nat} {c : Char} (member : c ∈ List.replicate width ' ') :
    isLineEnd c = false := by
  rw [List.eq_of_mem_replicate member]
  rfl

theorem lineEnding_indentLine (width : Nat) (line : List Char) :
    lineEnding (indentLine width line) = lineEnding line := by
  cases blank : line.all isBlank with
  | true => rw [indentLine_of_blank blank]
  | false =>
      rw [indentLine_of_not_blank blank, lineEnding, List.dropWhile_append_of_pos]
      · rfl
      · intro c member
        rw [not_isLineEnd_of_mem_replicate member]
        rfl

theorem blankLine?_indentLine (width : Nat) (line : List Char) :
    blankLine? (indentLine width line) = blankLine? line := by
  rw [blankLine?, all_isBlank_indentLine]
  cases blank : line.all isBlank with
  | true => rw [indentLine_of_blank blank, blankLine?, blank]
  | false =>
      rw [blankLine?, blank]
      rfl

theorem replicate_prefix_indentLine {width : Nat} {line : List Char}
    (filled : (indentLine width line).all isBlank = false) :
    List.replicate width ' ' <+: indentLine width line := by
  rw [all_isBlank_indentLine] at filled
  rw [indentLine_of_not_blank filled]
  exact List.prefix_append _ _

theorem IsLine.indentLine {line : List Char} (isLine : IsLine line) (width : Nat) :
    IsLine (indentLine width line) := by
  cases blank : line.all isBlank with
  | true => rwa [indentLine_of_blank blank]
  | false =>
      rw [indentLine_of_not_blank blank]
      exact lines_inner_append (fun _ => not_isLineEnd_of_mem_replicate) isLine

theorem Breaks.indentLine {before after : List Char} (breaks : Breaks before after) (width : Nat) :
    Breaks (indentLine width before) (indentLine width after) := by
  -- Spaces in front do not touch the last character, and they are no line feeds.
  obtain ⟨c, last, ends, alone⟩ := breaks
  refine ⟨c, ?_, ends, fun returns => ?_⟩
  · cases blank : before.all isBlank with
    | true => rwa [indentLine_of_blank blank]
    | false =>
        rw [indentLine_of_not_blank blank, List.getLast?_append, Option.mem_def.mp last]
        rfl
  · cases blank : after.all isBlank with
    | true =>
        rw [indentLine_of_blank blank]
        exact alone returns
    | false =>
        rw [indentLine_of_not_blank blank]
        cases width with
        | zero => exact alone returns
        | succ width => nofun

/-! ## Indented texts -/

theorem lines_indentChars (width : Nat) (text : List Char) :
    lines (indentChars width text) = (lines text).map (indentLine width) := by
  apply lines_flatten
  · intro row member
    obtain ⟨line, inside, rfl⟩ := List.mem_map.mp member
    exact (isLine_of_mem_lines inside).indentLine width
  · exact List.isChain_map_of_isChain _ (fun _ _ breaks => breaks.indentLine width) (breaks_lines text)

theorem toList_indent (width : Nat) (s : String) : (indent width s).toList = indentChars width s.toList :=
  String.toList_ofList

theorem indent_indent (a b : Nat) (s : String) : indent b (indent a s) = indent (a + b) s := by
  have same : indentLine b ∘ indentLine a = indentLine (a + b) := funext (indentLine_indentLine a b)
  unfold indent
  rw [String.toList_ofList, indentChars, lines_indentChars, List.map_map, same]
  rfl

theorem outdent_indent (width : Nat) (s : String) : outdent width (indent width s) = s := by
  have same : outdentLine width ∘ indentLine width = id := funext (outdentLine_indentLine width)
  unfold outdent
  rw [toList_indent, lines_indentChars, List.map_map, same, List.map_id, flatten_lines, String.ofList_toList]

theorem agreeInLines_indent (width : Nat) (s : String) :
    AgreeInLines s.toList (indent width s).toList where
  count := by rw [toList_indent, lines_indentChars, List.length_map]
  endings := by
    have same : lineEnding ∘ indentLine width = lineEnding := funext (lineEnding_indentLine width)
    rw [toList_indent, lines_indentChars, List.map_map, same]
  blanks := by
    have same : blankLine? ∘ indentLine width = blankLine? := funext (blankLine?_indentLine width)
    rw [toList_indent, lines_indentChars, List.map_map, same]

theorem replicate_prefix_of_mem_lines {width : Nat} {s : String} {line : List Char}
    (member : line ∈ lines (indent width s).toList) (filled : line.all isBlank = false) :
    List.replicate width ' ' <+: line := by
  rw [toList_indent, lines_indentChars] at member
  obtain ⟨row, -, rfl⟩ := List.mem_map.mp member
  exact replicate_prefix_indentLine filled

end DevTools.Text

namespace DevTools.Codegen

def indexBound : Nat :=
  Nat.pow 2 63

theorem marginWidth_natCast (width : Nat) :
    marginWidth (.int width) = if width < indexBound then .ok width else .error .indexOverflow := by
  have inside : (-Int.ofNat indexBound ≤ (width : Int) && (width : Int) < Int.ofNat indexBound) =
      decide (width < indexBound) := by
    rw [Bool.eq_iff_iff, Bool.and_eq_true, decide_eq_true_eq, decide_eq_true_eq, decide_eq_true_eq,
      Int.ofNat_eq_natCast]
    omega
  unfold indexBound at inside ⊢
  simp only [marginWidth, inside, decide_eq_true_eq, Int.toNat_natCast]

theorem indentBy_of_fits (s : String) {width : Nat} (fits : width < indexBound) :
    indentBy (.text s) (.int width) = .ok (Text.indent width s) := by
  rw [indentBy, marginWidth_natCast, if_pos fits]
  rfl

theorem indentBy_of_overflow (text : Value) {width : Nat} (large : indexBound ≤ width) :
    indentBy text (.int width) = .error .indexOverflow := by
  rw [indentBy, marginWidth_natCast, if_neg (Nat.not_lt.mpr large)]
  rfl

/-- Indenting twice is indenting by both widths, and taking the first indentation off gives the text back.
Lines, their ends and blank lines stay as they are. A width that is no index is refused. -/
theorem indenting_adds_up (s : String) {a b : Nat} (fits : a + b < indexBound) :
    (∃ once twice, indentBy (.text s) (.int a) = .ok once ∧
      indentBy (.text once) (.int b) = .ok twice ∧
      indentBy (.text s) (.int (a + b : Nat)) = .ok twice ∧
      (∀ line ∈ Text.lines once.toList, line.all Text.isBlank = false → List.replicate a ' ' <+: line) ∧
      Text.outdent a once = s ∧ Text.AgreeInLines s.toList once.toList) ∧
    ∀ width : Nat, indexBound ≤ width → indentBy (.text s) (.int width) = .error .indexOverflow := by
  refine ⟨⟨Text.indent a s, Text.indent (a + b) s, ?_, ?_, ?_, ?_, ?_, ?_⟩, ?_⟩
  · exact indentBy_of_fits s (by omega)
  · rw [← Text.indent_indent]
    exact indentBy_of_fits _ (by omega)
  · exact indentBy_of_fits s fits
  · intro line member filled
    exact Text.replicate_prefix_of_mem_lines member filled
  · exact Text.outdent_indent a s
  · exact Text.agreeInLines_indent a s
  · intro width large
    exact indentBy_of_overflow _ large

theorem indenting_adds_up_mixedLines :
    2 + 3 < indexBound ∧
    ∃ once twice, indentBy (.text "a\x0d\n \x0b\x0d\x0db\n") (.int 2) = .ok once ∧
      indentBy (.text once) (.int 3) = .ok twice ∧ twice = "     a\x0d\n \x0b\x0d\x0d     b\n" ∧
      Text.outdent 2 once = "a\x0d\n \x0b\x0d\x0db\n" := by
  have fits : 2 + 3 < indexBound := by decide
  obtain ⟨⟨once, twice, first, second, both, -, off, -⟩, -⟩ := indenting_adds_up "a\x0d\n \x0b\x0d\x0db\n" fits
  refine ⟨fits, once, twice, first, second, ?_, off⟩
  cases both
  decide

theorem indenting_overflows :
    indentBy (.text "") (.int 9223372036854775808) = .error .indexOverflow ∧
    ¬ ∀ (s : String) (a b : Nat), ∃ once, indentBy (.text s) (.int a) = .ok once ∧
      indentBy (.text once) (.int b) = indentBy (.text s) (.int (a + b : Nat)) ∧ Text.outdent a once = s := by
  refine ⟨rfl, fun holds => ?_⟩
  obtain ⟨once, first, -⟩ := holds "" 9223372036854775808 0
  cases first

end DevTools.Codegen
