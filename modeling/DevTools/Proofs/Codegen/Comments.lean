import DevTools.Proofs.Codegen.Backticks

namespace DevTools.Codegen

theorem count_newline_escapeChars (text : List Char) : (escapeChars text).count '\n' = text.count '\n' := by
  obtain ⟨passages, marking, same⟩ := escapeChars_marking text
  rw [same, marking.count_rendering (by decide) (not_mem_gap (by decide) (by decide)), count_newline_backticked]

def commentMark : List Char :=
  ['#', ':', ' ']

theorem newline_not_mem_comment {row text : List Char} (member : row ∈ text.splitOn '\n') :
    '\n' ∉ commentMark ++ row := by
  rw [List.mem_append, not_or]
  exact ⟨by decide, Text.not_mem_of_mem_splitOn member⟩

theorem rows_inlineDocText (d : String) :
    (inlineDocText d).toList.splitOn '\n' =
      ((escapeChars d.toList).splitOn '\n').map (commentMark ++ ·) := by
  rw [inlineDocText, String.toList_ofList]
  apply List.splitOn_intercalate
  · intro row member
    obtain ⟨inner, inside, rfl⟩ := List.mem_map.mp member
    exact newline_not_mem_comment inside
  · exact mt List.map_eq_nil_iff.mp (List.splitOn_ne_nil _ _)

theorem descriptionText?_text {d : String} (filled : d ≠ "") : descriptionText? (.text d) = .ok (some d) := by
  have truthy : (Value.text d).truthy = true := by simpa [Value.truthy, Value.core] using filled
  rw [descriptionText?, if_pos truthy]
  rfl

/-- A description has one comment line for each of its rows. All of them begin with the mark, and without it
they are the rows of the escaped description. -/
theorem comments_row_by_row {d : String} (filled : d ≠ "") :
    ∃ text, inlineDoc (.text d) = .ok text ∧
      (text.toList.splitOn '\n').length = (d.toList.splitOn '\n').length ∧
      (∀ row ∈ text.toList.splitOn '\n', ['#', ':', ' '] <+: row) ∧
      List.intercalate ['\n'] ((text.toList.splitOn '\n').map (List.drop 3)) =
        (escapeBackticks d).toList := by
  refine ⟨inlineDocText d, ?_, ?_, ?_, ?_⟩
  · rw [inlineDoc, descriptionText?_text filled]
    rfl
  · rw [rows_inlineDocText, List.length_map, Text.length_splitOn, Text.length_splitOn,
      count_newline_escapeChars]
  · intro row member
    rw [rows_inlineDocText] at member
    obtain ⟨inner, -, rfl⟩ := List.mem_map.mp member
    exact List.prefix_append _ _
  · have unmarked : List.drop 3 ∘ (commentMark ++ ·) = id := funext fun row => rfl
    rw [rows_inlineDocText, List.map_map, unmarked, List.map_id, List.intercalate_splitOn,
      toList_escapeBackticks]

theorem comments_row_by_row_spread :
    "of \x60a\n\nb\x60s |c\n|" ≠ "" ∧
    ∃ text, inlineDoc (.text "of \x60a\n\nb\x60s |c\n|") = .ok text ∧
      (text.toList.splitOn '\n').length = 4 ∧
      List.intercalate ['\n'] ((text.toList.splitOn '\n').map (List.drop 3)) =
        "of \x60\x60a\n\nb\x60\x60's \x60\x60c\n\x60\x60".toList := by
  have filled : "of \x60a\n\nb\x60s |c\n|" ≠ "" := by decide
  obtain ⟨text, written, rows, -, unmarked⟩ := comments_row_by_row filled
  refine ⟨filled, text, written, rows.trans ?_, unmarked.trans ?_⟩
  · decide
  · decide +kernel

end DevTools.Codegen
