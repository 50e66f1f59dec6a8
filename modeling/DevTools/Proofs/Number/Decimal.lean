import DevTools.Number.Numeral

namespace DevTools

def Text.isSeparator (c : Char) : Bool :=
  0x1c ≤ c.toNat && c.toNat ≤ 0x1f

namespace Numeral

open Text

variable {c : Char}

/-! ## Characters -/

theorem fold_of_ascii (ascii : c.toNat < 127) : fold c = c := by
  simp only [fold, ascii, ↓reduceIte]

theorem fold_of_isSeparator (separator : isSeparator c = true) : fold c = c := by
  simp only [isSeparator, Bool.and_eq_true, decide_eq_true_eq] at separator
  exact fold_of_ascii (by omega)

theorem isPad_iff : isPad c = true ↔ c.toNat = 32 ∨ 9 ≤ c.toNat ∧ c.toNat ≤ 13 := by
  have space : c = ' ' ↔ c.toNat = 32 := Char.toNat_inj.symm
  simp [isPad, space]

theorem isBlank_bounds (blank : isBlank c = true) (ascii : c.toNat < 127) :
    9 ≤ c.toNat ∧ c.toNat ≤ 13 ∨ 28 ≤ c.toNat ∧ c.toNat ≤ 32 := by
  simp only [isBlank, Ranges.has, blankRanges, List.any_cons, List.any_nil, Bool.or_eq_true,
    Bool.and_eq_true, decide_eq_true_eq, Bool.false_eq_true, or_false] at blank
  omega

theorem isPad_fold (blank : isBlank c = true) : isPad (fold c) = !isSeparator c := by
  by_cases ascii : c.toNat < 127
  · have bounds := isBlank_bounds blank ascii
    rw [fold_of_ascii ascii, Bool.eq_iff_iff, isPad_iff]
    simp only [isSeparator, Bool.not_eq_true', Bool.and_eq_false_iff, decide_eq_false_iff_not]
    omega
  · have space : fold c = ' ' := by simp only [fold, ascii, blank, ↓reduceIte]
    have other : isSeparator c = false := by
      simp only [isSeparator, Bool.and_eq_false_iff, decide_eq_false_iff_not]
      omega
    rw [space, other]
    rfl

theorem isDigit_iff : c.isDigit = true ↔ 48 ≤ c.toNat ∧ c.toNat ≤ 57 := by
  simp only [Char.isDigit, Bool.and_eq_true, decide_eq_true_eq, ge_iff_le, UInt32.le_iff_toNat_le]
  rfl

theorem digitValue?_of_isDigit (digit : c.isDigit = true) : digitValue? c = some (c.toNat - 48) := by
  simp only [digitValue?, digit, ↓reduceIte]

theorem isDigitOf_of_isDigit (digit : c.isDigit = true) : isDigitOf 10 c = true := by
  have bounds := isDigit_iff.mp digit
  simp only [isDigitOf, digitValue?_of_isDigit digit, Option.any_some, decide_eq_true_eq]
  omega

theorem not_isPad_of_isDigit (digit : c.isDigit = true) : isPad c = false := by
  have bounds := isDigit_iff.mp digit
  rw [Bool.eq_false_iff, ne_eq, isPad_iff]
  omega

def isInner (c : Char) : Bool :=
  isDigitOf 10 c || c = '_'

theorem not_isInner_of_le (low : c.toNat ≤ 32) : isInner c = false := by
  have digit : c.isDigit = false := by
    rw [Bool.eq_false_iff, ne_eq, isDigit_iff]
    omega
  have small : ¬ ('a' ≤ c ∧ c ≤ 'z') := by
    rintro ⟨above, -⟩
    have : (97 : Nat) ≤ c.toNat := above
    omega
  have large : ¬ ('A' ≤ c ∧ c ≤ 'Z') := by
    rintro ⟨above, -⟩
    have : (65 : Nat) ≤ c.toNat := above
    omega
  have line : c ≠ '_' := by
    rintro rfl
    exact absurd low (by decide)
  simp [isInner, isDigitOf, digitValue?, digit, small, large, line]

theorem not_isInner_fold (blank : isBlank c = true) : isInner (fold c) = false := by
  by_cases ascii : c.toNat < 127
  · have bounds := isBlank_bounds blank ascii
    rw [fold_of_ascii ascii]
    exact not_isInner_of_le (by omega)
  · simp only [fold, ascii, blank, ↓reduceIte]
    rfl

/-! ## Digits -/

theorem isDigit_toDigits (n : Nat) : ∀ c ∈ Nat.toDigits 10 n, c.isDigit = true :=
  fun _ member => Nat.isDigit_of_mem_toDigits (by decide) (by decide) member

theorem valueOf_toDigits (n : Nat) : valueOf 10 (Nat.toDigits 10 n) = n := by
  have same : ∀ (cs : List Char) (init : Nat), (∀ c ∈ cs, c.isDigit = true) →
      cs.foldl (fun n c => 10 * n + (digitValue? c).getD 0) init = Nat.ofDigitChars 10 cs init := by
    intro cs
    induction cs with
    | nil => simp
    | cons c rest ih =>
        intro init each
        obtain ⟨head, tail⟩ := List.forall_mem_cons.mp each
        rw [List.foldl_cons, Nat.ofDigitChars_cons, ih _ tail, digitValue?_of_isDigit head]
        rfl
  rw [valueOf, same _ _ (isDigit_toDigits n)]
  exact Nat.ofDigitChars_ten_toDigits

theorem linesBetweenDigits_of_isDigit {cs : List Char} (digits : ∀ c ∈ cs, c.isDigit = true)
    (isDigit : Char → Bool) (afterDigit : Bool) : linesBetweenDigits isDigit afterDigit cs = true := by
  induction cs generalizing afterDigit with
  | nil => rfl
  | cons c rest ih =>
      obtain ⟨head, tail⟩ := List.forall_mem_cons.mp digits
      have line : c ≠ '_' := by
        rintro rfl
        cases head
      rw [linesBetweenDigits]
      · exact ih tail _
      · exact line

theorem splitMark_ten (cs : List Char) : splitMark 10 cs = (10, cs) := by
  have marked : ∀ radix, markedRadix? cs = some radix → radix ≠ 10 := by
    rintro radix found rfl
    unfold markedRadix? at found
    split at found
    · split at found
      · cases found
      · split at found
        · cases found
        · split at found
          · cases found
          · cases found
    · cases found
  unfold splitMark
  cases found : markedRadix? cs with
  | none => rfl
  | some radix =>
      have other := marked radix found
      simp [other.symm]

/-! ## Whole numerals -/

theorem splitSign_of_ne {rest : List Char} (minus : c ≠ '-') (plus : c ≠ '+') :
    splitSign (c :: rest) = (false, c :: rest) := by
  unfold splitSign
  split
  · rename_i equal
    exact absurd (List.cons.inj equal).1 minus
  · rename_i equal
    exact absurd (List.cons.inj equal).1 plus
  · rfl

theorem integer_of_split {text : String} {negative : Bool} {n : Nat} {tail : List Char}
    (split : splitSign (trimLeft (text.toList.map fold)) = (negative, Nat.toDigits 10 n ++ tail))
    (ends : ∀ c ∈ tail, isInner c = false) (short : (Nat.toDigits 10 n).length ≤ maxDigits) :
    integer 10 text =
      if tail.all isPad then .ok (if negative then -(n : Int) else n) else .error .malformed := by
  have digits := isDigit_toDigits n
  have run : (Nat.toDigits 10 n ++ tail).takeWhile (fun c => isDigitOf 10 c || c = '_') =
      Nat.toDigits 10 n := by
    rw [List.takeWhile_append_of_pos fun c member => by simp [isDigitOf_of_isDigit (digits c member)]]
    cases tail with
    | nil => simp
    | cons c rest =>
        rw [List.takeWhile_cons_of_neg, List.append_nil]
        exact Bool.eq_false_iff.mp (ends c List.mem_cons_self)
  have all : (Nat.toDigits 10 n).filter (isDigitOf 10) = Nat.toDigits 10 n :=
    List.filter_eq_self.mpr fun c member => isDigitOf_of_isDigit (digits c member)
  have lines := linesBetweenDigits_of_isDigit digits (isDigitOf 10) false
  have nonempty : (Nat.toDigits 10 n).isEmpty = false := by
    simp [Nat.toDigits_ne_nil]
  simp only [integer, split, splitMark_ten, run, all, lines, nonempty, List.drop_left', valueOf_toDigits,
    Nat.not_lt.mpr short]
  cases tail.all isPad <;> simp [hasIdleZero]

theorem integer_of_separator {text : String} {rest : List Char}
    (start : trimLeft (text.toList.map fold) = c :: rest) (separator : isSeparator c = true) :
    integer 10 text = .error .malformed := by
  have low : c.toNat ≤ 32 := by
    simp only [isSeparator, Bool.and_eq_true, decide_eq_true_eq] at separator
    omega
  have unsigned : splitSign (c :: rest) = (false, c :: rest) :=
    splitSign_of_ne (by rintro rfl; cases separator) (by rintro rfl; cases separator)
  have run : (c :: rest).takeWhile (fun c => isDigitOf 10 c || c = '_') = [] :=
    List.takeWhile_cons_of_neg (Bool.eq_false_iff.mp (not_isInner_of_le low))
  simp [integer, start, unsigned, splitMark_ten, run, linesBetweenDigits, isUnlimited]

theorem toString_toList (n : Int) :
    (toString n).toList = (if n < 0 then ['-'] else []) ++ Nat.toDigits 10 n.natAbs := by
  show n.repr.toList = _
  rw [Int.repr_eq_if]
  by_cases negative : n < 0
  · have abs : (-n).toNat = n.natAbs := by omega
    simp [negative, Int.not_le.mpr negative, abs, Nat.repr_eq_ofList_toDigits]
  · have abs : n.toNat = n.natAbs := by omega
    simp [negative, Int.not_lt.mp negative, abs, Nat.repr_eq_ofList_toDigits]

theorem trimLeft_blanks {before rest : List Char} (blank : ∀ c ∈ before, isBlank c = true) :
    if before.any isSeparator then
      ∃ c more, trimLeft (before.map fold ++ rest) = c :: more ∧ isSeparator c = true
    else trimLeft (before.map fold ++ rest) = trimLeft rest := by
  induction before with
  | nil => rfl
  | cons c others ih =>
      obtain ⟨head, tail⟩ := List.forall_mem_cons.mp blank
      have pad := isPad_fold head
      cases separator : isSeparator c with
      | true =>
          rw [separator] at pad
          have stop : trimLeft (fold c :: (others.map fold ++ rest)) = fold c :: (others.map fold ++ rest) :=
            List.dropWhile_cons_of_neg (Bool.eq_false_iff.mp pad)
          simp only [List.any_cons, separator, Bool.true_or, ↓reduceIte, List.map_cons, List.cons_append, stop]
          exact ⟨_, _, rfl, by rwa [fold_of_isSeparator separator]⟩
      | false =>
          rw [separator] at pad
          have pass : trimLeft (fold c :: (others.map fold ++ rest)) = trimLeft (others.map fold ++ rest) :=
            List.dropWhile_cons_of_pos pad
          simp only [List.any_cons, separator, Bool.false_or, List.map_cons, List.cons_append, pass]
          exact ih tail

theorem splitSign_toString (n : Int) (tail : List Char) :
    splitSign (trimLeft ((toString n).toList.map fold ++ tail)) =
      (decide (n < 0), Nat.toDigits 10 n.natAbs ++ tail) := by
  have digits := isDigit_toDigits n.natAbs
  have folded : (Nat.toDigits 10 n.natAbs).map fold = Nat.toDigits 10 n.natAbs := by
    refine (List.map_congr_left fun c member => ?_).trans (List.map_id _)
    have bounds := isDigit_iff.mp (digits c member)
    exact fold_of_ascii (by omega)
  rw [toString_toList, List.map_append, folded]
  by_cases negative : n < 0
  · simp only [negative, ↓reduceIte, decide_true]
    rfl
  · obtain ⟨c, rest, equal⟩ := List.exists_cons_of_ne_nil (@Nat.toDigits_ne_nil n.natAbs 10)
    rw [equal] at digits ⊢
    have digit := digits c List.mem_cons_self
    simp only [negative, ↓reduceIte, List.map_nil, List.nil_append, List.cons_append, decide_false]
    rw [trimLeft, List.dropWhile_cons_of_neg (Bool.eq_false_iff.mp (not_isPad_of_isDigit digit))]
    exact splitSign_of_ne (by rintro rfl; cases digit) (by rintro rfl; cases digit)

theorem integer_padded (n : Int) {before after : List Char} (blank : ∀ c ∈ before ++ after, isBlank c = true)
    (short : (Nat.toDigits 10 n.natAbs).length ≤ maxDigits) :
    integer 10 (String.ofList (before ++ (toString n).toList ++ after)) =
      if (before ++ after).any isSeparator then .error .malformed else .ok n := by
  obtain ⟨front, back⟩ := List.forall_mem_append.mp blank
  have chars : (String.ofList (before ++ (toString n).toList ++ after)).toList.map fold =
      before.map fold ++ ((toString n).toList.map fold ++ after.map fold) := by
    simp
  have trimmed := @trimLeft_blanks before ((toString n).toList.map fold ++ after.map fold) front
  rw [← chars] at trimmed
  rw [List.any_append]
  cases separated : before.any isSeparator with
  | true =>
      simp only [separated, ↓reduceIte] at trimmed
      obtain ⟨c, more, start, separator⟩ := trimmed
      exact integer_of_separator start separator
  | false =>
      simp only [separated, Bool.false_eq_true, ↓reduceIte] at trimmed
      have ends : ∀ c ∈ after.map fold, isInner c = false :=
        List.forall_mem_map.mpr fun c member => not_isInner_fold (back c member)
      have pads : (after.map fold).all isPad = !after.any isSeparator := by
        rw [Bool.eq_iff_iff, List.all_eq_true, List.forall_mem_map, Bool.not_eq_true', List.any_eq_false]
        refine forall₂_congr fun c member => ?_
        rw [isPad_fold (back c member), Bool.not_eq_true', Bool.not_eq_true]
      rw [integer_of_split (by rw [trimmed, splitSign_toString]) ends short, pads]
      have value : (if decide (n < 0) = true then -(n.natAbs : Int) else n.natAbs) = n := by
        by_cases negative : n < 0
        · rw [decide_eq_true negative, if_pos rfl]
          omega
        · rw [decide_eq_false negative, if_neg Bool.false_ne_true]
          omega
      rw [value]
      cases after.any isSeparator <;> rfl

end Numeral

end DevTools
