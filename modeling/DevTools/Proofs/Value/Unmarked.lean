import DevTools.Proofs.Value.Parts

namespace DevTools.Value

mutual

def unmarked : Value → Value
  | float x => float x.unmarked
  | list items => list (unmarkedItems items)
  | tuple items => tuple (unmarkedItems items)
  | dict entries => dict (unmarkedEntries entries)
  | wrapped type base => wrapped type (unmarked base)
  | object type fields _ => object type (unmarkedFields fields) none
  | v => v
termination_by structural v => v

def unmarkedItems : List Value → List Value
  | [] => []
  | v :: rest => unmarked v :: unmarkedItems rest
termination_by structural items => items

def unmarkedEntries : List (Value × Value) → List (Value × Value)
  | [] => []
  | (k, v) :: rest => (unmarked k, unmarked v) :: unmarkedEntries rest
termination_by structural entries => entries

def unmarkedFields : List (String × Value) → List (String × Value)
  | [] => []
  | (name, v) :: rest => (name, unmarked v) :: unmarkedFields rest
termination_by structural fields => fields

end

theorem unmarkedItems_eq (items : List Value) : unmarkedItems items = items.map unmarked := by
  induction items with
  | nil => rfl
  | cons v rest ih => simp only [unmarkedItems, ih, List.map_cons]

theorem unmarkedEntries_eq (entries : List (Value × Value)) :
    unmarkedEntries entries = entries.map fun entry => (entry.1.unmarked, entry.2.unmarked) := by
  induction entries with
  | nil => rfl
  | cons entry rest ih => simp only [unmarkedEntries, ih, List.map_cons]

theorem unmarkedItems_congr {items others : List Value} (length : items.length = others.length)
    (same : ∀ pair ∈ items.zip others, pair.2.unmarked = pair.1.unmarked) :
    unmarkedItems others = unmarkedItems items := by
  induction items generalizing others with
  | nil => rw [List.length_eq_zero_iff.mp length.symm]
  | cons v rest ih =>
      cases others with
      | nil => cases length
      | cons w others =>
          simp only [List.zip_cons_cons, List.forall_mem_cons] at same
          simp only [unmarkedItems, same.1, ih (Nat.succ.inj length) same.2]

theorem unmarkedFields_congr {fields others : List (String × Value)}
    (names : others.map (·.1) = fields.map (·.1))
    (same : ∀ pair ∈ fields.zip others, pair.2.2.unmarked = pair.1.2.unmarked) :
    unmarkedFields others = unmarkedFields fields := by
  induction fields generalizing others with
  | nil => rw [List.map_eq_nil_iff.mp names]
  | cons field rest ih =>
      cases others with
      | nil => cases names
      | cons other others =>
          simp only [List.map_cons, List.cons.injEq] at names
          simp only [List.zip_cons_cons, List.forall_mem_cons] at same
          simp only [unmarkedFields, names.1, same.1, ih names.2 same.2]

theorem isNull_iff {v : Value} : v.isNull = true ↔ v = null := by
  cases v <;> simp [isNull]

theorem isNull_unmarked (v : Value) : v.unmarked.isNull = v.isNull := by
  cases v <;> rfl

end DevTools.Value
