/-! # Leading parts

Taking a known leading part off a text.
-/

namespace EvpnMetadata.Text

/-- The rest of a text after a leading part, if the text starts with it. -/
def after? (start text : String) : Option String :=
  (start.toList.isPrefixOf? text.toList).map String.ofList

theorem isPrefixOf?_eq_some {start text rest : List Char}
    (h : start.isPrefixOf? text = some rest) : text = start ++ rest := by
  induction start generalizing text with
  | nil =>
    cases h
    rfl
  | cons c start ih =>
    cases text with
    | nil => cases h
    | cons d text =>
      change (if c == d then start.isPrefixOf? text else none) = some rest at h
      split at h
      · next same => rw [← eq_of_beq same, ih h, List.cons_append]
      · cases h

theorem after?_append (start rest : String) : after? start (start ++ rest) = some rest := by
  have h : ∀ a b : List Char, a.isPrefixOf? (a ++ b) = some b := by
    intro a b
    induction a with
    | nil => rfl
    | cons c a ih =>
      change (if c == c then a.isPrefixOf? (a ++ b) else none) = some b
      rw [if_pos (beq_self_eq_true c), ih]
  simp [after?, h]

theorem after?_eq_some_iff (start text rest : String) :
    after? start text = some rest ↔ text = start ++ rest := by
  constructor
  · intro h
    obtain ⟨chars, found, rfl⟩ := Option.map_eq_some_iff.mp h
    rw [← String.toList_inj, isPrefixOf?_eq_some found, String.toList_append, String.toList_ofList]
  · rintro rfl
    exact after?_append start rest

end EvpnMetadata.Text
