import KeyCall.Proofs.Text.Run
import KeyCall.Template.Property

/-!
# Property lists and blanks

An entry of a property list is read from its name and its value, both trimmed, so that the blanks
around an entry say nothing; hence neither do the blanks around the whole list, which are those of
its first and its last entry.

## Main results

* `Property.ofEntries_map_trim` — entries may be trimmed before they are read.
* `Property.ofText_trim` — so may a whole list.
* `Template.pairs_eq_ofText` — an empty list needs no case of its own.
-/

namespace KeyCall

open Text

namespace Property

/-- An entry with a colon behind a name is the property of that name. -/
theorem ofEntry_append_cons {name value : List Char} (hc : ':' ∉ name) (hne : trim name ≠ []) :
    ofEntry (name ++ ':' :: value) =
      .ok ⟨String.ofList (trim name), String.ofList (trim value)⟩ := by
  simp only [ofEntry, cutAtFirst?_append_cons hc, List.isEmpty_iff, if_neg hne]

/-- Blanks around an entry say nothing. -/
theorem ofEntry_trim (entry : List Char) : ofEntry (trim entry) = ofEntry entry := by
  obtain ⟨front, back, h, hfront, hback, -, -⟩ := isTrim_trim entry
  have hfront' : ':' ∉ front := notMem_of_forall hfront rfl
  have hback' : ':' ∉ back := notMem_of_forall hback rfl
  by_cases hc : ':' ∈ trim entry
  · -- The first colon is the same one, so the blanks go to the name and the value.
    obtain ⟨name, value, hcut, hname⟩ := exists_first_of_mem hc
    have hentry : entry = front ++ name ++ ':' :: (value ++ back) := by
      rw [h, hcut]
      simp
    have hfn : ':' ∉ front ++ name := by simp [hfront', hname]
    simp only [ofEntry, trim_trim]
    rw [hcut, cutAtFirst?_append_cons hname]
    conv => rhs; rw [hentry]
    simp only [cutAtFirst?_append_cons hfn, trim_pad_left hfront, trim_pad_right hback]
  · have hentry : ':' ∉ entry := by
      rw [h]
      simp [hfront', hback', hc]
    simp only [ofEntry, cutAtFirst?_of_notMem hc, cutAtFirst?_of_notMem hentry, trim_trim]

/-- **Entries may be trimmed before they are read.** -/
theorem ofEntries_map_trim (entries : List (List Char)) :
    ofEntries (entries.map trim) = ofEntries entries := by
  induction entries with
  | nil => rfl
  | cons e es ih => rw [List.map_cons, ofEntries, ofEntries, allBlank_trim, ofEntry_trim, ih]

/-- **A property list may be trimmed before it is read.** -/
theorem ofText_trim (l : List Char) :
    ofText (String.ofList (trim l)) = ofText (String.ofList l) := by
  rw [ofText, ofText, String.toList_ofList, String.toList_ofList, ← ofEntries_map_trim,
    map_trim_pieces_trim rfl, ofEntries_map_trim]

end Property

/-- The properties of a template are those of its property list, be it empty. -/
theorem Template.pairs_eq_ofText {t : Template} {raw : String} (h : t.properties = some raw) :
    t.pairs = Property.ofText raw := by
  rw [pairs, h]
  by_cases hr : raw = ""
  · subst hr
    rfl
  · simp [hr]

end KeyCall
