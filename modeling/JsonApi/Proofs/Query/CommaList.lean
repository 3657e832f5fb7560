import JsonApi.Proofs.Text.Pieces
import JsonApi.Query.Parameters
import Mathlib.Data.List.TakeWhile

/-!
# Comma lists read back

Entries that are not empty, hold no comma and neither begin nor end with a
blank character come back from the comma list that is made of them
(`commaPieces_joinWith`), and so do sort keys for such fields
(`addSort_joinWith`).
-/

namespace JsonApi

open JsonApi.Text

/-- A text that can be an entry of a comma list. -/
structure IsListEntry (text : String) : Prop where
  nonempty : text ≠ ""
  noComma : ',' ∉ text.toList
  firstSolid : ∀ character, text.toList.head? = some character →
    isBlank character = false
  lastSolid : ∀ character, text.toList.getLast? = some character →
    isBlank character = false

/-- Whether a text can be an entry of a comma list. -/
def isListEntry (text : String) : Bool :=
  text ≠ "" && !text.toList.contains ',' && !text.toList.head?.any isBlank &&
    !text.toList.getLast?.any isBlank

theorem isListEntry_iff (text : String) :
    isListEntry text = true ↔ IsListEntry text := by
  simp only [isListEntry, Bool.and_eq_true, decide_eq_true_eq,
    Bool.not_eq_true', List.contains_eq_mem, decide_eq_false_iff_not,
    Option.any_eq_false]
  constructor
  · rintro ⟨⟨⟨nonempty, noComma⟩, first⟩, last⟩
    exact ⟨nonempty, noComma, by simpa using first, by simpa using last⟩
  · intro isEntry
    exact ⟨⟨⟨isEntry.nonempty, isEntry.noComma⟩,
        by simpa using isEntry.firstSolid⟩, by simpa using isEntry.lastSolid⟩

instance (text : String) : Decidable (IsListEntry text) :=
  decidable_of_iff _ (isListEntry_iff text)

variable {text : String} {texts : List String}

theorem IsListEntry.trim_eq (isEntry : IsListEntry text) :
  trim text = text := by
  rw [trim, trimCharacters_eq_self isEntry.firstSolid isEntry.lastSolid,
    String.ofList_toList]

/-- Trimming leaves something if not all is blank. -/
theorem trimCharacters_ne_nil
    {characters : List Char}
    {character : Char}
    (member : character ∈ characters)
    (solid : isBlank character = false) :
    trimCharacters characters ≠ [] := by
  intro empty
  rw [trimCharacters, List.reverse_eq_nil_iff,
    List.dropWhile_eq_nil_iff] at empty
  have blank : isBlank character = true := by
    rw [← List.takeWhile_append_dropWhile (p := isBlank) (l := characters)]
      at member
    rcases List.mem_append.mp member with before | behind
    · exact List.mem_takeWhile_imp before
    · exact empty character (List.mem_reverse.mpr behind)
  rw [blank] at solid
  cases solid

theorem IsListEntry.exists_solid (isEntry : IsListEntry text) :
    ∃ character ∈ text.toList, isBlank character = false := by
  cases characters : text.toList with
  | nil =>
      exact absurd (String.toList_eq_nil_iff.mp characters) isEntry.nonempty
  | cons first others =>
      exact ⟨first, List.mem_cons_self,
        isEntry.firstSolid first (by rw [characters]; rfl)⟩

namespace QueryParameters

theorem commaPieces_eq_map_trim (written : String) :
    commaPieces written = (splitAt ',' written).map trim := by
  rw [commaPieces, splitAt, List.map_map]
  apply List.map_congr_left
  intro piece _
  rw [Function.comp_apply, trim, String.toList_ofList]

/-- The entries of a comma list are read back. -/
theorem commaPieces_joinWith
    (nonempty : texts ≠ [])
    (entries : ∀ text ∈ texts, IsListEntry text) :
    commaPieces (joinWith ',' texts) = texts := by
  rw [commaPieces_eq_map_trim,
    splitAt_joinWith nonempty fun text member => (entries text member).noComma,
    List.map_congr_left fun text member =>
      (entries text member).trim_eq, List.map_id']

/-- No entries are written as nothing, which is dropped where empty entries
are. -/
theorem filter_commaPieces_joinWith
    (entries : ∀ text ∈ texts, IsListEntry text) :
    ((commaPieces (joinWith ',' texts)).filter fun piece => piece ≠ "") =
      texts := by
  cases texts with
  | nil => decide
  | cons first others =>
      rw [commaPieces_joinWith (List.cons_ne_nil first others) entries,
        List.filter_eq_self]
      intro text member
      simpa using (entries text member).nonempty

theorem addInclusions_joinWith
    (parameters : QueryParameters)
    (nonempty : texts ≠ [])
    (entries : ∀ text ∈ texts, IsListEntry text) :
    parameters.addInclusions (joinWith ',' texts) =
      { parameters with inclusions := parameters.inclusions ++ texts } := by
  rcases List.exists_mem_of_ne_nil texts nonempty with ⟨text, member⟩
  rcases (entries text member).exists_solid with ⟨character, inText, solid⟩
  have filled := trimCharacters_ne_nil (mem_joinWith ',' member inText) solid
  rw [addInclusions, if_neg (by simpa using filled),
    commaPieces_joinWith nonempty entries]

end QueryParameters

/-! ## Sort keys -/

/-- A sort key that can be written: the field of an ascending one does not begin
with a hyphen, which would make it descending. -/
structure SortKey.Writable (key : SortKey) : Prop where
  field : IsListEntry key.field
  unsigned : key.descending = false → key.field.toList.head? ≠ some '-'

instance (key : SortKey) : Decidable key.Writable :=
  decidable_of_iff
    (IsListEntry key.field ∧
        (key.descending = false → key.field.toList.head? ≠ some '-'))
    ⟨fun ⟨field, unsigned⟩ => ⟨field, unsigned⟩, fun ⟨field, unsigned⟩ =>
        ⟨field, unsigned⟩⟩

namespace SortKey

variable {key : SortKey} {keys : List SortKey}

theorem toList_text_of_descending (descending : key.descending = true) :
    key.text.toList = '-' :: key.field.toList := by
  rw [text, if_pos descending, String.toList_append]
  rfl

theorem toList_text_of_ascending (ascending : key.descending = false) :
    key.text.toList = key.field.toList := by
  rw [text, ascending]
  rfl

theorem isListEntry_text (writable : key.Writable) : IsListEntry key.text := by
  have field := writable.field
  cases direction : key.descending with
  | false =>
      have same := String.toList_injective (toList_text_of_ascending direction)
      rw [same]
      exact field
  | true =>
      have characters := toList_text_of_descending direction
      refine ⟨?_, ?_, ?_, ?_⟩
      · intro empty
        rw [empty] at characters
        cases characters
      · rw [characters]
        simpa using field.noComma
      · intro character first
        rw [characters] at first
        cases first
        decide
      · intro character last
        rw [characters] at last
        have filled : key.field.toList ≠ [] := fun empty =>
          field.nonempty (String.toList_eq_nil_iff.mp empty)
        rw [List.getLast?_cons_of_ne_nil filled] at last
        exact field.lastSolid character last

/-- A sort key is read from the entry that requests it. -/
theorem read_text (writable : key.Writable) : read key.text = .ok key := by
  have filled : key.field.toList ≠ [] := fun empty =>
    writable.field.nonempty (String.toList_eq_nil_iff.mp empty)
  have isEntry := isListEntry_text writable
  rw [read, trimCharacters_eq_self isEntry.firstSolid isEntry.lastSolid]
  cases direction : key.descending with
  | true =>
      rw [toList_text_of_descending direction]
      split
      · rename_i equal
        cases equal
      · rename_i equal
        exact absurd (List.cons.inj equal).2 filled
      · rename_i equal
        cases equal
        rw [String.ofList_toList, ← direction]
      · rename_i other
        exact absurd rfl (other _)
  | false =>
      have unsigned := writable.unsigned direction
      rw [toList_text_of_ascending direction]
      split
      · rename_i equal
        exact absurd equal filled
      · rename_i equal
        exact absurd (by rw [equal]; rfl) unsigned
      · rename_i equal
        exact absurd (by rw [equal]; rfl) unsigned
      · rw [String.ofList_toList, ← direction]

end SortKey

/-- The sort keys of a comma list are added in its order. -/
theorem QueryParameters.addSort_joinWith
    (parameters : QueryParameters)
    {keys : List SortKey}
    (nonempty : keys ≠ [])
    (writable : ∀ key ∈ keys, key.Writable) :
    parameters.addSort (joinWith ',' (keys.map SortKey.text)) =
      { parameters with sort := parameters.sort ++ keys } := by
  have noComma : ∀ entry ∈ keys.map SortKey.text, ',' ∉ entry.toList := by
    intro entry member
    rcases List.mem_map.mp member with ⟨key, keyMember, isText⟩
    rw [← isText]
    exact (SortKey.isListEntry_text (writable key keyMember)).noComma
  rw [addSort, splitAt_joinWith (by simpa using nonempty) noComma]
  clear nonempty noComma
  induction keys generalizing parameters with
  | nil => simp
  | cons key keys induction =>
      rcases List.forall_mem_cons.mp writable with ⟨isFirst, others⟩
      rw [List.map_cons, List.foldl_cons, addSortEntry,
        SortKey.read_text isFirst]
      rw [induction _ others]
      simp

end JsonApi
