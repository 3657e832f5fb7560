import JsonApi.Query.Parameters
import Mathlib.Data.List.TakeWhile
import Mathlib.Data.String.Basic

/-!
# Parameter names read back

A family without an opening bracket and segments without brackets are read from
the name that is made of them (`read?_text`), and only that name is read as
they are (`text_of_read?`).  What is read is of this form again, so that reading
takes apart exactly the names of the form, each in the only way there is
(`ParameterKey.read?_recognises`).
-/

namespace JsonApi

/-- A text that can be a segment of a parameter name. -/
def IsSegment (text : String) : Prop :=
  '[' ∉ text.toList ∧ ']' ∉ text.toList

instance (text : String) : Decidable (IsSegment text) :=
  inferInstanceAs (Decidable ('[' ∉ text.toList ∧ ']' ∉ text.toList))

namespace ParameterKey

theorem toList_bracketed_cons
    (segment : String)
    (segments : List String) :
    (String.join ((segment :: segments).map fun segment =>
        "[" ++ segment ++ "]")).toList =
      '[' :: (segment.toList ++ ']' ::
        (String.join
            (segments.map fun segment => "[" ++ segment ++ "]")).toList) := by
  rw [List.map_cons, String.join_cons, String.toList_append,
    String.toList_append, String.toList_append]
  simp

theorem readSegments?_opened
    (opened : List Char)
    {characters rest : List Char}
    (noOpening : '[' ∉ characters)
    (noClosing : ']' ∉ characters) :
    readSegments? (some opened) (characters ++ ']' :: rest) =
      (readSegments? none rest).map
        (String.ofList (opened.reverse ++ characters) :: ·) := by
  induction characters generalizing opened with
  | nil => simp [readSegments?]
  | cons head tail induction =>
      rw [List.mem_cons, not_or] at noOpening noClosing
      rw [List.cons_append, readSegments?, if_neg (Ne.symm noClosing.1),
        if_neg (Ne.symm noOpening.1),
        induction (head :: opened) noOpening.2 noClosing.2]
      simp

theorem readSegments?_text
    {segments : List String}
    (free : ∀ segment ∈ segments, IsSegment segment) :
    readSegments? none
        (String.join
            (segments.map fun segment => "[" ++ segment ++ "]")).toList =
      some segments := by
  induction segments with
  | nil => rfl
  | cons segment segments induction =>
      rcases List.forall_mem_cons.mp free with ⟨⟨noOpening, noClosing⟩, others⟩
      rw [toList_bracketed_cons, readSegments?, if_pos rfl,
        readSegments?_opened [] noOpening noClosing, induction others]
      simp

/-- The name of a parameter is read as what it was made of. -/
theorem read?_text
    {key : ParameterKey}
    (family : '[' ∉ key.family.toList)
    (segments : ∀ segment ∈ key.segments, IsSegment segment) :
    read? key.text = some key := by
  have before : ∀ character ∈ key.family.toList,
      decide (character ≠ '[') = true := by
    intro character member
    rw [decide_eq_true_eq]
    intro same
    exact family (same ▸ member)
  have behind :
      (String.join (key.segments.map fun segment =>
          "[" ++ segment ++ "]")).toList.takeWhile (· ≠ '[') = [] ∧
        (String.join (key.segments.map fun segment =>
            "[" ++ segment ++ "]")).toList.dropWhile (· ≠ '[') =
          (String.join (key.segments.map fun segment =>
              "[" ++ segment ++ "]")).toList := by
    cases key.segments with
    | nil => exact ⟨rfl, rfl⟩
    | cons segment others =>
        rw [toList_bracketed_cons]
        exact ⟨rfl, rfl⟩
  rw [read?, text, String.toList_append, List.takeWhile_append_of_pos before,
    List.dropWhile_append_of_pos before, behind.1, behind.2,
    readSegments?_text segments, List.append_nil, String.ofList_toList]
  rfl

/-- Segments were read from the brackets around them; an open one is still
without its end. -/
theorem toList_join_of_readSegments?
    {opened? : Option (List Char)}
    {characters : List Char}
    {segments : List String}
    (isRead : readSegments? opened? characters = some segments) :
    (String.join (segments.map fun segment => "[" ++ segment ++ "]")).toList =
      match opened? with
      | none => characters
      | some opened => '[' :: (opened.reverse ++ characters) := by
  fun_induction readSegments? opened? characters generalizing segments with
  | case1 =>
      cases isRead
      rfl
  | case2 => cases isRead
  | case3 tail induction => exact induction isRead
  | case4 head tail notOpening =>
      rw [readSegments?, if_neg notOpening] at isRead
      cases isRead
  | case5 opened tail induction =>
      rcases Option.map_eq_some_iff.mp isRead with ⟨rest, restRead, rfl⟩
      rw [toList_bracketed_cons, induction restRead, String.toList_ofList]
  | case6 => cases isRead
  | case7 opened head tail notClosing notOpening induction =>
      rw [readSegments?, if_neg notClosing, if_neg notOpening] at isRead
      rw [induction isRead]
      simp

/-- Only the name made of a key is read as that key. -/
theorem text_of_read?
    {name : String}
    {key : ParameterKey}
    (isRead : read? name = some key) :
    key.text = name := by
  rcases Option.map_eq_some_iff.mp isRead with ⟨segments, segmentsRead, rfl⟩
  apply String.toList_inj.mp
  rw [text, String.toList_append, String.toList_ofList,
    toList_join_of_readSegments? segmentsRead]
  exact List.takeWhile_append_dropWhile

/-! ## The form of names -/

/-- The parts of a name: no opening bracket in the family, and no bracket in a
segment. -/
structure WellFormed (key : ParameterKey) : Prop where
  family : '[' ∉ key.family.toList
  segments : ∀ segment ∈ key.segments, IsSegment segment

/-- Only what is free of brackets gets into a segment; this holds of the open
one as well. -/
theorem isSegment_of_readSegments?
    {opened? : Option (List Char)}
    {characters : List Char}
    {segments : List String}
    (isRead : readSegments? opened? characters = some segments)
    (free : ∀ opened ∈ opened?, '[' ∉ opened ∧ ']' ∉ opened) :
    ∀ segment ∈ segments, IsSegment segment := by
  fun_induction readSegments? opened? characters generalizing segments with
  | case1 =>
      cases isRead
      exact List.forall_mem_nil _
  | case2 => cases isRead
  | case3 tail induction =>
      refine induction isRead fun opened isEmpty => ?_
      cases isEmpty
      exact ⟨List.not_mem_nil, List.not_mem_nil⟩
  | case4 => cases isRead
  | case5 opened tail induction =>
      rcases Option.map_eq_some_iff.mp isRead with ⟨others, othersRead, rfl⟩
      have closed : IsSegment (String.ofList opened.reverse) := by
        rw [IsSegment, String.toList_ofList, List.mem_reverse, List.mem_reverse]
        exact free opened rfl
      exact List.forall_mem_cons.mpr
        ⟨closed, induction othersRead fun _ isOpen => nomatch isOpen⟩
  | case6 => cases isRead
  | case7 opened head tail notClosing notOpening induction =>
      refine induction isRead fun longer isLonger => ?_
      cases isLonger
      rcases free opened rfl with ⟨noOpening, noClosing⟩
      exact ⟨List.not_mem_cons_of_ne_of_not_mem (Ne.symm notOpening) noOpening,
        List.not_mem_cons_of_ne_of_not_mem (Ne.symm notClosing) noClosing⟩

theorem wellFormed_of_read?
    {name : String}
    {key : ParameterKey}
    (isRead : read? name = some key) :
    key.WellFormed := by
  rcases Option.map_eq_some_iff.mp isRead with ⟨segments, segmentsRead, rfl⟩
  constructor
  · intro member
    rw [String.toList_ofList] at member
    simpa using List.mem_takeWhile_imp member
  · exact isSegment_of_readSegments? segmentsRead fun _ isOpen => nomatch isOpen

theorem read?_eq_some_iff
    {name : String}
    {key : ParameterKey} :
    read? name = some key ↔ key.WellFormed ∧ key.text = name := by
  constructor
  · intro isRead
    exact ⟨wellFormed_of_read? isRead, text_of_read? isRead⟩
  · rintro ⟨formed, rfl⟩
    exact read?_text formed.family formed.segments

/-- Reading takes a name apart as a family and segments exactly if it is the
family with each segment in brackets behind it, with no opening bracket in the
family and none at all in the segments.  There is at most one way to take a name
apart like this, and a name is refused exactly if there is none. -/
theorem read?_recognises (name : String) :
    (∀ family segments, read? name = some ⟨family, segments⟩ ↔
        ('[' ∉ family.toList ∧ ∀ segment ∈ segments, '[' ∉ segment.toList ∧
            ']' ∉ segment.toList) ∧
          name = family ++
            String.join (segments.map fun segment => "[" ++ segment ++ "]")) ∧
      (∀ first second : ParameterKey, first.WellFormed → second.WellFormed →
        first.text = name → second.text = name → first = second) ∧
      (read? name = none ↔
          ¬∃ key : ParameterKey, key.WellFormed ∧ key.text = name) := by
  refine ⟨?_, ?_, ?_⟩
  · intro family segments
    rw [read?_eq_some_iff, eq_comm (a := name)]
    exact and_congr_left' ⟨fun formed => ⟨formed.family, formed.segments⟩,
      fun ⟨noOpening, free⟩ => ⟨noOpening, free⟩⟩
  · intro first second firstFormed secondFormed isFirst isSecond
    have readFirst : read? name = some first :=
      read?_eq_some_iff.mpr ⟨firstFormed, isFirst⟩
    have readSecond : read? name = some second :=
      read?_eq_some_iff.mpr ⟨secondFormed, isSecond⟩
    exact Option.some.inj (readFirst.symm.trans readSecond)
  · simp only [Option.eq_none_iff_forall_ne_some, ne_eq, read?_eq_some_iff,
      not_exists]

/-- Segments may be empty; a bracket that is not closed, one inside another and
anything behind the last one are refused. -/
example :
    read? "filter[a][]" = some ⟨"filter", ["a", ""]⟩ ∧
      read? "page[size" = none ∧
      read? "filter[a[b]]" = none ∧ read? "filter[a]x" = none := by
  decide

end ParameterKey

end JsonApi
