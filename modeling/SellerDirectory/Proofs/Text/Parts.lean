import SellerDirectory.Proofs.Text.Blank
import SellerDirectory.Text.Cut

-- Comma-separated lists as they may be written, and the elements that are read from them: every
-- text is one way to write its elements, and no way to write them is read as anything else.

namespace SellerDirectory.Text

section Pieces

variable {α : Type} [DecidableEq α] {separator : α} {text : List α}

theorem pieces_eq_splitOn (separator : α) (text : List α) :
    pieces separator text = text.splitOn separator := by
  induction text with
  | nil => rfl
  | cons c rest ih =>
    rw [pieces, List.splitOn_cons_eq_if_modifyHead, ih]
    cases split : rest.splitOn separator with
    | nil => exact absurd split (List.splitOn_ne_nil _ _)
    | cons piece others => simp

theorem separator_not_mem {piece : List α} (member : piece ∈ pieces separator text) :
    separator ∉ piece := by
  induction text generalizing piece with
  | nil =>
    cases List.mem_singleton.mp member
    exact List.not_mem_nil
  | cons c rest ih =>
    rw [pieces] at member
    split at member
    · next none =>
      exact absurd (pieces_eq_splitOn separator rest ▸ none) (List.splitOn_ne_nil _ _)
    · next first others found =>
      rw [found] at ih
      split at member
      · rcases List.mem_cons.mp member with rfl | later
        · exact List.not_mem_nil
        · exact ih later
      · next other =>
        rcases List.mem_cons.mp member with rfl | later
        · rw [List.mem_cons, not_or]
          exact ⟨Ne.symm other, ih List.mem_cons_self⟩
        · exact ih (List.mem_cons_of_mem _ later)

end Pieces

-- An element of a list: what can stand between two commas, but for the white space around it.
structure IsElement (text : String) : Prop where
  tidy : IsTidy text
  unseparated : ',' ∉ text.toList

instance (text : String) : Decidable (IsElement text) :=
  decidable_of_iff (IsTidy text ∧ ',' ∉ text.toList)
    ⟨fun ⟨tidy, unseparated⟩ => ⟨tidy, unseparated⟩,
      fun element => ⟨element.tidy, element.unseparated⟩⟩

-- How elements may be written, piece by piece: each of them in a piece of its own, in order and
-- with any white space around it, and any number of blank pieces before, between and behind them.
inductive Spread : List String → List String → Prop where
  | done : Spread [] []
  | blank {elements written : List String} {piece : String} (blank : isBlankText piece)
      (rest : Spread elements written) : Spread elements (piece :: written)
  | padded {elements written : List String} {front back : String} (element : String)
      (lead : isBlankText front) (trail : isBlankText back) (rest : Spread elements written) :
      Spread (element :: elements) ((front ++ (element ++ back)) :: written)

theorem spread_self (elements : List String) : Spread elements elements := by
  induction elements with
  | nil => exact .done
  | cons element rest ih =>
    have bare := Spread.padded element (rfl : isBlankText "") (rfl : isBlankText "") ih
    rwa [String.append_empty, String.empty_append] at bare

theorem isBlankText_append {first second : String} (lead : isBlankText first)
    (trail : isBlankText second) : isBlankText (first ++ second) := by
  unfold isBlankText at lead trail ⊢
  rw [String.toList_append, List.all_append, lead, trail]
  rfl

theorem Spread.lead {elements later : List String} {first front : String}
    (spread : Spread elements (first :: later)) (blank : isBlankText front) :
    Spread elements ((front ++ first) :: later) := by
  cases spread with
  | blank piece rest => exact .blank (isBlankText_append blank piece) rest
  | padded element lead trail rest =>
    rw [← String.append_assoc]
    exact .padded element (isBlankText_append blank lead) trail rest

theorem Spread.trail {elements earlier : List String} {last back : String}
    (spread : Spread elements (earlier ++ [last])) (blank : isBlankText back) :
    Spread elements (earlier ++ [last ++ back]) := by
  induction earlier generalizing elements with
  | nil =>
    rw [List.nil_append] at spread ⊢
    cases spread with
    | blank piece rest => exact .blank (isBlankText_append piece blank) rest
    | padded element lead trail rest =>
      rw [String.append_assoc, String.append_assoc]
      exact .padded element lead (isBlankText_append trail blank) rest
  | cons piece earlier ih =>
    cases spread with
    | blank here rest => exact .blank here (ih rest)
    | padded element lead trail rest => exact .padded element lead trail (ih rest)

def elementsOf (written : List String) : List String :=
  (written.map trim).filter (· ≠ "")

section Elements

variable {elements written : List String} {piece : String}

theorem elementsOf_blank (blank : isBlankText piece) :
    elementsOf (piece :: written) = elementsOf written := by
  unfold elementsOf
  rw [List.map_cons, trim_eq_empty.mpr blank]
  rfl

theorem elementsOf_cons (dark : ¬ isBlankText piece) :
    elementsOf (piece :: written) = trim piece :: elementsOf written := by
  unfold elementsOf
  rw [List.map_cons, List.filter_cons_of_pos]
  exact decide_eq_true (mt trim_eq_empty.mp dark)

theorem mem_elementsOf {element : String} (member : element ∈ elementsOf written) :
    element ≠ "" ∧ ∃ piece ∈ written, trim piece = element := by
  obtain ⟨made, some⟩ := List.mem_filter.mp member
  exact ⟨of_decide_eq_true some, List.mem_map.mp made⟩

theorem spread_elementsOf (written : List String) : Spread (elementsOf written) written := by
  induction written with
  | nil => exact .done
  | cons piece rest ih =>
    by_cases blank : isBlankText piece
    · rw [elementsOf_blank blank]
      exact .blank blank ih
    · obtain ⟨front, back, whole, lead, trail⟩ := trim_enclosed piece
      have spread := Spread.padded (trim piece) lead trail ih
      rwa [← whole, ← elementsOf_cons blank] at spread

theorem elementsOf_spread (tidy : ∀ element ∈ elements, IsTidy element)
    (spread : Spread elements written) : elementsOf written = elements := by
  induction spread with
  | done => rfl
  | blank blank _ ih =>
    rw [elementsOf_blank blank]
    exact ih tidy
  | padded element lead trail _ ih =>
    obtain ⟨⟨some, bare⟩, later⟩ := List.forall_mem_cons.mp tidy
    have core := (trim_append lead trail element).trans bare
    rw [elementsOf_cons, core, ih later]
    rwa [← trim_eq_empty, core]

theorem not_mem_of_blank {text : String} (blank : isBlankText text) : ',' ∉ text.toList :=
  fun member => absurd (List.all_eq_true.mp blank _ member) (by decide)

theorem Spread.unseparated (spread : Spread elements written)
    (all : ∀ element ∈ elements, ',' ∉ element.toList) : ∀ piece ∈ written, ',' ∉ piece.toList := by
  induction spread with
  | done => exact fun _ member => absurd member List.not_mem_nil
  | blank blank _ ih => exact List.forall_mem_cons.mpr ⟨not_mem_of_blank blank, ih all⟩
  | padded element lead trail _ ih =>
    obtain ⟨here, later⟩ := List.forall_mem_cons.mp all
    refine List.forall_mem_cons.mpr ⟨?_, ih later⟩
    rw [String.toList_append, String.toList_append]
    simp only [List.mem_append, not_or]
    exact ⟨not_mem_of_blank lead, here, not_mem_of_blank trail⟩

end Elements

section Joined

variable {elements written : List String}

def piecesOf (text : String) : List String :=
  (pieces ',' text.toList).map String.ofList

theorem piecesOf_ne_nil (text : String) : piecesOf text ≠ [] := by
  rw [piecesOf, pieces_eq_splitOn]
  exact mt List.map_eq_nil_iff.mp (List.splitOn_ne_nil _ _)

theorem piecesOf_unseparated {text piece : String} (member : piece ∈ piecesOf text) :
    ',' ∉ piece.toList := by
  obtain ⟨chars, there, rfl⟩ := List.mem_map.mp member
  rw [String.toList_ofList]
  exact separator_not_mem there

theorem joined_piecesOf (text : String) : ",".intercalate (piecesOf text) = text := by
  have same : String.toList ∘ String.ofList = id := funext fun _ => String.toList_ofList
  rw [← String.toList_inj, String.toList_intercalate, piecesOf, List.map_map, same, List.map_id,
    pieces_eq_splitOn]
  exact List.intercalate_splitOn ','

theorem joined_trail (earlier : List String) (last back : String) :
    ",".intercalate (earlier ++ [last ++ back]) = ",".intercalate (earlier ++ [last]) ++ back := by
  by_cases none : earlier = []
  · rw [none, List.nil_append, List.nil_append, String.intercalate_singleton,
      String.intercalate_singleton]
  · rw [String.intercalate_append_of_ne_nil none (List.cons_ne_nil _ _),
      String.intercalate_append_of_ne_nil none (List.cons_ne_nil _ _),
      String.intercalate_singleton, String.intercalate_singleton]
    simp only [String.append_assoc]

theorem piecesOf_joined (some : written ≠ [])
    (unseparated : ∀ piece ∈ written, ',' ∉ piece.toList) :
    piecesOf (",".intercalate written) = written := by
  have same : String.ofList ∘ String.toList = id := funext fun _ => String.ofList_toList
  have cut : ([','].intercalate (written.map String.toList)).splitOn ',' =
      written.map String.toList :=
    List.splitOn_intercalate ',' (List.forall_mem_map.mpr unseparated)
      (mt List.map_eq_nil_iff.mp some)
  rw [piecesOf, pieces_eq_splitOn, String.toList_intercalate]
  exact (congrArg _ cut).trans (by rw [List.map_map, same, List.map_id])

theorem parts_eq (text : String) : parts text = elementsOf (piecesOf text) := by
  unfold parts elementsOf piecesOf
  induction pieces ',' text.toList with
  | nil => rfl
  | cons piece rest ih =>
    have same : trim (String.ofList piece) = String.ofList (trimmed piece) := by
      rw [trim, String.toList_ofList]
    simp only [List.map_cons, List.filter_cons, same]
    by_cases empty : trimmed piece = [] <;> simp [empty, ih]

theorem parts_joined (unseparated : ∀ piece ∈ written, ',' ∉ piece.toList) :
    parts (",".intercalate written) = elementsOf written := by
  by_cases some : written = []
  · rw [some]
    rfl
  · rw [parts_eq, piecesOf_joined some unseparated]

theorem parts_spread (all : ∀ element ∈ elements, IsElement element)
    (spread : Spread elements written) : parts (",".intercalate written) = elements := by
  rw [parts_joined (spread.unseparated fun element member => (all element member).unseparated)]
  exact elementsOf_spread (fun element member => (all element member).tidy) spread

theorem isElement_of_mem_parts {text part : String} (member : part ∈ parts text) :
    IsElement part := by
  rw [parts_eq] at member
  obtain ⟨some, piece, there, rfl⟩ := mem_elementsOf member
  obtain ⟨front, back, whole, -, -⟩ := trim_enclosed piece
  refine ⟨⟨some, trim_trim piece⟩, fun comma => piecesOf_unseparated there ?_⟩
  rw [whole, String.toList_append, String.toList_append]
  exact List.mem_append_right _ (List.mem_append_left _ comma)

theorem spread_parts (text : String) : Spread (parts text) (piecesOf text) := by
  rw [parts_eq]
  exact spread_elementsOf (piecesOf text)

theorem parts_lead {front : String} (lead : isBlankText front) (text : String) :
    parts (front ++ text) = parts text := by
  have whole := joined_piecesOf text
  have spread := spread_parts text
  cases found : piecesOf text with
  | nil => exact absurd found (piecesOf_ne_nil text)
  | cons first later =>
    rw [found] at whole spread
    have read := parts_spread (fun _ => isElement_of_mem_parts) (spread.lead lead)
    rwa [String.intercalate_cons_append, whole] at read

theorem parts_trail {back : String} (trail : isBlankText back) (text : String) :
    parts (text ++ back) = parts text := by
  have whole := joined_piecesOf text
  have spread := spread_parts text
  rcases (piecesOf text).eq_nil_or_concat with none | ⟨earlier, last, found⟩
  · exact absurd none (piecesOf_ne_nil text)
  · rw [found, List.concat_eq_append] at whole spread
    have read := parts_spread (fun _ => isElement_of_mem_parts) (spread.trail trail)
    rwa [joined_trail, whole] at read

theorem parts_trim (text : String) : parts (trim text) = parts text := by
  obtain ⟨front, back, whole, lead, trail⟩ := trim_enclosed text
  have padded : parts (front ++ (trim text ++ back)) = parts (trim text) := by
    rw [parts_lead lead, parts_trail trail]
  rw [← whole] at padded
  exact padded.symm

end Joined

end SellerDirectory.Text
