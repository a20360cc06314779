import AutoAnnotate.QualifiedName
import Mathlib.Data.List.Basic
/-!
# The texts of names

A text falls in exactly one way into pieces that are joined by dots and hold none (`PiecesOf`). Reading
a name accepts the texts whose pieces are segments, and the empty text, which has a single piece that
is empty. The leftmost piece that is no segment decides the error (`FaultIn`), and a name that is read
is written as the text it was read from.

`parse_inverts_text` puts this together. A name that was built from segments of any kind is read back
from its text exactly if all of them are segments.
-/

namespace AutoAnnotate

namespace QualifiedName

/-- The text consists of these pieces with dots between them. -/
structure PiecesOf (s : String) (ps : List String) : Prop where
  ne_nil : ps ≠ []
  undotted : ∀ p ∈ ps, '.' ∉ p.toList
  joined : ".".intercalate ps = s

/-- A run of letters, digits, `_` and `$` that is not empty. -/
def IsSegment (p : String) : Prop :=
  p ≠ "" ∧ ∀ c ∈ p.toList, Text.isAlphanumeric c = true ∨ c = '_' ∨ c = '$'

/-- All pieces of the text are segments. The empty text is no name in this sense: its only piece is
empty. -/
def IsName (s : String) : Prop := ∃ ps, PiecesOf s ps ∧ ∀ p ∈ ps, IsSegment p

/-- What is wrong with a text: the leftmost piece that is no segment is empty, or it is named. -/
def FaultIn (s : String) (e : NameError) : Prop :=
  ∃ before bad rest, PiecesOf s (before ++ bad :: rest) ∧ (∀ p ∈ before, IsSegment p) ∧
    ¬IsSegment bad ∧ e = if bad = "" then .emptySegment s else .invalidSegment bad

variable {s t p bad : String} {ps qs before rest : List String} {n : QualifiedName} {e : NameError}

/-! ## The pieces of a text -/

theorem pieces_eq_splitOn (cs : List Char) : pieces cs = cs.splitOn '.' := by
  induction cs with
  | nil => rfl
  | cons c rest ih =>
    rw [pieces, List.splitOn_cons_eq_if_modifyHead, ih]
    by_cases hc : c = '.'
    · simp [hc]
    · obtain ⟨piece, more, hsplit⟩ := List.exists_cons_of_ne_nil (List.splitOn_ne_nil '.' rest)
      simp [hc, hsplit]

/-- No piece holds a dot. -/
theorem dot_not_mem_of_mem_pieces {cs piece : List Char} (h : piece ∈ pieces cs) : '.' ∉ piece := by
  induction cs generalizing piece with
  | nil =>
    obtain rfl := List.mem_singleton.1 h
    exact List.not_mem_nil
  | cons c rest ih =>
    unfold pieces at h
    split at h
    · rcases List.mem_cons.1 h with rfl | h
      · exact List.not_mem_nil
      · exact ih h
    · next hc =>
      split at h
      · obtain rfl := List.mem_singleton.1 h
        simpa using Ne.symm hc
      · next first more hpieces =>
        rw [hpieces] at ih
        rcases List.mem_cons.1 h with rfl | h
        · exact List.not_mem_cons_of_ne_of_not_mem (Ne.symm hc) (ih List.mem_cons_self)
        · exact ih (List.mem_cons_of_mem _ h)

/-- The pieces of a text are what its characters are split into at the dots, and nothing else is. -/
theorem piecesOf_iff : PiecesOf s ps ↔ ps.map String.toList = pieces s.toList := by
  rw [pieces_eq_splitOn]
  constructor
  · rintro ⟨hne, hdots, rfl⟩
    rw [String.toList_intercalate]
    refine (List.splitOn_intercalate '.' ?_ ?_).symm
    · simpa using hdots
    · simpa using hne
  · intro h
    refine ⟨?_, ?_, ?_⟩
    · rintro rfl
      exact List.splitOn_ne_nil _ _ h.symm
    · intro p hp
      rw [← pieces_eq_splitOn] at h
      exact dot_not_mem_of_mem_pieces (h ▸ List.mem_map_of_mem hp)
    · rw [← String.toList_inj, String.toList_intercalate, h]
      exact List.intercalate_splitOn '.'

theorem exists_piecesOf (s : String) : ∃ ps, PiecesOf s ps := by
  refine ⟨(pieces s.toList).map String.ofList, piecesOf_iff.2 ?_⟩
  simp [Function.comp_def]

/-- No text has two lists of pieces. -/
theorem PiecesOf.unique (h : PiecesOf s ps) (h' : PiecesOf s qs) : ps = qs := by
  have hmap : ps.map String.toList = qs.map String.toList :=
    (piecesOf_iff.1 h).trans (piecesOf_iff.1 h').symm
  exact List.map_injective_iff.2 (fun _ _ => String.toList_injective) hmap

/-- Two texts with a dot between them have the pieces of both. -/
theorem PiecesOf.append (h : PiecesOf s ps) (h' : PiecesOf t qs) :
    PiecesOf (s ++ "." ++ t) (ps ++ qs) where
  ne_nil := List.append_ne_nil_of_left_ne_nil h.ne_nil qs
  undotted := List.forall_mem_append.2 ⟨h.undotted, h'.undotted⟩
  joined := by rw [String.intercalate_append_of_ne_nil h.ne_nil h'.ne_nil, h.joined, h'.joined]

/-- The empty text is a single empty piece. -/
theorem piecesOf_empty : PiecesOf "" [""] := piecesOf_iff.2 rfl

/-! ## Segments -/

theorem isSegmentChar_iff {c : Char} :
    isSegmentChar c = true ↔ Text.isAlphanumeric c = true ∨ c = '_' ∨ c = '$' := by
  simp [isSegmentChar, or_assoc]

/-- A segment holds no dot, since a dot is not alphanumeric. -/
theorem IsSegment.undotted (h : IsSegment p) : '.' ∉ p.toList := by
  intro hdot
  rcases h.2 '.' hdot with halnum | hother
  · rw [Text.isAlphanumeric_dot] at halnum
    cases halnum
  · exact absurd hother (by decide)

theorem segmentOfPiece_ok (h : IsSegment p) : segmentOfPiece s p.toList = .ok p := by
  have hne : p.toList.isEmpty = false := by simpa using h.1
  have hall : p.toList.all isSegmentChar = true :=
    List.all_eq_true.2 fun c hc => isSegmentChar_iff.2 (h.2 c hc)
  simp [segmentOfPiece, hne, hall]

theorem segmentOfPiece_error (h : ¬IsSegment bad) : segmentOfPiece s bad.toList =
    .error (if bad = "" then .emptySegment s else .invalidSegment bad) := by
  by_cases hempty : bad = ""
  · subst hempty
    rfl
  · have hne : bad.toList.isEmpty = false := by simpa using hempty
    have hall : bad.toList.all isSegmentChar = false := by
      rw [← Bool.not_eq_true, List.all_eq_true]
      exact fun hall => h ⟨hempty, fun c hc => isSegmentChar_iff.1 (hall c hc)⟩
    simp [segmentOfPiece, hne, hall, hempty]

/-- Either all strings are segments or there is a leftmost one that is none. -/
theorem segments_or_leftmost (ps : List String) : (∀ p ∈ ps, IsSegment p) ∨
    ∃ before bad rest, ps = before ++ bad :: rest ∧ (∀ p ∈ before, IsSegment p) ∧ ¬IsSegment bad := by
  induction ps with
  | nil => exact .inl (List.forall_mem_nil _)
  | cons p ps ih =>
    by_cases hp : IsSegment p
    · rcases ih with hps | ⟨before, bad, rest, rfl, hbefore, hbad⟩
      · exact .inl (List.forall_mem_cons.2 ⟨hp, hps⟩)
      · exact .inr ⟨p :: before, bad, rest, rfl, List.forall_mem_cons.2 ⟨hp, hbefore⟩, hbad⟩
    · exact .inr ⟨[], p, ps, rfl, List.forall_mem_nil _, hp⟩

/-! ## Reading -/

theorem mapM_segmentOfPiece (h : ∀ p ∈ ps, IsSegment p) :
    (ps.map String.toList).mapM (segmentOfPiece s) = .ok ps := by
  induction ps with
  | nil => rfl
  | cons p ps ih =>
    obtain ⟨hp, hps⟩ := List.forall_mem_cons.1 h
    rw [List.map_cons, List.mapM_cons, segmentOfPiece_ok hp, ih hps]
    rfl

theorem parse_of_ne_empty (hs : s ≠ "") (h : PiecesOf s ps) :
    parse s = ((ps.map String.toList).mapM (segmentOfPiece s)).map QualifiedName.mk := by
  have hempty : s.isEmpty = false := by simpa using hs
  rw [parse, hempty, piecesOf_iff.1 h]
  rfl

theorem parse_of_segments (h : PiecesOf s ps) (hps : ∀ p ∈ ps, IsSegment p) :
    parse s = .ok ⟨ps⟩ := by
  have hs : s ≠ "" := by
    rintro rfl
    obtain rfl := h.unique piecesOf_empty
    exact (hps "" List.mem_cons_self).1 rfl
  rw [parse_of_ne_empty hs h, mapM_segmentOfPiece hps]
  rfl

theorem parse_of_fault (hs : s ≠ "") (h : FaultIn s e) : parse s = .error e := by
  obtain ⟨before, bad, rest, hpieces, hbefore, hbad, rfl⟩ := h
  rw [parse_of_ne_empty hs hpieces, List.map_append, List.mapM_append, mapM_segmentOfPiece hbefore,
    List.map_cons, List.mapM_cons, segmentOfPiece_error hbad]
  rfl

theorem isName_or_fault (s : String) : IsName s ∨ ∃ e, FaultIn s e := by
  obtain ⟨ps, hps⟩ := exists_piecesOf s
  rcases segments_or_leftmost ps with hall | ⟨before, bad, rest, rfl, hbefore, hbad⟩
  · exact .inl ⟨ps, hps, hall⟩
  · exact .inr ⟨_, before, bad, rest, hps, hbefore, hbad, rfl⟩

theorem not_isName_iff : ¬IsName s ↔ ∃ e, FaultIn s e := by
  refine ⟨(isName_or_fault s).resolve_left, ?_⟩
  rintro ⟨e, before, bad, rest, hpieces, -, hbad, -⟩ ⟨ps, hps, hall⟩
  obtain rfl := hpieces.unique hps
  exact hbad (hall bad (List.mem_append_right _ List.mem_cons_self))

theorem eq_of_faultIn_empty (h : FaultIn "" e) : e = .emptySegment "" := by
  obtain ⟨before, bad, rest, hpieces, -, -, rfl⟩ := h
  have hbad : bad ∈ before ++ bad :: rest := List.mem_append_right _ List.mem_cons_self
  rw [hpieces.unique piecesOf_empty] at hbad
  rw [if_pos (List.mem_singleton.1 hbad)]

theorem parse_eq_ok_iff : parse s = .ok n ↔
    s = "" ∧ n = root ∨ PiecesOf s n.segments ∧ ∀ p ∈ n.segments, IsSegment p := by
  constructor
  · intro h
    by_cases hs : s = ""
    · subst hs
      exact .inl ⟨rfl, (Except.ok.inj h).symm⟩
    · rcases isName_or_fault s with ⟨ps, hps, hall⟩ | ⟨e, he⟩
      · rw [parse_of_segments hps hall] at h
        obtain rfl := Except.ok.inj h
        exact .inr ⟨hps, hall⟩
      · rw [parse_of_fault hs he] at h
        cases h
  · rintro (⟨rfl, rfl⟩ | ⟨hpieces, hall⟩)
    · rfl
    · exact parse_of_segments hpieces hall

theorem parse_eq_error_iff : parse s = .error e ↔ s ≠ "" ∧ FaultIn s e := by
  constructor
  · intro h
    have hs : s ≠ "" := by
      rintro rfl
      cases h
    rcases isName_or_fault s with ⟨ps, hps, hall⟩ | ⟨e', he'⟩
    · rw [parse_of_segments hps hall] at h
      cases h
    · rw [parse_of_fault hs he'] at h
      obtain rfl := Except.error.inj h
      exact ⟨hs, he'⟩
  · rintro ⟨hs, he⟩
    exact parse_of_fault hs he

/-- What is read consists of segments, whatever text it is read from. -/
theorem isSegment_of_parse (h : parse s = .ok n) : ∀ p ∈ n.segments, IsSegment p := by
  rcases parse_eq_ok_iff.1 h with ⟨-, rfl⟩ | ⟨-, hall⟩
  · exact List.forall_mem_nil _
  · exact hall

theorem text_of_parse (h : parse s = .ok n) : n.text = s := by
  rcases parse_eq_ok_iff.1 h with ⟨rfl, rfl⟩ | ⟨hpieces, -⟩
  · rfl
  · exact hpieces.joined

theorem parse_text (h : ∀ p ∈ n.segments, IsSegment p) : parse n.text = .ok n := by
  by_cases hn : n.segments = []
  · obtain ⟨segments⟩ := n
    obtain rfl := hn
    rfl
  · exact parse_of_segments ⟨hn, fun p hp => (h p hp).undotted, rfl⟩ h

/-- A text is read exactly if it is empty or all its pieces, of which there is one list, are segments.
The name that is read is written as the text again. If the text is not read, then its leftmost piece
that is no segment decides the error. A name is read back from its text exactly if it consists of
segments. -/
theorem parse_inverts_text :
    (∀ s : String,
      (∃! ps, PiecesOf s ps) ∧
      ((∃ n, parse s = .ok n) ↔ s = "" ∨ IsName s) ∧
      (∀ n, parse s = .ok n → n.text = s) ∧
      ∀ e, parse s = .error e ↔ s ≠ "" ∧ FaultIn s e) ∧
    ∀ n : QualifiedName, parse n.text = .ok n ↔ ∀ p ∈ n.segments, IsSegment p := by
  refine ⟨fun s => ⟨?_, ?_, fun n => text_of_parse, fun e => parse_eq_error_iff⟩,
    fun n => ⟨isSegment_of_parse, parse_text⟩⟩
  · obtain ⟨ps, hps⟩ := exists_piecesOf s
    exact ⟨ps, hps, fun qs hqs => hqs.unique hps⟩
  · constructor
    · rintro ⟨n, hn⟩
      exact (parse_eq_ok_iff.1 hn).imp And.left fun h => ⟨n.segments, h⟩
    · rintro (rfl | ⟨ps, hps, hall⟩)
      · exact ⟨root, rfl⟩
      · exact ⟨⟨ps⟩, parse_of_segments hps hall⟩

/-- Of two bad pieces the left one counts. A name that was built from a segment with a dot is not read
back from its text. -/
theorem parse_inverts_text_dotted :
    FaultIn "com..exa-mple.Order" (.emptySegment "com..exa-mple.Order") ∧
      (∃ n, parse "com.example.Order$Line" = .ok n ∧ n.text = "com.example.Order$Line" ∧
        parse n.text = .ok n) ∧
      parse (text ⟨["com", "example.Order"]⟩) ≠ .ok ⟨["com", "example.Order"]⟩ := by
  obtain ⟨hread, hback⟩ := parse_inverts_text
  obtain ⟨-, -, -, hfault⟩ := hread "com..exa-mple.Order"
  obtain ⟨-, -, htext, -⟩ := hread "com.example.Order$Line"
  have hn : parse "com.example.Order$Line" = .ok ⟨["com", "example", "Order$Line"]⟩ := by
    decide +kernel
  refine ⟨((hfault _).1 (by decide +kernel)).2, ⟨_, hn, htext _ hn, ?_⟩, ?_⟩
  · rw [htext _ hn, hn]
  · intro h
    have hsegments := (hback _).1 h
    exact (hsegments "example.Order" (by decide)).undotted (by decide)

end QualifiedName

end AutoAnnotate
