import AutoAnnotate.ClassFilter
import AutoAnnotate.Event
import AutoAnnotate.Proofs.Numeral
/-!
# Lines of a log

The lines of a log are the messages of its events. Their texts are written out here and in the
modules that build on this one, so that a statement about lines says what a reader of the log sees.

Lines are told apart by the words with which they begin. Two words of which neither begins with the
other (`Diverge`) never begin the same line. Only "Annotated" needs a closer look, since the closing
line begins with it as well (`not_begins_closingLine`).
-/

namespace AutoAnnotate

/-! ## First words -/

/-- Whether a line begins with given words. -/
def Begins (words line : String) : Prop := words.toList <+: line.toList

instance (words line : String) : Decidable (Begins words line) :=
  inferInstanceAs (Decidable (_ <+: _))

/-- Neither text begins with the other one. -/
def Diverge (words heading : String) : Prop := ¬(Begins words heading ∨ Begins heading words)

instance (words heading : String) : Decidable (Diverge words heading) :=
  inferInstanceAs (Decidable (¬_))

/-- Whether a line begins with one of several headings. -/
def BeginsAny (headings : List String) (line : String) : Prop :=
  ∃ heading ∈ headings, Begins heading line

/-- The lines that begin with given words. -/
def linesWith (words : String) (lines : List String) : List String :=
  lines.filter fun line => Begins words line

section Words
variable {words heading line : String} {headings lines : List String}

theorem begins_self (words : String) : Begins words words := List.prefix_rfl

theorem begins_append (h : Begins words line) (more : String) : Begins words (line ++ more) := by
  rw [Begins, String.toList_append]
  exact h.trans (List.prefix_append _ _)

/-- Of two beginnings of a line one begins with the other. -/
theorem Diverge.not_begins (h : Diverge words heading) (hline : Begins heading line) :
    ¬Begins words line := fun hwords => h (List.prefix_or_prefix_of_prefix hwords hline)

theorem BeginsAny.mono {more : List String} (h : BeginsAny headings line)
    (hsub : headings ⊆ more) : BeginsAny more line := by
  obtain ⟨heading, hmem, hline⟩ := h
  exact ⟨heading, hsub hmem, hline⟩

theorem BeginsAny.not_begins (h : BeginsAny headings line)
    (hd : ∀ heading ∈ headings, Diverge words heading) : ¬Begins words line := by
  obtain ⟨heading, hmem, hline⟩ := h
  exact (hd heading hmem).not_begins hline

theorem linesWith_append (words : String) (lines more : List String) :
    linesWith words (lines ++ more) = linesWith words lines ++ linesWith words more :=
  List.filter_append lines more

theorem linesWith_cons_of_begins (h : Begins words line) (lines : List String) :
    linesWith words (line :: lines) = line :: linesWith words lines :=
  List.filter_cons_of_pos (decide_eq_true h)

theorem linesWith_cons_of_not (h : ¬Begins words line) (lines : List String) :
    linesWith words (line :: lines) = linesWith words lines :=
  List.filter_cons_of_neg (by simpa using h)

theorem linesWith_eq_nil (h : ∀ line ∈ lines, BeginsAny headings line)
    (hd : ∀ heading ∈ headings, Diverge words heading) : linesWith words lines = [] :=
  List.filter_eq_nil_iff.2 fun line hmem => by simpa using (h line hmem).not_begins hd

end Words

/-! ## The texts of lines -/

/-- The first line of a run. -/
def openingLine (filter : ClassFilter) : String :=
  "Annotating classes in package '" ++ filter.packagePrefix ++ "' (markers: " ++
    ("\x7b" ++ ", ".intercalate (filter.markers.toList.map Text.quote) ++ "\x7d") ++ ")"

/-- The last line of a run without an error. -/
def closingLine (classes fields : Nat) : String :=
  "Annotated " ++ toString classes ++ " class(es), " ++ toString fields ++ " field(s) changed"

/-- An annotation in a line: its kind, and its attributes if it has any. -/
def annotationText (a : Annotation) : String :=
  "@" ++ a.kind ++
    match a.attributes.entries with
    | [] => ""
    | entries => "(" ++ ", ".intercalate (entries.map fun e => e.1 ++ "=" ++ e.2.display) ++ ")"

/-- The line of a change: the field, and its annotations before and after. -/
def changeLine (ch : FieldChange) : String :=
  "Annotated field " ++ ch.cls ++ "." ++ ch.field ++
    ": [" ++ ", ".intercalate (ch.before.map annotationText) ++
    "] -> [" ++ ", ".intercalate (ch.after.map annotationText) ++ "]"

theorem message_began (filter : ClassFilter) :
    (Event.began filter.packagePrefix filter.markers).message = openingLine filter := rfl

theorem message_ended (classes fields : Nat) :
    (Event.ended classes fields).message = closingLine classes fields := rfl

theorem display_eq (a : Annotation) : a.display = annotationText a := by
  unfold Annotation.display annotationText OrderedMap.isEmpty
  cases a.attributes.entries with
  | nil => exact String.append_empty.symm
  | cons => simp [String.append_assoc]

theorem brackets_eq (words before after : String) :
    words ++ ": " ++ ("[" ++ before ++ "]") ++ " -> " ++ ("[" ++ after ++ "]") =
      words ++ ": [" ++ before ++ "] -> [" ++ after ++ "]" := by
  rw [show ": [" = ": " ++ "[" from rfl, show "] -> [" = "]" ++ (" -> " ++ "[") from rfl]
  simp only [String.append_assoc]

theorem message_annotated (ch : FieldChange) : (Event.annotated ch).message = changeLine ch := by
  have hshown : Annotation.display = annotationText := funext display_eq
  exact (brackets_eq _ _ _).trans (hshown ▸ rfl)

/-! ## How the lines begin -/

theorem begins_openingLine (filter : ClassFilter) :
    Begins "Annotating classes in package '" (openingLine filter) :=
  begins_append (begins_append (begins_append (begins_append (begins_self _) _) _) _) _

theorem begins_closingLine (classes fields : Nat) :
    Begins "Annotated " (closingLine classes fields) :=
  begins_append (begins_append (begins_append (begins_append (begins_self _) _) _) _) _

theorem begins_changeLine (ch : FieldChange) : Begins "Annotated field " (changeLine ch) :=
  begins_append (begins_append (begins_append (begins_append (begins_append (begins_append
    (begins_append (begins_append (begins_self _) _) _) _) _) _) _) _) _

theorem startsWithDigit_toString (n : Nat) : Json.StartsWithDigit (toString n).toList := by
  rw [show toString n = n.repr from rfl, Nat.repr_eq_ofList_toDigits, String.toList_ofList]
  exact (Json.allDigits_toDigits n).startsWithDigit Nat.toDigits_ne_nil

/-- After "Annotated" the closing line goes on with a digit. -/
theorem not_begins_closingLine (classes fields : Nat) :
    ¬Begins "Annotated field " (closingLine classes fields) := by
  intro h
  have hline : closingLine classes fields = "Annotated " ++
      (toString classes ++ (" class(es), " ++ (toString fields ++ " field(s) changed"))) := by
    simp only [closingLine, String.append_assoc]
  rw [Begins, hline, String.toList_append, String.toList_append] at h
  have hword : "field ".toList <+: (toString classes).toList ++ _ :=
    (List.prefix_append_right_inj "Annotated ".toList).1 h
  obtain ⟨d, ds, hd, hdigit⟩ := startsWithDigit_toString classes
  rw [hd] at hword
  rw [← (List.cons_prefix_cons.1 hword).1] at hdigit
  cases hdigit

/-- The words with which the lines that tell how a visit of a field goes begin. -/
def detailHeadings : List String := ["Field ", "Keeping existing @"]

/-- The words with which the lines of a field begin. -/
def fieldHeadings : List String :=
  "Ignoring field " :: "Visiting field " :: "Annotated field " :: detailHeadings

/-- The words with which all lines between the opening line and the closing line begin. -/
def classHeadings : List String := "Skipping class " :: "Visiting class " :: fieldHeadings

theorem closingLine_not_beginsAny (classes fields : Nat) :
    ¬BeginsAny classHeadings (closingLine classes fields) := by
  rintro ⟨heading, hmem, hline⟩
  by_cases ha : heading = "Annotated field "
  · exact not_begins_closingLine classes fields (ha ▸ hline)
  · have hd : ∀ h ∈ classHeadings, h ≠ "Annotated field " → Diverge h "Annotated " := by decide
    exact (hd heading hmem ha).not_begins (begins_closingLine classes fields) hline

theorem closingLine_ne_openingLine (classes fields : Nat) (filter : ClassFilter) :
    closingLine classes fields ≠ openingLine filter := by
  intro h
  have hd : Diverge "Annotated " "Annotating classes in package '" := by decide
  exact hd.not_begins (begins_openingLine filter) (h ▸ begins_closingLine classes fields)

/-! ## The events behind the lines -/

namespace Event

/-- The change that an event tells of. -/
def change? : Event → Option FieldChange
  | .annotated ch => some ch
  | _ => none

/-- Whether an event tells how a visit of a field goes, but neither that it begins nor what has
changed. -/
def isDetail : Event → Bool
  | .resolved .. | .keeping .. => true
  | _ => false

theorem change?_of_isDetail {e : Event} (h : e.isDetail = true) : e.change? = none := by
  cases e <;> first | rfl | cases h

/-- The words with which the messages of all events of a sort begin. -/
def heading : Event → String
  | .began .. => "Annotating classes in package '"
  | .skippedClass .. => "Skipping class "
  | .visitingClass _ => "Visiting class "
  | .ignoringField .. => "Ignoring field "
  | .visitingField .. => "Visiting field "
  | .resolved .. => "Field "
  | .keeping .. => "Keeping existing @"
  | .annotated _ => "Annotated field "
  | .ended .. => "Annotated "

theorem begins_heading : ∀ e : Event, Begins e.heading e.message
  | .visitingClass _ => begins_append (begins_self _) _
  | .skippedClass .. => begins_append (begins_append (begins_self _) _) _
  | .ignoringField .. => begins_append (begins_append (begins_append (begins_self _) _) _) _
  | .began .. =>
    begins_append (begins_append (begins_append (begins_append (begins_self _) _) _) _) _
  | .resolved .. | .keeping .. =>
    begins_append (begins_append (begins_append (begins_append (begins_append
      (begins_self _) _) _) _) _) _
  | .visitingField .. =>
    begins_append (begins_append (begins_append (begins_append (begins_append (begins_append
      (begins_self _) _) _) _) _) _) _
  | .annotated ch => message_annotated ch ▸ begins_changeLine ch
  | .ended classes fields => begins_closingLine classes fields

theorem begins_of_isDetail {e : Event} (h : e.isDetail = true) :
    BeginsAny detailHeadings e.message := by
  refine ⟨e.heading, ?_, e.begins_heading⟩
  cases e with
  | resolved => exact List.mem_cons_self
  | keeping => exact List.mem_cons_of_mem _ List.mem_cons_self
  | _ => cases h

theorem not_begins_annotated {e : Event} (h : e.change? = none) :
    ¬Begins "Annotated field " e.message := by
  cases e with
  | annotated => cases h
  | ended classes fields => exact not_begins_closingLine classes fields
  | _ =>
    refine Diverge.not_begins ?_ (begins_heading _)
    rw [heading]
    decide

end Event

/-- The lines of changes tell of all changes in a log, and of no others. -/
theorem linesWith_annotated (log : List Event) :
    linesWith "Annotated field " (log.map Event.message) =
      (log.filterMap Event.change?).map changeLine := by
  induction log with
  | nil => rfl
  | cons e rest ih =>
    rw [List.map_cons]
    cases e with
    | annotated ch =>
      rw [message_annotated, linesWith_cons_of_begins (begins_changeLine ch),
        List.filterMap_cons_some (f := Event.change?) rfl, List.map_cons, ih]
    | _ =>
      rw [linesWith_cons_of_not (Event.not_begins_annotated rfl), List.filterMap_cons_none rfl, ih]

end AutoAnnotate
