import AutoAnnotate.Proofs.Telling
/-!
# What a run tells

`ClassTold` says which lines a class has that a run gets through, `LastTold` which ones the class
has at which it stops. Between the opening line and the closing line there are the lines of the
classes and nothing else. The lines of changes are those of the changes that the report lists, if
there is one (`RunTold`). A run that stops does not close its log, and has also told of changes in
the class at which it stopped, which no report holds (`StopTold`). `annotate_log_agrees` says one or
the other of every run.
-/

namespace AutoAnnotate

open FieldVisit Visit

/-! ## The lines of a run -/

/-- The lines of a class that a run gets through. -/
inductive ClassTold (filter : ClassFilter) (o : Options) (c : Class) : List String → Prop
  | ignored (hs : filter.inScope c = .ok false)
      (hi : ∃ a ∈ c.annotations, a.kind ∈ filter.ignored) :
      ClassTold filter o c ["Skipping class " ++ c.name ++ " (ignored)"]
  | outOfScope (hs : filter.inScope c = .ok false)
      (hi : ∀ a ∈ c.annotations, a.kind ∉ filter.ignored) :
      ClassTold filter o c ["Skipping class " ++ c.name ++ " (out of scope)"]
  | visited {parts : List (List String)} (hs : filter.inScope c = .ok true)
      (hparts : FieldsTold o c (c.fields.map (·.name)) parts) :
      ClassTold filter o c (("Visiting class " ++ c.name) :: parts.flatten)

/-- The lines of a class at which a run stops with an error, and the changes that the run has made
there. A class without a scope has no line. In any other one the visit has gone through the fields
before some field, whose visit fails. -/
inductive LastTold (filter : ClassFilter) (o : Options) (c : Class) :
    AnnotateError → List FieldChange → List String → Prop
  | unscoped {cause : ScopeError} (hs : filter.inScope c = .error cause) :
      LastTold filter o c (.scope cause) [] []
  | stopped {e : AnnotateError} {before rest : List Field} {f : Field} {d d' : Class}
      {changes : List FieldChange} {parts : List (List String)} (hs : filter.inScope c = .ok true)
      (hfields : c.fields = before ++ f :: rest) (he : e.field? = some f.name)
      (hbefore : (visitFields o (o.isPersistent c) (before.map (·.name))).Leaves c d (.ok changes))
      (hstop : (visit o (o.isPersistent c) f.name).Leaves d d' (.error e))
      (hparts : FieldsTold o c ((before ++ [f]).map (·.name)) parts) :
      LastTold filter o c e changes (("Visiting class " ++ c.name) :: parts.flatten)

/-- The log holds the changes, and its lines of changes are theirs. -/
structure TellsChanges (changes : List FieldChange) (log : List Event) : Prop where
  events : log.filterMap Event.change? = changes
  lines : linesWith "Annotated field " (log.map Event.message) = changes.map changeLine

/-- The log of a run over classes that has a report. -/
structure RunTold (filter : ClassFilter) (o : Options) (classes : List Class) (report : Report)
    (log : List Event) : Prop where
  lines : ∃ chapters, List.Forall₂ (ClassTold filter o) classes chapters ∧
    log.map Event.message = openingLine filter :: chapters.flatten ++
      [closingLine report.changedClasses.toList.length report.changes.length]
  changes : TellsChanges report.changes log
  changedClasses : ∀ name, name ∈ report.changedClasses ↔ ∃ ch ∈ report.changes, ch.cls = name
  skipped : (linesWith "Skipping class " (log.map Event.message)).length = report.skipped
  visited : (linesWith "Visiting class " (log.map Event.message)).length = report.visited

/-- The log of a run that gets through some classes and stops at the next one with an error. -/
structure StopTold (filter : ClassFilter) (o : Options) (before : List Class) (c : Class)
    (e : AnnotateError) (report : Report) (changes : List FieldChange) (log : List Event) :
    Prop where
  goesThrough : (annotate filter o before).result = .ok report
  lines : ∃ chapters last, List.Forall₂ (ClassTold filter o) before chapters ∧
    LastTold filter o c e changes last ∧
    log.map Event.message = openingLine filter :: chapters.flatten ++ last
  notClosed : ∀ n m, closingLine n m ∉ log.map Event.message
  changes : TellsChanges (report.changes ++ changes) log

/-! ## The classes of a run -/

section Classes
variable {filter : ClassFilter} {o : Options} {c d : Class} {rest : List Class}

theorem visitClasses_log_of_skipped (hs : filter.inScope c = .ok false) :
    (visitClasses filter o (c :: rest)).log =
      .skippedClass c.name (filter.isIgnored c) :: (visitClasses filter o rest).log := by
  simp only [visitClasses, hs]

theorem visitClasses_log_of_error (hs : filter.inScope c = .ok true) {e : AnnotateError}
    (h : (visitClass o).Leaves c d (.error e)) :
    (visitClasses filter o (c :: rest)).log =
      .visitingClass c.name :: ((visitClass o).run c).log := by
  simp only [visitClasses, hs, h.2]

theorem visitClasses_log_of_ok (hs : filter.inScope c = .ok true) {changes : List FieldChange}
    (h : (visitClass o).Leaves c d (.ok changes)) :
    (visitClasses filter o (c :: rest)).log =
      .visitingClass c.name :: ((visitClass o).run c).log ++ (visitClasses filter o rest).log := by
  simp only [visitClasses, hs, h.2]

theorem visitClass_log (o : Options) (c : Class) :
    ((visitClass o).run c).log =
      ((visitFields o (o.isPersistent c) (c.fields.map (·.name))).run c).log := rfl

theorem ClassTold.of_skipped (hs : filter.inScope c = .ok false) :
    ClassTold filter o c [(Event.skippedClass c.name (filter.isIgnored c)).message] := by
  cases hi : filter.isIgnored c with
  | true => exact .ignored hs (carriesAny_iff.1 hi)
  | false =>
    refine .outOfScope hs fun a ha hkind => ?_
    exact Bool.false_ne_true (hi.symm.trans (carriesAny_iff.2 ⟨a, ha, hkind⟩))

/-- A run that goes through tells of every class, and of the changes that it reports. -/
theorem Ran.told {classes after : List Class} {r : Except AnnotateError Report}
    (h : Ran filter o classes after r) {report : Report} (hr : r = .ok report) :
    ∃ chapters, List.Forall₂ (ClassTold filter o) classes chapters ∧
      (visitClasses filter o classes).log.map Event.message = chapters.flatten ∧
      (visitClasses filter o classes).log.filterMap Event.change? = report.changes := by
  induction h generalizing report with
  | done =>
    cases hr
    exact ⟨[], .nil, rfl, rfl⟩
  | unscoped | stopped => cases hr
  | skipped hs _ ih =>
    obtain ⟨later, hlater, rfl⟩ := ok_of_map_ok hr
    obtain ⟨chapters, hchapters, hlines, hchanges⟩ := ih hlater
    refine ⟨_, .cons (.of_skipped hs) hchapters, ?_, ?_⟩
    · rw [visitClasses_log_of_skipped hs, List.map_cons, hlines]
      rfl
    · rw [visitClasses_log_of_skipped hs, List.filterMap_cons_none rfl]
      exact hchanges
  | @visited c _ rest _ _ _ hs hv _ ih =>
    obtain ⟨later, hlater, rfl⟩ := ok_of_map_ok hr
    obtain ⟨chapters, hchapters, hlines, hchanges⟩ := ih hlater
    obtain ⟨parts, hparts, hfields, hchange⟩ := hv.told rfl
    have hlog : (visitClasses filter o (c :: rest)).log = _ :=
      visitClasses_log_of_ok hs (visitClass_leaves_iff.2 hv)
    refine ⟨_, .cons (.visited hs hparts) hchapters, ?_, ?_⟩
    · rw [hlog, visitClass_log, List.map_append, List.map_cons, hfields, hlines]
      rfl
    · rw [hlog, visitClass_log, List.filterMap_append, List.filterMap_cons_none rfl, hchange,
        hchanges]
      rfl

/-- A run that goes through tells first of what comes first. -/
theorem Ran.log_append {xs xs' : List Class} {r : Except AnnotateError Report}
    (h : Ran filter o xs xs' r) {report : Report} (hr : r = .ok report) (ys : List Class) :
    (visitClasses filter o (xs ++ ys)).log =
      (visitClasses filter o xs).log ++ (visitClasses filter o ys).log := by
  induction h generalizing report with
  | done => rfl
  | unscoped | stopped => cases hr
  | skipped hs _ ih =>
    obtain ⟨later, hlater, -⟩ := ok_of_map_ok hr
    rw [List.cons_append, visitClasses_log_of_skipped hs, visitClasses_log_of_skipped hs, ih hlater]
    rfl
  | visited hs hv _ ih =>
    obtain ⟨later, hlater, -⟩ := ok_of_map_ok hr
    have hleaves := visitClass_leaves_iff.2 hv
    rw [List.cons_append, visitClasses_log_of_ok hs hleaves, visitClasses_log_of_ok hs hleaves,
      ih hlater, List.append_assoc]

/-- A run that stops at a class has told of it what `LastTold` says, and tells nothing more. -/
theorem Ran.lastTold {e : AnnotateError} (h : Ran filter o [c] [d] (.error e)) (rest : List Class) :
    ∃ changes last, LastTold filter o c e changes last ∧
      (visitClasses filter o (c :: rest)).log.map Event.message = last ∧
      (visitClasses filter o (c :: rest)).log.filterMap Event.change? = changes := by
  -- As in `Ran.of_single_error`, `cases` needs variables for the classes and the result.
  generalize hr : (.error e : Except AnnotateError Report) = r at h
  generalize hafter : [d] = after at h
  cases h with
  | unscoped hs =>
    cases hr
    have hlog : (visitClasses filter o (c :: rest)).log = [] := by simp only [visitClasses, hs]
    rw [hlog]
    exact ⟨[], [], .unscoped hs, rfl, rfl⟩
  | stopped hs hv =>
    cases hr
    obtain ⟨before, name, names, d', changes, parts, hnames, he, hbefore, hstop, hparts, hlines,
      hchanges⟩ := hv.told_of_error rfl
    obtain ⟨first, behind, hfields, rfl, hbehind⟩ := List.map_eq_append_iff.1 hnames
    obtain ⟨f, unreached, rfl, rfl, -⟩ := List.map_eq_cons_iff.1 hbehind
    have hreached : (first ++ [f]).map (·.name) = first.map (·.name) ++ [f.name] := List.map_append
    rw [visitClasses_log_of_error hs (visitClass_leaves_iff.2 hv), visitClass_log,
      List.map_cons, List.filterMap_cons_none rfl, hlines]
    exact ⟨changes, _, .stopped hs hfields he hbefore.leaves hstop (hreached ▸ hparts), rfl,
      hchanges⟩
  | skipped _ later | visited _ _ later =>
    cases later
    cases hr

/-! ## The beginnings of their lines -/

theorem begins_skipping (name reason : String) :
    Begins "Skipping class " ("Skipping class " ++ name ++ reason) :=
  begins_append (begins_append (begins_self _) _) _

theorem begins_visiting (name : String) : Begins "Visiting class " ("Visiting class " ++ name) :=
  begins_append (begins_self _) _

theorem FieldsTold.beginsAny_visiting {names : List String} {parts : List (List String)}
    (h : FieldsTold o c names parts) :
    ∀ line ∈ ("Visiting class " ++ c.name) :: parts.flatten, BeginsAny classHeadings line := by
  refine List.forall_mem_cons.2 ⟨⟨"Visiting class ", by decide, begins_visiting c.name⟩, ?_⟩
  exact fun line hline => (h.beginsAny line hline).mono (by decide)

theorem ClassTold.beginsAny {chapter : List String} (h : ClassTold filter o c chapter) :
    ∀ line ∈ chapter, BeginsAny classHeadings line := by
  cases h with
  | ignored | outOfScope =>
    exact List.forall_mem_singleton.2 ⟨"Skipping class ", by decide, begins_skipping c.name _⟩
  | visited _ hparts => exact hparts.beginsAny_visiting

theorem LastTold.beginsAny {error : AnnotateError} {changes : List FieldChange}
    {last : List String} (h : LastTold filter o c error changes last) :
    ∀ line ∈ last, BeginsAny classHeadings line := by
  cases h with
  | unscoped => exact fun _ hline => nomatch hline
  | stopped _ _ _ _ _ hparts => exact hparts.beginsAny_visiting

theorem beginsAny_of_told {classes : List Class} {chapters : List (List String)}
    (h : List.Forall₂ (ClassTold filter o) classes chapters) :
    ∀ line ∈ chapters.flatten, BeginsAny classHeadings line := by
  induction h with
  | nil => exact fun _ hline => nomatch hline
  | cons hc _ ih => exact List.forall_mem_append.2 ⟨hc.beginsAny, ih⟩

/-! ## Lines counted -/

/-- A class that a run skips has one line that says so, and a class that it visits has one line that
says so. -/
theorem ClassTold.counts {chapter : List String} (h : ClassTold filter o c chapter) :
    (linesWith "Skipping class " chapter).length =
        [filter.inScope c].countP (· matches .ok false) ∧
      (linesWith "Visiting class " chapter).length =
        [filter.inScope c].countP (· matches .ok true) := by
  cases h with
  | ignored hs | outOfScope hs =>
    have hd : Diverge "Visiting class " "Skipping class " := by decide
    rw [hs, linesWith_cons_of_begins (begins_skipping c.name _),
      linesWith_cons_of_not (hd.not_begins (begins_skipping c.name _))]
    exact ⟨rfl, rfl⟩
  | visited hs hparts =>
    have hd : Diverge "Skipping class " "Visiting class " := by decide
    rw [hs, linesWith_cons_of_not (hd.not_begins (begins_visiting c.name)),
      linesWith_cons_of_begins (begins_visiting c.name),
      linesWith_eq_nil hparts.beginsAny (by decide), linesWith_eq_nil hparts.beginsAny (by decide)]
    exact ⟨rfl, rfl⟩

theorem counts_of_told {classes : List Class} {chapters : List (List String)}
    (h : List.Forall₂ (ClassTold filter o) classes chapters) :
    (linesWith "Skipping class " chapters.flatten).length =
        (classes.map filter.inScope).countP (· matches .ok false) ∧
      (linesWith "Visiting class " chapters.flatten).length =
        (classes.map filter.inScope).countP (· matches .ok true) := by
  induction h with
  | nil => exact ⟨rfl, rfl⟩
  | @cons c chapter classes _ hc _ ih =>
    have hcons : (c :: classes).map filter.inScope =
      [filter.inScope c] ++ classes.map filter.inScope := rfl
    rw [List.flatten_cons, linesWith_append, linesWith_append, List.length_append,
      List.length_append, hc.counts.1, hc.counts.2, ih.1, ih.2, hcons, List.countP_append,
      List.countP_append]
    exact ⟨rfl, rfl⟩

/-- Neither the opening line nor the closing line has the beginning of a line of a class. -/
theorem linesWith_framed {words : String}
    (hbegan : Diverge words "Annotating classes in package '") (hended : Diverge words "Annotated ")
    (filter : ClassFilter) (lines : List String) (n m : Nat) :
    linesWith words (openingLine filter :: lines ++ [closingLine n m]) = linesWith words lines := by
  rw [List.cons_append, linesWith_cons_of_not (hbegan.not_begins (begins_openingLine filter)),
    linesWith_append, linesWith_cons_of_not (hended.not_begins (begins_closingLine n m))]
  exact List.append_nil _

/-- A log that goes on with lines of classes and fields only is not closed. -/
theorem closingLine_not_mem {lines : List String} (h : ∀ line ∈ lines, BeginsAny classHeadings line)
    (filter : ClassFilter) (n m : Nat) : closingLine n m ∉ openingLine filter :: lines := by
  intro hmem
  rcases List.mem_cons.1 hmem with hopening | hmem
  · exact closingLine_ne_openingLine n m filter hopening
  · exact closingLine_not_beginsAny n m (h _ hmem)

end Classes

/-! ## The log of a run -/

section Runs
variable {filter : ClassFilter} {o : Options} {classes : List Class}

theorem annotate_log_of_ok {report : Report} (h : (annotate filter o classes).result = .ok report) :
    (annotate filter o classes).log =
      .began filter.packagePrefix filter.markers :: (visitClasses filter o classes).log ++
        [.ended report.changedClasses.toList.length report.changes.length] := by
  have hresult : (visitClasses filter o classes).result = .ok report := h
  simp only [annotate, hresult]

theorem annotate_log_of_error {e : AnnotateError}
    (h : (annotate filter o classes).result = .error e) :
    (annotate filter o classes).log =
      .began filter.packagePrefix filter.markers :: (visitClasses filter o classes).log := by
  have hresult : (visitClasses filter o classes).result = .error e := h
  simp only [annotate, hresult, List.append_nil]

theorem tellsChanges_of_events {changes : List FieldChange} {log : List Event}
    (h : log.filterMap Event.change? = changes) : TellsChanges changes log :=
  ⟨h, by rw [linesWith_annotated, h]⟩

theorem annotate_runTold {report : Report} (h : (annotate filter o classes).result = .ok report) :
    RunTold filter o classes report (annotate filter o classes).log := by
  have hran := annotate_ran filter o classes
  obtain ⟨chapters, hchapters, hlines, hchanges⟩ := hran.told h
  obtain ⟨hskipping, hvisiting⟩ := counts_of_told hchapters
  obtain ⟨hvisited, hskipped⟩ := hran.counts h
  have hlog := annotate_log_of_ok h
  have hwhole : (annotate filter o classes).log.map Event.message =
      openingLine filter :: chapters.flatten ++
        [closingLine report.changedClasses.toList.length report.changes.length] := by
    rw [hlog, List.map_append, List.map_cons, message_began, hlines, List.map_singleton,
      message_ended]
  refine ⟨⟨chapters, hchapters, hwhole⟩, tellsChanges_of_events ?_, fun name => ?_, ?_, ?_⟩
  · rw [hlog, List.filterMap_append, List.filterMap_cons_none rfl, hchanges]
    exact List.append_nil _
  · rw [Report.changedClasses, NameSet.mem_ofList, List.mem_map]
  · rw [hwhole, linesWith_framed (by decide) (by decide)]
    exact hskipping.trans hskipped.symm
  · rw [hwhole, linesWith_framed (by decide) (by decide)]
    exact hvisiting.trans hvisited.symm

theorem annotate_stopTold {e : AnnotateError} (h : (annotate filter o classes).result = .error e) :
    ∃ before c rest report changes, classes = before ++ c :: rest ∧
      StopTold filter o before c e report changes (annotate filter o classes).log := by
  obtain ⟨before, _, c, _, rest, report, rfl, -, hbefore, hc⟩ :=
    (annotate_ran filter o classes).stops h
  obtain ⟨chapters, hchapters, hlines, hchanges⟩ := hbefore.told rfl
  obtain ⟨changes, last, hlast, hlinesLast, hchangesLast⟩ := hc.lastTold rest
  have hlog := annotate_log_of_error h
  rw [hbefore.log_append rfl] at hlog
  have hwhole : (annotate filter o (before ++ c :: rest)).log.map Event.message =
      openingLine filter :: (chapters.flatten ++ last) := by
    rw [hlog, List.map_cons, message_began, List.map_append, hlines, hlinesLast]
  refine ⟨before, c, rest, report, changes, rfl, (annotate_iff.2 hbefore).2,
    ⟨chapters, last, hchapters, hlast, hwhole⟩, ?_, tellsChanges_of_events ?_⟩
  · intro n m
    rw [hwhole]
    exact closingLine_not_mem
      (List.forall_mem_append.2 ⟨beginsAny_of_told hchapters, hlast.beginsAny⟩) filter n m
  · rw [hlog, List.filterMap_cons_none rfl, List.filterMap_append, hchanges, hchangesLast]

end Runs

/-- The log of a run opens with the package and the markers. A run without an error then tells of
every class, in order, of the changes that it reports and no others, of as many skipped and visited
classes as it reports, and closes with the numbers of changed classes and of changes. A run with an
error tells of the classes before the one at which it stopped, and of that one up to the field at
which it stopped, and does not close: it tells of the changes that a run over the classes before
reports, and of those in the class at which it stopped. -/
theorem annotate_log_agrees (filter : ClassFilter) (o : Options) (classes : List Class) :
    (∀ report, (annotate filter o classes).result = .ok report →
      RunTold filter o classes report (annotate filter o classes).log) ∧
    ∀ e, (annotate filter o classes).result = .error e →
      ∃ before c rest report changes, classes = before ++ c :: rest ∧
        StopTold filter o before c e report changes (annotate filter o classes).log :=
  ⟨fun _ => annotate_runTold, fun _ => annotate_stopTold⟩

/-- The log of a run that stops at its third class tells of three changes. -/
theorem tornClass_log_agrees :
    (∃ report, (annotate {} Samples.briefOptions [Samples.ignored, Samples.briefClass]).result =
        .ok report ∧
      RunTold {} Samples.briefOptions [Samples.ignored, Samples.briefClass] report
        (annotate {} Samples.briefOptions [Samples.ignored, Samples.briefClass]).log) ∧
    ∃ before c rest e report changes,
      [Samples.ignored, Samples.briefClass, Samples.tornClass] = before ++ c :: rest ∧
      StopTold {} Samples.briefOptions before c e report changes (annotate {} Samples.briefOptions
        [Samples.ignored, Samples.briefClass, Samples.tornClass]).log ∧
      (report.changes ++ changes).length = 3 := by
  obtain ⟨report, hok⟩ := ok_of_isOk (r := (annotate {} Samples.briefOptions
    [Samples.ignored, Samples.briefClass]).result) (by decide +kernel)
  have herror : (annotate {} Samples.briefOptions
      [Samples.ignored, Samples.briefClass, Samples.tornClass]).result =
        .error (.inconsistentNullability "Torn" "torn" ["Nullable", "NonNull"]) := by
    decide +kernel
  have hthree : ((annotate {} Samples.briefOptions
      [Samples.ignored, Samples.briefClass, Samples.tornClass]).log.filterMap
        Event.change?).length = 3 := by
    decide +kernel
  have hrun := (annotate_log_agrees {} Samples.briefOptions
    [Samples.ignored, Samples.briefClass]).1 report hok
  obtain ⟨before, c, rest, earlier, changes, hclasses, hstop⟩ :=
    (annotate_log_agrees {} Samples.briefOptions
      [Samples.ignored, Samples.briefClass, Samples.tornClass]).2 _ herror
  exact ⟨⟨report, hok, hrun⟩, before, c, rest, _, earlier, changes, hclasses, hstop,
    hstop.changes.events ▸ hthree⟩

end AutoAnnotate
