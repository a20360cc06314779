import AutoAnnotate.ClassFilter
import AutoAnnotate.Proofs.Lookup
import AutoAnnotate.Proofs.NameText
/-!
# The scope of a run by the texts of names

A filter reads the configured package and the name of a class and compares their segments. `Decides`
says what comes of that in terms of the texts alone: a class lies in a package if its name begins with
the name of the package and a dot. Each part of `inScope_by_texts` is a case analysis over the ways in
which a filter can decide.
-/

namespace AutoAnnotate

open QualifiedName

namespace ClassFilter

/-- A package is configured, and one of its pieces is no segment. -/
def BadPrefix (f : ClassFilter) : Prop := f.packagePrefix ≠ "" ∧ ¬IsName f.packagePrefix

/-- The name of the class begins with the configured package and a dot, if there is one, and the class
carries a marker, if any is asked for, and no ignore marker. -/
def Takes (f : ClassFilter) (c : Class) : Prop :=
  (f.packagePrefix = "" ∨ ∃ rest, c.name = f.packagePrefix ++ "." ++ rest) ∧
    (f.markers = {} ∨ ∃ a ∈ c.annotations, a.kind ∈ f.markers) ∧
    ∀ a ∈ c.annotations, a.kind ∉ f.ignored

/-- How a filter can decide on a class. -/
inductive Decides (f : ClassFilter) (c : Class) : Except ScopeError Bool → Prop
  | malformedPrefix {e : NameError} (hp : f.BadPrefix) (he : FaultIn f.packagePrefix e) :
      Decides f c (.error (.malformedPrefix f.packagePrefix e))
  | malformedClassName {e : NameError} (hp : ¬f.BadPrefix) (he : FaultIn c.name e) :
      Decides f c (.error (.malformedClassName c.name e))
  | decided {inside : Bool} (hp : ¬f.BadPrefix) (hc : IsName c.name)
      (h : inside = true ↔ f.Takes c) : Decides f c (.ok inside)

variable {f : ClassFilter} {c : Class} {s t : String} {ps qs : List String} {e : NameError}

/-! ## Packages and names -/

/-- The segments of a package begin those of a name without the last one exactly if its text and a dot
begin the text of the name. -/
theorem prefix_dropLast_iff (hp : PiecesOf s ps) (hq : PiecesOf t qs) :
    ps <+: qs.dropLast ↔ ∃ rest, t = s ++ "." ++ rest := by
  constructor
  · rintro ⟨more, hmore⟩
    obtain ⟨init, last, rfl⟩ := (List.eq_nil_or_concat' qs).resolve_left hq.ne_nil
    rw [List.dropLast_concat] at hmore
    subst hmore
    have hmore : more ++ [last] ≠ [] := List.concat_ne_nil last more
    refine ⟨".".intercalate (more ++ [last]), ?_⟩
    rw [← hq.joined, ← hp.joined, List.append_assoc,
      String.intercalate_append_of_ne_nil hp.ne_nil hmore]
  · rintro ⟨rest, rfl⟩
    obtain ⟨more, hmore⟩ := exists_piecesOf rest
    obtain rfl := hq.unique (hp.append hmore)
    rw [List.dropLast_append_of_ne_nil hmore.ne_nil]
    exact List.prefix_append _ _

/-- Without a package, or with one that is a name, the package is read. -/
theorem parse_packagePrefix (hp : ¬f.BadPrefix) :
    f.packagePrefix = "" ∧ parse f.packagePrefix = .ok root ∨
      f.packagePrefix ≠ "" ∧ ∃ ps, PiecesOf f.packagePrefix ps ∧
        parse f.packagePrefix = .ok ⟨ps⟩ := by
  by_cases hempty : f.packagePrefix = ""
  · exact .inl ⟨hempty, by rw [hempty]; rfl⟩
  · obtain ⟨ps, hps, hall⟩ := not_not.1 fun h => hp ⟨hempty, h⟩
    exact .inr ⟨hempty, ps, hps, parse_of_segments hps hall⟩

/-! ## How a filter decides -/

theorem inPackage_of_badPrefix (hp : f.BadPrefix) (he : FaultIn f.packagePrefix e) :
    f.inPackage c = .error (.malformedPrefix f.packagePrefix e) := by
  rw [inPackage, parse_of_fault hp.1 he]

/-- The empty text is read as a name without segments, which no class can have. -/
theorem inPackage_of_fault (hp : ¬f.BadPrefix) (he : FaultIn c.name e) :
    f.inPackage c = .error (.malformedClassName c.name e) := by
  obtain ⟨pkg, hpkg⟩ : ∃ pkg, parse f.packagePrefix = .ok pkg := by
    rcases parse_packagePrefix hp with ⟨-, h⟩ | ⟨-, ps, -, h⟩ <;> exact ⟨_, h⟩
  by_cases hempty : c.name = ""
  · rw [hempty] at he ⊢
    obtain rfl := eq_of_faultIn_empty he
    rw [inPackage, hpkg, hempty]
    rfl
  · simp only [inPackage, hpkg, parse_of_fault hempty he]

theorem inPackage_of_isName (hp : ¬f.BadPrefix) (hc : IsName c.name) :
    ∃ inside, f.inPackage c = .ok inside ∧ (inside = true ↔
      f.packagePrefix = "" ∨ ∃ rest, c.name = f.packagePrefix ++ "." ++ rest) := by
  obtain ⟨qs, hqs, hall⟩ := hc
  have hroot : isRoot ⟨qs⟩ = false := by simpa [isRoot] using hqs.ne_nil
  rcases parse_packagePrefix hp with ⟨hempty, hpkg⟩ | ⟨hne, ps, hps, hpkg⟩
  · refine ⟨true, ?_, by simp [hempty]⟩
    simp [inPackage, hpkg, parse_of_segments hqs hall, hroot, isPrefixOf, root]
  · refine ⟨ps.isPrefixOf qs.dropLast, ?_, ?_⟩
    · simp [inPackage, hpkg, parse_of_segments hqs hall, hroot, isPrefixOf, package]
    · rw [List.isPrefixOf_iff_prefix, prefix_dropLast_iff hps hqs]
      simp [hne]

theorem takes_iff {inside : Bool} (h : inside = true ↔
    f.packagePrefix = "" ∨ ∃ rest, c.name = f.packagePrefix ++ "." ++ rest) :
    (inside && f.carriesMarker c && !f.isIgnored c) = true ↔ f.Takes c := by
  have hmarkers : f.markers = {} ↔ f.markers.toList = [] :=
    ⟨congrArg NameSet.toList, fun h => NameSet.ext h⟩
  have hmarker : f.carriesMarker c = true ↔
      f.markers = {} ∨ ∃ a ∈ c.annotations, a.kind ∈ f.markers := by
    rw [carriesMarker, Bool.or_eq_true, NameSet.isEmpty, List.isEmpty_iff, ← hmarkers,
      Class.carriesAny, carriesAny_iff]
    rfl
  have hignored : f.isIgnored c = false ↔ ∀ a ∈ c.annotations, a.kind ∉ f.ignored := by
    rw [isIgnored, Class.carriesAny, ← Bool.not_eq_true, carriesAny_iff]
    push Not
    rfl
  rw [Bool.and_eq_true, Bool.and_eq_true, h, hmarker, Bool.not_eq_true', hignored, and_assoc]
  rfl

theorem decides (f : ClassFilter) (c : Class) : f.Decides c (f.inScope c) := by
  unfold inScope
  by_cases hp : f.BadPrefix
  · obtain ⟨e, he⟩ := not_isName_iff.1 hp.2
    rw [inPackage_of_badPrefix hp he]
    exact .malformedPrefix hp he
  rcases isName_or_fault c.name with hc | ⟨e, he⟩
  · obtain ⟨inside, hinside, htext⟩ := inPackage_of_isName hp hc
    rw [hinside]
    exact .decided hp hc (takes_iff htext)
  · rw [inPackage_of_fault hp he]
    exact .malformedClassName hp he

/-- A run fails at the configured package exactly if that is not empty and no name. Otherwise it fails at
a class exactly if the name of the class is no name, whatever the class carries. Otherwise it visits the
class exactly if the filter takes it. An error holds the text it is about and the fault in that text. -/
theorem inScope_by_texts (f : ClassFilter) (c : Class) :
    ((∃ s e, f.inScope c = .error (.malformedPrefix s e)) ↔ f.BadPrefix) ∧
    ((∃ s e, f.inScope c = .error (.malformedClassName s e)) ↔ ¬f.BadPrefix ∧ ¬IsName c.name) ∧
    (∀ inside, f.inScope c = .ok inside ↔
      ¬f.BadPrefix ∧ IsName c.name ∧ (inside = true ↔ f.Takes c)) ∧
    ∀ e, f.inScope c = .error e →
      e = .malformedPrefix f.packagePrefix e.cause ∧ FaultIn f.packagePrefix e.cause ∨
      e = .malformedClassName c.name e.cause ∧ FaultIn c.name e.cause := by
  have hdecides := f.decides c
  generalize f.inScope c = r at hdecides
  cases hdecides with
  | malformedPrefix hp he => simp [hp, he, ScopeError.cause]
  | malformedClassName hp he =>
    have hc : ¬IsName c.name := not_isName_iff.2 ⟨_, he⟩
    simp [hp, hc, he, ScopeError.cause]
  | decided hp hc h =>
    refine ⟨by simp [hp], by simp [hc], fun inside => ?_, fun e he => nomatch he⟩
    rw [Except.ok.injEq]
    constructor
    · rintro rfl
      exact ⟨hp, hc, h⟩
    · rintro ⟨-, -, h'⟩
      exact Bool.eq_iff_iff.2 (h.trans h'.symm)

/-- A package holds neither the classes of a sibling whose name begins alike nor a class of its own name.
A class without a proper name is an error although it is to be ignored. -/
theorem inScope_by_texts_siblings :
    let f : ClassFilter := { packagePrefix := "com.example" }
    let ignored : Class := (Class.plain "com..Order").attach (.marker Vocabulary.ignored)
    f.Takes (.plain "com.example.Order") ∧ ¬f.Takes (.plain "com.examples.Order") ∧
      ¬f.Takes (.plain "com.example") ∧ ¬f.BadPrefix ∧ ¬IsName ignored.name := by
  intro f ignored
  have htaken (name : String) (inside : Bool) (h : f.inScope (.plain name) = .ok inside) :
      inside = true ↔ f.Takes (.plain name) :=
    (((inScope_by_texts f _).2.2.1 inside).1 h).2.2
  have hignored := (inScope_by_texts f ignored).2.1.1
    ⟨"com..Order", .emptySegment "com..Order", by decide +kernel⟩
  refine ⟨(htaken _ true (by decide +kernel)).1 rfl, ?_, ?_, hignored⟩
  · intro h
    exact absurd ((htaken _ false (by decide +kernel)).2 h) (by decide)
  · intro h
    exact absurd ((htaken _ false (by decide +kernel)).2 h) (by decide)

end ClassFilter

end AutoAnnotate
