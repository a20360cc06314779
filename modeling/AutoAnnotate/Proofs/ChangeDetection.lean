import AutoAnnotate.Config.Text
import AutoAnnotate.Proofs.CanonicalText
import AutoAnnotate.Proofs.OrderIndependence
import AutoAnnotate.Proofs.Reporting
/-!
# What a fingerprint notices

A fingerprint is a digest of the canonical text. Two configurations with one canonical text agree, and
runs by configurations that agree leave the same annotations, so that a change that matters shows in the
text and, unless two texts collide, in the fingerprint (`Config.ensureUnchanged_notices`).

There is one exception. Numbers that are not finite are all written as `null`, so a change from one to
another goes unnoticed although it matters (`infinite_limit_unnoticed`).
-/

namespace AutoAnnotate

/-- Two texts that differ and have one digest. -/
def Blake3.Collide (s t : String) : Prop := s ≠ t ∧ hexDigest s = hexDigest t

variable {R : Value → Value → Prop} {c d : Config} {f g : Field}

theorem Value.keepsIntegers_sameText : KeepsIntegers Value.SameText where
  refl _ := rfl
  asInt v w h := by
    unfold SameText at h
    cases v <;> cases w <;> simp_all [masked, asInt?]

theorem fieldAt?_agree {classes classes' : List Class}
    (h : List.Forall₂ (Class.Agree R) classes classes') (p : Place) :
    Option.Rel (Field.Agree R) (fieldAt? classes p) (fieldAt? classes' p) :=
  rel_bind (rel_getElem? h p.1) fun _ _ hcd => rel_getElem? hcd.fields p.2

/-- Runs by configurations that agree leave the same on a field. -/
theorem Config.Agree.annotations (hR : KeepsIntegers R) (h : c.Agree R d) {classes : List Class}
    {p : Place} (hf : fieldAt? (c.annotate classes).classes p = some f)
    (hg : fieldAt? (d.annotate classes).classes p = some g) :
    AgreeAll R f.annotations g.annotations := by
  unfold annotate at hf hg
  rw [← h.filter] at hg
  have hfields := fieldAt?_agree (annotate_agree hR h.options c.filter classes).1 p
  rw [hf, hg, rel_some_some] at hfields
  exact hfields.annotations

theorem Config.ensureUnchanged_of_ne (h : c.fingerprint ≠ d.fingerprint) :
    d.ensureUnchanged (some c.fingerprint) = .error ⟨c.fingerprint.hex, d.fingerprint.hex⟩ :=
  if_neg h

/-- If the runs by two configurations leave different annotations on some field, then the second one
refuses the fingerprint of the first, unless the digest has a collision. The annotations are to differ
in more than in which number that is not finite a value holds; any difference will do if the numbers
of one of the configurations are finite. -/
theorem Config.ensureUnchanged_notices {classes : List Class} {p : Place}
    (hf : fieldAt? (c.annotate classes).classes p = some f)
    (hg : fieldAt? (d.annotate classes).classes p = some g)
    (hdiffer : ¬AgreeAll Value.SameText f.annotations g.annotations ∨
      (c.Finite ∨ d.Finite) ∧ ¬AgreeAll Eq f.annotations g.annotations) :
    Blake3.Collide c.canonicalText d.canonicalText ∨
      d.ensureUnchanged (some c.fingerprint) =
        .error ⟨c.fingerprint.hex, d.fingerprint.hex⟩ := by
  by_cases htext : c.canonicalText = d.canonicalText
  · -- With one text for both, the runs would leave the same.
    exfalso
    rcases hdiffer with hdiffer | ⟨hc | hd, hdiffer⟩
    · exact hdiffer ((canonicalText_eq_iff.1 htext).annotations Value.keepsIntegers_sameText hf hg)
    · exact hdiffer (((canonicalText_eq_iff_of_finite hc).1 htext).annotations keepsIntegers_eq hf hg)
    · have hagree := (canonicalText_eq_iff_of_finite hd).1 htext.symm
      exact hdiffer (hagree.annotations keepsIntegers_eq hg hf).symm
  · by_cases hdigest : Blake3.hexDigest c.canonicalText = Blake3.hexDigest d.canonicalText
    · exact .inl ⟨htext, hdigest⟩
    · exact .inr (ensureUnchanged_of_ne fun h => hdigest (congrArg Fingerprint.hex h))

section Limits
open Samples

variable {x y : Binary64}

theorem fieldAt?_limitConfig (x : Binary64) :
    fieldAt? ((limitConfig x).annotate [limitedClass]).classes (0, 0) = some (limitedField x) := rfl

theorem limitedField_agree
    (h : AgreeAll R (limitedField x).annotations (limitedField y).annotations) :
    R (.float x) (.float y) := by
  cases h with
  | cons hlimit _ => exact rel_some_some.1 (hlimit.2 "max")

theorem limitConfig_agree (hR : KeepsIntegers R) (h : R (.float x) (.float y)) :
    (limitConfig x).Agree R (limitConfig y) := by
  refine ⟨rfl, ⟨fun type => ?_, rfl, rfl, .refl hR.refl _, rfl, rfl, rfl, rfl, rfl⟩⟩
  by_cases htype : type = "int"
  · subst htype
    refine .some (.cons ⟨rfl, fun name => ?_⟩ .nil)
    by_cases hname : name = "max"
    · subst hname
      exact .some h
    · simp [OrderedMap.ofList, OrderedMap.get?, OrderedMap.insert,
        OrderedMap.insertEntry, OrderedMap.empty, Ne.symm hname]
  · simp [limitConfig, Options.ofPolicy, OrderedMap.ofList, OrderedMap.get?, OrderedMap.insert,
      OrderedMap.insertEntry, OrderedMap.empty, Ne.symm htype]

/-- A bound that goes from 1.5 to 2.5 is noticed. -/
theorem limitConfig_change_noticed :
    (limitConfig ⟨0x3FF8000000000000⟩).Finite ∧
      (Blake3.Collide (limitConfig ⟨0x3FF8000000000000⟩).canonicalText
          (limitConfig ⟨0x4004000000000000⟩).canonicalText ∨
        (limitConfig ⟨0x4004000000000000⟩).ensureUnchanged
            (some (limitConfig ⟨0x3FF8000000000000⟩).fingerprint) =
          .error ⟨(limitConfig ⟨0x3FF8000000000000⟩).fingerprint.hex,
            (limitConfig ⟨0x4004000000000000⟩).fingerprint.hex⟩) := by
  have hfinite : (limitConfig ⟨0x3FF8000000000000⟩).Finite :=
    ⟨by unfold Annotation.Finite; decide, by unfold Annotation.Finite; decide⟩
  refine ⟨hfinite, Config.ensureUnchanged_notices (fieldAt?_limitConfig _) (fieldAt?_limitConfig _)
    (.inr ⟨.inl hfinite, fun h => ?_⟩)⟩
  exact absurd (limitedField_agree h) (by decide)

/-- A bound that goes from one infinity to the other is not noticed: both are written as `null`. The
runs leave different values, however values that hold a NaN are compared. -/
theorem infinite_limit_unnoticed :
    Config.ofYaml (limitText ".inf") = .ok (limitConfig (.infinity false)) ∧
      Config.ofYaml (limitText "-.inf") = .ok (limitConfig (.infinity true)) ∧
      fieldAt? ((limitConfig (.infinity false)).annotate [limitedClass]).classes (0, 0) =
        some (limitedField (.infinity false)) ∧
      fieldAt? ((limitConfig (.infinity true)).annotate [limitedClass]).classes (0, 0) =
        some (limitedField (.infinity true)) ∧
      ¬AgreeAll (fun v w => v.equal w = true ∨ (v.hasNaN = true ∧ w.hasNaN = true))
        (limitedField (.infinity false)).annotations (limitedField (.infinity true)).annotations ∧
      ¬Blake3.Collide (limitConfig (.infinity false)).canonicalText
        (limitConfig (.infinity true)).canonicalText ∧
      (limitConfig (.infinity true)).ensureUnchanged (some (limitConfig (.infinity false)).fingerprint) =
        .ok (limitConfig (.infinity true)).fingerprint := by
  have htext : (limitConfig (.infinity false)).canonicalText =
      (limitConfig (.infinity true)).canonicalText :=
    Config.canonicalText_eq_iff.2 (limitConfig_agree Value.keepsIntegers_sameText rfl)
  have hdigest : (limitConfig (.infinity false)).fingerprint =
      (limitConfig (.infinity true)).fingerprint := by
    unfold Config.fingerprint
    rw [htext]
  refine ⟨by decide +kernel, by decide +kernel, fieldAt?_limitConfig _, fieldAt?_limitConfig _,
    fun h => absurd (limitedField_agree h) (by decide), fun h => h.1 htext, if_pos hdigest⟩

end Limits

end AutoAnnotate
