import Dialogue.Condition
import Dialogue.Proofs.Template.Reference

/-!
# Rules about variables

A rule compares what a template is rendered to with the text of a value.  A
template that is a reference to a variable is rendered by the words of templates,
the value by its own.  Both give the same text for nothing, texts and short whole
numbers, and never for truth values, whose words begin with a capital letter in
templates.
-/

namespace Dialogue

/-- A value without parts: nothing, a truth value, a text or a whole number that is written without
an exponent. -/
inductive Value.Scalar : Value → Prop
  | null : Scalar .null
  | boolean (value : Bool) : Scalar (.boolean value)
  | whole {value : Float} (whole : (integer? value).isSome) : Scalar (.number value)
  | string (value : String) : Scalar (.string value)

/-- Whether a value is a truth value. -/
def Value.isBoolean : Value → Bool
  | .boolean _ => true
  | _ => false

namespace Template

variable {value : Value}

/-- The two texts of a value are equal if it is no truth value. -/
theorem printed_eq_display (h : value.Scalar) (hplain : value.isBoolean = false) :
    (Datum.ofValue value).printed = value.display := by
  cases h with
  | null => rfl
  | boolean b => simp [Value.isBoolean] at hplain
  | string s => rfl
  | @whole x hwhole =>
      obtain ⟨n, hn⟩ := Option.isSome_iff_exists.mp hwhole
      simp [Datum.ofValue, Value.display, Value.numberText, hn, Datum.printed, Datum.display,
        Datum.inner]

/-- The words of a truth value in templates are none of its own. -/
theorem printed_ne_display (b : Bool) :
    (Datum.ofValue (.boolean b)).printed ≠ (Value.boolean b).display := by
  cases b <;> decide

theorem printed_eq_display_iff (h : value.Scalar) :
    (Datum.ofValue value).printed = value.display ↔ value.isBoolean = false := by
  refine ⟨fun hsame => ?_, printed_eq_display h⟩
  cases h with
  | boolean b => exact absurd hsame (printed_ne_display b)
  | _ => rfl

end Template

namespace View

open Template

/-- A reference alone is rendered to the printed form of its variable. -/
theorem render_held {name : String} (hname : IsName name) {view : View} {value : Value}
    (hheld : view.vars.get? name = some value) :
    view.render (reference name) = (Datum.ofValue value).printed := by
  have hliteral : Literal ("" : String).toList := by simp [Literal]
  simpa [hheld] using view.render_reference hliteral hname hliteral

end View

namespace Condition

open Template

/-- The text that a reference to a variable is rendered to is that of the variable's value if and
only if the value, being a scalar, is no truth value; so a rule that compares the variable with its
own value matches unless it is a truth value, and the variable counts as a member of every list that
holds its value unless it is a truth value, which is rendered with a capital letter. -/
theorem reference_has_own_text_iff {name : String} (hname : IsName name) {view : View}
    {value : Value} (hscalar : value.Scalar) (hheld : view.vars.get? name = some value) :
    (view.render (reference name) = value.display ↔ value.isBoolean = false) ∧
      (∀ next, Rule.matchesIn ⟨reference name, .equals, value, next⟩ view = !value.isBoolean) ∧
      (∀ next, (∀ items, value ∈ items →
        Rule.matchesIn ⟨reference name, .memberOf, .array items, next⟩ view = true) ↔
          value.isBoolean = false) ∧
      ∀ b, value = .boolean b → view.render (reference name) = if b then "True" else "False" := by
  have hrender := View.render_held hname hheld
  have hsame := printed_eq_display_iff hscalar
  refine ⟨hrender ▸ hsame, fun next => ?_, fun next => ⟨fun hmember => ?_, ?_⟩, ?_⟩
  · rw [Rule.matchesIn, hrender, Rule.accepts, Bool.eq_iff_iff, beq_iff_eq, hsame]
    cases value.isBoolean <;> simp
  · have honly := hmember [value] (.head _)
    rw [Rule.matchesIn, hrender] at honly
    exact hsame.mp (Eq.symm (by simpa [Rule.accepts, Value.array?] using honly))
  · intro hplain items hmem
    rw [Rule.matchesIn, hrender, Rule.accepts]
    exact List.any_eq_true.mpr ⟨value, hmem, by simpa using (hsame.mpr hplain).symm⟩
  · rintro b rfl
    rw [hrender]
    rfl

/-- A contact whose variables are a name that looks like a template and a truth value. -/
def sampleView : View :=
  ⟨"ann", [], [("name", .string "\x7b\x7bvip\x7d\x7d"), ("vip", .boolean true)], ⟨0, 0⟩⟩

theorem reference_has_own_text_iff_sample :
    IsName "name" ∧ (Value.string "\x7b\x7bvip\x7d\x7d").Scalar ∧
      sampleView.vars.get? "name" = some (.string "\x7b\x7bvip\x7d\x7d") ∧
      sampleView.render (reference "name") = "\x7b\x7bvip\x7d\x7d" := by
  have hname : IsName "name" := ⟨'n', ['a', 'm', 'e'], rfl, rfl, List.all_eq_true.mp (by decide)⟩
  have hheld : sampleView.vars.get? "name" = some (.string "\x7b\x7bvip\x7d\x7d") := rfl
  exact ⟨hname, .string _, hheld,
    (reference_has_own_text_iff hname (.string _) hheld).1.mpr rfl⟩

/-- A truth value has two texts. -/
theorem truth_value_has_two_texts :
    ¬∀ (name : String) (view : View) (value : Value), IsName name → value.Scalar →
      view.vars.get? name = some value → view.render (reference name) = value.display := by
  intro hall
  have hname : IsName "vip" := ⟨'v', ['i', 'p'], rfl, rfl, List.all_eq_true.mp (by decide)⟩
  have hheld : sampleView.vars.get? "vip" = some (.boolean true) := rfl
  have hsame := hall "vip" sampleView (.boolean true) hname (.boolean true) hheld
  rw [View.render_held hname hheld] at hsame
  exact printed_ne_display true hsame

end Condition

end Dialogue
