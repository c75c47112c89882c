import PolicyStudio.Proofs.Policy.Sealing
import PolicyStudio.Proofs.Script.Steps
import PolicyStudio.Proofs.Sql.Numerals
import PolicyStudio.Script.PolicyCall

/-!
# Scalars as constants

A program may ask how one of its scalars stands in a statement.  The answer is one constant, and
never a name: a reader of constants finds the scalar in it again, integers and texts as they
were.

There are two exceptions.  An integer with too many digits is refused, because it has no text.  A
binary number that is infinite, or no number at all, is written as a word without quotes, which a
statement takes for the name of a column.
-/

namespace PolicyStudio
namespace Script
namespace PolicyCall

open Policy Sql Step

/-- The operand that stands for a scalar: nothing, a truth value, a number, a text or a date. -/
def scalarOf? : Value → Option Operand
  | .none => some .null
  | .bool value => some (.truth value)
  | .int value => some (.integer value)
  | .float value _ => some (.number value)
  | .text value => some (.text value)
  | .date value => some (.date value)
  | .dateTime value => some (.dateTime value)
  | _ => none

/-- The constant stands for the scalar.  Of a binary number only the sign is told. -/
inductive IsConstantFor : Constant → Value → Prop
  | null : IsConstantFor .null .none
  | truth (value : Bool) : IsConstantFor (.truth value) (.bool value)
  | integer {number : NumericConstant} {value : Int} (same : number.integer? = some value) :
    IsConstantFor (.number number) (.int value)
  | number {number : NumericConstant} {value : Float} {mark mantissa : Nat} {exponent : Int}
    {narrow : Bool}
    (signed : Decimal.decompose value = .finite number.negative mantissa exponent narrow) :
    IsConstantFor (.number number) (.float value mark)
  | text (value : String) : IsConstantFor (.text value) (.text value)
  | date (value : Calendar.Date) : IsConstantFor (.text value.write) (.date value)
  | dateTime (value : Calendar.DateTime) : IsConstantFor (.text value.write) (.dateTime value)

variable {value : Value} {operand : Operand}

/-- The text of a scalar is that of its operand, which is not nested at all. -/
theorem run_renderValue (scalar : scalarOf? value = some operand) (machine : Machine) :
    (callFunction .renderValue { positional := [value] }).run machine =
      (do return .text (← ofBuilt (rendered operand.render)) : Step Value).run machine := by
  have shallow : operand.depth ≤ depthLimit := by
    cases value <;> cases scalar <;> unfold Operand.depth <;> decide
  have same : (callFunction .renderValue { positional := [value] }).run machine =
      (do return .text (← ofBuilt (rendered operand.write)) : Step Value).run machine := by
    cases value <;> cases scalar <;> rfl
  rw [same, Operand.write, withinDepth_of_le shallow]

/-- What has a text is written as it. -/
theorem run_renderValue_of_ok (scalar : scalarOf? value = some operand) {text : String}
    (shown : operand.render = .ok text) (machine : Machine) :
    (callFunction .renderValue { positional := [value] }).run machine =
      .ok (.text text) machine := by
  rw [run_renderValue scalar, shown]
  rfl

/-- The text is a bare name, perhaps behind a minus. -/
def IsNamed (text : String) : Prop :=
  ∃ word, readPath word = some [word.toList] ∧ (text = word ∨ text = "-" ++ word)

/-- The integer has more digits than are ever written. -/
def IsLong (n : Int) : Prop :=
  10 ^ integerDigitLimit ≤ n.natAbs

/-- The binary number is infinite, or no number at all. -/
def IsUnbounded (x : Float) : Prop :=
  ∀ negative mantissa exponent narrow,
    Decimal.decompose x ≠ .finite negative mantissa exponent narrow

theorem render_integer (n : Int) :
    (∃ text number, (Operand.integer n).render = .ok text ∧
      readConstant text = some (.number number) ∧ number.integer? = some n) ∨
    IsLong n ∧ (Operand.integer n).render = .error .integerTooLong := by
  have render : (Operand.integer n).render = integerText n := by
    unfold Operand.render
    rfl
  rw [render]
  by_cases short : n.natAbs < 10 ^ integerDigitLimit
  · have written : integerText n = .ok (if n < 0 then "-" ++ n.natAbs.repr else n.natAbs.repr) :=
      if_pos short
    rcases exists_of_integerText written with ⟨number, proper, shown, same⟩
    exact .inl ⟨_, number, written, readConstant_number proper shown, same⟩
  · exact .inr ⟨Nat.le_of_not_lt short, if_neg short⟩

theorem render_number (x : Float) : ∃ text, (Operand.number x).render = .ok text ∧
    ((∃ number mantissa exponent narrow, readConstant text = some (.number number) ∧
        Decimal.decompose x = .finite number.negative mantissa exponent narrow) ∨
      IsUnbounded x ∧ readConstant text = none ∧ IsNamed text) := by
  have render : (Operand.number x).render = .ok (Decimal.decompose x).write := by
    unfold Operand.render
    rfl
  refine ⟨_, render, ?_⟩
  by_cases finite : ∃ negative mantissa exponent narrow,
      Decimal.decompose x = .finite negative mantissa exponent narrow
  · rcases finite with ⟨negative, mantissa, exponent, narrow, parts⟩
    rcases exists_of_finite negative mantissa exponent narrow with ⟨number, proper, rfl, shown⟩
    rw [← parts] at shown
    exact .inl ⟨number, mantissa, exponent, narrow, readConstant_number proper shown, parts⟩
  · have unbounded : IsUnbounded x := fun negative mantissa exponent narrow parts =>
      finite ⟨negative, mantissa, exponent, narrow, parts⟩
    exact .inr ⟨unbounded, exists_word_of_not_finite unbounded⟩

/-- The text of a scalar, if it has one, is that of a constant or that of a name. -/
theorem render_cases (scalar : scalarOf? value = some operand) :
    (∃ text constant, operand.render = .ok text ∧ readConstant text = some constant ∧
      IsConstantFor constant value) ∨
    (∃ n, value = .int n ∧ IsLong n ∧ operand.render = .error .integerTooLong) ∨
    ∃ x mark text, value = .float x mark ∧ IsUnbounded x ∧ operand.render = .ok text ∧
      readConstant text = none ∧ IsNamed text := by
  cases value with
  | none =>
    cases scalar
    exact .inl ⟨"NULL", .null, by unfold Operand.render; rfl, rfl, .null⟩
  | bool value =>
    cases scalar
    refine .inl ⟨truth value, .truth value, by unfold Operand.render; rfl, ?_, .truth value⟩
    cases value <;> rfl
  | int n =>
    cases scalar
    rcases render_integer n with ⟨text, number, shown, read, same⟩ | ⟨long, refused⟩
    · exact .inl ⟨text, .number number, shown, read, .integer same⟩
    · exact .inr (.inl ⟨n, rfl, long, refused⟩)
  | float x mark =>
    cases scalar
    rcases render_number x with ⟨text, shown, ⟨number, mantissa, exponent, narrow, read, parts⟩ |
      ⟨unbounded, unread, named⟩⟩
    · exact .inl ⟨text, .number number, shown, read, .number parts⟩
    · exact .inr (.inr ⟨x, mark, text, rfl, unbounded, shown, unread, named⟩)
  | text value =>
    cases scalar
    exact .inl ⟨_, .text value, by unfold Operand.render; rfl, readConstant_literal value,
      .text value⟩
  | date value =>
    cases scalar
    exact .inl ⟨_, .text value.write, by unfold Operand.render; rfl,
      readConstant_date (isDated_date value), .date value⟩
  | dateTime value =>
    cases scalar
    exact .inl ⟨_, .text value.write, by unfold Operand.render; rfl,
      readConstant_date (isDated_dateTime value), .dateTime value⟩
  | _ => cases scalar

/-- A scalar is written as one constant that stands for it and is no name, with two exceptions: an
integer with too many digits is refused, and a binary number that is infinite, or no number at
all, is written as a name. -/
theorem scalars_are_written_as_constants (scalar : scalarOf? value = some operand)
    (machine : Machine) :
    (∃ text constant,
      (callFunction .renderValue { positional := [value] }).run machine = .ok (.text text) machine ∧
      readConstant text = some constant ∧ IsConstantFor constant value ∧ readPath text = none) ∨
    (∃ n signal after, value = .int n ∧ IsLong n ∧
      (callFunction .renderValue { positional := [value] }).run machine = .error signal after ∧
      RaisedFor (.render .integerTooLong) signal after) ∨
    ∃ x mark text, value = .float x mark ∧ IsUnbounded x ∧
      (callFunction .renderValue { positional := [value] }).run machine = .ok (.text text) machine ∧
      readConstant text = none ∧ IsNamed text := by
  rcases render_cases scalar with ⟨text, constant, shown, read, stands⟩ |
    ⟨n, same, long, refused⟩ | ⟨x, mark, text, same, unbounded, shown, unread, named⟩
  · exact .inl ⟨text, constant, run_renderValue_of_ok scalar shown machine, read, stands,
      readPath_of_readConstant read⟩
  · refine .inr (.inl ?_)
    obtain ⟨signal, after, stopped⟩ : ∃ signal after,
        (raiseDefinition (.render .integerTooLong) : Step String).run machine =
          .error signal after := ⟨_, _, rfl⟩
    refine ⟨n, signal, after, same, long, ?_,
      stopsBy_raiseDefinition _ machine signal after (.refl machine) stopped⟩
    rw [run_renderValue scalar, refused]
    exact bind_eq_error.mpr (.inl stopped)
  · exact .inr (.inr ⟨x, mark, text, same, unbounded, run_renderValue_of_ok scalar shown machine,
      unread, named⟩)

/-- A text with a quote in it is read back. -/
theorem quoted_text_is_written_as_constant : ∃ text constant,
    (callFunction .renderValue { positional := [.text "O'Brien"] }).run Machine.initial =
      .ok (.text text) Machine.initial ∧
    readConstant text = some constant ∧ IsConstantFor constant (.text "O'Brien") := by
  have scalar : scalarOf? (.text "O'Brien") = some (.text "O'Brien") := rfl
  rcases scalars_are_written_as_constants scalar Machine.initial with
    ⟨text, constant, written, read, stands, -⟩ | ⟨_, _, _, impossible, -⟩ | ⟨_, _, _, impossible, -⟩
  · exact ⟨text, constant, written, read, stands⟩
  · cases impossible
  · cases impossible

/-- What is no number is written as the name of a column. -/
theorem no_number_is_written_as_name :
    scalarOf? (.float (Float.ofBits 0x7ff8000000000000) 0) =
      some (.number (Float.ofBits 0x7ff8000000000000)) ∧
    (callFunction .renderValue
      { positional := [.float (Float.ofBits 0x7ff8000000000000) 0] }).run Machine.initial =
        .ok (.text "nan") Machine.initial ∧
    readConstant "nan" = none ∧ readPath "nan" = some ["nan".toList] := by
  have written : (Operand.number (Float.ofBits 0x7ff8000000000000)).render = .ok "nan" := by
    unfold Operand.render
    decide +kernel
  exact ⟨rfl, run_renderValue_of_ok rfl written Machine.initial, rfl,
    readPath_of_render ⟨"nan", rfl, rfl⟩ rfl rfl⟩

end PolicyCall

end Script
end PolicyStudio
